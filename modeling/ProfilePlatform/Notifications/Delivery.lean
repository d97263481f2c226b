import ProfilePlatform.Foundation.Fallible
import ProfilePlatform.Primitives

/-! The delivery of one event to one consumer.

A delivery is attempted until it succeeds or the attempts run out. Only an operator
makes a dead letter ready again, and nothing changes a delivery that has succeeded.
-/

set_option autoImplicit false

namespace ProfilePlatform.Notifications

open Foundation

def maxConfiguredAttempts : Nat := 64
def maxRetryableAttempts : Nat := maxConfiguredAttempts - 1

/-- Attempts are counted in sixteen bits. -/
def attemptCountLimit : Nat := 0x10000

inductive DeliveryRestoreError where
  | invalidAttemptCount
  | invalidRetrySchedule
  deriving DecidableEq, Repr

inductive DeliveryTransitionError where
  | attemptLimitAlreadyReached
  | attemptOverflow
  | invalidRetrySchedule
  | missingRetrySchedule
  | remediationRequiresDeadLetter
  | terminalState
  | unexpectedTerminalRetrySchedule
  deriving DecidableEq, Repr

def incrementAttempts (attempts : Nat) : Except DeliveryTransitionError Nat :=
  if attempts + 1 < attemptCountLimit then .ok (attempts + 1) else .error .attemptOverflow

def restoreAttempts (value minimum maximum : Nat) : Except DeliveryRestoreError Nat := do
  refuseIf (value < minimum ∨ maximum < value) .invalidAttemptCount
  return value

structure AttemptLimit where
  value : Nat
  positive : 0 < value
  bounded : value ≤ maxConfiguredAttempts
  deriving DecidableEq

inductive DeliveryFailureClass where
  | dependencyUnavailable
  | rejected
  | integrityFailure
  | internalFailure
  deriving DecidableEq, Repr

inductive DeliveryState where
  | ready (attempts : Nat)
  | retryScheduled (attempts : Nat) (lastAttemptAt nextAttemptAt : UnixMillis)
      (failureClass : DeliveryFailureClass)
  | delivered (attempts : Nat) (deliveredAt : UnixMillis)
  | deadLetter (attempts : Nat) (terminalAt : UnixMillis) (failureClass : DeliveryFailureClass)
  deriving DecidableEq

namespace DeliveryState

def new : DeliveryState := .ready 0

def restoreReady (attemptCount : Nat) : Except DeliveryRestoreError DeliveryState := do
  let attempts ← restoreAttempts attemptCount 0 0
  return .ready attempts

def restoreRetryScheduled (attemptCount : Nat) (lastAttemptAt nextAttemptAt : UnixMillis)
    (failureClass : DeliveryFailureClass) : Except DeliveryRestoreError DeliveryState := do
  refuseIf (nextAttemptAt ≤ lastAttemptAt) .invalidRetrySchedule
  let attempts ← restoreAttempts attemptCount 1 maxRetryableAttempts
  return .retryScheduled attempts lastAttemptAt nextAttemptAt failureClass

def restoreDelivered (attemptCount : Nat) (deliveredAt : UnixMillis) :
    Except DeliveryRestoreError DeliveryState := do
  let attempts ← restoreAttempts attemptCount 1 maxConfiguredAttempts
  return .delivered attempts deliveredAt

def restoreDeadLetter (attemptCount : Nat) (terminalAt : UnixMillis)
    (failureClass : DeliveryFailureClass) : Except DeliveryRestoreError DeliveryState := do
  let attempts ← restoreAttempts attemptCount 1 maxConfiguredAttempts
  return .deadLetter attempts terminalAt failureClass

def attempts : DeliveryState → Nat
  | .ready attempts | .retryScheduled attempts _ _ _ | .delivered attempts _
  | .deadLetter attempts _ _ => attempts

def nextAttemptAt : DeliveryState → Option UnixMillis
  | .retryScheduled _ _ nextAttemptAt _ => some nextAttemptAt
  | .ready _ | .delivered _ _ | .deadLetter _ _ _ => none

def isTerminal : DeliveryState → Bool
  | .delivered _ _ | .deadLetter _ _ _ => true
  | .ready _ | .retryScheduled _ _ _ _ => false

def isDue (now : UnixMillis) : DeliveryState → Bool
  | .ready _ => true
  | .retryScheduled _ _ nextAttemptAt _ => nextAttemptAt ≤ now
  | .delivered _ _ | .deadLetter _ _ _ => false

def recordSuccess (state : DeliveryState) (deliveredAt : UnixMillis) :
    Except DeliveryTransitionError DeliveryState := do
  refuseIf (state.isTerminal = true) .terminalState
  let attempts ← incrementAttempts state.attempts
  return .delivered attempts deliveredAt

def recordFailure (state : DeliveryState) (failedAt : UnixMillis)
    (nextAttemptAt : Option UnixMillis) (attemptLimit : AttemptLimit)
    (failureClass : DeliveryFailureClass) : Except DeliveryTransitionError DeliveryState := do
  refuseIf (state.isTerminal = true) .terminalState
  refuseIf (attemptLimit.value ≤ state.attempts) .attemptLimitAlreadyReached
  let attempts ← incrementAttempts state.attempts
  if attempts = attemptLimit.value then do
    refuseIf (nextAttemptAt ≠ none) .unexpectedTerminalRetrySchedule
    return .deadLetter attempts failedAt failureClass
  else
    match nextAttemptAt with
    | none => .error .missingRetrySchedule
    | some nextAttemptAt => do
      refuseIf (nextAttemptAt ≤ failedAt) .invalidRetrySchedule
      return .retryScheduled attempts failedAt nextAttemptAt failureClass

/-- Starts a fresh cycle of attempts, after an operator has looked at the dead letter. -/
def recordRemediation : DeliveryState → Except DeliveryTransitionError DeliveryState
  | .deadLetter _ _ _ => .ok new
  | .delivered _ _ => .error .terminalState
  | .ready _ | .retryScheduled _ _ _ _ => .error .remediationRequiresDeadLetter

end DeliveryState

/-- One transition of the domain, whatever its arguments. -/
def Transition (state next : DeliveryState) : Prop :=
  (∃ deliveredAt, state.recordSuccess deliveredAt = .ok next) ∨
  (∃ failedAt nextAttemptAt attemptLimit failureClass,
    state.recordFailure failedAt nextAttemptAt attemptLimit failureClass = .ok next) ∨
  state.recordRemediation = .ok next

/-! When a failed delivery is tried again.

The delay doubles with each attempt up to a bound, and a jitter that depends on the
event and the attempt alone moves it by at most a quarter.
-/

def basisPointsDenominator : Nat := 10000
def jitterHashModulus : Nat := 1000003
def maxJitterBasisPoints : Nat := 2500
def maxRetryDelayMs : Nat := 86400000

structure RetryPolicy where
  baseDelayMs : Nat
  maxDelayMs : Nat
  jitterBasisPoints : Nat
  attemptLimit : AttemptLimit
  positive : 0 < baseDelayMs
  ordered : baseDelayMs ≤ maxDelayMs
  bounded : maxDelayMs ≤ maxRetryDelayMs
  smallJitter : jitterBasisPoints ≤ maxJitterBasisPoints

inductive RetrySchedulingError where
  | attemptLimitAlreadyReached
  | attemptOutsideRetryWindow
  | attemptOverflow
  | delayArithmeticOverflow
  | domainTransition (why : DeliveryTransitionError)
  | timestampOverflow
  deriving DecidableEq, Repr

def deterministicJitterSample (eventId : OutboxEventId) (failedAttempt width : Nat) : Nat :=
  let hashed := (utf8Bytes eventId.asStr).foldl
    (fun accumulator byte => (accumulator * 131 + byte.toNat) % jitterHashModulus) 0
  (hashed * 257 + failedAttempt) % jitterHashModulus % width

def checkedMul (value factor : Nat) : Option Nat :=
  if value * factor < u64Limit then some (value * factor) else none

namespace RetryPolicy

/-- The delay before jitter: doubled once for each attempt after the first, as far as the bound. -/
def nominalDelay (policy : RetryPolicy) : Nat → Nat → Nat
  | 0, delay => delay
  | doublings + 1, delay =>
    if policy.maxDelayMs ≤ delay then delay
    else policy.nominalDelay doublings (((checkedMul delay 2).map (min · policy.maxDelayMs)).getD
      policy.maxDelayMs)

def orOverflow {A : Type} : Option A → Except RetrySchedulingError A
  | some value => .ok value
  | none => .error .delayArithmeticOverflow

def retryDelayMs (policy : RetryPolicy) (eventId : OutboxEventId) (failedAttempt : Nat) :
    Except RetrySchedulingError Nat := do
  refuseIf (failedAttempt = 0 ∨ policy.attemptLimit.value ≤ failedAttempt)
    .attemptOutsideRetryWindow
  let nominalDelay := policy.nominalDelay (failedAttempt - 1) policy.baseDelayMs
  let product ← orOverflow (checkedMul nominalDelay policy.jitterBasisPoints)
  let jitterSpan := product / basisPointsDenominator
  if jitterSpan = 0 then return nominalDelay
  let jitterWidth ← orOverflow ((checkedMul jitterSpan 2).bind (checkedAdd · 1))
  let sample := deterministicJitterSample eventId failedAttempt jitterWidth
  let lower ← orOverflow (if jitterSpan ≤ nominalDelay then some (nominalDelay - jitterSpan) else none)
  let jittered ← orOverflow (checkedAdd lower sample)
  return min (max jittered 1) policy.maxDelayMs

def transitionAfterFailure (policy : RetryPolicy) (state : DeliveryState) (failedAt : UnixMillis)
    (eventId : OutboxEventId) (failureClass : DeliveryFailureClass) :
    Except RetrySchedulingError DeliveryState := do
  refuseIf (attemptCountLimit ≤ state.attempts + 1) .attemptOverflow
  let failedAttempt := state.attempts + 1
  if failedAttempt = policy.attemptLimit.value then
    (state.recordFailure failedAt none policy.attemptLimit failureClass).mapError .domainTransition
  else do
    refuseIf (policy.attemptLimit.value < failedAttempt) .attemptLimitAlreadyReached
    let delayMs ← policy.retryDelayMs eventId failedAttempt
    match checkedAdd failedAt delayMs with
    | none => .error .timestampOverflow
    | some nextAttemptAt =>
      (state.recordFailure failedAt (some nextAttemptAt) policy.attemptLimit failureClass).mapError
        .domainTransition

end RetryPolicy

end ProfilePlatform.Notifications
