import Mathlib.Algebra.Group.Nat.Defs
import ProfilePlatform.Mailbox.Job

/-! The run of a mailbox job as the use case prepares it: the job is queued and
started, the mailbox is checked once, and what the provider answers decides the
third transition.

A failure that may pass is tried again after a delay that doubles with each attempt.
A provider may ask for a later time, within the longest delay.
-/

set_option autoImplicit false

namespace ProfilePlatform.Mailbox

open Foundation

section Observations

def maxProviderStatusLength : Nat := 64
def maxBoundedItemCount : Nat := 10000

/-- ASCII letters, digits, '-', '_' and '.'. -/
def isProviderStatusByte (byte : UInt8) : Bool := isIdByte byte || byte == 46

/-- `validate_provider_status`. -/
def acceptsProviderStatus (value : String) : Bool :=
  1 ≤ (utf8Bytes value).length && (utf8Bytes value).length ≤ maxProviderStatusLength &&
    (utf8Bytes value).all isProviderStatusByte

structure MailboxObservation where
  bindingId : MailboxBindingId
  providerStatus : String
  boundedItemCount : Nat
  nextCursor : Option String
  acceptedStatus : acceptsProviderStatus providerStatus = true
  boundedCount : boundedItemCount ≤ maxBoundedItemCount
  boundedCursor : validateCursor nextCursor = .ok ()

inductive MailboxFailureDisposition where
  | retryable | authRequired | suspended | terminal
  deriving DecidableEq, Repr

inductive MailboxProviderFailureClass where
  | authentication | rateLimited | transientDependency | permanent | providerPolicy | backpressure
  deriving DecidableEq, Repr

namespace MailboxProviderFailureClass

def storageValue : MailboxProviderFailureClass → String
  | .authentication => "AUTH"
  | .rateLimited => "RATE_LIMIT"
  | .transientDependency => "TRANSIENT_DEPENDENCY"
  | .permanent => "PERMANENT"
  | .providerPolicy => "PROVIDER_POLICY"
  | .backpressure => "BACKPRESSURE"

def disposition : MailboxProviderFailureClass → MailboxFailureDisposition
  | .authentication => .authRequired
  | .rateLimited | .transientDependency | .backpressure => .retryable
  | .providerPolicy => .suspended
  | .permanent => .terminal

end MailboxProviderFailureClass

/-- Only a failure that may pass carries a hint when to retry. -/
structure MailboxProviderFailure where
  failureClass : MailboxProviderFailureClass
  retryAt : Option UnixMillis
  hinted : retryAt ≠ none → failureClass.disposition = .retryable

def MailboxProviderFailure.disposition (failure : MailboxProviderFailure) :
    MailboxFailureDisposition := failure.failureClass.disposition

inductive MailboxProviderPortError where
  | failure (failure : MailboxProviderFailure)
  | integrityFailure

/-- What a provider answers when it is asked to check a mailbox. -/
abbrev ProviderAnswer := Except MailboxProviderPortError MailboxObservation

end Observations

/-- The outcome of a run, as the repository is to write it. -/
structure MailboxJobPreparedRun where
  status : MailboxJobStatus
  attempt : Nat
  version : AggregateVersion
  cursor : Option String
  providerStatus : String
  boundedItemCount : Nat
  retryAt : Option UnixMillis
  deriving DecidableEq

def MailboxJobPreparedRun.fromJob (job : MailboxJob) (providerStatus : String)
    (boundedItemCount : Nat) : MailboxJobPreparedRun where
  status := job.status
  attempt := job.attempt
  version := job.version
  cursor := job.cursor
  providerStatus
  boundedItemCount
  retryAt := if job.status = .retryPending then some job.nextRunAt else none

inductive MailboxJobOperationError where
  | invalidRequest
  | notFound
  | versionConflict
  | invalidState
  | conflict
  | integrityFailure
  | internalFailure
  | dependencyUnavailable
  deriving DecidableEq, Repr

def mapDomainError (why : MailboxError) : MailboxJobOperationError :=
  if why = .versionOverflow then .internalFailure else .invalidState

/-- The version a run leaves, three transitions on. -/
def validateMailboxJobRunVersion (expectedVersion : AggregateVersion) :
    Except MailboxJobOperationError AggregateVersion :=
  match expectedVersion.next >>= AggregateVersion.next >>= AggregateVersion.next with
  | some version => .ok version
  | none => .error .internalFailure

def retryBaseDelayMs : Nat := 30000
def retryMaxDelayMs : Nat := 900000

def addDelay (now : UnixMillis) (delay : Nat) : Except MailboxJobOperationError UnixMillis :=
  match checkedAdd now delay with
  | some value => .ok value
  | none => .error .internalFailure

/-- A hint that is not ahead is dropped. The checked product of the base delay never overflows. -/
def boundedRetryAt (now : UnixMillis) (attempt : Nat) (providerHint : Option UnixMillis) :
    Except MailboxJobOperationError UnixMillis := do
  let policyDelay := min (retryBaseDelayMs * 2 ^ min (attempt - 1) 5) retryMaxDelayMs
  let policyAt ← addDelay now policyDelay
  let maxAt ← addDelay now retryMaxDelayMs
  return ((providerHint.filter (now < ·)).map fun hint => min (max hint policyAt) maxAt).getD policyAt

/-- Also returns the job, which the source changes in place. -/
def applyProviderFailure (job : MailboxJob) (now : UnixMillis) (failure : MailboxProviderFailure) :
    Except MailboxJobOperationError (MailboxJobPreparedRun × MailboxJob) :=
  let providerStatus := failure.failureClass.storageValue
  match failure.disposition with
  | .retryable =>
    if job.maxAttempts ≤ job.attempt then do
      let after ← job.fail.mapError mapDomainError
      return (.fromJob after "RETRY_EXHAUSTED" 0, after)
    else do
      let retryAt ← boundedRetryAt now job.attempt failure.retryAt
      let after ← (job.retry now retryAt).mapError mapDomainError
      return (.fromJob after providerStatus 0, after)
  | .authRequired => do
    let after ← job.requireAuth.mapError mapDomainError
    return (.fromJob after providerStatus 0, after)
  | .suspended => do
    let after ← job.suspend.mapError mapDomainError
    return (.fromJob after providerStatus 0, after)
  | .terminal => do
    let after ← job.fail.mapError mapDomainError
    return (.fromJob after providerStatus 0, after)

def applyProviderResult (binding : MailboxBinding) (job : MailboxJob) (now : UnixMillis)
    (providerResult : ProviderAnswer) :
    Except MailboxJobOperationError (MailboxJobPreparedRun × MailboxJob) :=
  match providerResult with
  | .ok observation => do
    refuseIf (observation.bindingId ≠ binding.bindingId) .integrityFailure
    let after ← (job.succeed observation.nextCursor).mapError mapDomainError
    return (.fromJob after observation.providerStatus observation.boundedItemCount, after)
  | .error (.failure failure) => applyProviderFailure job now failure
  | .error .integrityFailure => .error .integrityFailure

/-- The provider is asked once, when the job runs; its answer is an argument. -/
def prepareMailboxRun (binding : MailboxBinding) (job : MailboxJob) (now : UnixMillis)
    (providerResult : ProviderAnswer) :
    Except MailboxJobOperationError (MailboxJobPreparedRun × MailboxJob) := do
  let queued ← (job.queue now).mapError mapDomainError
  let running ← (queued.start binding).mapError mapDomainError
  applyProviderResult binding running now providerResult

/-- The command of a caller who has seen one version of the job, up to the write. -/
def runMailboxJob (expectedVersion : AggregateVersion) (binding : MailboxBinding)
    (job : MailboxJob) (now : UnixMillis) (providerResult : ProviderAnswer) :
    Except MailboxJobOperationError (MailboxJobPreparedRun × MailboxJob) := do
  let responseVersion ← validateMailboxJobRunVersion expectedVersion
  refuseIf (job.version ≠ expectedVersion) .versionConflict
  let prepared ← prepareMailboxRun binding job now providerResult
  refuseIf (prepared.1.version ≠ responseVersion) .integrityFailure
  return prepared

end ProfilePlatform.Mailbox
