import ProfilePlatform.Foundation.Machine
import ProfilePlatform.Foundation.Table
import ProfilePlatform.Mail.Repository

/-! Executing an outbound mail: reserve the intent, claim a dispatch, send, complete.

A call is what is left of `execute_outbound_mail` at its next await, and each await
is one step. Any number of calls run over one database, their steps in any order,
and a call that gets no further step has been dropped where it stands.
-/

set_option autoImplicit false

namespace ProfilePlatform.Mail

open Foundation Ports

def maxOutboundMailDispatchAttempts : Nat := 3

structure OutboundMailOutcome where
  intentId : OutboxEventId
  state : OutboundMailIntentState
  attemptCount : Nat
  replayed : Bool
  deriving DecidableEq

inductive OutboundMailOperationError where
  | notFound | invalidInput | conflict | integrityFailure | internalFailure
  | dependencyUnavailable
  deriving DecidableEq, Repr

def mapInputError : OutboundMailInputError → OutboundMailOperationError
  | .sourceBindingMismatch => .invalidInput

def mapAccessError : ClientMailboxAccessPortErrorClass → OutboundMailOperationError
  | .integrityFailure => .integrityFailure
  | .dependencyUnavailable => .dependencyUnavailable

def mapStoreError : StoreError → OutboundMailOperationError
  | .notFound => .notFound
  | .conflict => .conflict
  | .integrityFailure => .integrityFailure
  | .internalFailure => .internalFailure
  | .dependencyUnavailable => .dependencyUnavailable

def outcomeFromReceipt (receipt : OutboundMailIntentReceipt) (replayed : Bool) :
    OutboundMailOutcome :=
  ⟨receipt.intentId, receipt.state, receipt.attemptCount, replayed⟩

/-- Where a call waits. The claimed attempt stays in scope, though nothing reads it. -/
inductive Phase where
  | checkingAccess
  | reserving
  | claiming (replayed : Bool)
  | sending (attempt : Nat) (replayed : Bool)
  | completing (attempt : Nat) (outcome : OutboundMailProviderOutcome) (replayed : Bool)
  | marking (replayed : Bool)
  | finished (result : Except OutboundMailOperationError OutboundMailOutcome)
  deriving DecidableEq

structure Call where
  context : CommandContext
  intent : OutboundMailIntent
  phase : Phase
  deriving DecidableEq

/-- Whether the answer of a repository call reaches its caller. -/
inductive Delivery where
  | delivered
  | failed (why : StoreError)
  | lost (why : StoreError)
  deriving DecidableEq, Repr

def Delivery.pass {A : Type} (delivery : Delivery) (database : Database)
    (called : StoreResult A × Database) : StoreResult A × Database :=
  match delivery with
  | .delivered => called
  | .failed why => (.error why, database)
  | .lost why => (.error why, called.2)

/-- What everything outside the intent store answers during one step. -/
structure World where
  access : Except ClientMailboxAccessPortErrorClass Bool
  granted : Bool
  delivery : Delivery
  provider : Except OutboundMailProviderPortErrorClass OutboundMailProviderOutcome
  deriving DecidableEq

/-- One invocation of the provider. -/
structure Send where
  command : CommandKey
  attempt : Nat
  outcome : Except OutboundMailProviderPortErrorClass OutboundMailProviderOutcome
  deriving DecidableEq

/-- What the caller makes of the provider's answer. -/
def providerOutcome :
    Except OutboundMailProviderPortErrorClass OutboundMailProviderOutcome →
      OutboundMailProviderOutcome
  | .ok outcome => outcome
  | .error _ => .ambiguous

namespace Phase

def failed (why : StoreError) : Phase := .finished (.error (mapStoreError why))

def answered (receipt : OutboundMailIntentReceipt) (replayed : Bool) : Phase :=
  .finished (.ok (outcomeFromReceipt receipt replayed))

def afterAccess (intent : OutboundMailIntent) :
    Except ClientMailboxAccessPortErrorClass Bool → Phase
  | .error why => .finished (.error (mapAccessError why))
  | .ok false => .finished (.error .notFound)
  | .ok true =>
    match intent.validateSourceBinding with
    | .error why => .finished (.error (mapInputError why))
    | .ok () => .reserving

def resumeOrReplay (receipt : OutboundMailIntentReceipt) : Phase :=
  match receipt.state with
  | .pending | .retryable => .claiming true
  | .dispatching => .marking true
  | .sent | .ambiguous | .rejected => answered receipt true

def afterReserve : StoreResult OutboundMailReserveDecision → Phase
  | .error why => failed why
  | .ok .conflict => .finished (.error .conflict)
  | .ok .reserved => .claiming false
  | .ok (.existing receipt) => resumeOrReplay receipt

def afterClaim (replayed : Bool) : StoreResult OutboundMailClaimDecision → Phase
  | .error why => failed why
  | .ok (.claimed attempt) => .sending attempt replayed
  | .ok (.existing receipt) =>
    if receipt.state = .dispatching then .marking true else answered receipt true

def afterComplete (replayed : Bool) : StoreResult OutboundMailIntentReceipt → Phase
  | .error _ => .marking replayed
  | .ok receipt => answered receipt replayed

def afterMark (replayed : Bool) : StoreResult OutboundMailIntentReceipt → Phase
  | .error why => failed why
  | .ok receipt => answered receipt replayed

end Phase

/-- One await of a call: the provider it invoked, its next phase and the database after it. -/
def Call.advance (self : Call) (database : Database) (world : World) :
    Option Send × Phase × Database :=
  let context := self.context
  match self.phase with
  | .checkingAccess => (none, .afterAccess self.intent world.access, database)
  | .reserving =>
    let answer := world.delivery.pass database
      (database.reserveIntent world.granted context self.intent)
    (none, .afterReserve answer.1, answer.2)
  | .claiming replayed =>
    let answer := world.delivery.pass database
      (database.claimDispatch world.granted context maxOutboundMailDispatchAttempts)
    (none, .afterClaim replayed answer.1, answer.2)
  | .sending attempt replayed =>
    (some ⟨context.command, attempt, world.provider⟩,
      .completing attempt (providerOutcome world.provider) replayed, database)
  | .completing _ outcome replayed =>
    let answer := world.delivery.pass database (database.completeDispatch context outcome)
    (none, .afterComplete replayed answer.1, answer.2)
  | .marking replayed =>
    let answer := world.delivery.pass database (database.markAmbiguous context)
    (none, .afterMark replayed answer.1, answer.2)
  | .finished result => (none, .finished result, database)

structure Dispatcher where
  database : Database
  calls : Table Nat Call

inductive DispatchEvent where
  | arrives (index : Nat) (context : CommandContext) (intent : OutboundMailIntent)
  | advances (index : Nat) (world : World)

namespace Dispatcher

def step (self : Dispatcher) : DispatchEvent → Option Send × Dispatcher
  | .arrives index context intent =>
    (none, { self with calls := self.calls.insertIfAbsent index ⟨context, intent, .checkingAccess⟩ })
  | .advances index world =>
    match self.calls index with
    | none => (none, self)
    | some call =>
      let (send, phase, database) := call.advance self.database world
      (send, ⟨database, self.calls.insert index { call with phase }⟩)

end Dispatcher

def dispatchers : Machine Dispatcher DispatchEvent (Option Send) := ⟨Dispatcher.step⟩

/-- No intent has been reserved; other components may have stored rows of their own. -/
def Database.Fresh (database : Database) : Prop :=
  database.intents = [] ∧ database.claims = [] ∧ database.completions = [] ∧ database.marks = []

end ProfilePlatform.Mail
