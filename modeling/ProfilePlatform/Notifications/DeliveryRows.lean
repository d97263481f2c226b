import ProfilePlatform.Catalog.Database
import ProfilePlatform.Foundation.Machine
import ProfilePlatform.Notifications.Delivery

/-! The stored deliveries: the rows, what guards them, and how the repository reads
and writes them.

A row says the same thing three times: in its checks, in the guard of an update and in
the function that restores the state. A write names the state it expects column by
column, with a value no column takes in the place of null.
-/

set_option autoImplicit false

namespace ProfilePlatform.Notifications

open Foundation
open Catalog (Refusal Surroundings)

inductive NotificationPortErrorClass where
  | conflict
  | integrityFailure
  | internalFailure
  | dependencyUnavailable
  deriving DecidableEq, Repr

/-- An event as the outbox keeps it. -/
structure IntegrationEventEnvelope where
  eventId : OutboxEventId
  tenantId : TenantId
  aggregateType : String
  aggregateId : OpaqueId
  aggregateVersion : AggregateVersion
  eventType : String
  eventVersion : Nat
  payload : String
  occurredAt : UnixMillis
  deriving DecidableEq

structure DeliveryKey where
  tenantId : TenantId
  consumerId : OpaqueId
  outboxEventId : OutboxEventId
  deriving DecidableEq

section Rows

/-- A row of `notification_deliveries`. -/
structure DeliveryRow where
  key : DeliveryKey
  deliveryState : String
  attemptCount : Int
  lastAttemptAtMs : Option Int
  nextAttemptAtMs : Option Int
  deliveredAtMs : Option Int
  terminalAtMs : Option Int
  failureClass : Option String
  createdAtMs : Int
  updatedAtMs : Int
  deriving DecidableEq

/-- An integer column holds a time. -/
def IsTime (value : Int) : Prop := 0 ≤ value ∧ value < sqliteLimit

instance (value : Int) : Decidable (IsTime value) := inferInstanceAs (Decidable (_ ∧ _))

namespace DeliveryRow

def isFailureClass (text : String) : Bool :=
  text ∈ ["DEPENDENCY_UNAVAILABLE", "REJECTED", "INTEGRITY_FAILURE", "INTERNAL_FAILURE"]

/-- The columns that each state fills. -/
def Shaped (self : DeliveryRow) : Prop :=
  (self.deliveryState = "READY" ∧ self.attemptCount = 0 ∧ self.lastAttemptAtMs = none ∧
    self.nextAttemptAtMs = none ∧ self.deliveredAtMs = none ∧ self.terminalAtMs = none ∧
    self.failureClass = none) ∨
  (self.deliveryState = "RETRY_SCHEDULED" ∧ (1 ≤ self.attemptCount ∧ self.attemptCount ≤ 63) ∧
    (∃ last ∈ self.lastAttemptAtMs, ∃ next ∈ self.nextAttemptAtMs, last < next) ∧
    self.deliveredAtMs = none ∧ self.terminalAtMs = none ∧ self.failureClass ≠ none) ∨
  (self.deliveryState = "DELIVERED" ∧ (1 ≤ self.attemptCount ∧ self.attemptCount ≤ 64) ∧
    self.lastAttemptAtMs ≠ none ∧ self.nextAttemptAtMs = none ∧
    self.deliveredAtMs = self.lastAttemptAtMs ∧ self.terminalAtMs = none ∧
    self.failureClass = none) ∨
  (self.deliveryState = "DEAD_LETTER" ∧ (1 ≤ self.attemptCount ∧ self.attemptCount ≤ 64) ∧
    self.lastAttemptAtMs ≠ none ∧ self.nextAttemptAtMs = none ∧ self.deliveredAtMs = none ∧
    self.terminalAtMs = self.lastAttemptAtMs ∧ self.failureClass ≠ none)

/-- The checks of the table. -/
structure Checked (row : DeliveryRow) : Prop where
  lastTime : ∀ value ∈ row.lastAttemptAtMs, IsTime value ∧ row.createdAtMs ≤ value
  nextTime : ∀ value ∈ row.nextAttemptAtMs, IsTime value
  failureClass : ∀ text ∈ row.failureClass, isFailureClass text = true
  created : IsTime row.createdAtMs
  updated : row.createdAtMs ≤ row.updatedAtMs ∧ IsTime row.updatedAtMs
  shaped : row.Shaped

instance (row : DeliveryRow) : Decidable row.Shaped :=
  inferInstanceAs (Decidable (_ ∨ _ ∨ _ ∨ _))

instance (row : DeliveryRow) : Decidable row.Checked :=
  decidable_of_iff ((∀ value ∈ row.lastAttemptAtMs, IsTime value ∧ row.createdAtMs ≤ value) ∧
      (∀ value ∈ row.nextAttemptAtMs, IsTime value) ∧
      (∀ text ∈ row.failureClass, isFailureClass text = true) ∧ IsTime row.createdAtMs ∧
      (row.createdAtMs ≤ row.updatedAtMs ∧ IsTime row.updatedAtMs) ∧ row.Shaped)
    ⟨fun ⟨last, next, failure, created, updated, shaped⟩ =>
      ⟨last, next, failure, created, updated, shaped⟩,
      fun ⟨last, next, failure, created, updated, shaped⟩ =>
      ⟨last, next, failure, created, updated, shaped⟩⟩

end DeliveryRow

structure ReplayIntentRow where
  tenantId : TenantId
  replayId : OpaqueId
  consumerId : OpaqueId
  outboxEventId : OutboxEventId
  auditEventId : AuditEventId
  correlationId : CorrelationId
  requestedByActorId : ActorId
  reasonClass : String
  terminalAttemptCount : Int
  requestedAtMs : Int
  deriving DecidableEq

def ReplayIntentRow.delivery (self : ReplayIntentRow) : DeliveryKey :=
  ⟨self.tenantId, self.consumerId, self.outboxEventId⟩

def ReplayIntentRow.checked (self : ReplayIntentRow) : Bool :=
  self.reasonClass ∈ ["DEPENDENCY_RECOVERED", "OPERATOR_REMEDIATION", "INTEGRITY_REVALIDATED"] &&
    1 ≤ self.terminalAttemptCount && self.terminalAttemptCount ≤ 64 && IsTime self.requestedAtMs

structure ReplayDispatchRow where
  tenantId : TenantId
  replayId : OpaqueId
  createdAtMs : Int
  publishedAtMs : Option Int
  deriving DecidableEq

/-- The tables of deliveries and replays, with the outbox and the members they look at. -/
structure DeliveryTables where
  surroundings : Surroundings
  outboxEvents : List IntegrationEventEnvelope
  deliveries : List DeliveryRow
  replayIntents : List ReplayIntentRow
  replayDispatches : List ReplayDispatchRow
  auditEvents : List (TenantId × AuditEventId)

end Rows

section Guards

namespace DeliveryTables

/-- A replay of the dead letter is under way. -/
def Replays (self : DeliveryTables) (old new : DeliveryRow) : Prop :=
  ∃ intent ∈ self.replayIntents, intent.delivery = old.key ∧
    intent.terminalAttemptCount = old.attemptCount ∧ intent.requestedAtMs = new.updatedAtMs ∧
    ∃ dispatch ∈ self.replayDispatches, dispatch.tenantId = intent.tenantId ∧
      dispatch.replayId = intent.replayId ∧ dispatch.publishedAtMs = none

instance (self : DeliveryTables) (old new : DeliveryRow) : Decidable (self.Replays old new) :=
  inferInstanceAs (Decidable (∃ _ ∈ _, _))

/-- The attempt has a time, not before the row was created and not before a retry was due. -/
def AttemptTimed (old new : DeliveryRow) : Prop :=
  ∃ last ∈ new.lastAttemptAtMs, old.createdAtMs ≤ last ∧
    (old.deliveryState = "RETRY_SCHEDULED" → ∀ next ∈ old.nextAttemptAtMs, next ≤ last)

instance (old new : DeliveryRow) : Decidable (AttemptTimed old new) :=
  inferInstanceAs (Decidable (∃ _ ∈ _, _))

/-- `notification_delivery_transition_guard`, and the checks. -/
def guardDelivery (self : DeliveryTables) (old new : DeliveryRow) : Except Refusal Unit := do
  refuseIf (new.key ≠ old.key) (.abort "notification_delivery_identity_immutable")
  refuseIf (old.deliveryState = "DELIVERED" ∨ old.deliveryState = "DEAD_LETTER" ∧
      ¬(new.deliveryState = "READY" ∧ new.attemptCount = 0 ∧ self.Replays old new))
    (.abort "notification_delivery_terminal_immutable")
  refuseIf (¬(old.deliveryState = "DEAD_LETTER" ∧ new.deliveryState = "READY") ∧
    new.attemptCount ≠ old.attemptCount + 1)
    (.abort "notification_delivery_attempt_sequence_invalid")
  refuseIf (new.deliveryState = "READY" ∧ old.deliveryState ≠ "DEAD_LETTER")
    (.abort "notification_delivery_transition_invalid")
  refuseIf (new.deliveryState ≠ "READY" ∧ ¬AttemptTimed old new)
    (.abort "notification_delivery_attempt_time_invalid")
  refuseIf (¬new.Checked) .check

end DeliveryTables

end Guards

section Reading

def u16 (value : Int) : Except NotificationPortErrorClass Nat :=
  if 0 ≤ value ∧ value < attemptCountLimit then .ok value.toNat else .error .integrityFailure

def unixFromI64 (value : Int) : Except NotificationPortErrorClass UnixMillis :=
  if 0 ≤ value then .ok value.toNat else .error .integrityFailure

def requiredUnix : Option Int → Except NotificationPortErrorClass UnixMillis
  | some value => unixFromI64 value
  | none => .error .integrityFailure

def failureClassToStorage : DeliveryFailureClass → String
  | .dependencyUnavailable => "DEPENDENCY_UNAVAILABLE"
  | .rejected => "REJECTED"
  | .integrityFailure => "INTEGRITY_FAILURE"
  | .internalFailure => "INTERNAL_FAILURE"

def requiredFailureClass : Option String → Except NotificationPortErrorClass DeliveryFailureClass
  | some "DEPENDENCY_UNAVAILABLE" => .ok .dependencyUnavailable
  | some "REJECTED" => .ok .rejected
  | some "INTEGRITY_FAILURE" => .ok .integrityFailure
  | some "INTERNAL_FAILURE" => .ok .internalFailure
  | _ => .error .integrityFailure

def restored (result : Except DeliveryRestoreError DeliveryState) :
    Except NotificationPortErrorClass DeliveryState :=
  result.mapError fun _ => .integrityFailure

/-- `into_state`. -/
def DeliveryRow.intoState (self : DeliveryRow) :
    Except NotificationPortErrorClass DeliveryState := do
  let attempts ← u16 self.attemptCount
  if self.deliveryState = "READY" ∧ self.lastAttemptAtMs = none ∧ self.nextAttemptAtMs = none ∧
      self.deliveredAtMs = none ∧ self.terminalAtMs = none ∧ self.failureClass = none then
    restored (DeliveryState.restoreReady attempts)
  else if self.deliveryState = "RETRY_SCHEDULED" ∧ self.deliveredAtMs = none ∧
      self.terminalAtMs = none then do
    let lastAttemptAt ← requiredUnix self.lastAttemptAtMs
    let nextAttemptAt ← requiredUnix self.nextAttemptAtMs
    let failureClass ← requiredFailureClass self.failureClass
    restored (DeliveryState.restoreRetryScheduled attempts lastAttemptAt nextAttemptAt failureClass)
  else if self.deliveryState = "DELIVERED" ∧ self.nextAttemptAtMs = none ∧
      self.terminalAtMs = none ∧ self.failureClass = none then do
    let lastAttemptAt ← requiredUnix self.lastAttemptAtMs
    let deliveredAt ← requiredUnix self.deliveredAtMs
    refuseIf (lastAttemptAt ≠ deliveredAt) .integrityFailure
    restored (DeliveryState.restoreDelivered attempts deliveredAt)
  else if self.deliveryState = "DEAD_LETTER" ∧ self.nextAttemptAtMs = none ∧
      self.deliveredAtMs = none then do
    let lastAttemptAt ← requiredUnix self.lastAttemptAtMs
    let terminalAt ← requiredUnix self.terminalAtMs
    refuseIf (lastAttemptAt ≠ terminalAt) .integrityFailure
    let failureClass ← requiredFailureClass self.failureClass
    restored (DeliveryState.restoreDeadLetter attempts terminalAt failureClass)
  else .error .integrityFailure

end Reading

section Writing

def nullIntegerSentinel : Int := -1
def nullTextSentinel : String := ""

def sqliteInteger (value : UnixMillis) : Except NotificationPortErrorClass Int :=
  if value < sqliteLimit then .ok (value : Int) else .error .integrityFailure

structure ExpectedDeliveryShape where
  state : String
  attempts : Int
  lastAttemptAt : Int
  nextAttemptAt : Int
  deliveredAt : Int
  terminalAt : Int
  failureClass : String
  deriving DecidableEq

namespace ExpectedDeliveryShape

def fromState (state : DeliveryState) :
    Except NotificationPortErrorClass ExpectedDeliveryShape :=
  match state with
  | .ready attempts =>
    .ok ⟨"READY", attempts, nullIntegerSentinel, nullIntegerSentinel, nullIntegerSentinel,
      nullIntegerSentinel, nullTextSentinel⟩
  | .retryScheduled attempts lastAttemptAt nextAttemptAt failureClass => do
    let lastAttemptAt ← sqliteInteger lastAttemptAt
    let nextAttemptAt ← sqliteInteger nextAttemptAt
    return ⟨"RETRY_SCHEDULED", attempts, lastAttemptAt, nextAttemptAt, nullIntegerSentinel,
      nullIntegerSentinel, failureClassToStorage failureClass⟩
  | .delivered attempts deliveredAt => do
    let deliveredAt ← sqliteInteger deliveredAt
    return ⟨"DELIVERED", attempts, deliveredAt, nullIntegerSentinel, deliveredAt,
      nullIntegerSentinel, nullTextSentinel⟩
  | .deadLetter attempts terminalAt failureClass => do
    let terminalAt ← sqliteInteger terminalAt
    return ⟨"DEAD_LETTER", attempts, terminalAt, nullIntegerSentinel, nullIntegerSentinel,
      terminalAt, failureClassToStorage failureClass⟩

/-- The where clause of a compare-and-swap, after the key. -/
def Matches (self : ExpectedDeliveryShape) (row : DeliveryRow) : Prop :=
  row.deliveryState = self.state ∧ row.attemptCount = self.attempts ∧
    row.lastAttemptAtMs.getD (-1) = self.lastAttemptAt ∧
    row.nextAttemptAtMs.getD (-1) = self.nextAttemptAt ∧
    row.deliveredAtMs.getD (-1) = self.deliveredAt ∧
    row.terminalAtMs.getD (-1) = self.terminalAt ∧
    row.failureClass.getD "" = self.failureClass

instance (shape : ExpectedDeliveryShape) (row : DeliveryRow) : Decidable (shape.Matches row) :=
  inferInstanceAs (Decidable (_ ∧ _))

end ExpectedDeliveryShape

/-- What the three update statements set. -/
structure DeliveryUpdate where
  deliveryState : String
  attemptCount : Int
  lastAttemptAtMs : Int
  nextAttemptAtMs : Option Int
  deliveredAtMs : Option Int
  terminalAtMs : Option Int
  failureClass : Option String
  deriving DecidableEq

namespace DeliveryUpdate

/-- The update to a next state. No statement makes a delivery ready. -/
def bind (next : DeliveryState) : Except NotificationPortErrorClass DeliveryUpdate :=
  match next with
  | .ready _ => .error .integrityFailure
  | .retryScheduled attempts lastAttemptAt nextAttemptAt failureClass => do
    let lastAttemptAt ← sqliteInteger lastAttemptAt
    let nextAttemptAt ← sqliteInteger nextAttemptAt
    return ⟨"RETRY_SCHEDULED", attempts, lastAttemptAt, some nextAttemptAt, none, none,
      some (failureClassToStorage failureClass)⟩
  | .delivered attempts deliveredAt => do
    let deliveredAt ← sqliteInteger deliveredAt
    return ⟨"DELIVERED", attempts, deliveredAt, none, some deliveredAt, none, none⟩
  | .deadLetter attempts terminalAt failureClass => do
    let terminalAt ← sqliteInteger terminalAt
    return ⟨"DEAD_LETTER", attempts, terminalAt, none, none, some terminalAt,
      some (failureClassToStorage failureClass)⟩

def apply (self : DeliveryUpdate) (row : DeliveryRow) : DeliveryRow where
  key := row.key
  deliveryState := self.deliveryState
  attemptCount := self.attemptCount
  lastAttemptAtMs := some self.lastAttemptAtMs
  nextAttemptAtMs := self.nextAttemptAtMs
  deliveredAtMs := self.deliveredAtMs
  terminalAtMs := self.terminalAtMs
  failureClass := self.failureClass
  createdAtMs := row.createdAtMs
  updatedAtMs := self.lastAttemptAtMs

end DeliveryUpdate

end Writing

section Statements

/-- How a statement fails: the repository cannot bind its values, or the database refuses it. -/
inductive StatementError where
  | port (why : NotificationPortErrorClass)
  | database (why : Refusal)
  deriving DecidableEq, Repr

namespace DeliveryTables

def readyRow (key : DeliveryKey) (createdAtMs updatedAtMs : Int) : DeliveryRow :=
  ⟨key, "READY", 0, none, none, none, none, none, createdAtMs, updatedAtMs⟩

/-- `INSERT_READY`, behind `notification_delivery_source_guard`. A row that is there stays. -/
def insertReady (self : DeliveryTables) (key : DeliveryKey) (createdAt : UnixMillis) :
    Except StatementError DeliveryTables := do
  let createdAtMs ← (sqliteInteger createdAt).mapError .port
  refuseIf (¬∃ event ∈ self.outboxEvents, event.tenantId = key.tenantId ∧
    event.eventId = key.outboxEventId ∧ (event.occurredAt : Int) ≤ createdAtMs)
    (.database (.abort "notification_delivery_source_mismatch"))
  if ∃ old ∈ self.deliveries, old.key = key then return self
  return { self with
    deliveries := self.deliveries ++ [readyRow key createdAtMs createdAtMs] }

/-- `LOAD_DELIVERY`. -/
def loadDelivery (self : DeliveryTables) (key : DeliveryKey) :
    Except NotificationPortErrorClass DeliveryState :=
  match Rows.first (fun row => row.key = key) self.deliveries with
  | some row => row.intoState
  | none => .error .integrityFailure

def updateDeliveries (self : DeliveryTables) (chosen : DeliveryRow → Prop) [DecidablePred chosen]
    (change : DeliveryRow → DeliveryRow) : Except Refusal DeliveryTables := do
  let deliveries ← Rows.update chosen change self.guardDelivery
    (fun other new => other.key = new.key) .unique [] self.deliveries
  return { self with deliveries }

inductive WriteOutcome where
  | applied | stale
  deriving DecidableEq, Repr

/-- `compare_and_swap_delivery`: stale when the update has chosen no row. -/
def compareAndSwap (self : DeliveryTables) (key : DeliveryKey) (expected next : DeliveryState) :
    Except StatementError (WriteOutcome × DeliveryTables) := do
  let shape ← (ExpectedDeliveryShape.fromState expected).mapError .port
  let update ← (DeliveryUpdate.bind next).mapError .port
  let after ← (self.updateDeliveries (fun row => row.key = key ∧ shape.Matches row)
    update.apply).mapError .database
  return (if ∃ row ∈ self.deliveries, row.key = key ∧ shape.Matches row then .applied else .stale,
    after)

/-- `notification_replay_intent_validate`. -/
def validateReplay (self : DeliveryTables) (intent : ReplayIntentRow) : Except Refusal Unit := do
  refuseIf (¬self.surroundings.IsOwner intent.tenantId intent.requestedByActorId)
    (.abort "notification_replay_owner_required")
  refuseIf (¬∃ row ∈ self.deliveries, row.key = intent.delivery ∧
      row.deliveryState = "DEAD_LETTER" ∧ row.attemptCount = intent.terminalAttemptCount ∧
      ∃ terminal ∈ row.terminalAtMs, terminal ≤ intent.requestedAtMs)
    (.abort "notification_replay_dead_letter_required")

/-- `notification_replay_intent_apply`, once the intent is in its table. -/
def applyReplay (self : DeliveryTables) (intent : ReplayIntentRow) :
    Except Refusal DeliveryTables := do
  refuseIf (∃ event ∈ self.auditEvents, event = (intent.tenantId, intent.auditEventId)) .unique
  refuseIf (∃ dispatch ∈ self.replayDispatches, dispatch.tenantId = intent.tenantId ∧
    dispatch.replayId = intent.replayId) .unique
  DeliveryTables.updateDeliveries { self with
      auditEvents := self.auditEvents ++ [(intent.tenantId, intent.auditEventId)]
      replayDispatches := self.replayDispatches ++ [⟨intent.tenantId, intent.replayId, intent.requestedAtMs, none⟩] }
    (fun row => row.key = intent.delivery ∧ row.deliveryState = "DEAD_LETTER" ∧
      row.attemptCount = intent.terminalAttemptCount)
    fun row => readyRow row.key row.createdAtMs intent.requestedAtMs

/-- The insertion of a replay intent. -/
def insertReplay (self : DeliveryTables) (intent : ReplayIntentRow) :
    Except Refusal DeliveryTables := do
  self.validateReplay intent
  refuseIf (intent.checked = false) .check
  refuseIf (∃ old ∈ self.replayIntents, old.tenantId = intent.tenantId ∧
    old.replayId = intent.replayId) .unique
  DeliveryTables.applyReplay { self with replayIntents := self.replayIntents ++ [intent] } intent

/-- `notification_replay_dispatch_transition_guard`, of an update that sets the time alone. -/
def guardDispatch (old new : ReplayDispatchRow) : Except Refusal Unit :=
  refuseIf (old.publishedAtMs ≠ none ∨ ¬∃ published ∈ new.publishedAtMs, old.createdAtMs ≤ published)
    (.abort "notification_replay_dispatch_transition_invalid")

/-- `MARK_REPLAY_PUBLISHED`. -/
def markReplayPublished (self : DeliveryTables) (tenantId : TenantId) (replayId : OpaqueId)
    (publishedAt : UnixMillis) : Except StatementError DeliveryTables := do
  let publishedAtMs ← (sqliteInteger publishedAt).mapError .port
  let replayDispatches ← (Rows.update
    (fun dispatch => dispatch.tenantId = tenantId ∧ dispatch.replayId = replayId ∧
      dispatch.publishedAtMs = none)
    (fun dispatch => { dispatch with publishedAtMs := some publishedAtMs }) guardDispatch
    (fun other new => other.tenantId = new.tenantId ∧ other.replayId = new.replayId) .unique []
    self.replayDispatches).mapError .database
  return { self with replayDispatches }

end DeliveryTables

end Statements

/-- The statements of the repositories that write the delivery tables. -/
inductive DeliveryStatement where
  | insertReady (key : DeliveryKey) (createdAt : UnixMillis)
  | compareAndSwap (key : DeliveryKey) (expected next : DeliveryState)
  | insertReplay (intent : ReplayIntentRow)
  | markReplayPublished (tenantId : TenantId) (replayId : OpaqueId) (publishedAt : UnixMillis)

def DeliveryTables.execute (self : DeliveryTables) :
    DeliveryStatement → Except StatementError DeliveryTables
  | .insertReady key createdAt => self.insertReady key createdAt
  | .compareAndSwap key expected next => do
    let written ← self.compareAndSwap key expected next
    return written.2
  | .insertReplay intent => (self.insertReplay intent).mapError .database
  | .markReplayPublished tenantId replayId publishedAt =>
    self.markReplayPublished tenantId replayId publishedAt

/-- The delivery tables under statements. One that fails leaves them as they were. -/
def deliveryTables : Machine DeliveryTables DeliveryStatement (Except StatementError Unit) where
  step tables statement :=
    match tables.execute statement with
    | .ok after => (.ok (), after)
    | .error why => (.error why, tables)

end ProfilePlatform.Notifications
