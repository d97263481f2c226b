import ProfilePlatform.Notifications.DeliveryRows

/-! Workers that process deliveries, one statement at a time.

A call creates and reads the delivery, hands the event to the consumer and writes what
came of it over the state it read. Calls for one delivery run side by side, and a replay
may come between any two statements. A statement may fail, carried out or not.
-/

set_option autoImplicit false

namespace ProfilePlatform.Notifications

open Foundation
open Catalog (Refusal)

section Consumer

/-- `FOUNDATION_EVENT_TYPES_V1`. The search of the sorted list is membership. -/
def foundationEventTypes : List String :=
  ["client.access_granted.v1", "client.access_revoked.v1", "client.created.v1",
    "invitation.created.v1", "mailbox.binding_created.v1", "mailbox.binding_revoked.v1",
    "mailbox.job_auth_required.v1", "mailbox.job_created.v1", "mailbox.job_failed.v1",
    "mailbox.job_retry_scheduled.v1", "mailbox.job_succeeded.v1", "mailbox.job_suspended.v1",
    "membership.activated.v1", "membership.owner_transferred.v1", "membership.revoked.v1",
    "membership.suspended.v1", "profile.access_granted.v1", "profile.access_revoked.v1",
    "profile.client_assigned.v1", "profile.client_detached.v1", "profile.created.v1",
    "profile.generation_activated.v1", "profile.generation_deactivated.v1",
    "profile_coordinator.drain_started.v1", "profile_coordinator.heartbeat_accepted.v1",
    "profile_coordinator.launch_intent_expired.v1", "profile_coordinator.launch_intent_issued.v1",
    "profile_coordinator.lease_claimed.v1", "profile_coordinator.no_change.v1",
    "profile_coordinator.recovered.v1", "profile_coordinator.released.v1",
    "profile_coordinator.snapshot.v1", "profile_coordinator.timed_out.v1",
    "profile_generation.quarantined.v1", "profile_generation.registered.v1",
    "profile_generation.verified.v1", "tenant.owner_bootstrapped.v1"]

structure NotificationEventRow where
  event : IntegrationEventEnvelope
  persistedAtMs : Int
  deriving DecidableEq

structure ConsumerClaimRow where
  delivery : DeliveryKey
  eventType : String
  eventVersion : Nat
  consumedAtMs : Int
  deriving DecidableEq

/-- The delivery tables and the two tables the consumer writes. -/
structure NotificationStore where
  tables : DeliveryTables
  notificationEvents : List NotificationEventRow
  consumerClaims : List ConsumerClaimRow

inductive ConsumerClaim where
  | claimed | duplicate
  deriving DecidableEq, Repr

namespace NotificationStore

/-- `PERSIST_NOTIFICATION`, behind `notification_event_source_guard`. An event that is there stays. -/
def persistNotificationEvent (self : NotificationStore) (event : IntegrationEventEnvelope)
    (persistedAt : UnixMillis) : Except StatementError NotificationStore := do
  let _ ← (sqliteInteger event.aggregateVersion.value).mapError .port
  let _ ← (sqliteInteger event.occurredAt).mapError .port
  let persistedAtMs ← (sqliteInteger persistedAt).mapError .port
  refuseIf (event ∉ self.tables.outboxEvents)
    (.database (.abort "notification_event_source_mismatch"))
  if ∃ old ∈ self.notificationEvents, old.event.tenantId = event.tenantId ∧
    old.event.eventId = event.eventId then return self
  return { self with notificationEvents := self.notificationEvents ++ [⟨event, persistedAtMs⟩] }

/-- `CLAIM_CONSUMER`, behind `consumer_idempotency_source_guard`. -/
def claim (self : NotificationStore) (consumerId : OpaqueId) (event : IntegrationEventEnvelope)
    (consumedAt : UnixMillis) : Except StatementError (ConsumerClaim × NotificationStore) := do
  let consumedAtMs ← (sqliteInteger consumedAt).mapError .port
  refuseIf (¬∃ source ∈ self.tables.outboxEvents, source.tenantId = event.tenantId ∧
      source.eventId = event.eventId ∧ source.eventType = event.eventType ∧
      source.eventVersion = event.eventVersion)
    (.database (.abort "consumer_event_source_mismatch"))
  let delivery : DeliveryKey := ⟨event.tenantId, consumerId, event.eventId⟩
  if ∃ old ∈ self.consumerClaims, old.delivery = delivery then return (.duplicate, self)
  return (.claimed, { self with
    consumerClaims := self.consumerClaims ++
      [⟨delivery, event.eventType, event.eventVersion, consumedAtMs⟩] })

end NotificationStore

end Consumer

section Calls

inductive IntegrationEventOperationError where
  | invalidRequest
  | conflict
  | integrityFailure
  | internalFailure
  | dependencyUnavailable
  deriving DecidableEq, Repr

def mapPortError : NotificationPortErrorClass → IntegrationEventOperationError
  | .conflict => .conflict
  | .integrityFailure => .integrityFailure
  | .internalFailure => .internalFailure
  | .dependencyUnavailable => .dependencyUnavailable

def failureClass : IntegrationEventOperationError → DeliveryFailureClass
  | .invalidRequest => .rejected
  | .conflict | .integrityFailure => .integrityFailure
  | .internalFailure => .internalFailure
  | .dependencyUnavailable => .dependencyUnavailable

inductive DeliveryProcessingOutcome where
  | delivered (duplicate : Bool)
  | retryScheduled (retryAt : UnixMillis)
  | deadLetter
  deriving DecidableEq, Repr

inductive DeliveryProcessingError where
  | domainTransition (why : DeliveryTransitionError)
  | persistence (why : NotificationPortErrorClass)
  | retryScheduling (why : RetrySchedulingError)
  | stateConflict
  deriving DecidableEq, Repr

abbrev ProcessingResult := Except DeliveryProcessingError DeliveryProcessingOutcome

/-- What the consumer made of the event. -/
inductive ConsumerResult where
  | accepted (duplicate : Bool)
  | failed
  deriving DecidableEq, Repr

/-- The statement a call carries out next, with what it has in hand. -/
inductive CallPhase where
  | creating
  | loading
  | persisting (state : DeliveryState)
  | claiming (state : DeliveryState)
  | writing (state next : DeliveryState) (result : ConsumerResult)
  | recreating
  | reloading
  | done (result : ProcessingResult)
  deriving DecidableEq

/-- One call of `process_foundation_delivery`. -/
structure Call where
  consumerId : OpaqueId
  event : IntegrationEventEnvelope
  now : UnixMillis
  retryPolicy : RetryPolicy
  phase : CallPhase

/-- How a statement ends for the call that sent it. -/
inductive Fate where
  | answered
  | lost (executed : Bool) (why : NotificationPortErrorClass)
  deriving DecidableEq, Repr

/-- A claim statement that was carried out, and whether its call was told. -/
structure ClaimReport where
  delivery : DeliveryKey
  claim : ConsumerClaim
  told : Bool
  deriving DecidableEq

def StatementError.portClass : StatementError → NotificationPortErrorClass
  | .port why => why
  | .database _ => .internalFailure

def outcomeFromState : DeliveryState → ProcessingResult
  | .retryScheduled _ _ nextAttemptAt _ => .ok (.retryScheduled nextAttemptAt)
  | .deadLetter _ _ _ => .ok .deadLetter
  | .delivered _ _ => .ok (.delivered false)
  | .ready _ => .error .stateConflict

/-- The answer of `reconcile_after_stale`. -/
def reconciled : DeliveryState → ProcessingResult
  | .delivered _ _ => .ok (.delivered true)
  | .deadLetter _ _ _ => .ok .deadLetter
  | .retryScheduled _ _ nextAttemptAt _ => .ok (.retryScheduled nextAttemptAt)
  | .ready _ => .error .stateConflict

/-- What a statement answers and leaves, given its fate. -/
def Fate.settle {A S : Type} (fate : Fate) (store : S)
    (outcome : Except StatementError (A × S)) : Except NotificationPortErrorClass A × S :=
  match fate, outcome with
  | .answered, .ok (answer, after) => (.ok answer, after)
  | .answered, .error why => (.error why.portClass, store)
  | .lost true why, .ok (_, after) => (.error why, after)
  | .lost _ why, _ => (.error why, store)

namespace Call

def key (self : Call) : DeliveryKey := ⟨self.event.tenantId, self.consumerId, self.event.eventId⟩

def finish (self : Call) (result : ProcessingResult) : Call := { self with phase := .done result }

def failPersistence (self : Call) (why : NotificationPortErrorClass) : Call :=
  self.finish (.error (.persistence why))

/-- The consumer has failed; the policy says what becomes of the delivery. -/
def consumerFailed (self : Call) (state : DeliveryState)
    (why : IntegrationEventOperationError) : Call :=
  match self.retryPolicy.transitionAfterFailure state self.now self.event.eventId
    (failureClass why) with
  | .ok next => { self with phase := .writing state next .failed }
  | .error why => self.finish (.error (.retryScheduling why))

def consumerAccepted (self : Call) (state : DeliveryState) (claim : ConsumerClaim) : Call :=
  match state.recordSuccess self.now with
  | .ok next => { self with phase := .writing state next (.accepted (claim = .duplicate)) }
  | .error why => self.finish (.error (.domainTransition why))

/-- Hands the event to the consumer, which takes no type but its own. -/
def consume (self : Call) (state : DeliveryState) : Call :=
  if self.event.eventType ∉ foundationEventTypes then self.consumerFailed state .invalidRequest
  else { self with phase := .persisting state }

/-- The delivery has been read. -/
def loaded (self : Call) (state : DeliveryState) : Call :=
  match state with
  | .delivered _ _ => self.finish (.ok (.delivered true))
  | .deadLetter _ _ _ => self.finish (.ok .deadLetter)
  | .retryScheduled _ _ nextAttemptAt _ =>
    if state.isDue self.now = false then self.finish (.ok (.retryScheduled nextAttemptAt))
    else self.consume state
  | .ready _ => self.consume state

def insertReady (self : Call) (store : NotificationStore) :
    Except StatementError (Unit × NotificationStore) := do
  let tables ← store.tables.insertReady self.key self.event.occurredAt
  return ((), { store with tables })

def load (self : Call) (store : NotificationStore) :
    Except StatementError (DeliveryState × NotificationStore) := do
  let state ← (store.tables.loadDelivery self.key).mapError .port
  return (state, store)

def write (self : Call) (store : NotificationStore) (state next : DeliveryState) :
    Except StatementError (DeliveryTables.WriteOutcome × NotificationStore) := do
  let (outcome, tables) ← store.tables.compareAndSwap self.key state next
  return (outcome, { store with tables })

/-- What the caller is told once its write is applied. -/
def applied (next : DeliveryState) : ConsumerResult → ProcessingResult
  | .accepted duplicate => .ok (.delivered duplicate)
  | .failed => outcomeFromState next

/-- One statement of the call. -/
def advance (self : Call) (fate : Fate) (store : NotificationStore) : Call × NotificationStore :=
  match self.phase with
  | .creating =>
    match fate.settle store (self.insertReady store) with
    | (.ok _, after) => ({ self with phase := .loading }, after)
    | (.error why, after) => (self.failPersistence why, after)
  | .loading =>
    match fate.settle store (self.load store) with
    | (.ok state, after) => (self.loaded state, after)
    | (.error why, after) => (self.failPersistence why, after)
  | .persisting state =>
    match fate.settle store ((store.persistNotificationEvent self.event self.now).map ((), ·)) with
    | (.ok _, after) => ({ self with phase := .claiming state }, after)
    | (.error why, after) => (self.consumerFailed state (mapPortError why), after)
  | .claiming state =>
    match fate.settle store (store.claim self.consumerId self.event self.now) with
    | (.ok claim, after) => (self.consumerAccepted state claim, after)
    | (.error why, after) => (self.consumerFailed state (mapPortError why), after)
  | .writing state next result =>
    match fate.settle store (self.write store state next) with
    | (.ok .applied, after) => (self.finish (applied next result), after)
    | (.ok .stale, after) => ({ self with phase := .recreating }, after)
    | (.error why, after) => (self.failPersistence why, after)
  | .recreating =>
    match fate.settle store (self.insertReady store) with
    | (.ok _, after) => ({ self with phase := .reloading }, after)
    | (.error why, after) => (self.failPersistence why, after)
  | .reloading =>
    match fate.settle store (self.load store) with
    | (.ok state, after) => (self.finish (reconciled state), after)
    | (.error why, after) => (self.failPersistence why, after)
  | .done _ => (self, store)

/-- The claim that the statement makes or finds made, if it is carried out. -/
def report (self : Call) (fate : Fate) (store : NotificationStore) : Option ClaimReport :=
  match self.phase with
  | .claiming _ =>
    match fate, store.claim self.consumerId self.event self.now with
    | .answered, .ok (claim, _) => some ⟨self.key, claim, true⟩
    | .lost true _, .ok (claim, _) => some ⟨self.key, claim, false⟩
    | _, _ => none
  | _ => none

end Call

end Calls

section World

structure World where
  store : NotificationStore
  calls : List Call

inductive WorldInput where
  | begin (consumerId : OpaqueId) (event : IntegrationEventEnvelope) (now : UnixMillis)
      (retryPolicy : RetryPolicy)
  | advance (place : Nat) (fate : Fate)
  | replay (intent : ReplayIntentRow)
  | publishReplay (tenantId : TenantId) (replayId : OpaqueId) (publishedAt : UnixMillis)

namespace World

def withTables {E : Type} (self : World) (outcome : Except E DeliveryTables) : World :=
  match outcome with
  | .ok tables => { self with store := { self.store with tables } }
  | .error _ => self

end World

/-- Calls, replays and their publication in any order. -/
def world : Machine World WorldInput (Option ClaimReport) where
  step self
    | .begin consumerId event now retryPolicy =>
      (none, { self with
        calls := self.calls ++ [⟨consumerId, event, now, retryPolicy, .creating⟩] })
    | .advance place fate =>
      match self.calls[place]? with
      | none => (none, self)
      | some call =>
        let (moved, store) := call.advance fate self.store
        (call.report fate self.store, { store, calls := self.calls.set place moved })
    | .replay intent => (none, self.withTables (self.store.tables.insertReplay intent))
    | .publishReplay tenantId replayId publishedAt =>
      (none, self.withTables (self.store.tables.markReplayPublished tenantId replayId publishedAt))

abbrev WorldEntry := Entry World WorldInput (Option ClaimReport)

theorem world_advance_none {self : World} {place : Nat} (fate : Fate)
    (selected : self.calls[place]? = none) :
    world.step self (.advance place fate) = (none, self) := by
  simp only [world, selected]

theorem world_advance_some {self : World} {place : Nat} {call : Call} (fate : Fate)
    (selected : self.calls[place]? = some call) :
    world.step self (.advance place fate) = (call.report fate self.store,
      ⟨(call.advance fate self.store).2,
        self.calls.set place (call.advance fate self.store).1⟩) := by
  simp only [world, selected]

end World

end ProfilePlatform.Notifications
