import Mathlib.Data.List.Sort
import Mathlib.Data.String.Basic
import ProfilePlatform.Notifications.Processing

/-! How a member catches up with the events that have been consumed.

The cursor of a member is a place in the order of occurrence. A page holds the events after
the cursor, and when the page has been handed over the cursor moves to its end, if no other
session has moved it in the meantime.
-/

set_option autoImplicit false

namespace ProfilePlatform.Notifications

open Foundation
open Catalog (Refusal)

section Cursors

structure NotificationCursor where
  occurredAt : UnixMillis
  eventId : OutboxEventId
  deriving DecidableEq

inductive CursorAdvanceError where
  | rewind
  deriving DecidableEq, Repr

namespace NotificationCursor

def comparePosition (self other : NotificationCursor) : Ordering :=
  (compare self.occurredAt other.occurredAt).then
    (compare self.eventId.asStr other.eventId.asStr)

def advanceTo (self candidate : NotificationCursor) :
    Except CursorAdvanceError NotificationCursor :=
  match self.comparePosition candidate with
  | .lt => .ok candidate
  | .eq => .ok self
  | .gt => .error .rewind

end NotificationCursor

/-- A row of `user_event_cursors`. -/
structure CursorRow where
  tenantId : TenantId
  actorId : ActorId
  occurredAtMs : Int
  outboxEventId : OutboxEventId
  updatedAtMs : Int
  deriving DecidableEq

def CursorRow.intoCursor (self : CursorRow) : Except NotificationPortErrorClass NotificationCursor := do
  let occurredAt ← unixFromI64 self.occurredAtMs
  return ⟨occurredAt, self.outboxEventId⟩

def CursorRow.Of (self : CursorRow) (tenantId : TenantId) (actorId : ActorId) : Prop :=
  self.tenantId = tenantId ∧ self.actorId = actorId

instance (row : CursorRow) (tenantId : TenantId) (actorId : ActorId) :
    Decidable (row.Of tenantId actorId) := inferInstanceAs (Decidable (_ ∧ _))

/-- What `UPDATE_CURSOR` sets. -/
def CursorRow.movedTo (self new : CursorRow) : CursorRow :=
  { self with
    occurredAtMs := new.occurredAtMs
    outboxEventId := new.outboxEventId
    updatedAtMs := new.updatedAtMs }

inductive CursorAdvanceWriteOutcome where
  | advanced | unchanged | stale
  deriving DecidableEq, Repr

/-- The events of a member's tenant, the grants and the cursors. -/
structure CatchUpStore where
  events : NotificationStore
  clientGrants : List (TenantId × ActorId × OpaqueId)
  cursors : List CursorRow

namespace CatchUpStore

/-- The outbox has the event of the cursor, and the member is active. -/
def guardSource (self : CatchUpStore) (row : CursorRow) : Except Refusal Unit := do
  refuseIf (¬self.events.tables.surroundings.IsActive row.tenantId row.actorId)
    (.abort "user_event_cursor_membership_not_active")
  refuseIf (¬∃ event ∈ self.events.tables.outboxEvents, event.tenantId = row.tenantId ∧
      event.eventId = row.outboxEventId ∧ (event.occurredAt : Int) = row.occurredAtMs)
    (.abort "user_event_cursor_source_mismatch")

def checkCursor (row : CursorRow) : Except Refusal Unit :=
  refuseIf (row.occurredAtMs < 0 ∨ row.updatedAtMs < 0) .check

/-- `user_event_cursor_guard_update`, and the checks. -/
def guardCursor (self : CatchUpStore) (old new : CursorRow) : Except Refusal Unit := do
  refuseIf (new.tenantId ≠ old.tenantId ∨ new.actorId ≠ old.actorId)
    (.abort "user_event_cursor_identity_immutable")
  self.guardSource new
  refuseIf (new.occurredAtMs < old.occurredAtMs ∨ new.occurredAtMs = old.occurredAtMs ∧
      new.outboxEventId.asStr < old.outboxEventId.asStr)
    (.abort "user_event_cursor_rewind")
  refuseIf (new.updatedAtMs < old.updatedAtMs) (.abort "user_event_cursor_updated_at_rewind")
  checkCursor new

def loadUserCursor (self : CatchUpStore) (tenantId : TenantId) (actorId : ActorId) :
    Except NotificationPortErrorClass (Option NotificationCursor) :=
  match Rows.first (fun row => row.Of tenantId actorId) self.cursors with
  | some row => row.intoCursor.map some
  | none => .ok none

/-- `INSERT_CURSOR`, and whether it has inserted its row. -/
def insertCursor (self : CatchUpStore) (new : CursorRow) :
    Except Refusal (Bool × CatchUpStore) := do
  self.guardSource new
  checkCursor new
  if ∃ old ∈ self.cursors, old.Of new.tenantId new.actorId then return (false, self)
  return (true, { self with cursors := self.cursors ++ [new] })

/-- The where clause of `UPDATE_CURSOR`. -/
def Expected (tenantId : TenantId) (actorId : ActorId) (occurredAtMs : Int)
    (eventId : OutboxEventId) (row : CursorRow) : Prop :=
  row.Of tenantId actorId ∧ row.occurredAtMs = occurredAtMs ∧ row.outboxEventId = eventId

instance (tenantId : TenantId) (actorId : ActorId) (occurredAtMs : Int) (eventId : OutboxEventId) :
    DecidablePred (Expected tenantId actorId occurredAtMs eventId) :=
  fun _ => inferInstanceAs (Decidable (_ ∧ _))

/-- `UPDATE_CURSOR`, and whether it has chosen a row. -/
def updateCursor (self : CatchUpStore) (expectedOccurredAt : Int) (expectedId : OutboxEventId)
    (new : CursorRow) : Except Refusal (Bool × CatchUpStore) := do
  let cursors ← Rows.update (Expected new.tenantId new.actorId expectedOccurredAt expectedId)
    (fun old => old.movedTo new) self.guardCursor
    (fun other row => other.Of row.tenantId row.actorId) .unique [] self.cursors
  return (decide (∃ row ∈ self.cursors,
    Expected new.tenantId new.actorId expectedOccurredAt expectedId row), { self with cursors })

/-- The statement that moves the cursor from the one expected to the new row's. -/
def writeCursor (self : CatchUpStore) (expected : Option NotificationCursor)
    (next : NotificationCursor) (new : CursorRow) : Except StatementError (Bool × CatchUpStore) :=
  match expected with
  | some expected => do
    let _ ← (expected.advanceTo next).mapError fun _ => .port .integrityFailure
    let expectedOccurredAt ← (sqliteInteger expected.occurredAt).mapError .port
    (self.updateCursor expectedOccurredAt expected.eventId new).mapError .database
  | none => (self.insertCursor new).mapError .database

def compareAndAdvanceUserCursor (self : CatchUpStore) (tenantId : TenantId) (actorId : ActorId)
    (expected : Option NotificationCursor) (next : NotificationCursor) (advancedAt : UnixMillis) :
    Except StatementError (CursorAdvanceWriteOutcome × CatchUpStore) := do
  let occurredAtMs ← (sqliteInteger next.occurredAt).mapError .port
  let advancedAtMs ← (sqliteInteger advancedAt).mapError .port
  let (returned, after) ← self.writeCursor expected next
    ⟨tenantId, actorId, occurredAtMs, next.eventId, advancedAtMs⟩
  if returned = false then return (.stale, after)
  return (if expected = some next then .unchanged else .advanced, after)

end CatchUpStore

end Cursors

section Pages

structure NotificationEventRecord where
  eventId : OutboxEventId
  aggregateType : String
  aggregateId : OpaqueId
  eventType : String
  occurredAt : UnixMillis
  deriving DecidableEq

def NotificationEventRecord.cursor (self : NotificationEventRecord) : NotificationCursor :=
  ⟨self.occurredAt, self.eventId⟩

def NotificationEventRow.record (self : NotificationEventRow) : NotificationEventRecord :=
  ⟨self.event.eventId, self.event.aggregateType, self.event.aggregateId, self.event.eventType,
    self.event.occurredAt⟩

/-- The order of a page. -/
def byPosition (left right : NotificationEventRecord) : Prop :=
  left.cursor.comparePosition right.cursor ≠ .gt

instance : DecidableRel byPosition := fun _ _ => inferInstanceAs (Decidable (_ ≠ _))

namespace CatchUpStore

/-- The member may see the event: an owner all of them, another member those of his grants. -/
def Authorized (self : CatchUpStore) (actorId : ActorId) (event : IntegrationEventEnvelope) :
    Prop :=
  ∃ member ∈ self.events.tables.surroundings.memberships, member.tenantId = event.tenantId ∧
    member.actorId = actorId ∧ member.status = .active ∧
    (member.role = .tenantOwner ∨
      (member.role = .member ∧ event.aggregateType = "client" ∧
        (event.tenantId, actorId, event.aggregateId) ∈ self.clientGrants) ∨
      (member.role = .member ∧ event.aggregateType = "profile" ∧
        ∃ grant ∈ self.events.tables.surroundings.profileGrants,
          grant.profile.tenantId = event.tenantId ∧ grant.actorId = actorId ∧
          grant.profile.profileId.intoOpaque = event.aggregateId))

instance (self : CatchUpStore) (actorId : ActorId) (event : IntegrationEventEnvelope) :
    Decidable (self.Authorized actorId event) := inferInstanceAs (Decidable (∃ _ ∈ _, _))

/-- The event lies after the place that the query is given. -/
def LiesAfter (afterTime : Int) (afterId : String) (event : IntegrationEventEnvelope) : Prop :=
  afterTime < 0 ∨ afterTime < event.occurredAt ∨
    (event.occurredAt : Int) = afterTime ∧ afterId < event.eventId.asStr

instance (afterTime : Int) (afterId : String) : DecidablePred (LiesAfter afterTime afterId) :=
  fun _ => inferInstanceAs (Decidable (_ ∨ _ ∨ _))

/-- The place that the query is given. A member without a cursor starts before all events. -/
def afterPlace : Option NotificationCursor → Except NotificationPortErrorClass (Int × String)
  | some cursor => do
    let afterTime ← sqliteInteger cursor.occurredAt
    return (afterTime, cursor.eventId.asStr)
  | none => .ok (-1, "")

/-- `LOAD_AUTHORIZED_EVENTS`. -/
def loadAuthorizedEventPage (self : CatchUpStore) (tenantId : TenantId) (actorId : ActorId)
    (after : Option NotificationCursor) (limit : Nat) :
    Except NotificationPortErrorClass (List NotificationEventRecord) := do
  let (afterTime, afterId) ← afterPlace after
  let chosen := self.events.notificationEvents.filter fun row =>
    row.event.tenantId = tenantId ∧ LiesAfter afterTime afterId row.event ∧
      self.Authorized actorId row.event
  return ((chosen.map NotificationEventRow.record).insertionSort byPosition).take limit

/-- `LOAD_ACTIVE_ROLE`, which both roles pass. -/
def isAuthorized (self : CatchUpStore) (tenantId : TenantId) (actorId : ActorId) : Bool :=
  self.events.tables.surroundings.IsActive tenantId actorId

end CatchUpStore

end Pages

section Batches

def maxCatchUpPageSize : Nat := 200

inductive NotificationOperationError where
  | forbidden
  | invalidInput
  | conflict
  | integrityFailure
  | dependencyUnavailable
  | internalFailure
  deriving DecidableEq, Repr

def NotificationOperationError.fromPort : NotificationPortErrorClass → NotificationOperationError
  | .conflict => .conflict
  | .integrityFailure => .integrityFailure
  | .internalFailure => .internalFailure
  | .dependencyUnavailable => .dependencyUnavailable

structure NotificationCatchUpBatch where
  expectedCursor : Option NotificationCursor
  nextCursor : Option NotificationCursor
  events : List NotificationEventRecord
  deriving DecidableEq

/-- The loop of `validate_page`: each event lies strictly after the place before it. -/
def placeAfter (position : Option NotificationCursor) :
    List NotificationEventRecord → Except NotificationOperationError (Option NotificationCursor)
  | [] => .ok position
  | event :: rest => do
    refuseIf (position = some event.cursor) .integrityFailure
    match position with
    | some current => do
      let moved ← (current.advanceTo event.cursor).mapError fun _ => .integrityFailure
      placeAfter (some moved) rest
    | none => placeAfter (some event.cursor) rest

def validatePage (expected : Option NotificationCursor) (events : List NotificationEventRecord)
    (limit : Nat) : Except NotificationOperationError (Option NotificationCursor) := do
  refuseIf (limit < events.length) .integrityFailure
  let position ← placeAfter expected events
  return if events = [] then none else position

end Batches

section Sessions

/-- What the member asks for. A batch to commit comes from an earlier load. -/
inductive CatchUpRequest where
  | load (limit : Nat)
  | commit (batch : NotificationCatchUpBatch) (deliveredAt : UnixMillis)
  | acknowledge (eventId : OutboxEventId) (deliveredAt : UnixMillis)
  | synchronize (limit : Nat) (deliveredAt : UnixMillis)
  deriving DecidableEq

inductive CatchUpOutcome where
  | loaded (batch : NotificationCatchUpBatch)
  | written (outcome : CursorAdvanceWriteOutcome)
  | synchronized (deliveredCount : Nat) (outcome : CursorAdvanceWriteOutcome)
  deriving DecidableEq

inductive CatchUpPhase where
  | authorizing
  | readingCursor
  | readingPage (expected : Option NotificationCursor)
  | publishing (batch : NotificationCatchUpBatch) (event : NotificationEventRecord)
      (rest : List NotificationEventRecord)
  | advancing (batch : NotificationCatchUpBatch) (next : NotificationCursor)
  | done (result : Except NotificationOperationError CatchUpOutcome)
  deriving DecidableEq

structure CatchUpSession where
  request : CatchUpRequest
  phase : CatchUpPhase
  deriving DecidableEq

namespace CatchUpSession

def limit (self : CatchUpSession) : Nat :=
  match self.request with
  | .load limit | .synchronize limit _ => limit
  | .acknowledge _ _ | .commit _ _ => maxCatchUpPageSize

def deliveredAt (self : CatchUpSession) : UnixMillis :=
  match self.request with
  | .commit _ deliveredAt | .acknowledge _ deliveredAt | .synchronize _ deliveredAt => deliveredAt
  | .load _ => 0

def finish (self : CatchUpSession) (result : Except NotificationOperationError CatchUpOutcome) :
    CatchUpSession := { self with phase := .done result }

/-- The cursor write is over. -/
def written (self : CatchUpSession) (batch : NotificationCatchUpBatch)
    (outcome : CursorAdvanceWriteOutcome) : CatchUpSession :=
  match self.request with
  | .synchronize _ _ => self.finish (.ok (.synchronized batch.events.length outcome))
  | .load _ | .commit _ _ | .acknowledge _ _ => self.finish (.ok (.written outcome))

/-- `commit_catch_up`. -/
def commits (self : CatchUpSession) (batch : NotificationCatchUpBatch) : CatchUpSession :=
  match batch.nextCursor with
  | some next => { self with phase := .advancing batch next }
  | none => self.written batch .unchanged

/-- Publishes the events of a page one after the other, and commits when none is left. -/
def publishes (self : CatchUpSession) (batch : NotificationCatchUpBatch) :
    List NotificationEventRecord → CatchUpSession
  | [] => self.commits batch
  | event :: rest => { self with phase := .publishing batch event rest }

/-- A request before its first statement. -/
def start (request : CatchUpRequest) : CatchUpSession :=
  match request with
  | .load limit | .synchronize limit _ =>
    if limit = 0 ∨ maxCatchUpPageSize < limit then ⟨request, .done (.error .invalidInput)⟩
    else ⟨request, .authorizing⟩
  | .acknowledge _ _ => ⟨request, .authorizing⟩
  | .commit batch _ => commits ⟨request, .authorizing⟩ batch

/-- What a session does with the page it has read, and the events it hands over. -/
def paged (self : CatchUpSession) (batch : NotificationCatchUpBatch) :
    List NotificationEventRecord × CatchUpSession :=
  match self.request with
  | .load _ | .commit _ _ => (batch.events, self.finish (.ok (.loaded batch)))
  | .acknowledge eventId _ =>
    match batch.events.find? (fun event => event.eventId = eventId) with
    | some event => ([], { self with phase := .advancing batch event.cursor })
    | none => ([], self.finish (.error .invalidInput))
  | .synchronize _ _ => ([], self.publishes batch batch.events)

end CatchUpSession

/-- What a reading statement answers. -/
def Fate.read {A : Type} (fate : Fate) (outcome : Except NotificationPortErrorClass A) :
    Except NotificationPortErrorClass A :=
  match fate with
  | .answered => outcome
  | .lost _ why => .error why

namespace CatchUpSession

/-- One statement of a session, or one signal to its sink. A signal that fails may have arrived. -/
def advance (self : CatchUpSession) (tenantId : TenantId) (actorId : ActorId) (fate : Fate)
    (store : CatchUpStore) : List NotificationEventRecord × CatchUpSession × CatchUpStore :=
  match self.phase with
  | .authorizing =>
    match fate.read (.ok (store.isAuthorized tenantId actorId)) with
    | .ok true => ([], { self with phase := .readingCursor }, store)
    | .ok false => ([], self.finish (.error .forbidden), store)
    | .error why => ([], self.finish (.error (.fromPort why)), store)
  | .readingCursor =>
    match fate.read (store.loadUserCursor tenantId actorId) with
    | .ok expected => ([], { self with phase := .readingPage expected }, store)
    | .error why => ([], self.finish (.error (.fromPort why)), store)
  | .readingPage expected =>
    match fate.read (store.loadAuthorizedEventPage tenantId actorId expected self.limit) with
    | .error why => ([], self.finish (.error (.fromPort why)), store)
    | .ok events =>
      match validatePage expected events self.limit with
      | .error why => ([], self.finish (.error why), store)
      | .ok next =>
        let (handed, moved) := self.paged ⟨expected, next, events⟩
        (handed, moved, store)
  | .publishing batch event rest =>
    match fate with
    | .answered => ([event], self.publishes batch rest, store)
    | .lost true why => ([event], self.finish (.error (.fromPort why)), store)
    | .lost false why => ([], self.finish (.error (.fromPort why)), store)
  | .advancing batch next =>
    match fate.settle store (store.compareAndAdvanceUserCursor tenantId actorId batch.expectedCursor
      next self.deliveredAt) with
    | (.ok outcome, after) => ([], self.written batch outcome, after)
    | (.error why, after) => ([], self.finish (.error (.fromPort why)), after)
  | .done _ => ([], self, store)

end CatchUpSession

end Sessions

section Desk

/-- The consumers of a platform, and the sessions of one member of a tenant. -/
structure Desk where
  calls : List Call
  store : CatchUpStore
  tenantId : TenantId
  actorId : ActorId
  sessions : List CatchUpSession

inductive DeskInput where
  | deliver (input : WorldInput)
  | begin (request : CatchUpRequest)
  | advance (place : Nat) (fate : Fate)

namespace Desk

def world (self : Desk) : World := ⟨self.store.events, self.calls⟩

/-- The batch comes from a load. -/
def HasLoaded (self : Desk) (batch : NotificationCatchUpBatch) : Prop :=
  ∃ session ∈ self.sessions, session.phase = .done (.ok (.loaded batch))

instance (self : Desk) (batch : NotificationCatchUpBatch) : Decidable (self.HasLoaded batch) :=
  inferInstanceAs (Decidable (∃ _ ∈ _, _))

/-- The member may make the request. -/
def Allows (self : Desk) : CatchUpRequest → Prop
  | .commit batch _ => self.HasLoaded batch
  | .load _ | .acknowledge _ _ | .synchronize _ _ => True

instance (self : Desk) : DecidablePred self.Allows
  | .commit batch _ => inferInstanceAs (Decidable (self.HasLoaded batch))
  | .load _ | .acknowledge _ _ | .synchronize _ _ => isTrue trivial

end Desk

end Desk

end ProfilePlatform.Notifications
