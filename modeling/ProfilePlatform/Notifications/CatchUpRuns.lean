import ProfilePlatform.Notifications.CatchUp
import ProfilePlatform.Notifications.Progress

/-! What a member is handed, over runs of consumers and sessions.

The cursor never moves backwards, and a page leaves no event out between its start and its end.
A member misses an event if it is consumed behind the cursor, or behind the end of a page that
was read before: so nothing is missed as long as no event comes late.
-/

set_option autoImplicit false

namespace ProfilePlatform.Notifications

open Foundation
open Catalog (Refusal)

section Order

namespace NotificationCursor

variable {first second third : NotificationCursor}

/-- Strictly before, in the order of occurrence. -/
def Before (first second : NotificationCursor) : Prop := first.comparePosition second = .lt

instance (first second : NotificationCursor) : Decidable (first.Before second) :=
  inferInstanceAs (Decidable (_ = _))

theorem before_iff : first.Before second ↔ first.occurredAt < second.occurredAt ∨
    first.occurredAt = second.occurredAt ∧ first.eventId.asStr < second.eventId.asStr := by
  have times : compare first.occurredAt second.occurredAt = .lt ↔
      first.occurredAt < second.occurredAt := compare_lt_iff_lt
  have equal : compare first.occurredAt second.occurredAt = .eq ↔
      first.occurredAt = second.occurredAt := compare_eq_iff_eq
  have texts : compare first.eventId.asStr second.eventId.asStr = .lt ↔
      first.eventId.asStr < second.eventId.asStr := compare_lt_iff_lt
  rw [Before, comparePosition, Ordering.then_eq_lt, times, equal, texts]

theorem asStr_injective {left right : OutboxEventId} (same : left.asStr = right.asStr) :
    left = right := by
  obtain ⟨⟨text, valid⟩⟩ := left
  obtain ⟨⟨other, proper⟩⟩ := right
  cases same
  rfl

theorem not_before_self (cursor : NotificationCursor) : ¬cursor.Before cursor := by
  rw [before_iff]
  rintro (less | ⟨-, less⟩)
  · exact lt_irrefl _ less
  · exact lt_irrefl _ less

theorem Before.trans (one : first.Before second) (two : second.Before third) :
    first.Before third := by
  rw [before_iff] at one two ⊢
  rcases one with less | ⟨same, less⟩ <;> rcases two with more | ⟨equal, more⟩
  · exact .inl (lt_trans less more)
  · exact .inl (equal ▸ less)
  · exact .inl (same ▸ more)
  · exact .inr ⟨same.trans equal, lt_trans less more⟩

theorem eq_or_before (first second : NotificationCursor) :
    first = second ∨ first.Before second ∨ second.Before first := by
  simp only [before_iff]
  rcases lt_trichotomy first.occurredAt second.occurredAt with less | same | more
  · exact .inr (.inl (.inl less))
  · rcases lt_trichotomy first.eventId.asStr second.eventId.asStr with less | equal | more
    · exact .inr (.inl (.inr ⟨same, less⟩))
    · left
      obtain ⟨time, identifier⟩ := first
      obtain ⟨other, name⟩ := second
      cases same
      cases asStr_injective equal
      rfl
    · exact .inr (.inr (.inr ⟨same.symm, more⟩))
  · exact .inr (.inr (.inl more))

theorem comparePosition_eq_gt :
    first.comparePosition second = .gt ↔ second.Before first := by
  have times : compare first.occurredAt second.occurredAt = .gt ↔
      second.occurredAt < first.occurredAt := compare_gt_iff_gt
  have equal : compare first.occurredAt second.occurredAt = .eq ↔
      first.occurredAt = second.occurredAt := compare_eq_iff_eq
  have texts : compare first.eventId.asStr second.eventId.asStr = .gt ↔
      second.eventId.asStr < first.eventId.asStr := compare_gt_iff_gt
  rw [before_iff, comparePosition, Ordering.then_eq_gt, times, equal, texts,
    @eq_comm _ first.occurredAt]

theorem not_before_iff : ¬first.Before second ↔ first = second ∨ second.Before first := by
  constructor
  · intro fails
    rcases eq_or_before first second with same | less | more
    · exact .inl same
    · exact absurd less fails
    · exact .inr more
  · rintro (rfl | more) less
    · exact not_before_self first less
    · exact not_before_self first (less.trans more)

theorem advanceTo_eq_ok {moved : NotificationCursor} (advances : first.advanceTo second = .ok moved) :
    moved = second ∧ ¬second.Before first := by
  unfold advanceTo at advances
  split at advances
  next less =>
    cases advances
    exact ⟨rfl, not_before_iff.mpr (.inr less)⟩
  next same =>
    cases advances
    have equal : first = second := by
      rcases eq_or_before first second with equal | less | more
      · exact equal
      · exact absurd (less.symm.trans same) (by decide)
      · exact absurd ((comparePosition_eq_gt.mpr more).symm.trans same) (by decide)
    exact ⟨equal, equal ▸ not_before_self _⟩
  next => cases advances

end NotificationCursor

end Order

section Writes

variable {store after : CatchUpStore} {tenantId : TenantId} {actorId : ActorId}
  {cursor next : NotificationCursor} {expected : Option NotificationCursor}

def CursorRow.position (self : CursorRow) : NotificationCursor :=
  ⟨self.occurredAtMs.toNat, self.outboxEventId⟩

/-- The cursor of a member, as its row has it. -/
def CatchUpStore.Stored (store : CatchUpStore) (tenantId : TenantId) (actorId : ActorId)
    (cursor : NotificationCursor) : Prop :=
  ∃ row ∈ store.cursors, row.Of tenantId actorId ∧ row.position = cursor

/-- One cursor a member, at a time that is not negative. -/
structure CursorsSound (cursors : List CursorRow) : Prop where
  unique : Rows.Unique (fun row => (row.tenantId, row.actorId)) cursors
  times : ∀ row ∈ cursors, 0 ≤ row.occurredAtMs

/-- The cursor as a write leaves it: moved from the one expected, or as it was. -/
inductive Advanced (tenantId : TenantId) (actorId : ActorId) (store after : CatchUpStore)
    (expected : Option NotificationCursor) (next : NotificationCursor) :
    CursorAdvanceWriteOutcome → Prop where
  | stale (same : after = store) : Advanced tenantId actorId store after expected next .stale
  | moved {outcome : CursorAdvanceWriteOutcome} (fresh : outcome ≠ .stale)
      (before : ∀ cursor, store.Stored tenantId actorId cursor ↔ expected = some cursor)
      (stored : ∀ cursor, after.Stored tenantId actorId cursor ↔ cursor = next)
      (forward : ∀ cursor ∈ expected, ¬next.Before cursor) :
      Advanced tenantId actorId store after expected next outcome

end Writes

section Pages

variable {store : CatchUpStore} {tenantId : TenantId} {actorId : ActorId} {limit : Nat}
  {expected : Option NotificationCursor} {events : List NotificationEventRecord}

/-- The record is that of an event of the tenant. -/
def CatchUpStore.Listed (store : CatchUpStore) (tenantId : TenantId)
    (record : NotificationEventRecord) : Prop :=
  ∃ row ∈ store.events.notificationEvents, row.event.tenantId = tenantId ∧ row.record = record

theorem loadAuthorizedEventPage_eq_ok
    (loaded : store.loadAuthorizedEventPage tenantId actorId expected limit = .ok events) :
    ∃ afterTime afterId, events = (((store.events.notificationEvents.filter fun row =>
        row.event.tenantId = tenantId ∧ CatchUpStore.LiesAfter afterTime afterId row.event ∧
          store.Authorized actorId row.event).map NotificationEventRow.record).insertionSort
            byPosition).take limit ∧
      ∀ row : NotificationEventRow, (∀ cursor ∈ expected, cursor.Before row.record.cursor) →
        CatchUpStore.LiesAfter afterTime afterId row.event := by
  obtain ⟨⟨afterTime, afterId⟩, placed, same⟩ := bind_eq_ok.mp loaded
  cases same
  refine ⟨afterTime, afterId, rfl, fun row later => ?_⟩
  cases expected with
  | none =>
    cases placed
    exact .inl (by decide)
  | some cursor =>
    obtain ⟨time, bound, same⟩ := bind_eq_ok.mp placed
    cases same
    obtain ⟨rfl, -⟩ := sqliteInteger_eq_ok.mp bound
    rcases NotificationCursor.before_iff.mp (later cursor rfl) with less | ⟨same, less⟩
    · exact .inr (.inl (Int.ofNat_lt.mpr less))
    · exact .inr (.inr ⟨congrArg Int.ofNat same.symm, less⟩)

theorem listed_of_page
    (loaded : store.loadAuthorizedEventPage tenantId actorId expected limit = .ok events) :
    ∀ record ∈ events, store.Listed tenantId record := by
  obtain ⟨afterTime, afterId, rfl, -⟩ := loadAuthorizedEventPage_eq_ok loaded
  intro record member
  have sorted := List.mem_of_mem_take member
  rw [List.mem_insertionSort] at sorted
  obtain ⟨row, chosen, rfl⟩ := List.mem_map.mp sorted
  obtain ⟨present, holds⟩ := List.mem_filter.mp chosen
  exact ⟨row, present, (of_decide_eq_true holds).1, rfl⟩

theorem placeAfter_eq_ok {position next : Option NotificationCursor}
    (placed : placeAfter position events = .ok next) :
    (events = [] ∧ next = position) ∨ ∃ event ∈ events, next = some event.cursor := by
  induction events generalizing position with
  | nil =>
    cases placed
    exact .inl ⟨rfl, rfl⟩
  | cons event rest ih =>
    right
    obtain ⟨_, -, placed⟩ := bind_eq_ok.mp placed
    have follows : placeAfter (some event.cursor) rest = .ok next := by
      cases position with
      | none => exact placed
      | some current =>
        obtain ⟨moved, advances, placed⟩ := bind_eq_ok.mp placed
        rwa [(NotificationCursor.advanceTo_eq_ok (mapError_eq_ok.mp advances)).1] at placed
    rcases ih follows with ⟨rfl, rfl⟩ | ⟨last, member, same⟩
    · exact ⟨event, List.mem_cons_self, rfl⟩
    · exact ⟨last, List.mem_cons_of_mem _ member, same⟩

theorem validatePage_end {next : NotificationCursor}
    (valid : validatePage expected events limit = .ok (some next)) :
    ∃ event ∈ events, next = event.cursor := by
  obtain ⟨_, -, valid⟩ := bind_eq_ok.mp valid
  obtain ⟨position, placed, same⟩ := bind_eq_ok.mp valid
  split at same
  next => cases same
  next filled =>
    cases same
    rcases placeAfter_eq_ok placed with ⟨empty, -⟩ | ⟨event, member, last⟩
    · exact absurd empty filled
    · exact ⟨event, member, Option.some.inj last⟩

instance : Std.Total byPosition := by
  refine ⟨fun left right => ?_⟩
  unfold byPosition
  rw [ne_eq, ne_eq, NotificationCursor.comparePosition_eq_gt,
    NotificationCursor.comparePosition_eq_gt]
  by_contra both
  simp only [not_or, not_not] at both
  exact NotificationCursor.not_before_self _ (both.1.trans both.2)

instance : IsTrans NotificationEventRecord byPosition := by
  refine ⟨fun first second third => ?_⟩
  unfold byPosition
  simp only [ne_eq, NotificationCursor.comparePosition_eq_gt, NotificationCursor.not_before_iff]
  rintro (same | less) (equal | more)
  · exact .inl (equal.trans same)
  · exact .inr (same ▸ more)
  · exact .inr (equal ▸ less)
  · exact .inr (less.trans more)

/-- A page that an owner reads leaves out no event between its start and its end. -/
theorem page_gapless (owner : store.events.tables.surroundings.IsOwner tenantId actorId)
    (distinct : Rows.Unique (fun row : NotificationEventRow => (row.event.tenantId, row.event.eventId))
      store.events.notificationEvents)
    (loaded : store.loadAuthorizedEventPage tenantId actorId expected limit = .ok events)
    {next : NotificationCursor} (valid : validatePage expected events limit = .ok (some next))
    {row : NotificationEventRow} (member : row ∈ store.events.notificationEvents)
    (tenant : row.event.tenantId = tenantId)
    (later : ∀ cursor ∈ expected, cursor.Before row.record.cursor)
    (within : ¬next.Before row.record.cursor) : row.record ∈ events := by
  obtain ⟨last, present, rfl⟩ := validatePage_end valid
  obtain ⟨other, known, named, rfl⟩ := listed_of_page loaded last present
  obtain ⟨afterTime, afterId, rfl, lies⟩ := loadAuthorizedEventPage_eq_ok loaded
  obtain ⟨holder, enrolled, home, himself, role, active⟩ := owner
  have sees : store.Authorized actorId row.event :=
    ⟨holder, enrolled, home.trans tenant.symm, himself, active, .inl role⟩
  have chosen : row.record ∈ ((store.events.notificationEvents.filter fun row =>
      row.event.tenantId = tenantId ∧ CatchUpStore.LiesAfter afterTime afterId row.event ∧
        store.Authorized actorId row.event).map NotificationEventRow.record).insertionSort
          byPosition := by
    rw [List.mem_insertionSort]
    exact List.mem_map.mpr ⟨row, List.mem_filter.mpr
      ⟨member, decide_eq_true ⟨tenant, lies row later, sees⟩⟩, rfl⟩
  have sorted := List.pairwise_insertionSort byPosition
    ((store.events.notificationEvents.filter fun row =>
      row.event.tenantId = tenantId ∧ CatchUpStore.LiesAfter afterTime afterId row.event ∧
        store.Authorized actorId row.event).map NotificationEventRow.record)
  generalize ((store.events.notificationEvents.filter fun row =>
    row.event.tenantId = tenantId ∧ CatchUpStore.LiesAfter afterTime afterId row.event ∧
      store.Authorized actorId row.event).map NotificationEventRow.record).insertionSort byPosition =
        all at chosen sorted present ⊢
  rw [← List.take_append_drop limit all] at chosen sorted
  rcases List.mem_append.mp chosen with inside | beyond
  · exact inside
  · -- the page is sorted, so an event beyond it that is not after its end is the last one again
    have ordered := (List.pairwise_append.mp sorted).2.2 _ present _ beyond
    unfold byPosition at ordered
    rw [ne_eq, NotificationCursor.comparePosition_eq_gt] at ordered
    have same : other.record.cursor = row.record.cursor := by
      rcases NotificationCursor.eq_or_before other.record.cursor row.record.cursor with
        same | less | more
      · exact same
      · exact absurd less within
      · exact absurd more ordered
    have equal : other = row := distinct other known row member
      (Prod.ext (named.trans tenant.symm) (congrArg NotificationCursor.eventId same))
    rwa [← equal]

end Pages

section Consumption

variable {store after : NotificationStore} {call : Call} {fate : Fate}

/-- The key of an event row. -/
def NotificationEventRow.key (row : NotificationEventRow) : TenantId × OutboxEventId :=
  (row.event.tenantId, row.event.eventId)

/-- The event that the statement adds to the stored events, if it is carried out. -/
def Call.consumed (self : Call) (fate : Fate) (store : NotificationStore) :
    Option IntegrationEventEnvelope :=
  match self.phase with
  | .persisting _ =>
    match fate, store.persistNotificationEvent self.event self.now with
    | .lost false _, _ | _, .error _ => none
    | _, .ok _ =>
      if ∃ old ∈ store.notificationEvents, old.key = (self.event.tenantId, self.event.eventId) then
        none
      else some self.event
  | _ => none

theorem Call.Carries.events (carries : call.Carries store after)
    (other : ∀ state, call.phase ≠ .persisting state) :
    after.notificationEvents = store.notificationEvents := by
  unfold Call.Carries at carries
  cases phase : call.phase <;> rw [phase] at carries <;> dsimp only at carries
  case creating =>
    obtain ⟨answer, carried⟩ := carries
    obtain ⟨tables, -, same⟩ := bind_eq_ok.mp carried
    cases same
    rfl
  case recreating =>
    obtain ⟨answer, carried⟩ := carries
    obtain ⟨tables, -, same⟩ := bind_eq_ok.mp carried
    cases same
    rfl
  case claiming state =>
    obtain ⟨claim, carried⟩ := carries
    obtain ⟨_, -, carried⟩ := bind_eq_ok.mp carried
    obtain ⟨_, -, carried⟩ := bind_eq_ok.mp carried
    dsimp only at carried
    split at carried <;> cases carried <;> rfl
  case writing state next result =>
    obtain ⟨answer, carried⟩ := carries
    obtain ⟨written, -, same⟩ := bind_eq_ok.mp carried
    cases same
    rfl
  case persisting state => exact absurd phase (other state)
  case loading => rw [carries]
  case reloading => rw [carries]
  case done result => rw [carries]

/-- The event that a step of the consumers adds. -/
def World.consumed (self : World) : WorldInput → Option IntegrationEventEnvelope
  | .advance place fate => (self.calls[place]?).bind fun call => call.consumed fate self.store
  | .begin _ _ _ _ | .replay _ | .publishReplay _ _ _ => none

end Consumption

section Steps

variable {store after : CatchUpStore} {tenantId : TenantId} {actorId : ActorId}
  {session : CatchUpSession} {fate : Fate}

/-- The cursor that a write leaves, if it is carried out and not stale. -/
def Fate.wrote (fate : Fate) (outcome : Except StatementError (CursorAdvanceWriteOutcome × CatchUpStore))
    (next : NotificationCursor) : Option NotificationCursor :=
  match fate, outcome with
  | .lost false _, _ | _, .error _ => none
  | _, .ok (outcome, _) => if outcome = .stale then none else some next

/-- The cursor that the statement of a session writes. -/
def CatchUpSession.cursorWrite (self : CatchUpSession) (tenantId : TenantId) (actorId : ActorId)
    (fate : Fate) (store : CatchUpStore) : Option NotificationCursor :=
  match self.phase with
  | .advancing batch next =>
    fate.wrote (store.compareAndAdvanceUserCursor tenantId actorId batch.expectedCursor next
      self.deliveredAt) next
  | _ => none

/-- The events that a session has still to publish. -/
def CatchUpPhase.pending : CatchUpPhase → List NotificationEventRecord
  | .publishing _ event rest => event :: rest
  | .authorizing | .readingCursor | .readingPage _ | .advancing _ _ | .done _ => []

end Steps

section Runs

variable {handed : List NotificationEventRecord} {self : Desk} {input : DeskInput}

/-- The cursor that the member has stored. -/
def Desk.Stored (self : Desk) (cursor : NotificationCursor) : Prop :=
  self.store.Stored self.tenantId self.actorId cursor

/-- Every event of the tenant lies strictly after the cursor or has been handed over. -/
def Desk.Complete (handed : List NotificationEventRecord) (self : Desk) : Prop :=
  ∀ row ∈ self.store.events.notificationEvents, row.event.tenantId = self.tenantId →
    row.record ∈ handed ∨ ∀ cursor, self.Stored cursor → cursor.Before row.record.cursor

/-- The event that a step adds, and the cursor that it writes. -/
def Desk.consumed (self : Desk) : DeskInput → Option IntegrationEventEnvelope
  | .deliver input => self.world.consumed input
  | .begin _ | .advance _ _ => none

def Desk.cursorWrite (self : Desk) : DeskInput → Option NotificationCursor
  | .advance place fate => (self.sessions[place]?).bind fun session =>
      session.cursorWrite self.tenantId self.actorId fate self.store
  | .deliver _ | .begin _ => none

/-- No event comes late. One that is consumed lies after the cursor, and when the cursor moves to
the end of a page, the events that it moves over have not come in behind the page unseen. -/
structure InOrder (handed : List NotificationEventRecord) (before : Desk) (input : DeskInput) :
    Prop where
  consumed : ∀ event ∈ before.consumed input, event.tenantId = before.tenantId →
    ∀ cursor, before.Stored cursor → cursor.Before ⟨event.occurredAt, event.eventId⟩
  passed : ∀ next ∈ before.cursorWrite input, ∀ row ∈ before.store.events.notificationEvents,
    row.event.tenantId = before.tenantId →
    (∀ cursor, before.Stored cursor → cursor.Before row.record.cursor) →
    ¬next.Before row.record.cursor → row.record ∈ handed

/-- What a desk keeps to. -/
structure Desk.Kept (handed : List NotificationEventRecord) (reached : Desk) : Prop where
  cursors : CursorsSound reached.store.cursors
  distinct : Rows.Unique NotificationEventRow.key reached.store.events.notificationEvents
  shown : ∀ record ∈ handed, reached.store.Listed reached.tenantId record
  pending : ∀ session ∈ reached.sessions, ∀ record ∈ session.phase.pending,
    reached.store.Listed reached.tenantId record

/-- What a step does for the member. -/
structure DeskStep (handed : List NotificationEventRecord) (before : Desk) (input : DeskInput)
    (output : List NotificationEventRecord) (after : Desk) : Prop where
  kept : after.Kept (handed ++ output)
  forward : ∀ cursor, before.Stored cursor → ∃ later, after.Stored later ∧ ¬later.Before cursor
  complete : before.Complete handed → (after.Complete (handed ++ output) ↔ InOrder handed before input)

theorem DeskStep.silent {after : Desk} (kept : after.Kept handed)
    (forward : ∀ cursor, self.Stored cursor → ∃ later, after.Stored later ∧ ¬later.Before cursor)
    (complete : self.Complete handed → (after.Complete handed ↔ InOrder handed self input)) :
    DeskStep handed self input [] after := by
  have same : handed ++ [] = handed := List.append_nil handed
  exact ⟨same.symm ▸ kept, forward, same.symm ▸ complete⟩

/-- Nothing has been consumed, and the member has not asked for anything. -/
structure Desk.Fresh (start : Desk) : Prop where
  events : start.store.events.notificationEvents = []
  cursors : start.store.cursors = []
  sessions : start.sessions = []

theorem Desk.Fresh.kept {start : Desk} (fresh : start.Fresh) : start.Kept [] := by
  refine ⟨⟨?_, ?_⟩, ?_, fun _ listed => absurd listed List.not_mem_nil, ?_⟩
  · rw [fresh.cursors]
    exact Rows.unique_nil _
  · rw [fresh.cursors]
    exact fun _ listed => absurd listed List.not_mem_nil
  · rw [fresh.events]
    exact Rows.unique_nil _
  · rw [fresh.sessions]
    exact fun _ listed => absurd listed List.not_mem_nil

end Runs

namespace SampleCatchUp

def tenantId : TenantId := ⟨⟨"tenant-catch-up", by decide⟩⟩
def ownerId : ActorId := ⟨⟨"actor-catch-up-owner", by decide⟩⟩
def consumerId : OpaqueId := ⟨"consumer-catch-up", by decide⟩

def earlier : IntegrationEventEnvelope :=
  ⟨⟨⟨"outbox-catch-up-a", by decide⟩⟩, tenantId, "client", ⟨"client-catch-up", by decide⟩,
    .initial, "client.created.v1", 1, "{}", 10⟩

def later : IntegrationEventEnvelope :=
  ⟨⟨⟨"outbox-catch-up-b", by decide⟩⟩, tenantId, "profile", ⟨"profile-catch-up", by decide⟩,
    .initial, "profile.created.v1", 1, "{}", 20⟩

def policy : RetryPolicy :=
  ⟨20, 300, 4, ⟨3, by decide, by decide⟩, by decide, by decide, by decide, by decide⟩

def start : Desk :=
  ⟨[], ⟨⟨⟨⟨[⟨tenantId, ownerId, .tenantOwner, .active⟩], [], [], []⟩, [earlier, later], [], [], [],
    []⟩, [], []⟩, [], []⟩, tenantId, ownerId, []⟩

/-- The statements of a call as far as the one that persists its event. -/
def consumes (place : Nat) (event : IntegrationEventEnvelope) : List DeskInput :=
  [.deliver (.begin consumerId event 30 policy), .deliver (.advance place .answered),
    .deliver (.advance place .answered), .deliver (.advance place .answered)]

def loads (place : Nat) : List DeskInput :=
  [.begin (.load 50), .advance place .answered, .advance place .answered, .advance place .answered]

def record : NotificationEventRecord :=
  ⟨later.eventId, later.aggregateType, later.aggregateId, later.eventType, 20⟩

def batch : NotificationCatchUpBatch := ⟨none, some record.cursor, [record]⟩

theorem fresh : start.Fresh := ⟨rfl, rfl, rfl⟩

end SampleCatchUp

end ProfilePlatform.Notifications
