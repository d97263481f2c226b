import ProfilePlatform.Notifications.Progress

/-! Runs of any number of calls over the stored deliveries, with replays in between.

Each row moves by transitions of the domain alone, a delivery that has succeeded stays, and its
consumer has claimed it once. A call whose consumer fails puts the delivery off, unless another
statement has moved it first or its policy allows no more attempts than were made already.
-/

set_option autoImplicit false

namespace ProfilePlatform.Notifications

open Foundation
open Catalog (Refusal)

section Claims

variable {outbox : List IntegrationEventEnvelope} {store after : NotificationStore} {call : Call}
  {key : DeliveryKey}

/-- A claim of the delivery was stored. -/
def Claims (key : DeliveryKey) (output : Option ClaimReport) : Prop :=
  ∃ report ∈ output, report.delivery = key ∧ report.claim = .claimed

instance (key : DeliveryKey) (output : Option ClaimReport) : Decidable (Claims key output) :=
  inferInstanceAs (Decidable (∃ _ ∈ _, _))

/-- How often a run has stored a claim of the delivery. -/
def claimsMade (key : DeliveryKey) (history : List WorldEntry) : Nat :=
  history.countP fun entry => Claims key entry.output

def NotificationStore.claimsStored (store : NotificationStore) (key : DeliveryKey) : Nat :=
  store.consumerClaims.countP fun claim => claim.delivery = key

theorem Call.Carries.claims (carries : call.Carries store after)
    (other : ∀ state, call.phase ≠ .claiming state) :
    after.consumerClaims = store.consumerClaims := by
  unfold Call.Carries at carries
  cases phase : call.phase <;> rw [phase] at carries <;> dsimp only at carries
  case creating =>
    obtain ⟨answer, carried⟩ := carries
    obtain ⟨tables, -, same⟩ := bind_eq_ok.mp carried
    cases same
    rfl
  case recreating =>
    obtain ⟨answer, carried⟩ := carries
    obtain ⟨tables, -, same⟩ := bind_eq_ok.mp carried
    cases same
    rfl
  case persisting state =>
    obtain ⟨_, -, carried⟩ := bind_eq_ok.mp carries
    obtain ⟨_, -, carried⟩ := bind_eq_ok.mp carried
    obtain ⟨_, -, carried⟩ := bind_eq_ok.mp carried
    obtain ⟨_, -, carried⟩ := bind_eq_ok.mp carried
    split at carried <;> cases carried <;> rfl
  case writing state next result =>
    obtain ⟨answer, carried⟩ := carries
    obtain ⟨written, -, same⟩ := bind_eq_ok.mp carried
    cases same
    rfl
  case claiming state => exact absurd phase (other state)
  case loading => rw [carries]
  case reloading => rw [carries]
  case done result => rw [carries]

theorem claimsStored_claim {told : Bool} {claim : ConsumerClaim}
    (claims : store.claim call.consumerId call.event call.now = .ok (claim, after)) :
    after.claimsStored key = store.claimsStored key +
      if Claims key (some ⟨call.key, claim, told⟩) then 1 else 0 := by
  have named : Claims key (some ⟨call.key, claim, told⟩) ↔ call.key = key ∧ claim = .claimed := by
    simp [Claims]
  rw [if_congr named rfl rfl]
  unfold NotificationStore.claimsStored
  obtain ⟨-, ⟨rfl, -, kept⟩ | ⟨rfl, -, row, held, grown⟩⟩ := NotificationStore.claim_leaves claims
  · rw [kept]
    simp
  · have held : row.delivery = call.key := held
    rw [grown, List.countP_append]
    simp [List.countP_cons, held]

theorem claimsStored_advance (call : Call) (fate : Fate) (store : NotificationStore)
    (key : DeliveryKey) : (call.advance fate store).2.claimsStored key = store.claimsStored key +
      if Claims key (call.report fate store) then 1 else 0 := by
  by_cases claiming : ∃ state, call.phase = .claiming state
  · obtain ⟨state, phase⟩ := claiming
    unfold Call.advance Call.report
    rw [phase]
    dsimp only
    cases result : store.claim call.consumerId call.event call.now with
    | error why =>
      cases fate with
      | answered => simp [Fate.settle, Claims]
      | lost executed why => cases executed <;> simp [Fate.settle, Claims]
    | ok carried =>
      obtain ⟨claim, after⟩ := carried
      cases fate with
      | answered => exact claimsStored_claim result
      | lost executed why =>
        cases executed with
        | false => simp [Fate.settle, Claims]
        | true => exact claimsStored_claim result
  · have other : ∀ state, call.phase ≠ .claiming state := fun state phase => claiming ⟨state, phase⟩
    have silent : call.report fate store = none := by
      unfold Call.report
      split
      next state phase => exact absurd phase (other state)
      next => rfl
    have kept : (call.advance fate store).2.consumerClaims = store.consumerClaims := by
      rcases call.advance_carries fate store with same | carries
      · rw [same]
      · exact carries.claims other
    rw [silent]
    unfold NotificationStore.claimsStored
    rw [kept]
    simp [Claims]

end Claims

section Calls

variable {outbox : List IntegrationEventEnvelope} {store after : NotificationStore} {call : Call}
  {state next : DeliveryState}

/-- The state that the attempt of a call has read. -/
def CallPhase.attempting : CallPhase → Option DeliveryState
  | .persisting state | .claiming state | .writing state _ _ => some state
  | .creating | .loading | .recreating | .reloading | .done _ => none

/-- The state of a due delivery for which the consumer fails at this statement. -/
def Call.consumerFails (self : Call) (fate : Fate) (store : NotificationStore) :
    Option DeliveryState :=
  match self.phase with
  | .loading =>
    match (fate.settle store (self.load store)).1 with
    | .ok state =>
      if state.isDue self.now = true ∧ self.event.eventType ∉ foundationEventTypes then some state
      else none
    | .error _ => none
  | .persisting state =>
    match (fate.settle store
      ((store.persistNotificationEvent self.event self.now).map ((), ·))).1 with
    | .ok _ => none
    | .error _ => some state
  | .claiming state =>
    match (fate.settle store (store.claim self.consumerId self.event self.now)).1 with
    | .ok _ => none
    | .error _ => some state
  | _ => none

/-- What a statement does for the call that sends it. -/
structure Call.Progresses (call : Call) (fate : Fate) (store : NotificationStore)
    (moved : Call) (after : NotificationStore) : Prop where
  due : ∀ state ∈ call.phase.attempting, state.isDue call.now = true
  fails : ∀ state ∈ call.consumerFails fate store,
    state.attempts < call.retryPolicy.attemptLimit.value →
    call.now + maxRetryDelayMs < sqliteLimit →
    ∃ next, moved = { call with phase := .writing state next .failed } ∧ PutOff call.now next
  writes : ∀ state next, call.phase = .writing state next .failed → fate = .answered →
    call.now + maxRetryDelayMs < sqliteLimit →
    PutOff call.now next ∧ ∃ row ∈ store.tables.deliveries, row.key = call.key ∧
      ∃ found, row.intoState = .ok found ∧
        (found = state → ∃ later ∈ after.tables.deliveries, later.key = call.key ∧
          later.intoState = .ok next) ∧
        (found ≠ state → row ∈ after.tables.deliveries)

theorem consumerFailed_writes (live : state.isTerminal = false)
    (room : state.attempts < call.retryPolicy.attemptLimit.value)
    (early : call.now + maxRetryDelayMs < sqliteLimit) (why : IntegrationEventOperationError) :
    ∃ next, call.consumerFailed state why = { call with phase := .writing state next .failed } ∧
      PutOff call.now next := by
  obtain ⟨next, scheduled, later, -⟩ :=
    RetryPolicy.transitionAfterFailure_eq_ok live room early call.event.eventId (failureClass why)
  refine ⟨next, ?_, later⟩
  unfold Call.consumerFailed
  rw [scheduled]

/-- An attempt in hand is written over the state it was made from, if the row still stores it. -/
theorem write_answers {result : ConsumerResult} (sound : store.Sound outbox)
    (called : call.Sound outbox store) (attempting : Attempting store call.key call.now state)
    (prepared : call.Prepared store state next result) (fits : Fits next) :
    ∃ outcome after, call.write store state next = .ok (outcome, after) ∧
      ∃ row ∈ store.tables.deliveries, row.key = call.key ∧ ∃ found, row.intoState = .ok found ∧
        (found = state → ∃ later ∈ after.tables.deliveries, later.key = call.key ∧
          later.intoState = .ok next) ∧
        (found ≠ state → row ∈ after.tables.deliveries) := by
  obtain ⟨row, member, same⟩ := attempting.stored
  have attempt := prepared.makes.attempt
  have attempted := attempt.attempted attempting.few
  obtain ⟨update, bound⟩ := exists_bind attempted fits
  have shaped : ExpectedDeliveryShape.fromState state = .ok (shapeOf state) :=
    fromState_eq_ok.mpr ⟨attempting.fits, rfl⟩
  have guarded : ∀ other ∈ store.tables.deliveries,
      other.key = call.key ∧ (shapeOf state).Matches other →
      Guarded store.tables other (update.apply other) ∧ Stores (update.apply other) next := by
    rintro other present ⟨named, chosen⟩
    have checked := sound.valid.checked other present
    have created : other.createdAtMs ≤ (call.now : Int) := by
      rw [sound.born other present call.event called.listed (by rw [named]; rfl) (by rw [named]; rfl)]
      exact Int.ofNat_le.mpr called.timely
    exact guarded_attempt checked ((matches_iff_stores checked).mp chosen) attempt created
      attempting.due_at bound
  have updated : Rows.update (fun row => row.key = call.key ∧ (shapeOf state).Matches row)
      update.apply store.tables.guardDelivery (fun other new => other.key = new.key) Refusal.unique []
      store.tables.deliveries = .ok (Rows.amend
        (fun row => row.key = call.key ∧ (shapeOf state).Matches row) update.apply
        store.tables.deliveries) :=
    Rows.update_succeeds (fun _ => rfl)
      (fun other present chosen => guardDelivery_eq_ok.mpr (guarded other present chosen).1)
      sound.valid.distinct
  refine ⟨_, _, bind_eq_ok.mpr ⟨_, bind_eq_ok.mpr ⟨_, mapError_eq_ok.mpr shaped,
    bind_eq_ok.mpr ⟨update, mapError_eq_ok.mpr bound, bind_eq_ok.mpr ⟨_, mapError_eq_ok.mpr
      (bind_eq_ok.mpr ⟨_, updated, rfl⟩), rfl⟩⟩⟩, rfl⟩, row, member, same, ?_⟩
  obtain ⟨found, stores⟩ := exists_stores (sound.valid.checked row member)
  refine ⟨found, intoState_of_stores stores, ?_, fun differs => ?_⟩
  · rintro rfl
    have chosen : row.key = call.key ∧ (shapeOf found).Matches row :=
      ⟨same, matches_of_stores stores⟩
    exact ⟨update.apply row, Rows.mem_amend_of_chosen member chosen, same,
      intoState_of_stores (guarded row member chosen).2⟩
  · refine Rows.mem_amend_of_not_chosen member fun chosen => differs ?_
    have same := intoState_of_stores
      ((matches_iff_stores (sound.valid.checked row member)).mp chosen.2)
    rw [intoState_of_stores stores] at same
    cases same
    rfl

theorem call_progresses (sound : store.Sound outbox) (called : call.Sound outbox store)
    (fate : Fate) : call.Progresses fate store (call.advance fate store).1
      (call.advance fate store).2 := by
  have holds := called.holds
  constructor
  case due =>
    intro state reading
    cases phase : call.phase <;> rw [phase] at holds reading <;> cases reading
    case persisting => exact Attempting.due holds
    case claiming => exact Attempting.due holds
    case writing => exact holds.1.due
  case fails =>
    intro state failing room early
    unfold Call.consumerFails at failing
    unfold Call.advance
    cases phase : call.phase <;> rw [phase] at holds failing <;> dsimp only at failing ⊢ <;>
      try cases failing
    case loading =>
      cases settled : fate.settle store (call.load store) with
      | mk answer left =>
        rw [settled] at failing
        cases answer with
        | error why => cases failing
        | ok read =>
          dsimp only at failing ⊢
          split at failing
          next rejected =>
            cases failing
            obtain ⟨-, loaded⟩ := Fate.settle_eq_ok settled
            have attempting := attempting_of_load sound loaded rejected.1
            have consumes : call.loaded state = call.consumerFailed state .invalidRequest := by
              have consumed : call.consume state = call.consumerFailed state .invalidRequest :=
                if_pos rejected.2
              cases state with
              | ready attempts => exact consumed
              | retryScheduled attempts lastAttemptAt nextAttemptAt failureClass =>
                unfold Call.loaded
                dsimp only
                rw [if_neg (by simp [rejected.1])]
                exact consumed
              | delivered attempts deliveredAt => exact nomatch rejected.1
              | deadLetter attempts terminalAt failureClass => exact nomatch rejected.1
            rw [consumes]
            exact consumerFailed_writes attempting.live room early _
          next => cases failing
    case persisting =>
      generalize fate.settle store
        ((store.persistNotificationEvent call.event call.now).map ((), ·)) = settled at failing ⊢
      obtain ⟨_ | answer, left⟩ := settled
      · cases failing
        exact consumerFailed_writes (Attempting.live holds) room early _
      · cases failing
    case claiming =>
      generalize fate.settle store (store.claim call.consumerId call.event call.now) = settled
        at failing ⊢
      obtain ⟨_ | answer, left⟩ := settled
      · cases failing
        exact consumerFailed_writes (Attempting.live holds) room early _
      · cases failing
  case writes =>
    intro state next phase answered early
    rw [phase] at holds
    obtain ⟨attempting, failureClass, scheduled⟩ := holds
    obtain ⟨later, room⟩ := putOff_of_transitionAfterFailure scheduled
    refine ⟨later, ?_⟩
    obtain ⟨other, rescheduled, -, fits⟩ :=
      RetryPolicy.transitionAfterFailure_eq_ok attempting.live room early call.event.eventId
        failureClass
    rw [scheduled] at rescheduled
    cases rescheduled
    have prepared : call.Prepared store state next .failed := ⟨failureClass, scheduled⟩
    obtain ⟨outcome, after, written, stored⟩ :=
      write_answers sound called attempting prepared fits
    have left : (call.advance fate store).2 = after := by
      unfold Call.advance
      rw [phase, answered]
      dsimp only
      rw [written]
      cases outcome <;> rfl
    rw [left]
    exact stored

end Calls

section Runs

variable {outbox : List IntegrationEventEnvelope} {self : World} {input : WorldInput}

/-- Calls are for events of the outbox, at a clock that is not before the event. -/
def Timely (outbox : List IntegrationEventEnvelope) : WorldInput → Prop
  | .begin _ event now _ => event ∈ outbox ∧ event.occurredAt ≤ now
  | .advance _ _ | .replay _ | .publishReplay _ _ _ => True

instance (outbox : List IntegrationEventEnvelope) : DecidablePred (Timely outbox)
  | .begin _ event now _ => inferInstanceAs (Decidable (event ∈ outbox ∧ event.occurredAt ≤ now))
  | .advance _ _ | .replay _ | .publishReplay _ _ _ => isTrue trivial

/-- The outbox is filled, and no delivery has begun. -/
structure World.Fresh (start : World) : Prop where
  deliveries : start.store.tables.deliveries = []
  claims : start.store.consumerClaims = []
  calls : start.calls = []
  outbox : Rows.Unique (fun event : IntegrationEventEnvelope => (event.tenantId, event.eventId))
    start.store.tables.outboxEvents

structure World.Sound (outbox : List IntegrationEventEnvelope) (reached : World) : Prop where
  store : reached.store.Sound outbox
  calls : ∀ call ∈ reached.calls, call.Sound outbox reached.store

/-- What one step of a run does. -/
structure Progresses (entry : WorldEntry) : Prop where
  rows : RowSteps entry.before.store.tables entry.after.store.tables
  delivered : ∀ row ∈ entry.before.store.tables.deliveries, ∀ attempts deliveredAt,
    row.intoState = .ok (.delivered attempts deliveredAt) →
      row ∈ entry.after.store.tables.deliveries
  calls : ∀ place fate, entry.input = .advance place fate →
    ∀ call ∈ entry.before.calls[place]?, ∃ moved ∈ entry.after.calls[place]?,
      call.Progresses fate entry.before.store moved entry.after.store

theorem World.Fresh.sound {start : World} (fresh : start.Fresh) :
    start.Sound start.store.tables.outboxEvents := by
  have empty : ∀ row, row ∉ start.store.tables.deliveries := by
    rw [fresh.deliveries]
    exact fun _ => List.not_mem_nil
  refine ⟨⟨⟨?_, ?_⟩, rfl, ?_, ?_, ?_⟩, ?_⟩
  · rw [fresh.deliveries]
    exact List.nodup_nil
  · exact fun row member => absurd member (empty row)
  · exact fun row member => absurd member (empty row)
  · exact fun row member => absurd member (empty row)
  · rw [fresh.claims]
    exact List.nodup_nil
  · rw [fresh.calls]
    exact nofun

theorem World.Sound.stores {store : NotificationStore} (sound : self.Sound outbox)
    (step : NotificationStore.Step outbox self.store store) :
    World.Sound outbox { self with store } :=
  ⟨step.sound, fun call member => (sound.calls call member).grows step.grows⟩

theorem World.Sound.withTables {E : Type} (sound : self.Sound outbox)
    (outcome : Except E DeliveryTables)
    (steps : ∀ tables, outcome = .ok tables → NotificationStore.Sound outbox { self.store with tables } ∧
      RowSteps self.store.tables tables) :
    (self.withTables outcome).Sound outbox ∧
      RowSteps self.store.tables (self.withTables outcome).store.tables ∧
      (self.withTables outcome).store.consumerClaims = self.store.consumerClaims := by
  cases outcome with
  | error why => exact ⟨sound, .refl _, rfl⟩
  | ok tables =>
    obtain ⟨kept, rows⟩ := steps tables rfl
    exact ⟨sound.stores ⟨kept, rows, fun _ => id⟩, rows, rfl⟩

theorem World.Sound.step (distinct : Rows.Unique
      (fun event : IntegrationEventEnvelope => (event.tenantId, event.eventId)) outbox)
    (sound : self.Sound outbox) (timely : Timely outbox input) :
    (world.step self input).2.Sound outbox ∧ Progresses (world.entry self input) ∧
      ∀ key, (world.step self input).2.store.claimsStored key = self.store.claimsStored key +
        if Claims key (world.step self input).1 then 1 else 0 := by
  have stays (after : World) (output : Option ClaimReport)
      (rows : RowSteps self.store.tables after.store.tables)
      (calls : ∀ place fate, input = .advance place fate → ∀ call ∈ self.calls[place]?,
        ∃ moved ∈ after.calls[place]?, call.Progresses fate self.store moved after.store) :
      Progresses ⟨self, input, output, after⟩ :=
    ⟨rows, fun row member _ _ delivered => rows.delivered_kept member delivered, calls⟩
  cases input with
  | begin consumerId event now retryPolicy =>
    refine ⟨⟨sound.store, ?_⟩, stays _ _ (.refl _) nofun, fun _ => rfl⟩
    intro call member
    rcases List.mem_append.mp member with old | new
    · exact sound.calls call old
    · rw [List.mem_singleton.mp new]
      exact ⟨timely.1, timely.2, trivial⟩
  | replay intent =>
    obtain ⟨kept, rows, claims⟩ := sound.withTables (self.store.tables.insertReplay intent)
      fun tables inserted =>
        ⟨sound.store.replay inserted, rowSteps_insertReplay sound.store.valid inserted⟩
    refine ⟨kept, stays _ _ rows nofun, fun key => ?_⟩
    unfold NotificationStore.claimsStored
    exact congrArg _ claims
  | publishReplay tenantId replayId publishedAt =>
    obtain ⟨kept, rows, claims⟩ := sound.withTables
      (self.store.tables.markReplayPublished tenantId replayId publishedAt) fun tables marked => by
        obtain ⟨deliveries, -⟩ := markReplayPublished_leaves marked
        refine ⟨sound.store.publish marked, ?_⟩
        constructor
        · rw [deliveries]
          exact (RowSteps.refl _).kept
        · rw [deliveries]
          exact (RowSteps.refl _).appeared
    refine ⟨kept, stays _ _ rows nofun, fun key => ?_⟩
    unfold NotificationStore.claimsStored
    exact congrArg _ claims
  | advance place fate =>
    unfold Machine.entry
    cases selected : self.calls[place]? with
    | none =>
      rw [world_advance_none fate selected]
      refine ⟨sound, stays _ _ (.refl _) ?_, fun _ => rfl⟩
      rintro _ _ ⟨⟩ call member
      rw [selected] at member
      cases member
    | some call =>
      rw [world_advance_some fate selected]
      have called := sound.calls call (List.mem_of_getElem? selected)
      have step := sound.store.advance distinct called fate
      refine ⟨⟨step.sound, ?_⟩, stays _ _ step.rows ?_, claimsStored_advance call fate self.store⟩
      · intro other member
        rcases List.mem_or_eq_of_mem_set member with old | rfl
        · exact (sound.calls other old).grows step.grows
        · exact called.advance distinct sound.store fate
      · rintro _ _ ⟨⟩ other member
        rw [selected] at member
        cases member
        have inside : place < self.calls.length := (List.getElem?_eq_some_iff.mp selected).1
        exact ⟨_, List.getElem?_set_self inside, call_progresses sound.store called fate⟩

/-- Whatever calls and replays run side by side, and however their statements fail, the stored
deliveries make progress one transition at a time and are claimed once. -/
theorem deliveries_progress {start : World} (fresh : start.Fresh) {inputs : List WorldInput}
    (timely : ∀ input ∈ inputs, Timely start.store.tables.outboxEvents input) :
    (∀ entry ∈ world.history start inputs, Progresses entry) ∧
      (∀ key, claimsMade key (world.history start inputs) ≤ 1) ∧
      ∀ row ∈ (world.final start inputs).store.tables.deliveries, ∀ attempts deliveredAt,
        row.intoState = .ok (.delivered attempts deliveredAt) →
          claimsMade row.key (world.history start inputs) = 1 := by
  have run : (world.final start inputs).Sound start.store.tables.outboxEvents ∧
      (∀ entry ∈ world.history start inputs, Progresses entry) ∧
      ∀ key, (world.final start inputs).store.claimsStored key =
        claimsMade key (world.history start inputs) := by
    induction inputs using List.reverseRecOn with
    | nil =>
      refine ⟨fresh.sound, nofun, fun key => ?_⟩
      show start.store.claimsStored key = 0
      unfold NotificationStore.claimsStored
      rw [fresh.claims]
      rfl
    | append_singleton inputs input ih =>
      obtain ⟨sound, progresses, counted⟩ :=
        ih fun input member => timely input (List.mem_append_left _ member)
      obtain ⟨kept, progress, counts⟩ := sound.step fresh.outbox
        (timely input (List.mem_append_right _ (List.mem_singleton_self _)))
      rw [Machine.final_concat, Machine.history_concat]
      refine ⟨kept, ?_, fun key => ?_⟩
      · intro entry member
        rcases List.mem_append.mp member with old | new
        · exact progresses entry old
        · rw [List.mem_singleton.mp new]
          exact progress
      · unfold claimsMade at counted ⊢
        rw [counts key, counted key, List.countP_append, List.countP_singleton]
        exact congrArg _ (if_congr decide_eq_true_iff.symm rfl rfl)
  obtain ⟨sound, progresses, counted⟩ := run
  have once (key : DeliveryKey) : (world.final start inputs).store.claimsStored key ≤ 1 := by
    have distinct := sound.store.distinct
    unfold NotificationStore.claimsStored
    rw [List.nodup_iff_count_le_one] at distinct
    have counts := distinct key
    rwa [List.count_eq_countP, List.countP_map] at counts
  refine ⟨progresses, fun key => counted key ▸ once key, ?_⟩
  intro row member attempts deliveredAt delivered
  obtain ⟨claim, stored, held⟩ := sound.store.claimed row member attempts deliveredAt delivered
  have some : 0 < (world.final start inputs).store.claimsStored row.key :=
    List.countP_pos_iff.mpr ⟨claim, stored, decide_eq_true held⟩
  exact counted row.key ▸ Nat.le_antisymm (once row.key) some

end Runs

namespace SampleRuns

def tenantId : TenantId := ⟨⟨"tenant-delivery-run", by decide⟩⟩
def consumerId : OpaqueId := ⟨"consumer-delivery-run", by decide⟩

def event : IntegrationEventEnvelope :=
  ⟨⟨⟨"outbox-delivery-run", by decide⟩⟩, tenantId, "client", ⟨"client-delivery-run", by decide⟩,
    .initial, "client.created.v1", 1, "{}", 10⟩

def key : DeliveryKey := ⟨tenantId, consumerId, event.eventId⟩

def start : World := ⟨⟨⟨⟨[], [], [], []⟩, [event], [], [], [], []⟩, [], []⟩, []⟩

def policy (attemptLimit : AttemptLimit) : RetryPolicy :=
  ⟨10, 100, 0, attemptLimit, by decide, by decide, by decide, by decide⟩

def twice : RetryPolicy := policy ⟨2, by decide, by decide⟩
def once : RetryPolicy := policy ⟨1, Nat.one_pos, by decide⟩

def answers (place : Nat) : WorldInput := .advance place .answered
def fails (place : Nat) : WorldInput := .advance place (.lost false .dependencyUnavailable)

/-- The consumer fails under a limit of two, and again once the limit has become one. -/
def shrunk : List WorldInput :=
  [.begin consumerId event 20 twice, answers 0, answers 0, fails 0, answers 0,
    .begin consumerId event 100 once, answers 1, answers 1, fails 1]

/-- Two calls read the delivery. The consumer fails for one, and the other delivers first. -/
def overtaken : List WorldInput :=
  [.begin consumerId event 20 twice, .begin consumerId event 20 twice, answers 0, answers 0, answers 1,
    answers 1, fails 1, answers 0, answers 0, answers 0, answers 1, answers 1, answers 1]

def scheduled : DeliveryState := .retryScheduled 1 20 30 .dependencyUnavailable

theorem fresh : start.Fresh := ⟨rfl, rfl, rfl, Rows.unique_singleton _ _⟩

end SampleRuns

open SampleRuns in
/-- A failure may leave the delivery due and the call with an error, when the limit has shrunk to
the attempts made. It may also find the delivery delivered by a call that came first. -/
theorem failures_not_put_off : start.Fresh ∧
    (∀ input ∈ shrunk ++ overtaken, Timely start.store.tables.outboxEvents input) ∧
    ((world.final start shrunk).calls[1]?.map Call.phase =
        some (.done (.error (.retryScheduling .attemptLimitAlreadyReached))) ∧
      (world.final start shrunk).store.tables.loadDelivery key = .ok scheduled ∧
      scheduled.isDue 100 = true) ∧
    (world.final start overtaken).calls[1]?.map Call.phase = some (.done (.ok (.delivered true))) ∧
      (world.final start overtaken).store.tables.loadDelivery key = .ok (.delivered 1 20) :=
  ⟨fresh, by decide +kernel, by decide +kernel, by decide +kernel⟩

open SampleRuns in
theorem deliveries_progress_overtaken : start.Fresh ∧
    (∀ entry ∈ world.history start overtaken, Progresses entry) ∧
      (∀ key, claimsMade key (world.history start overtaken) ≤ 1) ∧
      ∀ row ∈ (world.final start overtaken).store.tables.deliveries, ∀ attempts deliveredAt,
        row.intoState = .ok (.delivered attempts deliveredAt) →
          claimsMade row.key (world.history start overtaken) = 1 := by
  exact ⟨fresh, deliveries_progress fresh (by decide +kernel)⟩

end ProfilePlatform.Notifications
