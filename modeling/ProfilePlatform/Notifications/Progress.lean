import ProfilePlatform.Notifications.Processing
import ProfilePlatform.Notifications.Steps

/-! Deliveries make progress under any number of workers.

A call that has an attempt in hand has read a state that was due, and the claim of its
consumer is stored before a success is written. So what it writes is one transition from the
state it read, or nothing because another statement has moved the row in the meantime.
-/

set_option autoImplicit false

namespace ProfilePlatform.Notifications

open Foundation
open Catalog (Refusal)

section Settling

variable {A S : Type} {fate : Fate} {store after : S} {answer : A}
  {outcome : Except StatementError (A × S)}

theorem Fate.settle_eq_ok (settled : fate.settle store outcome = (.ok answer, after)) :
    fate = .answered ∧ outcome = .ok (answer, after) := by
  cases fate with
  | answered =>
    cases outcome with
    | error why => cases settled
    | ok result =>
      cases settled
      exact ⟨rfl, rfl⟩
  | lost executed why =>
    cases executed <;> cases outcome <;> cases settled

theorem Fate.settle_leaves (fate : Fate) (store : S)
    (outcome : Except StatementError (A × S)) :
    (fate.settle store outcome).2 = store ∨
      ∃ answer, outcome = .ok (answer, (fate.settle store outcome).2) := by
  cases outcome with
  | error why => cases fate with
    | answered => exact .inl rfl
    | lost executed why => cases executed <;> exact .inl rfl
  | ok result =>
    obtain ⟨answer, after⟩ := result
    cases fate with
    | answered => exact .inr ⟨answer, rfl⟩
    | lost executed why =>
      cases executed with
      | false => exact .inl rfl
      | true => exact .inr ⟨answer, rfl⟩

end Settling

section Soundness

variable {outbox : List IntegrationEventEnvelope} {store after : NotificationStore} {call : Call}
  {state next : DeliveryState}

/-- The consumer has claimed a delivery. -/
def NotificationStore.Claimed (store : NotificationStore) (key : DeliveryKey) : Prop :=
  ∃ claim ∈ store.consumerClaims, claim.delivery = key

/-- What the stored rows keep to. -/
structure NotificationStore.Sound (outbox : List IntegrationEventEnvelope)
    (store : NotificationStore) : Prop where
  valid : store.tables.Valid
  sources : store.tables.outboxEvents = outbox
  born : ∀ row ∈ store.tables.deliveries, ∀ event ∈ outbox, event.tenantId = row.key.tenantId →
    event.eventId = row.key.outboxEventId → row.createdAtMs = (event.occurredAt : Int)
  claimed : ∀ row ∈ store.tables.deliveries, ∀ attempts deliveredAt,
    row.intoState = .ok (.delivered attempts deliveredAt) → store.Claimed row.key
  distinct : (store.consumerClaims.map ConsumerClaimRow.delivery).Nodup

/-- A stored delivery has been read in a state that was due. -/
structure Attempting (store : NotificationStore) (key : DeliveryKey) (now : UnixMillis)
    (state : DeliveryState) : Prop where
  live : state.isTerminal = false
  due : state.isDue now = true
  few : state.attempts ≤ 63
  fits : Fits state
  stored : ∃ row ∈ store.tables.deliveries, row.key = key

/-- How the state that a call writes came about. -/
def Call.Prepared (call : Call) (store : NotificationStore) (state next : DeliveryState) :
    ConsumerResult → Prop
  | .accepted _ => state.recordSuccess call.now = .ok next ∧ store.Claimed call.key
  | .failed => ∃ failureClass, call.retryPolicy.transitionAfterFailure state call.now
      call.event.eventId failureClass = .ok next

/-- What a call in each phase has in hand. -/
def Call.Holds (call : Call) (store : NotificationStore) : CallPhase → Prop
  | .persisting state | .claiming state => Attempting store call.key call.now state
  | .writing state next result =>
    Attempting store call.key call.now state ∧ call.Prepared store state next result
  | .creating | .loading | .recreating | .reloading | .done _ => True

structure Call.Sound (outbox : List IntegrationEventEnvelope) (store : NotificationStore)
    (call : Call) : Prop where
  listed : call.event ∈ outbox
  timely : call.event.occurredAt ≤ call.now
  holds : call.Holds store call.phase

/-- Deliveries and claims stay. -/
structure NotificationStore.Grows (store after : NotificationStore) : Prop where
  deliveries : ∀ row ∈ store.tables.deliveries, ∃ later ∈ after.tables.deliveries,
    later.key = row.key
  claims : ∀ key, store.Claimed key → after.Claimed key

theorem NotificationStore.grows_of_rowSteps (steps : RowSteps store.tables after.tables)
    (claims : ∀ key, store.Claimed key → after.Claimed key) : store.Grows after := by
  refine ⟨fun row member => ?_, claims⟩
  obtain ⟨later, present, rfl | moves⟩ := steps.kept row member
  · exact ⟨later, present, rfl⟩
  · exact ⟨later, present, moves.key⟩

theorem Attempting.grows {key : DeliveryKey} {now : UnixMillis}
    (attempting : Attempting store key now state) (grows : store.Grows after) :
    Attempting after key now state := by
  obtain ⟨row, member, same⟩ := attempting.stored
  obtain ⟨later, present, kept⟩ := grows.deliveries row member
  exact ⟨attempting.live, attempting.due, attempting.few, attempting.fits, later, present,
    kept.trans same⟩

theorem Call.Holds.grows {phase : CallPhase} (holds : call.Holds store phase)
    (grows : store.Grows after) : call.Holds after phase := by
  cases phase with
  | persisting state => exact Attempting.grows holds grows
  | claiming state => exact Attempting.grows holds grows
  | writing state next result =>
    refine ⟨holds.1.grows grows, ?_⟩
    cases result with
    | accepted duplicate => exact ⟨holds.2.1, grows.claims _ holds.2.2⟩
    | failed => exact holds.2
  | creating => trivial
  | loading => trivial
  | recreating => trivial
  | reloading => trivial
  | done result => trivial

theorem Call.Sound.grows (sound : call.Sound outbox store) (grows : store.Grows after) :
    call.Sound outbox after :=
  ⟨sound.listed, sound.timely, sound.holds.grows grows⟩

theorem Call.Prepared.makes {result : ConsumerResult} (prepared : call.Prepared store state next result) :
    Makes state call.now next := by
  cases result with
  | accepted duplicate => exact .success prepared.1
  | failed =>
    obtain ⟨failureClass, scheduled⟩ := prepared
    exact .failure _ _ failureClass scheduled

theorem putOff_of_transitionAfterFailure {policy : RetryPolicy} {now : UnixMillis}
    {eventId : OutboxEventId} {failureClass : DeliveryFailureClass}
    (scheduled : policy.transitionAfterFailure state now eventId failureClass = .ok next) :
    PutOff now next ∧ state.attempts < policy.attemptLimit.value := by
  obtain ⟨nextAttemptAt, recorded⟩ := recorded_of_transitionAfterFailure scheduled
  obtain ⟨_, -, recorded⟩ := bind_eq_ok.mp recorded
  obtain ⟨_, below, recorded⟩ := bind_eq_ok.mp recorded
  obtain ⟨count, -, recorded⟩ := bind_eq_ok.mp recorded
  refine ⟨?_, Nat.lt_of_not_le (refuseIf_eq_ok.mp below)⟩
  split at recorded
  · obtain ⟨_, -, same⟩ := bind_eq_ok.mp recorded
    cases same
    rfl
  · split at recorded
    · cases recorded
    · obtain ⟨_, later, same⟩ := bind_eq_ok.mp recorded
      cases same
      exact ⟨rfl, Nat.lt_of_not_le (refuseIf_eq_ok.mp later)⟩

theorem Attempting.due_at {key : DeliveryKey} {now : UnixMillis}
    (attempting : Attempting store key now state) : ∀ time ∈ state.nextAttemptAt, time ≤ now := by
  have due := attempting.due
  cases state with
  | ready attempts => exact nofun
  | retryScheduled attempts lastAttemptAt nextAttemptAt failureClass =>
    rintro time ⟨⟩
    exact of_decide_eq_true due
  | delivered attempts deliveredAt => exact nofun
  | deadLetter attempts terminalAt failureClass => exact nofun

end Soundness

section Statements

variable {outbox : List IntegrationEventEnvelope} {store after : NotificationStore} {call : Call}
  {state next : DeliveryState}

/-- What the statement of a call leaves when it is carried out. -/
def Call.Carries (call : Call) (store after : NotificationStore) : Prop :=
  match call.phase with
  | .creating | .recreating => ∃ answer, call.insertReady store = .ok (answer, after)
  | .persisting _ => store.persistNotificationEvent call.event call.now = .ok after
  | .claiming _ => ∃ claim, store.claim call.consumerId call.event call.now = .ok (claim, after)
  | .writing state next _ => ∃ outcome, call.write store state next = .ok (outcome, after)
  | .loading | .reloading | .done _ => after = store

theorem Call.load_keeps (loaded : call.load store = .ok (state, after)) : after = store := by
  obtain ⟨_, -, same⟩ := bind_eq_ok.mp loaded
  cases same
  rfl

theorem Call.advance_carries (call : Call) (fate : Fate) (store : NotificationStore) :
    (call.advance fate store).2 = store ∨ call.Carries store (call.advance fate store).2 := by
  unfold Call.advance Call.Carries
  cases call.phase with
  | creating =>
    have leaves := fate.settle_leaves store (call.insertReady store)
    dsimp only
    generalize fate.settle store (call.insertReady store) = settled at leaves
    obtain ⟨_ | answer, left⟩ := settled <;> exact leaves
  | recreating =>
    have leaves := fate.settle_leaves store (call.insertReady store)
    dsimp only
    generalize fate.settle store (call.insertReady store) = settled at leaves
    obtain ⟨_ | answer, left⟩ := settled <;> exact leaves
  | loading =>
    have leaves := fate.settle_leaves store (call.load store)
    dsimp only
    generalize fate.settle store (call.load store) = settled at leaves
    obtain ⟨_ | answer, left⟩ := settled <;>
      exact .inl (leaves.elim id fun ⟨_, loaded⟩ => Call.load_keeps loaded)
  | reloading =>
    have leaves := fate.settle_leaves store (call.load store)
    dsimp only
    generalize fate.settle store (call.load store) = settled at leaves
    obtain ⟨_ | answer, left⟩ := settled <;>
      exact .inl (leaves.elim id fun ⟨_, loaded⟩ => Call.load_keeps loaded)
  | persisting state =>
    have leaves := fate.settle_leaves store
      ((store.persistNotificationEvent call.event call.now).map ((), ·))
    dsimp only
    generalize fate.settle store
      ((store.persistNotificationEvent call.event call.now).map ((), ·)) = settled at leaves
    have carried : ∀ answer left, (store.persistNotificationEvent call.event call.now).map ((), ·) =
        .ok (answer, left) → store.persistNotificationEvent call.event call.now = .ok left := by
      intro answer left mapped
      obtain ⟨_, persisted, same⟩ := map_eq_ok.mp mapped
      cases same
      exact persisted
    obtain ⟨_ | answer, left⟩ := settled <;>
      exact leaves.imp_right fun ⟨_, mapped⟩ => carried _ _ mapped
  | claiming state =>
    have leaves := fate.settle_leaves store (store.claim call.consumerId call.event call.now)
    dsimp only
    generalize fate.settle store (store.claim call.consumerId call.event call.now) = settled at leaves
    obtain ⟨_ | answer, left⟩ := settled <;> exact leaves
  | writing state next result =>
    have leaves := fate.settle_leaves store (call.write store state next)
    dsimp only
    generalize fate.settle store (call.write store state next) = settled at leaves
    obtain ⟨_ | answer, left⟩ := settled
    · exact leaves
    · cases answer <;> exact leaves
  | done result => exact .inl rfl

/-- An amendment keeps the rows sound if the deliveries it ends have been claimed. -/
theorem NotificationStore.Sound.amends {guards : DeliveryTables} {chosen : DeliveryRow → Prop}
    [DecidablePred chosen] {change : DeliveryRow → DeliveryRow} (sound : store.Sound outbox)
    (valid : after.tables.Valid) (sources : after.tables.outboxEvents = store.tables.outboxEvents)
    (claims : after.consumerClaims = store.consumerClaims)
    (amended : after.tables.deliveries = Rows.amend chosen change store.tables.deliveries)
    (keeps : ∀ row, (change row).createdAtMs = row.createdAtMs)
    (guarded : ∀ row ∈ store.tables.deliveries, chosen row → Guarded guards row (change row))
    (delivers : ∀ row ∈ store.tables.deliveries, chosen row → ∀ attempts deliveredAt,
      (change row).intoState = .ok (.delivered attempts deliveredAt) → store.Claimed row.key) :
    after.Sound outbox := by
  refine ⟨valid, sources.trans sound.sources, ?_, ?_, claims ▸ sound.distinct⟩
  · intro later member
    rw [amended] at member
    obtain ⟨old, known, rfl⟩ := Rows.mem_amend.mp member
    split
    next holds =>
      rw [(guarded old known holds).key, keeps]
      exact sound.born old known
    next => exact sound.born old known
  · intro later member
    unfold NotificationStore.Claimed
    rw [claims]
    rw [amended] at member
    obtain ⟨old, known, rfl⟩ := Rows.mem_amend.mp member
    split
    next holds =>
      rw [(guarded old known holds).key]
      exact delivers old known holds
    next => exact sound.claimed old known

theorem NotificationStore.Sound.insertReady (distinct : Rows.Unique
      (fun event : IntegrationEventEnvelope => (event.tenantId, event.eventId)) outbox)
    (sound : store.Sound outbox) (listed : call.event ∈ outbox) {answer : Unit}
    (carried : call.insertReady store = .ok (answer, after)) :
    after.Sound outbox ∧ RowSteps store.tables after.tables ∧
      after.consumerClaims = store.consumerClaims := by
  obtain ⟨tables, inserted, same⟩ := bind_eq_ok.mp carried
  cases same
  have executed : store.tables.execute (.insertReady call.key call.event.occurredAt) = .ok tables :=
    inserted
  have valid := valid_execute sound.valid executed
  refine ⟨?_, rowSteps_insertReady inserted, rfl⟩
  rcases insertReady_leaves inserted with rfl | rfl
  · exact sound
  · refine ⟨valid, sound.sources, ?_, ?_, sound.distinct⟩
    · intro row member event present tenant identifier
      rcases List.mem_append.mp member with old | new
      · exact sound.born row old event present tenant identifier
      · rw [List.mem_singleton.mp new] at tenant identifier ⊢
        rw [distinct event present call.event listed (Prod.ext tenant identifier)]
        rfl
    · intro row member attempts deliveredAt delivered
      rcases List.mem_append.mp member with old | new
      · exact sound.claimed row old attempts deliveredAt delivered
      · rw [List.mem_singleton.mp new, intoState_of_stores (stores_readyRow _ _ _)] at delivered
        cases delivered

theorem NotificationStore.Sound.persist {event : IntegrationEventEnvelope} {now : UnixMillis}
    (sound : store.Sound outbox) (persisted : store.persistNotificationEvent event now = .ok after) :
    after.Sound outbox ∧ after.tables = store.tables ∧
      after.consumerClaims = store.consumerClaims := by
  obtain ⟨_, -, persisted⟩ := bind_eq_ok.mp persisted
  obtain ⟨_, -, persisted⟩ := bind_eq_ok.mp persisted
  obtain ⟨_, -, persisted⟩ := bind_eq_ok.mp persisted
  obtain ⟨_, -, persisted⟩ := bind_eq_ok.mp persisted
  split at persisted
  next =>
    cases persisted
    exact ⟨sound, rfl, rfl⟩
  next =>
    cases persisted
    exact ⟨⟨sound.valid, sound.sources, sound.born, sound.claimed, sound.distinct⟩, rfl, rfl⟩

/-- A claim is a duplicate if the delivery has one, and else it is stored. -/
theorem NotificationStore.claim_leaves {consumerId : OpaqueId} {event : IntegrationEventEnvelope}
    {now : UnixMillis} {claim : ConsumerClaim}
    (claims : store.claim consumerId event now = .ok (claim, after)) :
    after.tables = store.tables ∧
      ((claim = .duplicate ∧ store.Claimed ⟨event.tenantId, consumerId, event.eventId⟩ ∧
          after.consumerClaims = store.consumerClaims) ∨
        (claim = .claimed ∧ ¬store.Claimed ⟨event.tenantId, consumerId, event.eventId⟩ ∧
          ∃ row : ConsumerClaimRow, row.delivery = ⟨event.tenantId, consumerId, event.eventId⟩ ∧
            after.consumerClaims = store.consumerClaims ++ [row])) := by
  obtain ⟨consumedAtMs, -, claims⟩ := bind_eq_ok.mp claims
  obtain ⟨_, -, claims⟩ := bind_eq_ok.mp claims
  dsimp only at claims
  split at claims
  next present =>
    cases claims
    exact ⟨rfl, .inl ⟨rfl, present, rfl⟩⟩
  next absent =>
    cases claims
    exact ⟨rfl, .inr ⟨rfl, absent, _, rfl, rfl⟩⟩

theorem NotificationStore.Sound.claim {consumerId : OpaqueId} {event : IntegrationEventEnvelope}
    {now : UnixMillis} {claim : ConsumerClaim} (sound : store.Sound outbox)
    (claims : store.claim consumerId event now = .ok (claim, after)) :
    after.Sound outbox ∧ after.tables = store.tables ∧
      (∀ key, store.Claimed key → after.Claimed key) ∧
      after.Claimed ⟨event.tenantId, consumerId, event.eventId⟩ := by
  obtain ⟨same, ⟨rfl, present, kept⟩ | ⟨rfl, absent, row, named, grown⟩⟩ :=
    NotificationStore.claim_leaves claims
  · have keeps : ∀ key, store.Claimed key → after.Claimed key := by
      unfold NotificationStore.Claimed
      rw [kept]
      exact fun _ => id
    exact ⟨⟨same ▸ sound.valid, same ▸ sound.sources, same ▸ sound.born,
      fun row member attempts deliveredAt delivered =>
        keeps _ (sound.claimed row (same ▸ member) attempts deliveredAt delivered),
      kept ▸ sound.distinct⟩, same, keeps, keeps _ present⟩
  · have keeps : ∀ key, store.Claimed key → after.Claimed key := by
      rintro key ⟨claim, member, held⟩
      exact ⟨claim, grown ▸ List.mem_append_left _ member, held⟩
    refine ⟨⟨same ▸ sound.valid, same ▸ sound.sources, same ▸ sound.born,
      fun row member attempts deliveredAt delivered =>
        keeps _ (sound.claimed row (same ▸ member) attempts deliveredAt delivered), ?_⟩, same, keeps,
      row, grown ▸ List.mem_append_right _ (List.mem_singleton_self _), named⟩
    rw [grown, List.map_append]
    refine List.nodup_append.mpr ⟨sound.distinct, List.nodup_singleton _, ?_⟩
    rintro _ old _ new rfl
    obtain ⟨other, member, held⟩ := List.mem_map.mp old
    rw [List.map_singleton, List.mem_singleton, named] at new
    exact absent ⟨other, member, held.trans new⟩

theorem NotificationStore.Sound.write {result : ConsumerResult}
    {outcome : DeliveryTables.WriteOutcome} (sound : store.Sound outbox)
    (attempting : Attempting store call.key call.now state) (prepared : call.Prepared store state next result)
    (carried : call.write store state next = .ok (outcome, after)) :
    after.Sound outbox ∧ RowSteps store.tables after.tables ∧
      after.consumerClaims = store.consumerClaims := by
  obtain ⟨⟨answer, tables⟩, written, same⟩ := bind_eq_ok.mp carried
  cases same
  have executed : store.tables.execute (.compareAndSwap call.key state next) = .ok tables :=
    bind_eq_ok.mpr ⟨_, written, rfl⟩
  have valid := valid_execute sound.valid executed
  obtain ⟨update, bound, amended, sources, guarded⟩ := compareAndSwap_leaves sound.valid written
  have attempted := prepared.makes.attempt.attempted attempting.few
  refine ⟨?_, rowSteps_compareAndSwap sound.valid written, rfl⟩
  refine sound.amends valid sources rfl amended (by intro row; rfl)
    (fun row member chosen => (guarded row member chosen).2) ?_
  intro row member chosen attempts deliveredAt delivered
  obtain ⟨-, stored, -⟩ := bind_eq_ok_of_attempted attempted bound row
  rw [intoState_of_stores stored] at delivered
  cases delivered
  rw [chosen.1]
  cases result with
  | accepted duplicate => exact prepared.2
  | failed =>
    obtain ⟨failureClass, scheduled⟩ := prepared
    exact absurd (putOff_of_transitionAfterFailure scheduled).1 id

theorem NotificationStore.Sound.replay {tables : DeliveryTables} {intent : ReplayIntentRow}
    (sound : store.Sound outbox) (inserted : store.tables.insertReplay intent = .ok tables) :
    NotificationStore.Sound outbox { store with tables } := by
  have executed : store.tables.execute (.insertReplay intent) = .ok tables :=
    mapError_eq_ok.mpr inserted
  have valid := valid_execute sound.valid executed
  obtain ⟨amended, sources, guards, guarded⟩ := insertReplay_leaves inserted
  refine sound.amends valid sources rfl amended (by intro row; rfl) guarded ?_
  intro row member chosen attempts deliveredAt delivered
  rw [intoState_of_stores (stores_readyRow _ _ _)] at delivered
  cases delivered

theorem NotificationStore.Sound.publish {tables : DeliveryTables} {tenantId : TenantId}
    {replayId : OpaqueId} {publishedAt : UnixMillis} (sound : store.Sound outbox)
    (marked : store.tables.markReplayPublished tenantId replayId publishedAt = .ok tables) :
    NotificationStore.Sound outbox { store with tables } := by
  obtain ⟨deliveries, sources⟩ := markReplayPublished_leaves marked
  exact ⟨⟨deliveries ▸ sound.valid.distinct, deliveries ▸ sound.valid.checked⟩,
    sources.trans sound.sources, deliveries ▸ sound.born, deliveries ▸ sound.claimed,
    sound.distinct⟩

end Statements

section Advances

variable {outbox : List IntegrationEventEnvelope} {store after : NotificationStore} {call : Call}
  {state next : DeliveryState}

/-- What a statement of a sound call leaves of a sound store. -/
structure NotificationStore.Step (outbox : List IntegrationEventEnvelope)
    (store after : NotificationStore) : Prop where
  sound : after.Sound outbox
  rows : RowSteps store.tables after.tables
  claims : ∀ key, store.Claimed key → after.Claimed key

theorem NotificationStore.Step.grows (step : store.Step outbox after) : store.Grows after :=
  NotificationStore.grows_of_rowSteps step.rows step.claims

theorem NotificationStore.Sound.carries (distinct : Rows.Unique
      (fun event : IntegrationEventEnvelope => (event.tenantId, event.eventId)) outbox)
    (sound : store.Sound outbox) (called : call.Sound outbox store)
    (carries : call.Carries store after) : NotificationStore.Step outbox store after := by
  have unclaimed : after.consumerClaims = store.consumerClaims →
      ∀ key, store.Claimed key → after.Claimed key := by
    intro same key claimed
    unfold NotificationStore.Claimed
    rwa [same]
  have untouched : after.tables = store.tables → RowSteps store.tables after.tables :=
    fun same => same ▸ .refl _
  have holds := called.holds
  unfold Call.Carries at carries
  cases phase : call.phase <;> rw [phase] at carries holds <;> dsimp only at carries
  case creating =>
    obtain ⟨answer, inserted⟩ := carries
    obtain ⟨kept, steps, same⟩ := sound.insertReady distinct called.listed inserted
    exact ⟨kept, steps, unclaimed same⟩
  case recreating =>
    obtain ⟨answer, inserted⟩ := carries
    obtain ⟨kept, steps, same⟩ := sound.insertReady distinct called.listed inserted
    exact ⟨kept, steps, unclaimed same⟩
  case persisting state =>
    obtain ⟨kept, tables, same⟩ := sound.persist carries
    exact ⟨kept, untouched tables, unclaimed same⟩
  case claiming state =>
    obtain ⟨claim, claims⟩ := carries
    obtain ⟨kept, tables, keeps, -⟩ := sound.claim claims
    exact ⟨kept, untouched tables, keeps⟩
  case writing state next result =>
    obtain ⟨outcome, written⟩ := carries
    obtain ⟨kept, steps, same⟩ := sound.write holds.1 holds.2 written
    exact ⟨kept, steps, unclaimed same⟩
  case loading =>
    cases carries
    exact ⟨sound, .refl _, fun _ => id⟩
  case reloading =>
    cases carries
    exact ⟨sound, .refl _, fun _ => id⟩
  case done result =>
    cases carries
    exact ⟨sound, .refl _, fun _ => id⟩

theorem NotificationStore.Sound.advance (distinct : Rows.Unique
      (fun event : IntegrationEventEnvelope => (event.tenantId, event.eventId)) outbox)
    (sound : store.Sound outbox) (called : call.Sound outbox store) (fate : Fate) :
    NotificationStore.Step outbox store (call.advance fate store).2 := by
  rcases call.advance_carries fate store with same | carries
  · rw [same]
    exact ⟨sound, .refl _, fun _ => id⟩
  · exact sound.carries distinct called carries

theorem Call.Sound.moves (called : call.Sound outbox store) {phase : CallPhase}
    (holds : call.Holds after phase) : Call.Sound outbox after { call with phase } :=
  ⟨called.listed, called.timely, by cases phase <;> exact holds⟩

theorem Call.Sound.consumerFailed (called : call.Sound outbox store)
    (attempting : Attempting after call.key call.now state) (why : IntegrationEventOperationError) :
    (call.consumerFailed state why).Sound outbox after := by
  unfold Call.consumerFailed
  split
  next next scheduled => exact called.moves ⟨attempting, _, scheduled⟩
  next => exact called.moves trivial

theorem Call.Sound.consumerAccepted (called : call.Sound outbox store)
    (attempting : Attempting after call.key call.now state) (claimed : after.Claimed call.key)
    (claim : ConsumerClaim) : (call.consumerAccepted state claim).Sound outbox after := by
  unfold Call.consumerAccepted
  split
  next next recorded => exact called.moves ⟨attempting, recorded, claimed⟩
  next => exact called.moves trivial

theorem attempting_of_load (sound : store.Sound outbox) (carried : call.load store = .ok (state, after))
    (due : state.isDue call.now = true) : Attempting store call.key call.now state := by
  obtain ⟨read, loaded, same⟩ := bind_eq_ok.mp carried
  cases same
  have loaded : store.tables.loadDelivery call.key = .ok state := mapError_eq_ok.mp loaded
  unfold DeliveryTables.loadDelivery at loaded
  split at loaded
  next row found =>
    obtain ⟨member, same⟩ := Rows.first_eq_some found
    have checked := sound.valid.checked row member
    have stores := stores_of_intoState checked loaded
    have live : state.isTerminal = false := by
      cases state with
      | ready attempts => rfl
      | retryScheduled attempts lastAttemptAt nextAttemptAt failureClass => rfl
      | delivered attempts deliveredAt => cases due
      | deadLetter attempts terminalAt failureClass => cases due
    exact ⟨live, due, (name_of_live stores live).2.2, fits_of_stores checked stores, row, member, same⟩
  next => cases loaded

theorem Call.Sound.loaded (called : call.Sound outbox store)
    (attempting : state.isDue call.now = true → Attempting store call.key call.now state) :
    (call.loaded state).Sound outbox store := by
  have consumes (due : state.isDue call.now = true) : (call.consume state).Sound outbox store := by
    unfold Call.consume
    split
    · exact called.consumerFailed (attempting due) _
    · exact called.moves (attempting due)
  cases state with
  | ready attempts => exact consumes rfl
  | retryScheduled attempts lastAttemptAt nextAttemptAt failureClass =>
    unfold Call.loaded
    dsimp only
    split
    next => exact called.moves trivial
    next due => exact consumes (by simpa using due)
  | delivered attempts deliveredAt => exact called.moves trivial
  | deadLetter attempts terminalAt failureClass => exact called.moves trivial

theorem Call.Sound.advance (distinct : Rows.Unique
      (fun event : IntegrationEventEnvelope => (event.tenantId, event.eventId)) outbox)
    (sound : store.Sound outbox) (called : call.Sound outbox store) (fate : Fate) :
    (call.advance fate store).1.Sound outbox (call.advance fate store).2 := by
  have grows := (sound.advance distinct called fate).grows
  have holds := called.holds
  revert grows
  unfold Call.advance
  cases phase : call.phase <;> rw [phase] at holds <;> dsimp only
  case creating =>
    split <;> exact fun _ => called.moves trivial
  case recreating =>
    split <;> exact fun _ => called.moves trivial
  case reloading =>
    split <;> exact fun _ => called.moves trivial
  case loading =>
    split
    next state after settled =>
      intro _
      obtain ⟨-, loaded⟩ := Fate.settle_eq_ok settled
      rw [Call.load_keeps loaded]
      exact called.loaded (attempting_of_load sound loaded)
    next => exact fun _ => called.moves trivial
  case persisting state =>
    split <;> intro grows
    next => exact called.moves (Attempting.grows holds grows)
    next => exact called.consumerFailed (Attempting.grows holds grows) _
  case claiming state =>
    split <;> intro grows
    next claim after settled =>
      obtain ⟨-, claims⟩ := Fate.settle_eq_ok settled
      exact called.consumerAccepted (Attempting.grows holds grows) (sound.claim claims).2.2.2 _
    next => exact called.consumerFailed (Attempting.grows holds grows) _
  case writing state next result =>
    split <;> exact fun _ => called.moves trivial
  case done result =>
    exact fun _ => called

end Advances

end ProfilePlatform.Notifications
