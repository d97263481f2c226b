import ProfilePlatform.Notifications.RowAgreement

/-! What one statement can do to the stored deliveries.

Every row is left as it is or moved by one transition of the domain, at a time that is not
before its retry was due, and a row that appears is ready for its first attempt. A policy whose
limit is not reached schedules every failure for later or ends the delivery.
-/

set_option autoImplicit false

namespace ProfilePlatform.Notifications

open Foundation
open Catalog (Refusal)

section Rows

variable {tables after : DeliveryTables} {row later : DeliveryRow} {state next : DeliveryState}

/-- One transition of the domain between two stored states. An attempt waits until it is due. -/
structure Moves (row later : DeliveryRow) : Prop where
  key : later.key = row.key
  created : later.createdAtMs = row.createdAtMs
  transition : ∃ state next, row.intoState = .ok state ∧ later.intoState = .ok next ∧
    Transition state next ∧
    ∀ due ∈ state.nextAttemptAt, ∃ attempted ∈ attemptedAt next, due ≤ attempted

/-- What a statement leaves of the deliveries it found. -/
structure RowSteps (before after : DeliveryTables) : Prop where
  kept : ∀ row ∈ before.deliveries, ∃ later ∈ after.deliveries, later = row ∨ Moves row later
  appeared : ∀ later ∈ after.deliveries, (∃ row ∈ before.deliveries, row.key = later.key) ∨
    later.intoState = .ok .new

theorem RowSteps.refl (tables : DeliveryTables) : RowSteps tables tables :=
  ⟨fun row member => ⟨row, member, .inl rfl⟩, fun later member => .inl ⟨later, member, rfl⟩⟩

theorem not_transition_delivered {attempts : Nat} {deliveredAt : UnixMillis} :
    ¬Transition (.delivered attempts deliveredAt) next := by
  rintro (⟨deliveredAt, recorded⟩ | ⟨failedAt, nextAttemptAt, attemptLimit, failureClass, recorded⟩ |
    remediated)
  · exact nomatch (attempt_of_recordSuccess recorded).live
  · exact nomatch (attempt_of_recordFailure recorded).live
  · exact nomatch remediated

theorem RowSteps.delivered_kept (steps : RowSteps tables after) (member : row ∈ tables.deliveries)
    {attempts : Nat} {deliveredAt : UnixMillis}
    (delivered : row.intoState = .ok (.delivered attempts deliveredAt)) : row ∈ after.deliveries := by
  obtain ⟨later, present, rfl | moves⟩ := steps.kept row member
  · exact present
  · obtain ⟨state, next, read, -, transition, -⟩ := moves.transition
    rw [delivered] at read
    cases read
    exact absurd transition not_transition_delivered

theorem due_of_guarded {new : DeliveryRow} (stores : Stores row state) (stored : Stores new next)
    (guarded : Guarded tables row new) :
    ∀ due ∈ state.nextAttemptAt, ∃ attempted ∈ attemptedAt next, due ≤ attempted := by
  cases state with
  | ready attempts => exact nofun
  | delivered attempts deliveredAt => exact nofun
  | deadLetter attempts terminalAt failureClass => exact nofun
  | retryScheduled attempts lastAttemptAt nextAttemptAt failureClass =>
    rintro due ⟨⟩
    obtain ⟨named, -, -, -, planned, -⟩ := stores
    have unready : new.deliveryState ≠ "READY" := by
      intro ready
      have dead := guarded.reset ready
      rw [named] at dead
      exact absurd dead (by decide)
    obtain ⟨last, made, -, waits⟩ := guarded.timed unready
    have waited : (nextAttemptAt : Int) ≤ last := waits named _ planned
    cases next with
    | ready attempts => exact absurd stored.1 unready
    | retryScheduled attempts lastAttemptAt nextAttemptAt failureClass =>
      rw [stored.2.2.2.1] at made
      cases made
      exact ⟨_, rfl, Int.ofNat_le.mp waited⟩
    | delivered attempts deliveredAt =>
      rw [stored.2.2.2.1] at made
      cases made
      exact ⟨_, rfl, Int.ofNat_le.mp waited⟩
    | deadLetter attempts terminalAt failureClass =>
      rw [stored.2.2.2.1] at made
      cases made
      exact ⟨_, rfl, Int.ofNat_le.mp waited⟩

theorem moves_of_guarded {new : DeliveryRow} (checked : row.Checked)
    (created : new.createdAtMs = row.createdAtMs) (guarded : Guarded tables row new) :
    Moves row new := by
  obtain ⟨state, stores⟩ := exists_stores checked
  obtain ⟨next, stored, transition⟩ := transition_of_guarded stores guarded
  exact ⟨guarded.key, created, state, next, intoState_of_stores stores, intoState_of_stores stored,
    transition, due_of_guarded stores stored guarded⟩

variable {chosen : DeliveryRow → Prop} [DecidablePred chosen] {change : DeliveryRow → DeliveryRow}

theorem updateDeliveries_leaves (updated : tables.updateDeliveries chosen change = .ok after) :
    after.deliveries = Rows.amend chosen change tables.deliveries ∧
      after.outboxEvents = tables.outboxEvents ∧
      ∀ row ∈ tables.deliveries, chosen row → Guarded tables row (change row) := by
  obtain ⟨deliveries, written, same⟩ := bind_eq_ok.mp updated
  cases same
  obtain ⟨amended, guarded⟩ := Rows.update_eq_ok written
  exact ⟨amended, rfl, fun row member holds => guardDelivery_eq_ok.mp (guarded row member holds)⟩

theorem rowSteps_amend {guards : DeliveryTables} (valid : tables.Valid)
    (amended : after.deliveries = Rows.amend chosen change tables.deliveries)
    (keeps : ∀ row, (change row).createdAtMs = row.createdAtMs)
    (guarded : ∀ row ∈ tables.deliveries, chosen row → Guarded guards row (change row)) :
    RowSteps tables after := by
  constructor
  · intro row member
    rw [amended]
    by_cases holds : chosen row
    · exact ⟨change row, Rows.mem_amend_of_chosen member holds, .inr (moves_of_guarded
        (valid.checked row member) (keeps row) (guarded row member holds))⟩
    · exact ⟨row, Rows.mem_amend_of_not_chosen member holds, .inl rfl⟩
  · intro later member
    rw [amended] at member
    obtain ⟨old, known, rfl⟩ := Rows.mem_amend.mp member
    refine .inl ⟨old, known, ?_⟩
    split
    next holds => exact (guarded old known holds).key.symm
    next => rfl

theorem insertReady_leaves {key : DeliveryKey} {createdAt : UnixMillis}
    (inserted : tables.insertReady key createdAt = .ok after) :
    after = tables ∨ after = { tables with
      deliveries := tables.deliveries ++ [DeliveryTables.readyRow key createdAt createdAt] } := by
  obtain ⟨createdAtMs, bound, inserted⟩ := bind_eq_ok.mp inserted
  obtain ⟨_, -, inserted⟩ := bind_eq_ok.mp inserted
  obtain ⟨rfl, -⟩ := sqliteInteger_eq_ok.mp (mapError_eq_ok.mp bound)
  split at inserted
  next =>
    cases inserted
    exact .inl rfl
  next =>
    cases inserted
    exact .inr rfl

theorem rowSteps_insertReady {key : DeliveryKey} {createdAt : UnixMillis}
    (inserted : tables.insertReady key createdAt = .ok after) : RowSteps tables after := by
  rcases insertReady_leaves inserted with rfl | rfl
  · exact .refl _
  · refine ⟨fun row member => ⟨row, List.mem_append_left _ member, .inl rfl⟩, ?_⟩
    intro later member
    rcases List.mem_append.mp member with old | new
    · exact .inl ⟨later, old, rfl⟩
    · rw [List.mem_singleton.mp new]
      exact .inr (intoState_of_stores (stores_readyRow _ _ _))

theorem compareAndSwap_leaves (valid : tables.Valid) {key : DeliveryKey}
    {expected next : DeliveryState} {outcome : DeliveryTables.WriteOutcome}
    (written : tables.compareAndSwap key expected next = .ok (outcome, after)) :
    ∃ update, DeliveryUpdate.bind next = .ok update ∧
      after.deliveries = Rows.amend
        (fun row => row.key = key ∧ (shapeOf expected).Matches row) update.apply tables.deliveries ∧
      after.outboxEvents = tables.outboxEvents ∧
      ∀ row ∈ tables.deliveries, row.key = key ∧ (shapeOf expected).Matches row →
        Stores row expected ∧ Guarded tables row (update.apply row) := by
  obtain ⟨shape, shaped, written⟩ := bind_eq_ok.mp written
  obtain ⟨update, bound, written⟩ := bind_eq_ok.mp written
  obtain ⟨result, updated, same⟩ := bind_eq_ok.mp written
  cases same
  obtain ⟨-, rfl⟩ := fromState_eq_ok.mp (mapError_eq_ok.mp shaped)
  obtain ⟨amended, sources, guarded⟩ := updateDeliveries_leaves (mapError_eq_ok.mp updated)
  exact ⟨update, mapError_eq_ok.mp bound, amended, sources, fun row member chosen =>
    ⟨(matches_iff_stores (valid.checked row member)).mp chosen.2, guarded row member chosen⟩⟩

theorem rowSteps_compareAndSwap (valid : tables.Valid) {key : DeliveryKey}
    {expected next : DeliveryState} {outcome : DeliveryTables.WriteOutcome}
    (written : tables.compareAndSwap key expected next = .ok (outcome, after)) :
    RowSteps tables after := by
  obtain ⟨update, -, amended, -, guarded⟩ := compareAndSwap_leaves valid written
  exact rowSteps_amend valid amended (by intro row; rfl) fun row member chosen =>
    (guarded row member chosen).2

theorem insertReplay_leaves {intent : ReplayIntentRow}
    (inserted : tables.insertReplay intent = .ok after) :
    after.deliveries = Rows.amend
        (fun row => row.key = intent.delivery ∧ row.deliveryState = "DEAD_LETTER" ∧
          row.attemptCount = intent.terminalAttemptCount)
        (fun row => DeliveryTables.readyRow row.key row.createdAtMs intent.requestedAtMs)
        tables.deliveries ∧
      after.outboxEvents = tables.outboxEvents ∧
      ∃ guards : DeliveryTables, ∀ row ∈ tables.deliveries,
        row.key = intent.delivery ∧ row.deliveryState = "DEAD_LETTER" ∧
          row.attemptCount = intent.terminalAttemptCount →
        Guarded guards row (DeliveryTables.readyRow row.key row.createdAtMs intent.requestedAtMs) := by
  obtain ⟨_, -, inserted⟩ := bind_eq_ok.mp inserted
  obtain ⟨_, -, inserted⟩ := bind_eq_ok.mp inserted
  obtain ⟨_, -, inserted⟩ := bind_eq_ok.mp inserted
  obtain ⟨_, -, inserted⟩ := bind_eq_ok.mp inserted
  obtain ⟨_, -, inserted⟩ := bind_eq_ok.mp inserted
  obtain ⟨amended, sources, guarded⟩ := updateDeliveries_leaves inserted
  exact ⟨amended, sources, _, guarded⟩

theorem rowSteps_insertReplay (valid : tables.Valid) {intent : ReplayIntentRow}
    (inserted : tables.insertReplay intent = .ok after) : RowSteps tables after := by
  obtain ⟨amended, -, guards, guarded⟩ := insertReplay_leaves inserted
  exact rowSteps_amend valid amended (by intro row; rfl) guarded

theorem markReplayPublished_leaves {tenantId : TenantId} {replayId : OpaqueId}
    {publishedAt : UnixMillis}
    (marked : tables.markReplayPublished tenantId replayId publishedAt = .ok after) :
    after.deliveries = tables.deliveries ∧ after.outboxEvents = tables.outboxEvents := by
  obtain ⟨publishedAtMs, -, marked⟩ := bind_eq_ok.mp marked
  obtain ⟨dispatches, -, same⟩ := bind_eq_ok.mp marked
  cases same
  exact ⟨rfl, rfl⟩

end Rows

section Scheduling

variable {policy : RetryPolicy} {state : DeliveryState} {now : UnixMillis}

theorem RetryPolicy.nominalDelay_bounds {delay : Nat} (positive : 0 < delay)
    (bounded : delay ≤ policy.maxDelayMs) (doublings : Nat) :
    0 < policy.nominalDelay doublings delay ∧
      policy.nominalDelay doublings delay ≤ policy.maxDelayMs := by
  induction doublings generalizing delay with
  | zero => exact ⟨positive, bounded⟩
  | succ doublings ih =>
    have large : policy.maxDelayMs ≤ 86400000 := policy.bounded
    unfold RetryPolicy.nominalDelay
    split
    · exact ⟨positive, bounded⟩
    · have fits : checkedMul delay 2 = some (delay * 2) :=
        if_pos (by unfold u64Limit; omega)
      rw [fits]
      exact ih (by simp only [Option.map_some, Option.getD_some]; omega)
        (by simp only [Option.map_some, Option.getD_some]; omega)

/-- The delay of an attempt before jitter, and how far jitter may move it. -/
def RetryPolicy.nominal (policy : RetryPolicy) (failedAttempt : Nat) : Nat :=
  policy.nominalDelay (failedAttempt - 1) policy.baseDelayMs

def RetryPolicy.jitterSpan (policy : RetryPolicy) (failedAttempt : Nat) : Nat :=
  policy.nominal failedAttempt * policy.jitterBasisPoints / basisPointsDenominator

theorem RetryPolicy.nominal_bounds (policy : RetryPolicy) (failedAttempt : Nat) :
    0 < policy.nominal failedAttempt ∧ policy.nominal failedAttempt ≤ policy.maxDelayMs :=
  policy.nominalDelay_bounds policy.positive policy.ordered (failedAttempt - 1)

theorem RetryPolicy.product_le (policy : RetryPolicy) (failedAttempt : Nat) :
    policy.nominal failedAttempt * policy.jitterBasisPoints ≤ policy.nominal failedAttempt * 2500 :=
  Nat.mul_le_mul_left _ policy.smallJitter

theorem RetryPolicy.jitterSpan_le (policy : RetryPolicy) (failedAttempt : Nat) :
    policy.jitterSpan failedAttempt ≤ policy.nominal failedAttempt := by
  have product := policy.product_le failedAttempt
  unfold jitterSpan basisPointsDenominator
  omega

/-- No step of the computation leaves the sixty-four bits: the delay is the nominal one, moved down
by the span and up by the sample. -/
theorem RetryPolicy.retryDelayMs_eq {failedAttempt : Nat} (counted : failedAttempt ≠ 0)
    (more : failedAttempt < policy.attemptLimit.value) (eventId : OutboxEventId) :
    policy.retryDelayMs eventId failedAttempt =
      .ok (if policy.jitterSpan failedAttempt = 0 then policy.nominal failedAttempt
        else min (max (policy.nominal failedAttempt - policy.jitterSpan failedAttempt +
          deterministicJitterSample eventId failedAttempt
            (policy.jitterSpan failedAttempt * 2 + 1)) 1) policy.maxDelayMs) := by
  have large : policy.maxDelayMs ≤ 86400000 := policy.bounded
  have product := policy.product_le failedAttempt
  have span := policy.jitterSpan_le failedAttempt
  obtain ⟨-, high⟩ := policy.nominal_bounds failedAttempt
  have multiplied : checkedMul (policy.nominal failedAttempt) policy.jitterBasisPoints =
      some (policy.nominal failedAttempt * policy.jitterBasisPoints) :=
    if_pos (by unfold u64Limit; omega)
  have nominalIs : policy.nominalDelay (failedAttempt - 1) policy.baseDelayMs =
      policy.nominal failedAttempt := rfl
  have spanIs : policy.nominal failedAttempt * policy.jitterBasisPoints / basisPointsDenominator =
      policy.jitterSpan failedAttempt := rfl
  unfold retryDelayMs
  rw [refuseIf_passes (by omega), nominalIs]
  generalize policy.nominal failedAttempt = nominal at multiplied product span spanIs high ⊢
  show (orOverflow (checkedMul nominal policy.jitterBasisPoints) >>= _) = _
  rw [multiplied]
  show (if nominal * policy.jitterBasisPoints / basisPointsDenominator = 0 then _ else _) = _
  rw [spanIs]
  generalize policy.jitterSpan failedAttempt = jitterSpan at span
  by_cases still : jitterSpan = 0
  · rw [if_pos still, if_pos still]
    rfl
  · have width : (checkedMul jitterSpan 2).bind (checkedAdd · 1) = some (jitterSpan * 2 + 1) := by
      unfold checkedMul checkedAdd u64Limit
      rw [if_pos (by omega), Option.bind_some, if_pos (by omega)]
    rw [if_neg still, if_neg still, width]
    show (orOverflow (if jitterSpan ≤ nominal then _ else _) >>= fun lower =>
      orOverflow (checkedAdd lower (deterministicJitterSample eventId failedAttempt
        (jitterSpan * 2 + 1))) >>= _) = _
    rw [if_pos span]
    show (orOverflow (checkedAdd (nominal - jitterSpan) (deterministicJitterSample eventId
      failedAttempt (jitterSpan * 2 + 1))) >>= _) = _
    have sample : deterministicJitterSample eventId failedAttempt (jitterSpan * 2 + 1) <
        jitterSpan * 2 + 1 := Nat.mod_lt _ (by omega)
    generalize deterministicJitterSample eventId failedAttempt (jitterSpan * 2 + 1) = drawn at sample
    have added : checkedAdd (nominal - jitterSpan) drawn = some (nominal - jitterSpan + drawn) := by
      unfold checkedAdd u64Limit
      rw [if_pos (by omega)]
    rw [added]
    rfl

/-- A retry that is not the last has a delay, positive and within the bound. -/
theorem RetryPolicy.retryDelayMs_eq_ok {failedAttempt : Nat} (counted : failedAttempt ≠ 0)
    (more : failedAttempt < policy.attemptLimit.value) (eventId : OutboxEventId) :
    ∃ delay, policy.retryDelayMs eventId failedAttempt = .ok delay ∧ 0 < delay ∧
      delay ≤ policy.maxDelayMs := by
  obtain ⟨low, high⟩ := policy.nominal_bounds failedAttempt
  refine ⟨_, policy.retryDelayMs_eq counted more eventId, ?_, ?_⟩
  · split
    · exact low
    · omega
  · split
    · exact high
    · exact Nat.min_le_right _ _

/-- A failure is scheduled for a later time, or it is the last. -/
def PutOff (now : UnixMillis) : DeliveryState → Prop
  | .retryScheduled _ lastAttemptAt nextAttemptAt _ => lastAttemptAt = now ∧ now < nextAttemptAt
  | .deadLetter _ terminalAt _ => terminalAt = now
  | .ready _ | .delivered _ _ => False

theorem incrementAttempts_below {limit : AttemptLimit} (room : state.attempts < limit.value) :
    state.attempts + 1 < attemptCountLimit ∧
      incrementAttempts state.attempts = .ok (state.attempts + 1) := by
  have small : limit.value ≤ 64 := limit.bounded
  have counts : state.attempts + 1 < attemptCountLimit := by
    unfold attemptCountLimit
    omega
  exact ⟨counts, incrementAttempts_eq_ok.mpr ⟨counts, rfl⟩⟩

/-- The last attempt that the limit leaves room for ends in a dead letter. -/
theorem RetryPolicy.transitionAfterFailure_last (live : state.isTerminal = false)
    (last : state.attempts + 1 = policy.attemptLimit.value) (eventId : OutboxEventId)
    (failureClass : DeliveryFailureClass) :
    policy.transitionAfterFailure state now eventId failureClass =
      .ok (.deadLetter (state.attempts + 1) now failureClass) := by
  have room : state.attempts < policy.attemptLimit.value := last ▸ Nat.lt_succ_self _
  obtain ⟨counts, counted⟩ := incrementAttempts_below room
  unfold RetryPolicy.transitionAfterFailure
  rw [refuseIf_passes (by omega)]
  show (if state.attempts + 1 = policy.attemptLimit.value then _ else _) = _
  rw [if_pos last, mapError_eq_ok]
  unfold DeliveryState.recordFailure
  rw [refuseIf_passes (by simp [live]), refuseIf_passes (Nat.not_le.mpr room), counted]
  show (if state.attempts + 1 = policy.attemptLimit.value then _ else _) = _
  rw [if_pos last]
  rfl

/-- An earlier one is put off by its delay, as long as the clock can tell the time. -/
theorem RetryPolicy.transitionAfterFailure_retry {delay : Nat} (live : state.isTerminal = false)
    (more : state.attempts + 1 < policy.attemptLimit.value) {eventId : OutboxEventId}
    (drawn : policy.retryDelayMs eventId (state.attempts + 1) = .ok delay) (positive : 0 < delay)
    (fits : now + delay < u64Limit) (failureClass : DeliveryFailureClass) :
    policy.transitionAfterFailure state now eventId failureClass =
      .ok (.retryScheduled (state.attempts + 1) now (now + delay) failureClass) := by
  have room : state.attempts < policy.attemptLimit.value := Nat.lt_of_succ_lt more
  obtain ⟨counts, counted⟩ := incrementAttempts_below room
  have added : checkedAdd now delay = some (now + delay) := if_pos fits
  unfold RetryPolicy.transitionAfterFailure
  rw [refuseIf_passes (by omega)]
  show (if state.attempts + 1 = policy.attemptLimit.value then _ else _) = _
  rw [if_neg (Nat.ne_of_lt more), refuseIf_passes (by omega)]
  show (policy.retryDelayMs eventId (state.attempts + 1) >>= _) = _
  refine bind_eq_ok.mpr ⟨delay, drawn, ?_⟩
  rw [added]
  dsimp only
  rw [mapError_eq_ok]
  unfold DeliveryState.recordFailure
  rw [refuseIf_passes (by simp [live]), refuseIf_passes (Nat.not_le.mpr room), counted]
  show (if state.attempts + 1 = policy.attemptLimit.value then _ else _) = _
  rw [if_neg (Nat.ne_of_lt more)]
  show (refuseIf (now + delay ≤ now) _ >>= _) = _
  rw [refuseIf_passes (Nat.not_le.mpr (Nat.lt_add_of_pos_right positive))]
  rfl

/-- A failure that the limit leaves room for is put off, and its times fit if the clock is not
within a day of the largest time a column holds. -/
theorem RetryPolicy.transitionAfterFailure_eq_ok (live : state.isTerminal = false)
    (room : state.attempts < policy.attemptLimit.value)
    (early : now + maxRetryDelayMs < sqliteLimit) (eventId : OutboxEventId)
    (failureClass : DeliveryFailureClass) :
    ∃ next, policy.transitionAfterFailure state now eventId failureClass = .ok next ∧
      PutOff now next ∧ Fits next := by
  have large : policy.maxDelayMs ≤ maxRetryDelayMs := policy.bounded
  have nowFits : now < sqliteLimit := Nat.lt_of_le_of_lt (Nat.le_add_right _ _) early
  by_cases last : state.attempts + 1 = policy.attemptLimit.value
  · exact ⟨_, policy.transitionAfterFailure_last live last eventId failureClass, rfl, nowFits⟩
  · have more : state.attempts + 1 < policy.attemptLimit.value := by omega
    obtain ⟨delay, drawn, positive, bounded⟩ :=
      policy.retryDelayMs_eq_ok (Nat.succ_ne_zero state.attempts) more eventId
    have fits : now + delay < sqliteLimit :=
      Nat.lt_of_le_of_lt (Nat.add_le_add_left (Nat.le_trans bounded large) _) early
    exact ⟨_, policy.transitionAfterFailure_retry live more drawn positive
      (Nat.lt_trans fits (by decide)) failureClass, ⟨rfl, Nat.lt_add_of_pos_right positive⟩, nowFits,
      fits⟩

end Scheduling

end ProfilePlatform.Notifications
