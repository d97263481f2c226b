import ProfilePlatform.WindowsDelivery.State

/-! Runs of the delivery state: a stored state stays valid, and only what has shown its health is
kept to fall back on.
-/

set_option autoImplicit false

namespace ProfilePlatform.WindowsDelivery

open Foundation

section Valid

/-- What a stored state is checked for. -/
structure Valid (state : DeliveryState) : Prop where
  identities : ∀ identity ∈ state.identities, validDeliveryIdentity identity = true
  confirmed : state.activeHealthConfirmed = true → state.active.isSome = true
  fallback : state.lastKnownGood.isSome = true → state.active.isSome = true
  distinct : ∀ active ∈ state.active, state.lastKnownGood ≠ some active
  ascending : ∀ active ∈ state.active, ∀ staged ∈ state.staged,
    active.sequence < staged.sequence ∨ staged = active
  activation : state.validateActivation = .ok ()
  failure : state.validateFailure = .ok ()

variable {state : DeliveryState}

theorem mem_identities {identity : DeliveryIdentity} : identity ∈ state.identities ↔
    state.active = some identity ∨ state.lastKnownGood = some identity ∨
    state.staged = some identity ∨ (∃ evidence ∈ state.lastActivation, evidence.candidate = identity) ∨
    ∃ failure ∈ state.lastFailure, failure.candidate = identity := by
  simp only [DeliveryState.identities, List.mem_filterMap, id, exists_eq_right, List.mem_cons,
    List.not_mem_nil, or_false, @eq_comm _ (some identity), Option.map_eq_some_iff, Option.mem_def]

theorem validatePersisted_eq_ok : state.validatePersisted = .ok () ↔ Valid state := by
  constructor
  · intro accepted
    obtain ⟨_, identities, accepted⟩ := bind_eq_ok.mp accepted
    obtain ⟨_, confirmed, accepted⟩ := bind_eq_ok.mp accepted
    obtain ⟨_, fallback, accepted⟩ := bind_eq_ok.mp accepted
    obtain ⟨_, distinct, accepted⟩ := bind_eq_ok.mp accepted
    obtain ⟨_, ascending, accepted⟩ := bind_eq_ok.mp accepted
    obtain ⟨_, activation, failure⟩ := bind_eq_ok.mp accepted
    simp only [refuseIf_eq_ok, ← Option.not_isSome_iff_eq_none] at identities confirmed fallback
    simp only [refuseIf_eq_ok] at distinct ascending
    exact {
      identities := fun identity member => by
        by_contra invalid
        exact identities ⟨identity, member, Bool.not_eq_true _ ▸ invalid⟩
      confirmed := fun shown => by
        by_contra absent
        exact confirmed ⟨shown, absent⟩
      fallback := fun kept => by
        by_contra absent
        exact fallback ⟨kept, absent⟩
      distinct := fun active member same => distinct ⟨member.trans same.symm, by
        rw [Option.mem_def.mp member]; rfl⟩
      ascending := fun active member staged held => by
        by_contra behind
        obtain ⟨late, other⟩ := not_or.mp behind
        refine ascending ⟨active, member, staged, held, ?_⟩
        rcases Nat.lt_or_ge staged.sequence active.sequence with earlier | same
        · exact .inl earlier
        · exact .inr ⟨Nat.le_antisymm (Nat.not_lt.mp late) same, other⟩
      activation
      failure }
  · intro valid
    refine bind_eq_ok.mpr ⟨(), refuseIf_passes ?_, bind_eq_ok.mpr ⟨(), refuseIf_passes ?_,
      bind_eq_ok.mpr ⟨(), refuseIf_passes ?_, bind_eq_ok.mpr ⟨(), refuseIf_passes ?_,
      bind_eq_ok.mpr ⟨(), refuseIf_passes ?_, bind_eq_ok.mpr ⟨(), valid.activation,
      valid.failure⟩⟩⟩⟩⟩⟩
    · rintro ⟨identity, member, invalid⟩
      rw [valid.identities identity member] at invalid
      cases invalid
    · rintro ⟨shown, absent⟩
      have present := valid.confirmed shown
      rw [absent] at present
      cases present
    · rintro ⟨kept, absent⟩
      have present := valid.fallback kept
      rw [absent] at present
      cases present
    · rintro ⟨same, present⟩
      obtain ⟨active, held⟩ := Option.isSome_iff_exists.mp present
      exact valid.distinct active held (same ▸ held)
    · rintro ⟨active, held, staged, member, behind⟩
      rcases valid.ascending active held staged member with later | rfl
      · omega
      · exact behind.elim (Nat.lt_irrefl _) fun differs => differs.2 rfl

end Valid

section Operations

variable {state : DeliveryState}

def DeliveryOperation.isRollback : DeliveryOperation → Bool
  | .failHealthAndRollback | .recoverInterruptedActivation | .recoverInterruptedHandoff => true
  | _ => false

/-- A newer release may take the place of what is active. -/
def Replaceable (state : DeliveryState) : Prop :=
  state.active = none ∨ state.activeHealthConfirmed = true ∨
    ∃ evidence ∈ state.lastActivation, evidence.outcome.isOpen = true

/-- Only the counter stands in the way of activating what is staged. -/
def Exhausted (state : DeliveryState) (operation : DeliveryOperation) : Prop :=
  operation = .activateStaged true ∧ u64Limit ≤ state.activationGeneration + 1 ∧
    Replaceable state ∧ ∃ staged ∈ state.staged, state.active ≠ some staged

/-- What an operation does to the state, with all it has checked. -/
inductive Delivered (state : DeliveryState) :
    DeliveryOperation → Except DeliveryStateError Unit → DeliveryState → Prop where
  | refused {operation : DeliveryOperation} {why : DeliveryStateError} :
      Delivered state operation (.error why) state
  | staged {candidate : VerifiedDeliveryCandidate} (valid : Valid state)
      (ascending : ∀ active ∈ state.active,
        active.sequence < candidate.identity.sequence ∨ candidate.identity = active) :
      Delivered state (.stage candidate) (.ok ()) { state with staged := some candidate.identity }
  | unstaged {staged : DeliveryIdentity} (valid : Valid state)
      (held : state.staged = some staged) (same : state.active = some staged) :
      Delivered state (.activateStaged true) (.ok ()) { state with staged := none }
  | exhausted (valid : Valid state) (full : Exhausted state (.activateStaged true)) :
      Delivered state (.activateStaged true) (.error .attemptCounterExhausted)
        { state with staged := none }
  | activated {staged : DeliveryIdentity} (valid : Valid state)
      (held : state.staged = some staged) (other : state.active ≠ some staged)
      (free : Replaceable state) :
      Delivered state (.activateStaged true) (.ok ()) {
        active := some staged
        activeHealthConfirmed := false
        lastKnownGood := state.superseded
        staged := none
        activationGeneration := state.activationGeneration + 1
        lastActivation := some ⟨state.activationGeneration + 1, staged, .pendingHealth⟩
        lastFailure := none }
  | started {candidate : DeliveryIdentity} {attempt : Nat}
      {earlier : DeliveryActivationOutcome} (valid : Valid state)
      (held : state.active = some candidate) (current : state.activationGeneration = attempt)
      (evidence : state.lastActivation = some ⟨attempt, candidate, earlier⟩)
      (open_ : earlier.isOpen = true) :
      Delivered state (.startHealthAttempt candidate attempt) (.ok ())
        { state with lastActivation := some ⟨attempt, candidate, .healthAttemptStarted⟩ }
  | confirmed {active : DeliveryIdentity} {attempt : Nat} (valid : Valid state)
      (held : state.active = some active)
      (evidence : state.lastActivation = some ⟨attempt, active, .healthAttemptStarted⟩) :
      Delivered state .confirmHealth (.ok ()) { state with
        active := some active
        lastActivation := some ⟨attempt, active, .healthy⟩
        activeHealthConfirmed := true
        lastFailure := none }
  | restored {operation : DeliveryOperation} {failed lastKnownGood : DeliveryIdentity}
      {attempt : Nat} {earlier : DeliveryActivationOutcome} {kind : DeliveryFailureKind}
      (valid : Valid state) (rollback : operation.isRollback = true)
      (held : state.active = some failed)
      (evidence : state.lastActivation = some ⟨attempt, failed, earlier⟩)
      (open_ : earlier.isOpen = true) (kept : state.lastKnownGood = some lastKnownGood) :
      Delivered state operation (.ok ()) { state with
        active := some lastKnownGood
        activeHealthConfirmed := true
        lastKnownGood := none
        staged := none
        lastActivation := some ⟨attempt, failed, .rolledBack⟩
        lastFailure := some ⟨failed, kind⟩ }
  | abandoned {operation : DeliveryOperation} {failed : DeliveryIdentity} {attempt : Nat}
      {earlier : DeliveryActivationOutcome} {kind : DeliveryFailureKind} (valid : Valid state)
      (rollback : operation.isRollback = true) (held : state.active = some failed)
      (evidence : state.lastActivation = some ⟨attempt, failed, earlier⟩)
      (open_ : earlier.isOpen = true) (unkept : state.lastKnownGood = none) :
      Delivered state operation (.error .recoveryRequired) { state with
        active := none
        activeHealthConfirmed := false
        lastKnownGood := none
        staged := none
        lastActivation := some ⟨attempt, failed, .recoveryRequired⟩
        lastFailure := some ⟨failed, kind⟩ }

theorem delivered_of_valid {operation : DeliveryOperation} {next : DeliveryMethod Unit}
    (continues : Valid state →
      Delivered state operation (outcome next state).1 (outcome next state).2) :
    Delivered state operation
      (outcome (given state.validatePersisted >>= fun _ => next) state).1
      (outcome (given state.validatePersisted >>= fun _ => next) state).2 := by
  cases checked : state.validatePersisted with
  | error why => exact .refused
  | ok valid => exact continues (validatePersisted_eq_ok.mp checked)

theorem delivered_stage (candidate : VerifiedDeliveryCandidate) :
    Delivered state (.stage candidate) (outcome (stage candidate) state).1
      (outcome (stage candidate) state).2 := by
  unfold stage
  rw [outcome_get_bind]
  refine delivered_of_valid fun valid => ?_
  simp only [outcome_refuseWhen_bind, outcome_set]
  split
  next => exact .refused
  next later =>
  split
  next => exact .refused
  next distinct =>
  split
  next => exact .refused
  next =>
  split
  next => exact .refused
  next =>
    refine .staged valid fun active member => ?_
    have least : active.sequence ≤ candidate.identity.sequence :=
      Nat.not_lt.mp fun earlier => later ⟨active, member, earlier⟩
    rcases Nat.lt_or_eq_of_le least with newer | same
    · exact .inl newer
    · exact .inr (Decidable.not_not.mp fun other => distinct ⟨active, member, same.symm, other⟩)

theorem delivered_activateStaged (quiescent : Bool) :
    Delivered state (.activateStaged quiescent) (outcome (activateStaged quiescent) state).1
      (outcome (activateStaged quiescent) state).2 := by
  unfold activateStaged
  rw [outcome_get_bind]
  refine delivered_of_valid fun valid => ?_
  rw [outcome_refuseWhen_bind]
  split
  next => exact .refused
  next quiet =>
  cases quiescent with
  | false => exact absurd rfl quiet
  | true =>
  rw [outcome_set_bind]
  cases held : state.staged with
  | none =>
    have same : { state with staged := none } = state := by rw [← held]
    rw [same]
    exact .refused
  | some staged =>
  simp only [okOr, outcome_given_ok_bind]
  by_cases same : state.active = some staged
  · rw [if_pos same]
    exact .unstaged valid held same
  rw [if_neg same]
  unfold activateCandidate
  rw [outcome_get_bind]
  split
  next pending =>
    have restored : { state with staged := some staged } = state := by rw [← held]
    rw [outcome_set_bind]
    show Delivered state _ (.error .healthPending) { state with staged := some staged }
    rw [restored]
    exact .refused
  next free =>
  have free : Replaceable state := by
    by_contra stuck
    obtain ⟨present, unconfirmed, closed⟩ := not_or.mp stuck |>.imp_right not_or.mp
    refine free ⟨Option.isSome_iff_ne_none.mpr present, Bool.not_eq_true _ ▸ unconfirmed, ?_⟩
    rw [Option.any_eq_false]
    exact fun evidence member => Bool.not_eq_true _ ▸ fun shown => closed ⟨evidence, member, shown⟩
  cases counted : checkedAdd state.activationGeneration 1 with
  | none =>
    exact .exhausted valid ⟨rfl, checkedAdd_eq_none.mp counted, free, staged, held, same⟩
  | some attempt =>
    obtain ⟨rfl, fits⟩ := checkedAdd_eq_some.mp counted
    exact .activated valid held same free

theorem delivered_startHealthAttempt (candidate : DeliveryIdentity) (attempt : Nat) :
    Delivered state (.startHealthAttempt candidate attempt)
      (outcome (startHealthAttempt candidate attempt) state).1
      (outcome (startHealthAttempt candidate attempt) state).2 := by
  unfold startHealthAttempt
  rw [outcome_get_bind]
  refine delivered_of_valid fun valid => ?_
  rw [outcome_refuseWhen_bind]
  split
  next => exact .refused
  next current =>
  cases evidence : state.lastActivation with
  | none => exact .refused
  | some activation =>
  simp only [okOr, outcome_given_ok_bind, outcome_refuseWhen_bind]
  split
  next => exact .refused
  next named =>
  simp only [not_or, Decidable.not_not] at current named
  obtain ⟨found, known, earlier⟩ := activation
  obtain ⟨rfl, rfl⟩ := named
  cases earlier with
  | pendingHealth => exact .started valid current.2.1 current.2.2.2 evidence rfl
  | healthAttemptStarted =>
    have same : { state with lastActivation := some ⟨found, known, .healthAttemptStarted⟩ } =
        state := by rw [← evidence]
    have again := Delivered.started valid current.2.1 current.2.2.2 evidence rfl
    rw [same] at again
    exact again
  | healthy => exact .refused
  | rolledBack => exact .refused
  | recoveryRequired => exact .refused

theorem delivered_confirmHealth :
    Delivered state .confirmHealth (outcome confirmHealth state).1
      (outcome confirmHealth state).2 := by
  unfold confirmHealth
  rw [outcome_get_bind]
  refine delivered_of_valid fun valid => ?_
  cases held : state.active with
  | none => exact .refused
  | some active =>
  cases evidence : state.lastActivation with
  | none => exact .refused
  | some activation =>
  simp only [okOr, outcome_given_ok_bind, outcome_refuseWhen_bind]
  split
  next => exact .refused
  next named =>
  split
  next => exact .refused
  next begun =>
  obtain ⟨attempt, known, earlier⟩ := activation
  obtain rfl : known = active := Decidable.not_not.mp named
  obtain rfl : earlier = .healthAttemptStarted := Decidable.not_not.mp begun
  exact .confirmed valid held evidence

theorem delivered_rollback {operation : DeliveryOperation} (kind : DeliveryFailureKind)
    (expectedOutcome : DeliveryActivationOutcome) (rollback : operation.isRollback = true)
    (open_ : expectedOutcome.isOpen = true) :
    Delivered state operation (outcome (rollbackAfterFailure kind expectedOutcome) state).1
      (outcome (rollbackAfterFailure kind expectedOutcome) state).2 := by
  unfold rollbackAfterFailure
  rw [outcome_get_bind]
  refine delivered_of_valid fun valid => ?_
  cases held : state.active with
  | none => exact .refused
  | some failed =>
  cases evidence : state.lastActivation with
  | none => exact .refused
  | some activation =>
  simp only [okOr, outcome_given_ok_bind, outcome_refuseWhen_bind]
  split
  next => exact .refused
  next named =>
  split
  next => exact .refused
  next expected =>
  obtain ⟨attempt, known, earlier⟩ := activation
  obtain rfl : known = failed := Decidable.not_not.mp named
  obtain rfl : earlier = expectedOutcome := Decidable.not_not.mp expected
  cases kept : state.lastKnownGood with
  | none => exact .abandoned valid rollback held evidence open_ kept
  | some lastKnownGood => exact .restored valid rollback held evidence open_ kept

theorem delivered (state : DeliveryState) (operation : DeliveryOperation) :
    Delivered state operation (deliveries.step state operation).1
      (deliveries.step state operation).2 := by
  cases operation with
  | stage candidate => exact delivered_stage candidate
  | activateStaged quiescent => exact delivered_activateStaged quiescent
  | startHealthAttempt candidate attempt => exact delivered_startHealthAttempt candidate attempt
  | confirmHealth => exact delivered_confirmHealth
  | failHealthAndRollback => exact delivered_rollback _ _ rfl rfl
  | recoverInterruptedActivation => exact delivered_rollback _ _ rfl rfl
  | recoverInterruptedHandoff => exact delivered_rollback _ _ rfl rfl

end Operations

section History

/-- The release was activated by an earlier call, under the attempt. -/
def Activated (past : List DeliveryEntry) (candidate : DeliveryIdentity) (attempt : Nat) : Prop :=
  ∃ entry ∈ past, entry.input = .activateStaged true ∧ entry.output = .ok () ∧
    entry.after.active = some candidate ∧
    entry.after.lastActivation = some ⟨attempt, candidate, .pendingHealth⟩

/-- After its activation the attempt went from pending to started. -/
def HealthStarted (past : List DeliveryEntry) (candidate : DeliveryIdentity) (attempt : Nat) :
    Prop :=
  ∃ earlier entry rest, past = earlier ++ entry :: rest ∧ Activated earlier candidate attempt ∧
    entry.input = .startHealthAttempt candidate attempt ∧ entry.output = .ok () ∧
    entry.before.lastActivation = some ⟨attempt, candidate, .pendingHealth⟩ ∧
    entry.after.lastActivation = some ⟨attempt, candidate, .healthAttemptStarted⟩

/-- After its start the attempt went on to healthy while the release was active. -/
def HealthConfirmed (past : List DeliveryEntry) (candidate : DeliveryIdentity) (attempt : Nat) :
    Prop :=
  ∃ earlier entry rest, past = earlier ++ entry :: rest ∧ HealthStarted earlier candidate attempt ∧
    entry.input = .confirmHealth ∧ entry.output = .ok () ∧ entry.before.active = some candidate ∧
    entry.before.lastActivation = some ⟨attempt, candidate, .healthAttemptStarted⟩ ∧
    entry.after.lastActivation = some ⟨attempt, candidate, .healthy⟩

/-- A rollback made the release active that was the last known good, and it has stayed so. -/
def Restored (past : List DeliveryEntry) (release : DeliveryIdentity) : Prop :=
  ∃ earlier entry rest, past = earlier ++ entry :: rest ∧ entry.input.isRollback = true ∧
    entry.output = .ok () ∧ entry.before.lastKnownGood = some release ∧
    entry.after.active = some release ∧ ∀ later ∈ rest, later.after.active = some release

variable {past : List DeliveryEntry} {entry : DeliveryEntry} {release : DeliveryIdentity}
  {attempt : Nat}

theorem Activated.later (shown : Activated past release attempt) :
    Activated (past ++ [entry]) release attempt := by
  obtain ⟨earlier, member, facts⟩ := shown
  exact ⟨earlier, List.mem_append_left _ member, facts⟩

theorem HealthStarted.later (shown : HealthStarted past release attempt) :
    HealthStarted (past ++ [entry]) release attempt := by
  obtain ⟨earlier, started, rest, rfl, facts⟩ := shown
  exact ⟨earlier, started, rest ++ [entry], by simp, facts⟩

theorem HealthConfirmed.later (shown : HealthConfirmed past release attempt) :
    HealthConfirmed (past ++ [entry]) release attempt := by
  obtain ⟨earlier, confirmed, rest, rfl, facts⟩ := shown
  exact ⟨earlier, confirmed, rest ++ [entry], by simp, facts⟩

theorem Restored.later (shown : Restored past release)
    (stays : entry.after.active = some release) : Restored (past ++ [entry]) release := by
  obtain ⟨earlier, rollback, rest, rfl, facts⟩ := shown
  refine ⟨earlier, rollback, rest ++ [entry], by simp, facts.1, facts.2.1, facts.2.2.1,
    facts.2.2.2.1, fun later member => ?_⟩
  rcases List.mem_append.mp member with before | last
  · exact facts.2.2.2.2 later before
  · exact List.mem_singleton.mp last ▸ stays

end History

section Invariant

/-- What a reachable state holds, told from the calls so far. -/
structure Tracked (past : List DeliveryEntry) (state : DeliveryState) : Prop where
  valid : Valid state
  present : state.active.isSome = true → state.lastActivation.isSome = true
  current : ∀ evidence ∈ state.lastActivation, evidence.attempt = state.activationGeneration
  pending : ∀ attempt candidate, state.lastActivation = some ⟨attempt, candidate, .pendingHealth⟩ →
    Activated past candidate attempt
  started : ∀ attempt candidate,
    state.lastActivation = some ⟨attempt, candidate, .healthAttemptStarted⟩ →
    HealthStarted past candidate attempt
  healthy : ∀ attempt candidate, state.lastActivation = some ⟨attempt, candidate, .healthy⟩ →
    HealthConfirmed past candidate attempt
  restored : ∀ attempt candidate, state.lastActivation = some ⟨attempt, candidate, .rolledBack⟩ →
    ∀ active ∈ state.active, Restored past active ∧ ∃ attempt, HealthConfirmed past active attempt
  fallback : ∀ lastKnownGood ∈ state.lastKnownGood,
    (∃ attempt, HealthConfirmed past lastKnownGood attempt) ∧
      ∀ active ∈ state.active, lastKnownGood.sequence < active.sequence

theorem tracked_default : Tracked [] .default := by
  constructor
  · exact validatePersisted_eq_ok.mp rfl
  all_goals simp [DeliveryState.default]

variable {past : List DeliveryEntry} {state after : DeliveryState} {operation : DeliveryOperation}
  {answer : Except DeliveryStateError Unit}

/-- A call that keeps what is active and how it was activated keeps what is known of it. -/
theorem Tracked.kept (tracked : Tracked past state) (valid : Valid after)
    (active : after.active = state.active) (fallback : after.lastKnownGood = state.lastKnownGood)
    (generation : after.activationGeneration = state.activationGeneration)
    (activation : after.lastActivation = state.lastActivation) :
    Tracked (past ++ [⟨state, operation, answer, after⟩]) after := by
  constructor
  · exact valid
  · rw [active, activation]
    exact tracked.present
  · rw [activation, generation]
    exact tracked.current
  · rw [activation]
    exact fun attempt candidate known => (tracked.pending attempt candidate known).later
  · rw [activation]
    exact fun attempt candidate known => (tracked.started attempt candidate known).later
  · rw [activation]
    exact fun attempt candidate known => (tracked.healthy attempt candidate known).later
  · rw [activation]
    intro attempt candidate known release held
    obtain ⟨restored, attempt, confirmed⟩ :=
      tracked.restored attempt candidate known release (active ▸ held)
    exact ⟨restored.later held, attempt, confirmed.later⟩
  · rw [active, fallback]
    intro release kept
    obtain ⟨⟨attempt, confirmed⟩, below⟩ := tracked.fallback release kept
    exact ⟨⟨attempt, confirmed.later⟩, below⟩

theorem Valid.restaged (valid : Valid state) (staged : Option DeliveryIdentity)
    (known : ∀ release ∈ staged, validDeliveryIdentity release = true)
    (ascending : ∀ active ∈ state.active, ∀ release ∈ staged,
      active.sequence < release.sequence ∨ release = active) : Valid { state with staged } where
  identities := by
    intro identity member
    rcases mem_identities.mp member with active | kept | new | evidence | failure
    · exact valid.identities identity (mem_identities.mpr (.inl active))
    · exact valid.identities identity (mem_identities.mpr (.inr (.inl kept)))
    · exact known identity new
    · exact valid.identities identity (mem_identities.mpr (.inr (.inr (.inr (.inl evidence)))))
    · exact valid.identities identity (mem_identities.mpr (.inr (.inr (.inr (.inr failure)))))
  confirmed := valid.confirmed
  fallback := valid.fallback
  distinct := valid.distinct
  ascending := ascending
  activation := valid.activation
  failure := valid.failure

theorem Valid.unstaged (valid : Valid state) : Valid { state with staged := none } :=
  valid.restaged none (by simp) (by simp)

/-- What every call keeps of a run, whatever it is called with. -/
structure Sound (past : List DeliveryEntry) (entry : DeliveryEntry) : Prop where
  valid : entry.after.validatePersisted = .ok ()
  fallback : ∀ lastKnownGood ∈ entry.after.lastKnownGood,
    (∃ attempt, HealthConfirmed (past ++ [entry]) lastKnownGood attempt) ∧
      ∃ active ∈ entry.after.active, lastKnownGood.sequence < active.sequence
  confirmed : entry.after.activeHealthConfirmed = true → ∃ active ∈ entry.after.active,
    HealthConfirmed (past ++ [entry]) active entry.after.activationGeneration ∨
      Restored (past ++ [entry]) active
  ascends : ∀ active ∈ entry.before.active,
    (∃ next ∈ entry.after.active, active.sequence ≤ next.sequence) ∨
      entry.input.isRollback = true ∧ entry.after.active = entry.before.lastKnownGood

end Invariant

section Runs

variable {state : DeliveryState} {operation : DeliveryOperation}

theorem step_exhausted (accepted : state.validatePersisted = .ok ())
    (full : Exhausted state operation) : deliveries.step state operation =
      (.error .attemptCounterExhausted, { state with staged := none }) := by
  obtain ⟨rfl, counted, free, staged, held, other⟩ := full
  have overflow := checkedAdd_eq_none.mpr counted
  have idle : ¬(state.active.isSome = true ∧ state.activeHealthConfirmed = false ∧
      state.lastActivation.any (·.outcome.isOpen) = false) := by
    rintro ⟨present, unconfirmed, closed⟩
    rcases free with absent | confirmed | ⟨evidence, known, open_⟩
    · simp [absent] at present
    · simp [confirmed] at unconfirmed
    · simp [Option.mem_def.mp known, open_] at closed
  simp only [deliveries, deliver, activateStaged, activateCandidate, outcome_get_bind, accepted,
    outcome_given_ok_bind, outcome_refuseWhen_bind, outcome_set_bind, okOr, Option.mem_def.mp held]
  rw [if_neg (by simp), if_neg other, outcome_get_bind, if_neg idle, overflow]
  rfl

end Runs

namespace SampleDelivery

def digest : String := "aaaaaaaaaaaaaaaabbbbbbbbbbbbbbbbccccccccccccccccdddddddddddddddd"

def identity (sequence : Nat) : DeliveryIdentity :=
  ⟨sequence, releaseSetStart ++ digest, digest, profileBridgeStart ++ digest,
    runtimeBundleStart ++ digest⟩

/-- A repair is staged after the last attempt there is has ended without a fallback. -/
def used : DeliveryState :=
  ⟨none, false, none, some (identity 8), 0xffffffffffffffff,
    some ⟨0xffffffffffffffff, identity 7, .recoveryRequired⟩, none⟩

end SampleDelivery

end ProfilePlatform.WindowsDelivery
