import ProfilePlatform.Session.Apply

/-! The representation invariant of the coordinator and the checkpoint round trip.

The invariant has two halves. The shape says which fields go together under each
status. The lease order says how the deadlines of a present lease lie. Each half
is kept by every transition; a commit adds the counters.
-/

set_option autoImplicit false

namespace ProfilePlatform.Session

open Foundation

@[simp] theorem CoordinatorConfig.new_accepted (config : CoordinatorConfig) :
    CoordinatorConfig.new config.idleTimeoutMs config.hardTimeoutMs config.drainTimeoutMs =
      .ok config := by
  have ordered := Nat.not_lt.mpr config.idle_le_hard
  simp [CoordinatorConfig.new, config.idle_pos, config.hard_pos, config.drain_pos, ordered]

namespace ProfileCoordinatorState

variable {s t : ProfileCoordinatorState} {envelope : CoordinatorCommandEnvelope}
  {decision : CoordinatorDecision}

/-- Which of the launch, lease and recovery fields go together. -/
structure Shape (s : ProfileCoordinatorState) : Prop where
  leased : s.activeLease.isSome = true ↔ s.writing
  draining : s.drainDeadline.isSome = true ↔ s.status = .draining
  pending : s.pendingIntent.isSome = true → s.status = .idle ∧ s.activeLease = none
  reserved : s.recoveryClaimPending = true → s.status = .idle ∧ s.activeLease = none

/-- The writer of the current epoch, with its deadlines in order. -/
structure LeaseOrdered (s : ProfileCoordinatorState) (lease : CoordinatorLease) : Prop where
  current : lease.epoch = s.nextEpoch
  counted : lease.epoch ≠ 0
  claimed : lease.claimedAt ≤ lease.lastHeartbeatAt
  alive : lease.lastHeartbeatAt ≤ lease.idleExpiresAt
  bounded : lease.idleExpiresAt ≤ lease.hardExpiresAt

/-- A state without writer, deadline, intent and reservation is in shape under any resting status. -/
theorem Shape.rest (free : s.activeLease = none) (noDeadline : s.drainDeadline = none)
    (resting : s.status = .idle ∨ ¬s.writing ∧ s.pendingIntent = none ∧
      s.recoveryClaimPending = false) : s.Shape := by
  rcases resting with idle | ⟨quiet, noIntent, unreserved⟩
  · have notWriting : ¬s.writing := by rintro (active | draining) <;> simp_all
    constructor <;> simp [free, noDeadline, idle, notWriting]
  · have notDraining : s.status ≠ .draining := fun draining => quiet (.inr draining)
    constructor <;> simp [free, noDeadline, quiet, noIntent, unreserved, notDraining]

theorem Shape.expired (shape : s.Shape) (held : s.activeLease.isSome = true) :
    s.expired.Shape := by
  have unreserved : s.recoveryClaimPending = false := by
    cases reserved : s.recoveryClaimPending with
    | false => rfl
    | true => simp [(shape.reserved reserved).2] at held
  exact .rest rfl rfl (.inr ⟨by rintro (active | draining) <;> contradiction, rfl, unreserved⟩)

theorem Accepts.shape {command : CoordinatorCommand} {outcome : CoordinatorOutcome}
    (accepts : s.Accepts command outcome t) (shape : s.Shape) : t.Shape := by
  -- what the shape rules out before the step, used by several transitions below
  have noDeadline (resting : s.status ≠ .draining) : s.drainDeadline = none := by
    cases present : s.drainDeadline with
    | none => rfl
    | some deadline => exact absurd (shape.draining.mp (by rw [present]; rfl)) resting
  have unreserved {lease} (held : s.activeLease = some lease) : s.recoveryClaimPending = false := by
    cases reserved : s.recoveryClaimPending with
    | false => rfl
    | true => cases held.symm.trans (shape.reserved reserved).2
  have noIntent {lease} (held : s.activeLease = some lease) : s.pendingIntent = none := by
    cases pending : s.pendingIntent with
    | none => rfl
    | some intent => cases held.symm.trans (shape.pending (by rw [pending]; rfl)).2
  cases accepts with
  | issue future free idle noLive => exact .rest free (noDeadline (by simp [idle])) (.inl idle)
  | recover recoverable free noLive future => exact .rest free rfl (.inl rfl)
  | claim idle free pending live epochFits idleFits hardFits =>
    constructor <;> simp [writing]
  | keep form writing held ordered inTime idleFits =>
    exact {
      leased := ⟨fun _ => writing, fun _ => rfl⟩
      draining := shape.draining
      pending := fun present => by rw [noIntent held] at present; contradiction
      reserved := fun present => by rw [unreserved held] at present; contradiction }
  | @release lease disposition now held inTime =>
    refine .rest rfl rfl ?_
    cases disposition with
    | clean => exact .inl rfl
    | dirty => exact .inr ⟨by rintro (active | draining) <;> contradiction, rfl, unreserved held⟩
    | uncertain => exact .inr ⟨by rintro (active | draining) <;> contradiction, rfl, unreserved held⟩
  | drain active held inTime drainFits =>
    exact {
      leased := ⟨fun _ => .inr rfl, fun _ => by rw [held]; rfl⟩
      draining := ⟨fun _ => rfl, fun _ => rfl⟩
      pending := fun present => by rw [noIntent held] at present; contradiction
      reserved := fun present => by rw [unreserved held] at present; contradiction }
  | timeout held looks due => exact shape.expired (by rw [held]; rfl)
  | intentExpired pending lapsed =>
    obtain ⟨idle, free⟩ := shape.pending (by rw [pending]; rfl)
    exact .rest free (noDeadline (by simp [idle])) (.inl idle)
  | quiet alive inTime => exact shape
  | recovered free required => exact .rest free rfl (.inl rfl)

theorem timeoutKind_none {lease : CoordinatorLease} {now : UnixMillis}
    (inTime : s.timeoutKind lease now = none) :
    now < lease.hardExpiresAt ∧ now < lease.idleExpiresAt := by
  unfold timeoutKind at inTime
  split at inTime
  · cases inTime
  split at inTime
  · cases inTime
  split at inTime
  · cases inTime
  next hard idle => exact ⟨Nat.not_le.mp hard, Nat.not_le.mp idle⟩

/-- A present lease was either there before with its heartbeat no later, or
carries the time of the command that made or renewed it. -/
theorem Accepts.leaseOrdered {command : CoordinatorCommand} {outcome : CoordinatorOutcome}
    (accepts : s.Accepts command outcome t)
    (ordered : ∀ lease, s.activeLease = some lease → s.LeaseOrdered lease)
    {lease : CoordinatorLease} (held : t.activeLease = some lease) :
    t.LeaseOrdered lease ∧
      (s.activeLease = some lease ∨ lease.lastHeartbeatAt = command.observedAt) := by
  cases accepts with
  | issue | intentExpired | quiet => exact ⟨{ ordered lease held with }, .inl held⟩
  | drain active present inTime drainFits => exact ⟨{ ordered lease held with }, .inl held⟩
  | recover recoverable free noLive future => cases free.symm.trans held
  | recovered free required => cases free.symm.trans held
  | release present inTime => cases held
  | timeout present looks due => cases held
  | claim idle free pending live epochFits idleFits hardFits =>
    cases held
    refine ⟨⟨rfl, Nat.succ_ne_zero _, Nat.le_refl _, Nat.le_add_right _ _, ?_⟩, .inr rfl⟩
    exact Nat.add_le_add_left s.config.idle_le_hard _
  | @keep before now hard command form writing present notEarlier inTime idleFits =>
    cases held
    obtain ⟨current, counted, claimed, -, -⟩ := ordered before present
    obtain ⟨beforeHard, -⟩ := timeoutKind_none inTime
    have observed : now = command.observedAt := by
      rcases form with ⟨rfl, -⟩ | ⟨rfl, -, -⟩ <;> rfl
    -- the old deadline has not passed, and a renewed one lies after `now`
    have alive : now ≤ hard := by
      rcases form with ⟨-, rfl⟩ | ⟨-, rfl, -⟩
      · exact Nat.le_of_lt beforeHard
      · exact Nat.le_add_right _ _
    refine ⟨⟨current, counted, Nat.le_trans claimed notEarlier, ?_, Nat.min_le_right _ _⟩,
      .inr observed⟩
    exact Nat.le_min.mpr ⟨Nat.le_add_right _ _, alive⟩

/-- What every reachable coordinator state satisfies. -/
structure WellFormed (s : ProfileCoordinatorState) : Prop where
  leased : s.activeLease.isSome = true ↔ s.status = .active ∨ s.status = .draining
  draining : s.drainDeadline.isSome = true ↔ s.status = .draining
  pending : s.pendingIntent.isSome = true → s.status = .idle ∧ s.activeLease = none
  reserved : s.recoveryClaimPending = true → s.status = .idle ∧ s.activeLease = none
  numbered : s.version.value = s.lastSequence + 1
  versionFits : s.version.value < u64Limit
  lease : ∀ lease, s.activeLease = some lease → s.LeaseOrdered lease
  observed : ∀ lease, s.activeLease = some lease → lease.lastHeartbeatAt ≤ s.lastObservedAt

theorem WellFormed.shape (wellFormed : s.WellFormed) : s.Shape :=
  { wellFormed with }

theorem new_wellFormed (tenantId : TenantId) (profileId : ProfileId) (config : CoordinatorConfig) :
    (new tenantId profileId config).WellFormed := by
  constructor <;> simp [new, AggregateVersion.initial, u64Limit]

theorem Commits.wellFormed (commits : s.Commits envelope decision t)
    (wellFormed : s.WellFormed) : t.WellFormed := by
  obtain ⟨-, version, sequence, -⟩ := commits.advances
  obtain ⟨after, accepts, rfl⟩ := commits.transition
  have shape := accepts.shape wellFormed.shape
  exact {
    leased := shape.leased
    draining := shape.draining
    pending := shape.pending
    reserved := shape.reserved
    numbered := by rw [version, sequence, wellFormed.numbered]
    versionFits := (AggregateVersion.next_eq_some commits.nextVersion).2
    lease := fun lease held => { (accepts.leaseOrdered wellFormed.lease held).1 with }
    observed := fun lease held => by
      rcases (accepts.leaseOrdered wellFormed.lease held).2 with before | now
      · exact Nat.le_trans (wellFormed.observed lease before) commits.inOrder
      · exact Nat.le_of_eq now }

theorem apply_invariant (Inv : ProfileCoordinatorState → Prop)
    (kept : ∀ {s t envelope decision}, Commits s envelope decision t → Inv s → Inv t)
    (s : ProfileCoordinatorState) (envelope : CoordinatorCommandEnvelope) (held : Inv s) :
    Inv (s.apply envelope).2 := by
  rcases s.apply_cases envelope with ⟨why, refused⟩ | ⟨receipt, -, -, -, replayed⟩ |
    ⟨decision, t, commits, applied⟩
  · rwa [refused]
  · rwa [replayed]
  · rw [applied]
    exact kept commits held

theorem reachable_wellFormed (tenantId : TenantId) (profileId : ProfileId)
    (config : CoordinatorConfig) (inputs : List CoordinatorCommandEnvelope) :
    (coordinator.final (new tenantId profileId config) inputs).WellFormed :=
  coordinator.invariant WellFormed (apply_invariant WellFormed Commits.wellFormed)
    (new_wellFormed tenantId profileId config) inputs

theorem reachable_identity (s : ProfileCoordinatorState)
    (inputs : List CoordinatorCommandEnvelope) :
    (coordinator.final s inputs).tenantId = s.tenantId ∧
      (coordinator.final s inputs).profileId = s.profileId ∧
      (coordinator.final s inputs).config = s.config := by
  refine coordinator.invariant (fun t => t.tenantId = s.tenantId ∧ t.profileId = s.profileId ∧
    t.config = s.config) (apply_invariant _ ?_) ⟨rfl, rfl, rfl⟩ inputs
  rintro t u envelope decision commits ⟨tenant, profile, config⟩
  obtain ⟨sameTenant, sameProfile, sameConfig⟩ := commits.identity
  exact ⟨sameTenant.trans tenant, sameProfile.trans profile, sameConfig.trans config⟩

theorem WellFormed.not_refused (wellFormed : s.WellFormed) :
    checkpointRefused s.checkpoint (s.lastSequence + 1) = false := by
  obtain ⟨leased, draining, pending, reserved, numbered, -, lease, -⟩ := wellFormed
  have epoch : s.activeLease.any (fun lease => decide (lease.epoch > s.nextEpoch)) = false := by
    cases held : s.activeLease with
    | none => rfl
    | some present => exact decide_eq_false (Nat.not_lt.mpr (Nat.le_of_eq (lease present held).current))
  have writer : s.activeLease.isSome = (s.status == .active || s.status == .draining) := by
    rw [Bool.eq_iff_iff, leased]
    simp
  have deadline : s.drainDeadline.isSome = (s.status == .draining) := by
    rw [Bool.eq_iff_iff, draining]
    simp
  have intent : (s.pendingIntent.isSome && (s.status != .idle || s.activeLease.isSome)) = false := by
    rw [Bool.and_eq_false_imp]
    intro present
    simp [pending present]
  have reservation :
      (s.recoveryClaimPending && (s.status != .idle || s.activeLease.isSome)) = false := by
    rw [Bool.and_eq_false_imp]
    intro present
    simp [reserved present]
  -- none of the six reasons to refuse holds
  rw [writer] at intent reservation
  simp [checkpointRefused, checkpoint, numbered, epoch, writer, deadline, intent, reservation]

theorem WellFormed.restoreCheckpoint (wellFormed : s.WellFormed) :
    restoreCheckpoint s.tenantId s.profileId s.config s.checkpoint = .ok (s.remembering []) := by
  have fits : s.lastSequence + 1 < u64Limit := wellFormed.numbered ▸ wellFormed.versionFits
  have counted : checkedAdd s.checkpoint.sequence 1 = some (s.lastSequence + 1) :=
    checkedAdd_eq_some.mpr ⟨rfl, fits⟩
  simp only [ProfileCoordinatorState.restoreCheckpoint, counted, wellFormed.not_refused,
    Bool.false_eq_true, if_false]
  rfl

theorem LeaseOrdered.restored {lease : CoordinatorLease} (ordered : s.LeaseOrdered lease) :
    CoordinatorLease.restored lease.sessionId lease.deviceId lease.epoch lease.fencingToken
      lease.claimedAt lease.lastHeartbeatAt lease.idleExpiresAt lease.hardExpiresAt = .ok lease := by
  simp [CoordinatorLease.restored, ordered.counted, Nat.not_lt.mpr ordered.claimed,
    Nat.not_lt.mpr ordered.alive, Nat.not_lt.mpr ordered.bounded]

/-- Reachable states keep their invariant and come back from their own checkpoint. -/
theorem reachable_representation (tenantId : TenantId) (profileId : ProfileId)
    (config : CoordinatorConfig) (inputs : List CoordinatorCommandEnvelope) :
    let s := coordinator.final (new tenantId profileId config) inputs
    s.WellFormed ∧
      ProfileCoordinatorState.restoreCheckpoint tenantId profileId config s.checkpoint =
        .ok { s with receipts := [] } ∧
      ∀ lease, s.activeLease = some lease →
        CoordinatorLease.restored lease.sessionId lease.deviceId lease.epoch lease.fencingToken
          lease.claimedAt lease.lastHeartbeatAt lease.idleExpiresAt lease.hardExpiresAt =
            .ok lease := by
  intro s
  have wellFormed : s.WellFormed := reachable_wellFormed tenantId profileId config inputs
  obtain ⟨tenant, profile, sameConfig⟩ :
      s.tenantId = tenantId ∧ s.profileId = profileId ∧ s.config = config :=
    reachable_identity (new tenantId profileId config) inputs
  refine ⟨wellFormed, ?_, fun lease held => (wellFormed.lease lease held).restored⟩
  have restored := wellFormed.restoreCheckpoint
  rwa [tenant, profile, sameConfig] at restored

end ProfileCoordinatorState

end ProfilePlatform.Session
