import ProfilePlatform.Device.JobRuns

/-! What an accepted operation on a device job does, operation by operation. -/

set_option autoImplicit false

namespace ProfilePlatform.Device

open Foundation

/-- The job that an operation leaves once its checks are passed, but for the version and the time. -/
def effect (job : DeviceJob) : DeviceJobOperation → DeviceJob
  | .claim claimId observedAt leaseExpiresAt =>
    { job with
      attempt := job.attempt + 1
      lastFence := job.lastFence + 1
      activeClaim := (DeviceClaim.issue claimId job.jobId job.target (job.lastFence + 1) observedAt
        leaseExpiresAt).toOption
      retryAt := none
      status := .running }
  | .heartbeat _ _ observedAt leaseExpiresAt =>
    { job with activeClaim := job.activeClaim.bind fun claim =>
        (claim.heartbeat observedAt leaseExpiresAt).toOption }
  | .markProfileBusy _ _ _ retryAt =>
    { job with activeClaim := none, status := .profileBusy, retryAt := some retryAt }
  | .scheduleRetry _ _ _ retryAt =>
    { job with activeClaim := none, status := .retryScheduled, retryAt := some retryAt }
  | .expireClaim _ retryAt =>
    if job.maxAttempts ≤ job.attempt then
      { job with activeClaim := none, status := .failed, retryAt := none }
    else { job with activeClaim := none, status := .retryScheduled, retryAt := some retryAt }
  | .requireAuth .. => { job with activeClaim := none, status := .authRequired, retryAt := none }
  | .requireRecovery .. =>
    { job with activeClaim := none, status := .recoveryRequired, retryAt := none }
  | .succeed .. => { job with activeClaim := none, status := .succeeded, retryAt := none }
  | .fail .. => { job with activeClaim := none, status := .failed, retryAt := none }
  | .cancel _ => { job with activeClaim := none, status := .cancelled, retryAt := none }
  | .resumeAfterAuth _ | .resumeAfterRecovery _ => { job with status := .pendingDevice }

section Outcomes

variable {job : DeviceJob} {claimId : DeviceClaimId} {fence : Nat}
  {observedAt leaseExpiresAt retryAt : UnixMillis}

theorem effect_version (job : DeviceJob) (operation : DeviceJobOperation) :
    (effect job operation).version = job.version := by
  cases operation <;> try rfl
  next observedAt retryAt =>
    show (if job.maxAttempts ≤ job.attempt then _ else _ : DeviceJob).version = job.version
    split <;> rfl

theorem outcome_ensureTime_of_le (later : job.updatedAt ≤ observedAt) :
    outcome (ensureTime observedAt) job = (.ok (), job) := by
  rw [outcome_ensureTime, if_neg (Nat.not_lt.mpr later)]

theorem outcome_claim (later : job.updatedAt ≤ observedAt)
    (claimable : Claimable job observedAt leaseExpiresAt) :
    ∃ claim, DeviceClaim.issue claimId job.jobId job.target (job.lastFence + 1) observedAt
        leaseExpiresAt = .ok claim ∧
      outcome (Device.claim claimId observedAt leaseExpiresAt) job =
        outcome (do advance observedAt; return claim)
          (effect job (.claim claimId observedAt leaseExpiresAt)) := by
  obtain ⟨claim, issued, -⟩ := @DeviceClaim.issue_accepted claimId job.jobId job.target _ _ _
    (Nat.succ_ne_zero job.lastFence) claimable.lease
  have waits : ¬(job.status.isTerminal ∨ job.status = .running ∨ job.status = .authRequired) := by
    simp [claimable.live, claimable.idle, claimable.authorized]
  have due : ¬∃ retryAt ∈ job.retryAt, observedAt < retryAt := fun ⟨retryAt, member, early⟩ =>
    absurd early (Nat.not_lt.mpr (claimable.due retryAt member))
  have unclaimed : ¬job.activeClaim.isSome := by simp [claimable.unclaimed]
  have counted : checkedAdd job.lastFence 1 = some (job.lastFence + 1) :=
    checkedAdd_eq_some.mpr ⟨rfl, claimable.fence⟩
  refine ⟨claim, issued, ?_⟩
  unfold Device.claim
  rw [outcome_bind, outcome_ensureTime_of_le later]
  simp only [outcome_get_bind, outcome_refuseWhen_bind, if_neg waits, if_neg claimable.recovered,
    if_neg due, if_neg unclaimed, if_neg (Nat.not_le.mpr claimable.left), counted, okOr,
    outcome_given_ok_bind, issued, mapError_ok, if_neg (Nat.not_le.mpr claimable.counter),
    outcome_set_bind, effect, Except.toOption]

theorem outcome_releaseRunningClaim_of_held (later : job.updatedAt ≤ observedAt)
    (held : HeldBy job claimId fence observedAt) :
    outcome (releaseRunningClaim claimId fence observedAt) job =
      (.ok (), { job with activeClaim := none }) := by
  obtain ⟨-, -, released⟩ | ⟨strange, -⟩ :=
    outcome_releaseRunningClaim job claimId fence observedAt
  · exact released
  · exact absurd ⟨later, held⟩ strange

theorem outcome_currentClaim_of_held (held : HeldBy job claimId fence observedAt) :
    ∃ claim, job.activeClaim = some claim ∧
      outcome (currentClaim claimId fence observedAt) job = (.ok claim, job) := by
  obtain ⟨-, found⟩ | ⟨strange, -⟩ := outcome_currentClaim job claimId fence observedAt
  · exact found
  · exact absurd held strange

theorem outcome_endClaim (status : DeviceJobStatus) (later : job.updatedAt ≤ observedAt)
    (held : HeldBy job claimId fence observedAt) :
    outcome (endClaim status claimId fence observedAt) job =
      outcome (advance observedAt) { job with activeClaim := none, status, retryAt := none } := by
  unfold endClaim
  rw [outcome_bind, outcome_releaseRunningClaim_of_held later held]
  rfl

theorem outcome_resumeAfter {status : DeviceJobStatus} (later : job.updatedAt ≤ observedAt)
    (named : job.status = status) (unclaimed : job.activeClaim = none) :
    outcome (resumeAfter status observedAt) job =
      outcome (advance observedAt) { job with status := .pendingDevice } := by
  unfold resumeAfter
  rw [outcome_bind, outcome_ensureTime_of_le later]
  have aside : ¬(job.status ≠ status ∨ job.activeClaim.isSome) := by simp [named, unclaimed]
  simp only [outcome_get_bind, outcome_refuseWhen_bind, if_neg aside, outcome_modify_bind]

theorem outcome_heartbeat (later : job.updatedAt ≤ observedAt)
    (held : HeldBy job claimId fence observedAt)
    (extends_ : ∀ claim ∈ job.activeClaim,
      claim.lastHeartbeatAt ≤ observedAt ∧ claim.leaseExpiresAt < leaseExpiresAt) :
    outcome (heartbeat claimId fence observedAt leaseExpiresAt) job =
      outcome (advance observedAt)
        (effect job (.heartbeat claimId fence observedAt leaseExpiresAt)) := by
  obtain ⟨claim, active, found⟩ := outcome_currentClaim_of_held held
  obtain ⟨-, other, member, -, -, fresh⟩ := held
  cases active.symm.trans member
  obtain ⟨behind, longer⟩ := extends_ claim active
  obtain ⟨extended, beats, -⟩ := DeviceClaim.heartbeat_accepted behind fresh longer
  unfold heartbeat
  rw [outcome_bind, outcome_ensureTime_of_le later]
  dsimp only
  rw [outcome_bind, found]
  simp only [beats, mapError_ok, outcome_given_ok_bind, outcome_modify_bind, effect, active,
    Option.bind_some, Except.toOption]

theorem outcome_expireClaim (later : job.updatedAt ≤ observedAt) (running : job.status = .running)
    (expired : ∃ claim ∈ job.activeClaim, claim.isExpired observedAt = true)
    (future : job.attempt < job.maxAttempts → observedAt < retryAt) :
    outcome (operate (.expireClaim observedAt retryAt)) job =
      outcome (advance observedAt) (effect job (.expireClaim observedAt retryAt)) := by
  obtain ⟨claim, active, expired⟩ := expired
  simp only [operate, expireClaim, bind_assoc]
  rw [outcome_bind, outcome_ensureTime_of_le later]
  simp only [outcome_get_bind, outcome_refuseWhen_bind, running, ne_eq, not_true_eq_false,
    if_false, Option.mem_def.mp active, okOr, outcome_given_ok_bind, expired, statusOnExpiry]
  unfold effect
  split
  next used =>
    simp only [outcome_given_ok_bind, outcome_set_bind, pure_bind, bind_pure_unit]
    rfl
  next left =>
    simp only [if_neg (Nat.not_le.mpr (future (Nat.not_le.mp left))), outcome_given_ok_bind,
      outcome_set_bind, pure_bind, bind_pure_unit]
    rfl

/-- An accepted operation advances the version of the job as it has changed it. -/
theorem outcome_of_accepts {operation : DeviceJobOperation} (accepts : Accepts job operation) :
    outcome (operate operation) job =
      outcome (advance operation.observedAt) (effect job operation) := by
  obtain ⟨later, accepts⟩ := accepts
  cases operation <;> dsimp only [DeviceJobOperation.observedAt] at later accepts ⊢
  case claim claimId observedAt leaseExpiresAt =>
    have claims : ∃ claim, _ ∧ outcome (Device.claim claimId observedAt leaseExpiresAt) job = _ :=
      outcome_claim later accepts
    obtain ⟨claim, -, claims⟩ := claims
    simp only [operate]
    rw [outcome_bind, claims, ← outcome_bind]
    simp only [bind_assoc, pure_bind, bind_pure_unit]
  case heartbeat claimId fence observedAt leaseExpiresAt =>
    exact outcome_heartbeat later accepts.1 accepts.2
  case markProfileBusy claimId fence observedAt retryAt =>
    simp only [operate, markProfileBusy]
    rw [outcome_refuseWhen_bind, if_neg (Nat.not_le.mpr accepts.1), outcome_bind,
      outcome_releaseRunningClaim_of_held later accepts.2]
    rfl
  case scheduleRetry claimId fence observedAt retryAt =>
    simp only [operate, scheduleRetry]
    rw [outcome_get_bind, outcome_refuseWhen_bind, if_neg (Nat.not_le.mpr accepts.1),
      outcome_refuseWhen_bind, if_neg (Nat.not_le.mpr accepts.2.1), outcome_bind,
      outcome_releaseRunningClaim_of_held later accepts.2.2]
    rfl
  case expireClaim observedAt retryAt =>
    exact outcome_expireClaim later accepts.1 accepts.2.1 accepts.2.2
  case requireAuth claimId fence observedAt => exact outcome_endClaim _ later accepts
  case resumeAfterAuth observedAt => exact outcome_resumeAfter later accepts.1 accepts.2
  case requireRecovery claimId fence observedAt => exact outcome_endClaim _ later accepts
  case resumeAfterRecovery observedAt => exact outcome_resumeAfter later accepts.1 accepts.2
  case succeed claimId fence observedAt => exact outcome_endClaim _ later accepts
  case fail claimId fence observedAt => exact outcome_endClaim _ later accepts
  case cancel observedAt =>
    simp only [operate, cancel]
    rw [outcome_bind, outcome_ensureTime_of_le later]
    simp only [outcome_get_bind, outcome_refuseWhen_bind, accepts, Bool.false_eq_true, if_false,
      outcome_modify_bind]
    rfl

end Outcomes

section Steps

variable {job : DeviceJob} {operation : DeviceJobOperation}

theorem step_eq_ok_iff : (deviceJobs.step job operation).1 = .ok () ↔
    Accepts job operation ∧ job.version.value + 1 < u64Limit := by
  simp only [deviceJobs]
  obtain ⟨refuses, why, refused⟩ | ⟨accepts, edited, changed, ends⟩ := operates job operation
  · simp [refused, refuses]
  · rw [ends, outcome_advance, changed.version_eq]
    by_cases room : job.version.value + 1 < u64Limit <;>
      simp [AggregateVersion.next, room, accepts]

theorem after_of_success (done : (deviceJobs.step job operation).1 = .ok ()) :
    ∃ version, job.version.next = some version ∧
      (deviceJobs.step job operation).2 =
        { effect job operation with version, updatedAt := operation.observedAt } := by
  obtain ⟨accepts, room⟩ := step_eq_ok_iff.mp done
  simp only [deviceJobs] at done ⊢
  rw [outcome_of_accepts accepts, outcome_advance, effect_version] at done ⊢
  cases next : job.version.next with
  | none => simp [next] at done
  | some version => exact ⟨version, rfl, rfl⟩

end Steps

end ProfilePlatform.Device
