import ProfilePlatform.Device.Job

/-! What an operation on a device job checks, and what it has changed before the version advances. -/

set_option autoImplicit false

namespace ProfilePlatform.Device

open Foundation

namespace DeviceJobOperation

def observedAt : DeviceJobOperation → UnixMillis
  | .claim _ observedAt _ | .heartbeat _ _ observedAt _ | .markProfileBusy _ _ observedAt _
  | .scheduleRetry _ _ observedAt _ | .expireClaim observedAt _ | .requireAuth _ _ observedAt
  | .resumeAfterAuth observedAt | .requireRecovery _ _ observedAt
  | .resumeAfterRecovery observedAt | .succeed _ _ observedAt | .fail _ _ observedAt
  | .cancel observedAt => observedAt

def isClaim : DeviceJobOperation → Bool
  | .claim .. => true
  | _ => false

end DeviceJobOperation

section Checks

/-- A running job whose claim is the one named and has not expired. -/
def HeldBy (job : DeviceJob) (claimId : DeviceClaimId) (fence : Nat) (observedAt : UnixMillis) :
    Prop :=
  job.status = .running ∧ ∃ claim ∈ job.activeClaim,
    claim.claimId = claimId ∧ claim.fence = fence ∧ claim.isExpired observedAt = false

/-- A job that a device may claim. -/
structure Claimable (job : DeviceJob) (observedAt leaseExpiresAt : UnixMillis) : Prop where
  live : job.status.isTerminal = false
  idle : job.status ≠ .running
  authorized : job.status ≠ .authRequired
  recovered : job.status ≠ .recoveryRequired
  due : ∀ retryAt ∈ job.retryAt, retryAt ≤ observedAt
  unclaimed : job.activeClaim = none
  left : job.attempt < job.maxAttempts
  fence : job.lastFence + 1 < u64Limit
  lease : observedAt < leaseExpiresAt
  counter : job.attempt + 1 < u32Limit

/-- The checks of an operation on a job, without the room the version needs. -/
def Accepts (job : DeviceJob) (operation : DeviceJobOperation) : Prop :=
  job.updatedAt ≤ operation.observedAt ∧ match operation with
    | .claim _ observedAt leaseExpiresAt =>
      Claimable job observedAt leaseExpiresAt
    | .heartbeat claimId fence observedAt leaseExpiresAt =>
      HeldBy job claimId fence observedAt ∧ ∀ claim ∈ job.activeClaim,
        claim.lastHeartbeatAt ≤ observedAt ∧ claim.leaseExpiresAt < leaseExpiresAt
    | .markProfileBusy claimId fence observedAt retryAt =>
      observedAt < retryAt ∧ HeldBy job claimId fence observedAt
    | .scheduleRetry claimId fence observedAt retryAt =>
      job.attempt < job.maxAttempts ∧ observedAt < retryAt ∧ HeldBy job claimId fence observedAt
    | .expireClaim observedAt retryAt =>
      job.status = .running ∧ (∃ claim ∈ job.activeClaim, claim.isExpired observedAt = true) ∧
        (job.attempt < job.maxAttempts → observedAt < retryAt)
    | .requireAuth claimId fence observedAt | .requireRecovery claimId fence observedAt
    | .succeed claimId fence observedAt | .fail claimId fence observedAt =>
      HeldBy job claimId fence observedAt
    | .resumeAfterAuth _ => job.status = .authRequired ∧ job.activeClaim = none
    | .resumeAfterRecovery _ => job.status = .recoveryRequired ∧ job.activeClaim = none
    | .cancel _ => job.status.isTerminal = false

/-- The job as an operation leaves it that has passed its checks and not advanced the version. -/
inductive Edited (job : DeviceJob) : DeviceJobOperation → DeviceJob → Prop where
  | claim {claimId : DeviceClaimId} {observedAt leaseExpiresAt : UnixMillis} {claim : DeviceClaim}
      (waits : job.status.isTerminal = false ∧ job.status ≠ .running)
      (left : job.attempt < job.maxAttempts)
      (issued : claim.snapshot = ⟨claimId, job.jobId, job.target, job.lastFence + 1, observedAt,
        observedAt, leaseExpiresAt⟩) :
      Edited job (.claim claimId observedAt leaseExpiresAt)
        { job with
          attempt := job.attempt + 1
          lastFence := job.lastFence + 1
          activeClaim := some claim
          retryAt := none
          status := .running }
  | heartbeat {claimId : DeviceClaimId} {fence : Nat} {observedAt leaseExpiresAt : UnixMillis}
      {claim extended : DeviceClaim} (running : job.status = .running)
      (held : job.activeClaim = some claim) (longer : claim.leaseExpiresAt < leaseExpiresAt)
      (kept : extended.snapshot = { claim.snapshot with
        lastHeartbeatAt := observedAt, leaseExpiresAt }) :
      Edited job (.heartbeat claimId fence observedAt leaseExpiresAt)
        { job with activeClaim := some extended }
  | release {operation : DeviceJobOperation} {status : DeviceJobStatus}
      {retryAt : Option UnixMillis} (other : operation.isClaim = false)
      (running : job.status = .running)
      (ends : status ≠ .running ∧ status ≠ .pendingDevice)
      (later : status.requiresRetry = retryAt.isSome)
      (future : ∀ retry ∈ retryAt, operation.observedAt < retry) :
      Edited job operation { job with activeClaim := none, status, retryAt }
  | resume {operation : DeviceJobOperation} (other : operation.isClaim = false)
      (aside : job.status ≠ .pendingDevice)
      (settled : job.status.requiresRetry = false) (unclaimed : job.activeClaim = none) :
      Edited job operation { job with status := .pendingDevice }
  | cancel {observedAt : UnixMillis} (live : job.status.isTerminal = false) :
      Edited job (.cancel observedAt)
        { job with activeClaim := none, retryAt := none, status := .cancelled }

end Checks

section Outcomes

variable {job : DeviceJob} {claimId : DeviceClaimId} {fence : Nat} {observedAt : UnixMillis}

theorem outcome_advance (job : DeviceJob) (observedAt : UnixMillis) :
    outcome (advance observedAt) job = match job.version.next with
      | none => (.error .versionOverflow, job)
      | some version => (.ok (), { job with version, updatedAt := observedAt }) := by
  unfold advance
  rw [outcome_get_bind]
  cases job.version.next <;> rfl

theorem outcome_ensureTime (job : DeviceJob) (observedAt : UnixMillis) :
    outcome (ensureTime observedAt) job =
      if observedAt < job.updatedAt then (.error .timeRegression, job) else (.ok (), job) := by
  unfold ensureTime
  rw [outcome_get_bind, outcome_refuseWhen]

theorem outcome_currentClaim (job : DeviceJob) (claimId : DeviceClaimId) (fence : Nat)
    (observedAt : UnixMillis) :
    (HeldBy job claimId fence observedAt ∧ ∃ claim, job.activeClaim = some claim ∧
      outcome (currentClaim claimId fence observedAt) job = (.ok claim, job)) ∨
    (¬HeldBy job claimId fence observedAt ∧
      ∃ why, outcome (currentClaim claimId fence observedAt) job = (.error why, job)) := by
  unfold currentClaim
  simp only [outcome_get_bind, outcome_refuseWhen_bind]
  split
  next idle => exact .inr ⟨fun held => idle held.1, _, rfl⟩
  next running =>
    cases active : job.activeClaim with
    | none =>
      refine .inr ⟨fun ⟨_, claim, member, _⟩ => ?_, _, rfl⟩
      rw [active] at member
      cases member
    | some claim =>
      simp only [okOr, outcome_given_ok_bind, outcome_refuseWhen_bind]
      have only : HeldBy job claimId fence observedAt ↔
          (claim.claimId = claimId ∧ claim.fence = fence) ∧ claim.isExpired observedAt = false := by
        simp [HeldBy, active, Decidable.not_not.mp running, and_assoc]
      split
      next stale => exact .inr ⟨fun held => by simp_all, _, rfl⟩
      next named =>
        split
        next expired => exact .inr ⟨fun held => by simp_all, _, rfl⟩
        next fresh =>
          refine .inl ⟨only.mpr ⟨?_, by simpa using fresh⟩, claim, rfl, rfl⟩
          simpa only [not_or, Decidable.not_not] using named

theorem outcome_releaseRunningClaim (job : DeviceJob) (claimId : DeviceClaimId) (fence : Nat)
    (observedAt : UnixMillis) :
    (job.updatedAt ≤ observedAt ∧ HeldBy job claimId fence observedAt ∧
      outcome (releaseRunningClaim claimId fence observedAt) job =
        (.ok (), { job with activeClaim := none })) ∨
    (¬(job.updatedAt ≤ observedAt ∧ HeldBy job claimId fence observedAt) ∧
      ∃ why, outcome (releaseRunningClaim claimId fence observedAt) job = (.error why, job)) := by
  unfold releaseRunningClaim
  rw [outcome_bind, outcome_ensureTime]
  by_cases regressed : observedAt < job.updatedAt
  · simp only [if_pos regressed]
    exact .inr ⟨fun ⟨later, _⟩ => absurd regressed (Nat.not_lt.mpr later), _, rfl⟩
  · simp only [if_neg regressed]
    rw [outcome_bind]
    obtain ⟨held, claim, -, found⟩ | ⟨strange, why, refused⟩ :=
      outcome_currentClaim job claimId fence observedAt
    · exact .inl ⟨Nat.not_lt.mp regressed, held, by rw [found]; rfl⟩
    · exact .inr ⟨fun ⟨_, held⟩ => strange held, why, by rw [refused]⟩

/-- An operation that a check stops leaves the job alone. One that passes its checks has edited
the job by the time the version advances. -/
def Operates (job : DeviceJob) (operation : DeviceJobOperation)
    (method : JobMethod Unit) : Prop :=
  (¬Accepts job operation ∧ ∃ why, outcome method job = (.error why, job)) ∨
  (Accepts job operation ∧ ∃ edited, Edited job operation edited ∧
    outcome method job = outcome (advance operation.observedAt) edited)

theorem operates_claim (claimId : DeviceClaimId) (observedAt leaseExpiresAt : UnixMillis) :
    Operates job (.claim claimId observedAt leaseExpiresAt)
      (operate (.claim claimId observedAt leaseExpiresAt)) := by
  unfold Operates
  simp only [operate, claim, bind_assoc]
  rw [outcome_bind, outcome_ensureTime]
  by_cases regressed : observedAt < job.updatedAt
  · simp only [if_pos regressed]
    exact .inl ⟨fun accepts => absurd regressed (Nat.not_lt.mpr accepts.1), _, rfl⟩
  simp only [if_neg regressed, outcome_get_bind, outcome_refuseWhen_bind]
  split
  next outside =>
    refine .inl ⟨fun ⟨_, claimable⟩ => ?_, _, rfl⟩
    rcases outside with terminal | running | auth
    · exact absurd terminal (by simp [claimable.live])
    · exact claimable.idle running
    · exact claimable.authorized auth
  next waits =>
  split
  next recovery => exact .inl ⟨fun ⟨_, claimable⟩ => claimable.recovered recovery, _, rfl⟩
  next usable =>
  split
  next early =>
    obtain ⟨retryAt, member, early⟩ := early
    exact .inl ⟨fun ⟨_, claimable⟩ => absurd early (Nat.not_lt.mpr (claimable.due _ member)), _, rfl⟩
  next due =>
  split
  next taken => exact .inl ⟨fun ⟨_, claimable⟩ => by simp [claimable.unclaimed] at taken, _, rfl⟩
  next unclaimed =>
  split
  next used => exact .inl ⟨fun ⟨_, claimable⟩ => absurd claimable.left (Nat.not_lt.mpr used), _, rfl⟩
  next left =>
  cases counted : checkedAdd job.lastFence 1 with
  | none =>
    exact .inl ⟨fun ⟨_, claimable⟩ => absurd claimable.fence
      (Nat.not_lt.mpr (checkedAdd_eq_none.mp counted)), _, rfl⟩
  | some fence =>
  obtain ⟨rfl, fits⟩ := checkedAdd_eq_some.mp counted
  simp only [okOr, outcome_given_ok_bind]
  by_cases short : leaseExpiresAt ≤ observedAt
  · rw [DeviceClaim.issue_refused short]
    exact .inl ⟨fun ⟨_, claimable⟩ => absurd claimable.lease (Nat.not_lt.mpr short), _, rfl⟩
  obtain ⟨claim, issued, stored⟩ := @DeviceClaim.issue_accepted claimId job.jobId job.target _ _ _
    (Nat.succ_ne_zero job.lastFence) (Nat.not_le.mp short)
  simp only [issued, mapError_ok, outcome_given_ok_bind, outcome_refuseWhen_bind]
  split
  next full => exact .inl ⟨fun ⟨_, claimable⟩ => absurd claimable.counter (Nat.not_lt.mpr full), _, rfl⟩
  next counter =>
  simp only [not_or, Bool.not_eq_true] at waits
  refine .inr ⟨⟨Nat.not_lt.mp regressed, ?_⟩, _, .claim ⟨waits.1, waits.2.1⟩ (Nat.not_le.mp left) stored, ?_⟩
  · exact {
      live := waits.1
      idle := waits.2.1
      authorized := waits.2.2
      recovered := usable
      due := fun retryAt member => Nat.not_lt.mp fun early => due ⟨retryAt, member, early⟩
      unclaimed := by simpa using unclaimed
      left := Nat.not_le.mp left
      fence := fits
      lease := Nat.not_le.mp short
      counter := Nat.not_le.mp counter }
  · simp only [outcome_set_bind, pure_bind, bind_pure_unit]
    rfl

theorem operates_heartbeat (claimId : DeviceClaimId) (fence : Nat)
    (observedAt leaseExpiresAt : UnixMillis) :
    Operates job (.heartbeat claimId fence observedAt leaseExpiresAt)
      (heartbeat claimId fence observedAt leaseExpiresAt) := by
  unfold Operates heartbeat
  rw [outcome_bind, outcome_ensureTime]
  by_cases regressed : observedAt < job.updatedAt
  · simp only [if_pos regressed]
    exact .inl ⟨fun accepts => absurd regressed (Nat.not_lt.mpr accepts.1), _, rfl⟩
  simp only [if_neg regressed]
  rw [outcome_bind]
  obtain ⟨held, claim, active, found⟩ | ⟨strange, why, refused⟩ :=
    outcome_currentClaim job claimId fence observedAt
  · rw [found]
    dsimp only
    by_cases longer : claim.lastHeartbeatAt ≤ observedAt ∧ claim.leaseExpiresAt < leaseExpiresAt
    · obtain ⟨running, other, member, named, fenced, fresh⟩ := held
      cases active.symm.trans member
      obtain ⟨extended, beats, kept⟩ := DeviceClaim.heartbeat_accepted longer.1 fresh longer.2
      refine .inr ⟨⟨Nat.not_lt.mp regressed, ⟨running, claim, active, named, fenced, fresh⟩, ?_⟩, _,
        .heartbeat running active longer.2 kept, by rw [beats]; rfl⟩
      intro other member
      cases active.symm.trans member
      exact longer
    · obtain ⟨why, refused⟩ := DeviceClaim.heartbeat_refused longer
      rw [refused]
      exact .inl ⟨fun accepts => longer (accepts.2.2 claim active), _, rfl⟩
  · rw [refused]
    exact .inl ⟨fun accepts => strange accepts.2.1, _, rfl⟩

/-- Methods that release the claim of a running job and set a status and a time of retry. -/
theorem operates_release {operation : DeviceJobOperation} {status : DeviceJobStatus}
    {retryAt : Option UnixMillis} {method : JobMethod Unit} (other : operation.isClaim = false)
    (ends : status ≠ .running ∧ status ≠ .pendingDevice)
    (later : status.requiresRetry = retryAt.isSome)
    (future : ∀ retry ∈ retryAt, operation.observedAt < retry)
    (accepts : Accepts job operation ↔
      job.updatedAt ≤ operation.observedAt ∧ HeldBy job claimId fence operation.observedAt)
    (releases : method = do
      releaseRunningClaim claimId fence operation.observedAt
      modify fun job => { job with status, retryAt }
      advance operation.observedAt) :
    Operates job operation method := by
  unfold Operates
  rw [releases, outcome_bind, accepts]
  obtain ⟨timely, held, released⟩ | ⟨strange, why, refused⟩ :=
    outcome_releaseRunningClaim job claimId fence operation.observedAt
  · exact .inr ⟨⟨timely, held⟩, _, .release other held.1 ends later future, by rw [released]; rfl⟩
  · exact .inl ⟨strange, why, by rw [refused]⟩

theorem operates_resumeAfter {operation : DeviceJobOperation} {status : DeviceJobStatus}
    (other : operation.isClaim = false) (aside : status ≠ .pendingDevice)
    (settled : status.requiresRetry = false)
    (accepts : Accepts job operation ↔ job.updatedAt ≤ operation.observedAt ∧
      job.status = status ∧ job.activeClaim = none) :
    Operates job operation (resumeAfter status operation.observedAt) := by
  unfold Operates resumeAfter
  rw [outcome_bind, outcome_ensureTime, accepts]
  by_cases regressed : operation.observedAt < job.updatedAt
  · simp only [if_pos regressed]
    exact .inl ⟨fun accepted => absurd regressed (Nat.not_lt.mpr accepted.1), _, rfl⟩
  simp only [if_neg regressed, outcome_get_bind, outcome_refuseWhen_bind]
  split
  next outside =>
    refine .inl ⟨fun ⟨_, named, unclaimed⟩ => ?_, _, rfl⟩
    rcases outside with strange | claimed
    · exact strange named
    · simp [unclaimed] at claimed
  next named =>
    simp only [not_or, Decidable.not_not, Bool.not_eq_true, Option.isSome_eq_false_iff,
      Option.isNone_iff_eq_none] at named
    obtain ⟨rfl, unclaimed⟩ := named
    exact .inr ⟨⟨Nat.not_lt.mp regressed, rfl, unclaimed⟩, _,
      .resume other aside settled unclaimed, rfl⟩

theorem operates_markProfileBusy (claimId : DeviceClaimId) (fence : Nat)
    (observedAt retryAt : UnixMillis) :
    Operates job (.markProfileBusy claimId fence observedAt retryAt)
      (markProfileBusy claimId fence observedAt retryAt) := by
  unfold Operates markProfileBusy
  rw [outcome_refuseWhen_bind]
  split
  next past => exact .inl ⟨fun accepts => absurd accepts.2.1 (Nat.not_lt.mpr past), _, rfl⟩
  next future =>
    have future : observedAt < retryAt := Nat.not_le.mp future
    refine operates_release rfl (by decide) rfl ?_ ?_ rfl
    · intro retry member
      cases member
      exact future
    · exact and_congr_right fun _ => and_iff_right future

theorem operates_scheduleRetry (claimId : DeviceClaimId) (fence : Nat)
    (observedAt retryAt : UnixMillis) :
    Operates job (.scheduleRetry claimId fence observedAt retryAt)
      (scheduleRetry claimId fence observedAt retryAt) := by
  unfold Operates scheduleRetry
  rw [outcome_get_bind, outcome_refuseWhen_bind]
  split
  next used => exact .inl ⟨fun accepts => absurd accepts.2.1 (Nat.not_lt.mpr used), _, rfl⟩
  next left =>
  rw [outcome_refuseWhen_bind]
  split
  next past => exact .inl ⟨fun accepts => absurd accepts.2.2.1 (Nat.not_lt.mpr past), _, rfl⟩
  next future =>
    have future : observedAt < retryAt := Nat.not_le.mp future
    refine operates_release rfl (by decide) rfl ?_ ?_ rfl
    · intro retry member
      cases member
      exact future
    · exact and_congr_right fun _ =>
        (and_iff_right (Nat.not_le.mp left)).trans (and_iff_right future)

theorem operates_expireClaim (observedAt retryAt : UnixMillis) :
    Operates job (.expireClaim observedAt retryAt) (operate (.expireClaim observedAt retryAt)) := by
  unfold Operates
  simp only [operate, expireClaim, bind_assoc]
  rw [outcome_bind, outcome_ensureTime]
  by_cases regressed : observedAt < job.updatedAt
  · simp only [if_pos regressed]
    exact .inl ⟨fun accepts => absurd regressed (Nat.not_lt.mpr accepts.1), _, rfl⟩
  simp only [if_neg regressed, outcome_get_bind, outcome_refuseWhen_bind]
  split
  next idle => exact .inl ⟨fun accepts => idle accepts.2.1, _, rfl⟩
  next running =>
  have running : job.status = .running := Decidable.not_not.mp running
  cases active : job.activeClaim with
  | none =>
    refine .inl ⟨fun accepts => ?_, _, rfl⟩
    obtain ⟨-, -, ⟨claim, member, -⟩, -⟩ := accepts
    simp [active] at member
  | some claim =>
  simp only [okOr, outcome_given_ok_bind, outcome_refuseWhen_bind]
  split
  next fresh =>
    refine .inl ⟨fun accepts => ?_, _, rfl⟩
    obtain ⟨-, -, ⟨other, member, expired⟩, -⟩ := accepts
    cases active.symm.trans member
    exact fresh expired
  next expired =>
  have expired : claim.isExpired observedAt = true := Decidable.not_not.mp expired
  have timely : job.updatedAt ≤ observedAt := Nat.not_lt.mp regressed
  unfold statusOnExpiry
  split
  next used =>
    have ends : DeviceJobStatus.failed ≠ .running ∧ DeviceJobStatus.failed ≠ .pendingDevice := by
      decide
    have never : ∀ retry ∈ (none : Option UnixMillis), observedAt < retry := by simp
    refine .inr ⟨⟨timely, running, ⟨claim, active, expired⟩, fun left => ?_⟩, _,
      .release rfl running ends rfl never, ?_⟩
    · exact absurd left (Nat.not_lt.mpr used)
    · simp only [outcome_given_ok_bind, outcome_set_bind, pure_bind, bind_pure_unit]
      rfl
  next left =>
  split
  next past =>
    refine .inl ⟨fun accepts => ?_, _, rfl⟩
    exact absurd (accepts.2.2.2 (Nat.not_le.mp left)) (Nat.not_lt.mpr past)
  next future =>
    have future : observedAt < retryAt := Nat.not_le.mp future
    have ends : DeviceJobStatus.retryScheduled ≠ .running ∧
        DeviceJobStatus.retryScheduled ≠ .pendingDevice := by decide
    have later : ∀ retry ∈ some retryAt, observedAt < retry := fun retry member => by
      cases member
      exact future
    refine .inr ⟨⟨timely, running, ⟨claim, active, expired⟩, fun _ => future⟩, _,
      .release rfl running ends rfl later, ?_⟩
    simp only [outcome_given_ok_bind, outcome_set_bind, pure_bind, bind_pure_unit]
    rfl

theorem operates_cancel (observedAt : UnixMillis) :
    Operates job (.cancel observedAt) (cancel observedAt) := by
  unfold Operates cancel
  rw [outcome_bind, outcome_ensureTime]
  by_cases regressed : observedAt < job.updatedAt
  · simp only [if_pos regressed]
    exact .inl ⟨fun accepts => absurd regressed (Nat.not_lt.mpr accepts.1), _, rfl⟩
  simp only [if_neg regressed, outcome_get_bind, outcome_refuseWhen_bind]
  split
  next terminal => exact .inl ⟨fun accepts => by simp [accepts.2] at terminal, _, rfl⟩
  next live =>
    have live : job.status.isTerminal = false := by simpa using live
    exact .inr ⟨⟨Nat.not_lt.mp regressed, live⟩, _, .cancel live, rfl⟩

theorem operates (job : DeviceJob) (operation : DeviceJobOperation) :
    Operates job operation (operate operation) := by
  cases operation with
  | claim claimId observedAt leaseExpiresAt => exact operates_claim ..
  | heartbeat claimId fence observedAt leaseExpiresAt => exact operates_heartbeat ..
  | markProfileBusy claimId fence observedAt retryAt => exact operates_markProfileBusy ..
  | scheduleRetry claimId fence observedAt retryAt => exact operates_scheduleRetry ..
  | expireClaim observedAt retryAt => exact operates_expireClaim ..
  | requireAuth claimId fence observedAt =>
    exact operates_release rfl (by decide) rfl (by simp) Iff.rfl rfl
  | resumeAfterAuth observedAt => exact operates_resumeAfter rfl (by decide) rfl Iff.rfl
  | requireRecovery claimId fence observedAt =>
    exact operates_release rfl (by decide) rfl (by simp) Iff.rfl rfl
  | resumeAfterRecovery observedAt => exact operates_resumeAfter rfl (by decide) rfl Iff.rfl
  | succeed claimId fence observedAt =>
    exact operates_release rfl (by decide) rfl (by simp) Iff.rfl rfl
  | fail claimId fence observedAt =>
    exact operates_release rfl (by decide) rfl (by simp) Iff.rfl rfl
  | cancel observedAt => exact operates_cancel ..

end Outcomes

end ProfilePlatform.Device
