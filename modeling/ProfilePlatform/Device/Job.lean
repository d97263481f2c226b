import ProfilePlatform.Foundation.Fallible
import ProfilePlatform.Foundation.Leads
import ProfilePlatform.Primitives

/-! The claim of a device on a job: a fence, and a lease that only a heartbeat extends.

A claim is built with its fence and its timeline in order, so only a stored claim can be out of
order, and restoring refuses it.
-/

set_option autoImplicit false

namespace ProfilePlatform.Device

open Foundation

structure DeviceJobTarget where
  tenantId : TenantId
  deviceId : DeviceId
  profileId : ProfileId
  generationId : GenerationId
  deriving DecidableEq

inductive DeviceClaimError where
  | invalidLease
  | invalidTimeline
  | invalidLeaseExtension
  | leaseExpired
  | timeRegression
  deriving DecidableEq, Repr

/-- Stored metadata of a claim, which may be corrupt. -/
structure DeviceClaimSnapshot where
  claimId : DeviceClaimId
  jobId : DeviceJobId
  target : DeviceJobTarget
  fence : Nat
  claimedAt : UnixMillis
  lastHeartbeatAt : UnixMillis
  leaseExpiresAt : UnixMillis
  deriving DecidableEq

structure DeviceClaim extends DeviceClaimSnapshot where
  fenced : fence ≠ 0
  ordered : claimedAt ≤ lastHeartbeatAt
  live : lastHeartbeatAt < leaseExpiresAt
  deriving DecidableEq

namespace DeviceClaim

def snapshot (claim : DeviceClaim) : DeviceClaimSnapshot := claim.toDeviceClaimSnapshot

def restore (snapshot : DeviceClaimSnapshot) : Except DeviceClaimError DeviceClaim :=
  if fenced : snapshot.fence = 0 then .error .invalidLease
  else if timeline : snapshot.lastHeartbeatAt < snapshot.claimedAt ∨
      snapshot.leaseExpiresAt ≤ snapshot.lastHeartbeatAt then .error .invalidTimeline
  else .ok { snapshot with
    fenced
    ordered := Nat.not_lt.mp (not_or.mp timeline).1
    live := Nat.not_le.mp (not_or.mp timeline).2 }

def issue (claimId : DeviceClaimId) (jobId : DeviceJobId) (target : DeviceJobTarget) (fence : Nat)
    (claimedAt leaseExpiresAt : UnixMillis) : Except DeviceClaimError DeviceClaim :=
  if invalid : fence = 0 ∨ leaseExpiresAt ≤ claimedAt then .error .invalidLease
  else .ok {
    claimId, jobId, target, fence, claimedAt
    lastHeartbeatAt := claimedAt
    leaseExpiresAt
    fenced := (not_or.mp invalid).1
    ordered := Nat.le_refl claimedAt
    live := Nat.not_le.mp (not_or.mp invalid).2 }

def isExpired (claim : DeviceClaim) (now : UnixMillis) : Bool := claim.leaseExpiresAt ≤ now

def heartbeat (observedAt leaseExpiresAt : UnixMillis) (claim : DeviceClaim) :
    Except DeviceClaimError DeviceClaim :=
  if regressed : observedAt < claim.lastHeartbeatAt then .error .timeRegression
  else if claim.leaseExpiresAt ≤ observedAt then .error .leaseExpired
  else if short : leaseExpiresAt ≤ claim.leaseExpiresAt ∨ leaseExpiresAt ≤ observedAt then
    .error .invalidLeaseExtension
  else .ok { claim with
    lastHeartbeatAt := observedAt
    leaseExpiresAt
    ordered := Nat.le_trans claim.ordered (Nat.not_lt.mp regressed)
    live := Nat.not_le.mp (not_or.mp short).2 }

@[simp] theorem restore_snapshot (claim : DeviceClaim) : restore claim.snapshot = .ok claim := by
  have timeline : ¬(claim.lastHeartbeatAt < claim.claimedAt ∨
      claim.leaseExpiresAt ≤ claim.lastHeartbeatAt) :=
    not_or.mpr ⟨Nat.not_lt.mpr claim.ordered, Nat.not_le.mpr claim.live⟩
  exact (dif_neg claim.fenced).trans (dif_neg timeline)

section Steps

variable {claimId : DeviceClaimId} {jobId : DeviceJobId} {target : DeviceJobTarget} {fence : Nat}
  {claimedAt observedAt leaseExpiresAt : UnixMillis} {claim : DeviceClaim}

theorem issue_accepted (fenced : fence ≠ 0) (live : claimedAt < leaseExpiresAt) :
    ∃ claim, issue claimId jobId target fence claimedAt leaseExpiresAt = .ok claim ∧
      claim.snapshot = ⟨claimId, jobId, target, fence, claimedAt, claimedAt, leaseExpiresAt⟩ :=
  ⟨_, dif_neg (not_or.mpr ⟨fenced, Nat.not_le.mpr live⟩), rfl⟩

theorem issue_refused (short : leaseExpiresAt ≤ claimedAt) :
    issue claimId jobId target fence claimedAt leaseExpiresAt = .error .invalidLease :=
  dif_pos (.inr short)

theorem heartbeat_accepted (later : claim.lastHeartbeatAt ≤ observedAt)
    (fresh : claim.isExpired observedAt = false) (longer : claim.leaseExpiresAt < leaseExpiresAt) :
    ∃ extended, claim.heartbeat observedAt leaseExpiresAt = .ok extended ∧
      extended.snapshot = { claim.snapshot with lastHeartbeatAt := observedAt, leaseExpiresAt } := by
  have live : observedAt < claim.leaseExpiresAt := by simpa [isExpired] using fresh
  have long : ¬(leaseExpiresAt ≤ claim.leaseExpiresAt ∨ leaseExpiresAt ≤ observedAt) :=
    not_or.mpr ⟨Nat.not_le.mpr longer, Nat.not_le.mpr (Nat.lt_trans live longer)⟩
  exact ⟨_, (dif_neg (Nat.not_lt.mpr later)).trans <|
    (if_neg (Nat.not_le.mpr live)).trans (dif_neg long), rfl⟩

theorem heartbeat_refused
    (early : ¬(claim.lastHeartbeatAt ≤ observedAt ∧ claim.leaseExpiresAt < leaseExpiresAt)) :
    ∃ why, claim.heartbeat observedAt leaseExpiresAt = .error why := by
  unfold heartbeat
  split
  next => exact ⟨_, rfl⟩
  next later =>
    split
    next => exact ⟨_, rfl⟩
    next => exact ⟨_, dif_pos (.inl (Nat.not_lt.mp fun longer =>
      early ⟨Nat.not_lt.mp later, longer⟩))⟩

end Steps

end DeviceClaim

/-! A device job: work for one device, claimed under a fence a bounded number of times.

An operation changes the job where it stands and advances the version last. What it has changed by
the time it fails stays changed.
-/

def maxDeviceJobAttempts : Nat := 100
def u32Limit : Nat := 0x100000000

inductive DeviceJobStatus where
  | pendingDevice | profileBusy | running | retryScheduled | authRequired | recoveryRequired
  | succeeded | failed | cancelled
  deriving DecidableEq, Repr

def DeviceJobStatus.isTerminal : DeviceJobStatus → Bool
  | .succeeded | .failed | .cancelled => true
  | _ => false

def DeviceJobStatus.requiresAttempt : DeviceJobStatus → Bool
  | .pendingDevice | .cancelled => false
  | _ => true

def DeviceJobStatus.requiresRetry : DeviceJobStatus → Bool
  | .profileBusy | .retryScheduled => true
  | _ => false

inductive DeviceJobError where
  | invalidSnapshot
  | invalidMaxAttempts
  | invalidState
  | invalidLease
  | invalidRetryAt
  | notDue
  | recoveryRequired
  | claimAlreadyActive
  | missingActiveClaim
  | staleClaim
  | leaseExpired
  | leaseStillActive
  | attemptsExhausted
  | attemptOverflow
  | fenceOverflow
  | versionOverflow
  | timeRegression
  deriving DecidableEq, Repr

structure DeviceJob where
  jobId : DeviceJobId
  target : DeviceJobTarget
  version : AggregateVersion
  status : DeviceJobStatus
  attempt : Nat
  maxAttempts : Nat
  lastFence : Nat
  activeClaim : Option DeviceClaim
  retryAt : Option UnixMillis
  updatedAt : UnixMillis
  deriving DecidableEq

/-- Stored metadata of a job, which may be corrupt. -/
structure DeviceJobSnapshot where
  jobId : DeviceJobId
  target : DeviceJobTarget
  aggregateVersion : Nat
  status : DeviceJobStatus
  attempt : Nat
  maxAttempts : Nat
  lastFence : Nat
  activeClaim : Option DeviceClaimSnapshot
  retryAt : Option UnixMillis
  updatedAt : UnixMillis
  deriving DecidableEq

namespace DeviceJob

def snapshot (job : DeviceJob) : DeviceJobSnapshot where
  jobId := job.jobId
  target := job.target
  aggregateVersion := job.version.value
  status := job.status
  attempt := job.attempt
  maxAttempts := job.maxAttempts
  lastFence := job.lastFence
  activeClaim := job.activeClaim.map DeviceClaim.snapshot
  retryAt := job.retryAt
  updatedAt := job.updatedAt

def restoreClaim (snapshot : DeviceJobSnapshot) : Except DeviceJobError (Option DeviceClaim) :=
  match snapshot.activeClaim with
  | none => .ok none
  | some stored => do
    let claim ← (DeviceClaim.restore stored).mapError fun _ => .invalidSnapshot
    refuseIf (claim.jobId ≠ snapshot.jobId ∨ claim.target ≠ snapshot.target ∨
      claim.fence ≠ snapshot.lastFence ∨ claim.lastHeartbeatAt ≠ snapshot.updatedAt ∨
      claim.leaseExpiresAt ≤ snapshot.updatedAt) .invalidSnapshot
    return some claim

def restore (snapshot : DeviceJobSnapshot) : Except DeviceJobError DeviceJob := do
  refuseIf (snapshot.maxAttempts = 0 ∨ maxDeviceJobAttempts < snapshot.maxAttempts ∨
    snapshot.maxAttempts < snapshot.attempt ∨ snapshot.lastFence ≠ snapshot.attempt ∨
    snapshot.aggregateVersion ≤ snapshot.attempt) .invalidSnapshot
  refuseIf (snapshot.status.requiresAttempt ∧ snapshot.attempt = 0) .invalidSnapshot
  refuseIf (decide (snapshot.status = .running) ≠ snapshot.activeClaim.isSome) .invalidSnapshot
  refuseIf (snapshot.status.requiresRetry ≠ snapshot.retryAt.isSome ∨
    ∃ retryAt ∈ snapshot.retryAt, retryAt ≤ snapshot.updatedAt) .invalidSnapshot
  let activeClaim ← restoreClaim snapshot
  let version ← (AggregateVersion.new snapshot.aggregateVersion).mapError fun _ => .invalidSnapshot
  return {
    jobId := snapshot.jobId
    target := snapshot.target
    version
    status := snapshot.status
    attempt := snapshot.attempt
    maxAttempts := snapshot.maxAttempts
    lastFence := snapshot.lastFence
    activeClaim
    retryAt := snapshot.retryAt
    updatedAt := snapshot.updatedAt }

def issue (jobId : DeviceJobId) (target : DeviceJobTarget) (maxAttempts : Nat)
    (issuedAt : UnixMillis) : Except DeviceJobError DeviceJob := do
  refuseIf (maxAttempts = 0 ∨ maxDeviceJobAttempts < maxAttempts) .invalidMaxAttempts
  return {
    jobId, target
    version := .initial
    status := .pendingDevice
    attempt := 0
    maxAttempts
    lastFence := 0
    activeClaim := none
    retryAt := none
    updatedAt := issuedAt }

end DeviceJob

/-- A method of a job. On an error it leaves behind what it has changed. -/
abbrev JobMethod := ExceptT DeviceJobError (StateM DeviceJob)

section Methods

def ensureTime (observedAt : UnixMillis) : JobMethod Unit := do
  let job ← get
  refuseWhen (observedAt < job.updatedAt) .timeRegression

def advance (observedAt : UnixMillis) : JobMethod Unit := do
  let job ← get
  let version ← given <| okOr job.version.next .versionOverflow
  set { job with version, updatedAt := observedAt }

def currentClaim (claimId : DeviceClaimId) (fence : Nat) (observedAt : UnixMillis) :
    JobMethod DeviceClaim := do
  let job ← get
  refuseWhen (job.status ≠ .running) .invalidState
  let claim ← given <| okOr job.activeClaim .missingActiveClaim
  refuseWhen (claim.claimId ≠ claimId ∨ claim.fence ≠ fence) .staleClaim
  refuseWhen (claim.isExpired observedAt) .leaseExpired
  return claim

def releaseRunningClaim (claimId : DeviceClaimId) (fence : Nat) (observedAt : UnixMillis) :
    JobMethod Unit := do
  ensureTime observedAt
  let _ ← currentClaim claimId fence observedAt
  modify fun job => { job with activeClaim := none }

def claim (claimId : DeviceClaimId) (observedAt leaseExpiresAt : UnixMillis) :
    JobMethod DeviceClaim := do
  ensureTime observedAt
  let job ← get
  refuseWhen (job.status.isTerminal ∨ job.status = .running ∨ job.status = .authRequired)
    .invalidState
  refuseWhen (job.status = .recoveryRequired) .recoveryRequired
  refuseWhen (∃ retryAt ∈ job.retryAt, observedAt < retryAt) .notDue
  refuseWhen job.activeClaim.isSome .claimAlreadyActive
  refuseWhen (job.maxAttempts ≤ job.attempt) .attemptsExhausted
  let fence ← given <| okOr (checkedAdd job.lastFence 1) .fenceOverflow
  let claim ← given <| (DeviceClaim.issue claimId job.jobId job.target fence observedAt
    leaseExpiresAt).mapError fun _ => .invalidLease
  refuseWhen (u32Limit ≤ job.attempt + 1) .attemptOverflow
  set { job with
    attempt := job.attempt + 1
    lastFence := fence
    activeClaim := some claim
    retryAt := none
    status := .running }
  advance observedAt
  return claim

def heartbeat (claimId : DeviceClaimId) (fence : Nat) (observedAt leaseExpiresAt : UnixMillis) :
    JobMethod Unit := do
  ensureTime observedAt
  let claim ← currentClaim claimId fence observedAt
  let extended ← given <| (claim.heartbeat observedAt leaseExpiresAt).mapError fun _ => .invalidLease
  modify fun job => { job with activeClaim := some extended }
  advance observedAt

def markProfileBusy (claimId : DeviceClaimId) (fence : Nat) (observedAt retryAt : UnixMillis) :
    JobMethod Unit := do
  refuseWhen (retryAt ≤ observedAt) .invalidRetryAt
  releaseRunningClaim claimId fence observedAt
  modify fun job => { job with status := .profileBusy, retryAt := some retryAt }
  advance observedAt

def scheduleRetry (claimId : DeviceClaimId) (fence : Nat) (observedAt retryAt : UnixMillis) :
    JobMethod Unit := do
  let job ← get
  refuseWhen (job.maxAttempts ≤ job.attempt) .attemptsExhausted
  refuseWhen (retryAt ≤ observedAt) .invalidRetryAt
  releaseRunningClaim claimId fence observedAt
  modify fun job => { job with status := .retryScheduled, retryAt := some retryAt }
  advance observedAt

/-- The last attempt of a job fails it. An earlier one is tried again. -/
def statusOnExpiry (job : DeviceJob) (observedAt retryAt : UnixMillis) :
    Except DeviceJobError DeviceJobStatus :=
  if job.maxAttempts ≤ job.attempt then .ok .failed
  else if retryAt ≤ observedAt then .error .invalidRetryAt
  else .ok .retryScheduled

def expireClaim (observedAt retryAt : UnixMillis) : JobMethod DeviceJobStatus := do
  ensureTime observedAt
  let job ← get
  refuseWhen (job.status ≠ .running) .invalidState
  let claim ← given <| okOr job.activeClaim .missingActiveClaim
  refuseWhen (¬claim.isExpired observedAt) .leaseStillActive
  let nextStatus ← given <| statusOnExpiry job observedAt retryAt
  set { job with
    activeClaim := none
    status := nextStatus
    retryAt := if nextStatus = DeviceJobStatus.retryScheduled then some retryAt else none }
  advance observedAt
  return nextStatus

/-- The claim of a running job ends with a status that waits for no retry. -/
def endClaim (status : DeviceJobStatus) (claimId : DeviceClaimId) (fence : Nat)
    (observedAt : UnixMillis) : JobMethod Unit := do
  releaseRunningClaim claimId fence observedAt
  modify fun job => { job with status, retryAt := none }
  advance observedAt

def requireAuth : DeviceClaimId → Nat → UnixMillis → JobMethod Unit := endClaim .authRequired

def requireRecovery : DeviceClaimId → Nat → UnixMillis → JobMethod Unit :=
  endClaim .recoveryRequired

def succeed : DeviceClaimId → Nat → UnixMillis → JobMethod Unit := endClaim .succeeded

def fail : DeviceClaimId → Nat → UnixMillis → JobMethod Unit := endClaim .failed

/-- A job put aside for a reason waits for a device again. -/
def resumeAfter (status : DeviceJobStatus) (observedAt : UnixMillis) : JobMethod Unit := do
  ensureTime observedAt
  let job ← get
  refuseWhen (job.status ≠ status ∨ job.activeClaim.isSome) .invalidState
  modify fun job => { job with status := .pendingDevice }
  advance observedAt

def resumeAfterAuth : UnixMillis → JobMethod Unit := resumeAfter .authRequired

def resumeAfterRecovery : UnixMillis → JobMethod Unit := resumeAfter .recoveryRequired

def cancel (observedAt : UnixMillis) : JobMethod Unit := do
  ensureTime observedAt
  let job ← get
  refuseWhen job.status.isTerminal .invalidState
  modify fun job => { job with activeClaim := none, retryAt := none, status := .cancelled }
  advance observedAt

end Methods

inductive DeviceJobOperation where
  | claim (claimId : DeviceClaimId) (observedAt leaseExpiresAt : UnixMillis)
  | heartbeat (claimId : DeviceClaimId) (fence : Nat) (observedAt leaseExpiresAt : UnixMillis)
  | markProfileBusy (claimId : DeviceClaimId) (fence : Nat) (observedAt retryAt : UnixMillis)
  | scheduleRetry (claimId : DeviceClaimId) (fence : Nat) (observedAt retryAt : UnixMillis)
  | expireClaim (observedAt retryAt : UnixMillis)
  | requireAuth (claimId : DeviceClaimId) (fence : Nat) (observedAt : UnixMillis)
  | resumeAfterAuth (observedAt : UnixMillis)
  | requireRecovery (claimId : DeviceClaimId) (fence : Nat) (observedAt : UnixMillis)
  | resumeAfterRecovery (observedAt : UnixMillis)
  | succeed (claimId : DeviceClaimId) (fence : Nat) (observedAt : UnixMillis)
  | fail (claimId : DeviceClaimId) (fence : Nat) (observedAt : UnixMillis)
  | cancel (observedAt : UnixMillis)
  deriving DecidableEq

def operate : DeviceJobOperation → JobMethod Unit
  | .claim claimId observedAt leaseExpiresAt => do
    let _ ← claim claimId observedAt leaseExpiresAt
  | .heartbeat claimId fence observedAt leaseExpiresAt =>
    heartbeat claimId fence observedAt leaseExpiresAt
  | .markProfileBusy claimId fence observedAt retryAt =>
    markProfileBusy claimId fence observedAt retryAt
  | .scheduleRetry claimId fence observedAt retryAt => scheduleRetry claimId fence observedAt retryAt
  | .expireClaim observedAt retryAt => do
    let _ ← expireClaim observedAt retryAt
  | .requireAuth claimId fence observedAt => requireAuth claimId fence observedAt
  | .resumeAfterAuth observedAt => resumeAfterAuth observedAt
  | .requireRecovery claimId fence observedAt => requireRecovery claimId fence observedAt
  | .resumeAfterRecovery observedAt => resumeAfterRecovery observedAt
  | .succeed claimId fence observedAt => succeed claimId fence observedAt
  | .fail claimId fence observedAt => fail claimId fence observedAt
  | .cancel observedAt => cancel observedAt

end ProfilePlatform.Device
