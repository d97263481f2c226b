import ProfilePlatform.Foundation.Machine
import ProfilePlatform.Device.Transitions

/-! Runs of device jobs: what can be stored and restored, and what an error leaves behind. -/

set_option autoImplicit false

namespace ProfilePlatform.Device

open Foundation

/-- A job under operations. A failed one leaves it as far as it came. -/
def deviceJobs : Machine DeviceJob DeviceJobOperation (Except DeviceJobError Unit) where
  step job operation := outcome (operate operation) job

abbrev DeviceJobEntry := Entry DeviceJob DeviceJobOperation (Except DeviceJobError Unit)

section Stored

variable {job : DeviceJob}

/-- What a job is stored with and restoring checks again. -/
structure Sound (job : DeviceJob) : Prop where
  bounded : job.maxAttempts ≠ 0 ∧ job.maxAttempts ≤ maxDeviceJobAttempts
  used : job.attempt ≤ job.maxAttempts
  fenced : job.lastFence = job.attempt
  versioned : job.attempt < job.version.value
  started : job.status.requiresAttempt = true → job.attempt ≠ 0
  claimed : job.activeClaim.isSome = decide (job.status = .running)
  retried : job.status.requiresRetry = job.retryAt.isSome
  future : ∀ retryAt ∈ job.retryAt, job.updatedAt < retryAt
  bound : ∀ claim ∈ job.activeClaim, claim.jobId = job.jobId ∧ claim.target = job.target ∧
    claim.fence = job.lastFence ∧ claim.lastHeartbeatAt = job.updatedAt

theorem restoreClaim_snapshot (sound : Sound job) :
    DeviceJob.restoreClaim job.snapshot = .ok job.activeClaim := by
  unfold DeviceJob.restoreClaim DeviceJob.snapshot
  cases active : job.activeClaim with
  | none => rfl
  | some claim =>
    obtain ⟨own, aimed, fenced, timed⟩ := sound.bound claim active
    have live : ¬claim.leaseExpiresAt ≤ job.updatedAt := timed ▸ Nat.not_le.mpr claim.live
    simp only [Option.map_some, DeviceClaim.restore_snapshot]
    refine bind_eq_ok.mpr ⟨claim, rfl, bind_eq_ok.mpr ⟨(), refuseIf_passes ?_, rfl⟩⟩
    simp [own, aimed, fenced, timed, live]

theorem restore_snapshot (sound : Sound job) : DeviceJob.restore job.snapshot = .ok job := by
  have counters : ¬(job.maxAttempts = 0 ∨ maxDeviceJobAttempts < job.maxAttempts ∨
      job.maxAttempts < job.attempt ∨ job.lastFence ≠ job.attempt ∨
      job.version.value ≤ job.attempt) := by
    have used := sound.used
    have versioned := sound.versioned
    have bounded := sound.bounded
    have fenced := sound.fenced
    omega
  refine bind_eq_ok.mpr ⟨(), refuseIf_passes counters, ?_⟩
  refine bind_eq_ok.mpr ⟨(), refuseIf_passes fun ⟨needed, unused⟩ => sound.started needed unused, ?_⟩
  refine bind_eq_ok.mpr ⟨(), refuseIf_passes ?_, ?_⟩
  · exact not_not_intro (sound.claimed.symm.trans Option.isSome_map.symm)
  refine bind_eq_ok.mpr ⟨(), refuseIf_passes ?_, ?_⟩
  · rintro (differs | ⟨retryAt, member, past⟩)
    · exact differs sound.retried
    · exact absurd (sound.future retryAt member) (Nat.not_lt.mpr past)
  refine bind_eq_ok.mpr ⟨job.activeClaim, restoreClaim_snapshot sound, ?_⟩
  exact bind_eq_ok.mpr ⟨job.version, by rw [DeviceJob.snapshot, AggregateVersion.new_value]; rfl, rfl⟩

theorem sound_issue {jobId : DeviceJobId} {target : DeviceJobTarget} {maxAttempts : Nat}
    {issuedAt : UnixMillis} (issued : DeviceJob.issue jobId target maxAttempts issuedAt = .ok job) :
    Sound job ∧ job.attempt = 0 := by
  obtain ⟨_, bounded, same⟩ := bind_eq_ok.mp issued
  cases same
  simp only [refuseIf_eq_ok, not_or, Nat.not_lt] at bounded
  refine ⟨?_, rfl⟩
  exact {
    bounded
    used := Nat.zero_le maxAttempts
    fenced := rfl
    versioned := Nat.one_pos
    started := by simp [DeviceJobStatus.requiresAttempt]
    claimed := rfl
    retried := rfl
    future := by simp
    bound := by simp }

end Stored

section Steps

variable {job edited : DeviceJob} {operation : DeviceJobOperation}

theorem Edited.version_eq (changed : Edited job operation edited) :
    edited.version = job.version := by
  cases changed <;> rfl

theorem Edited.ne (changed : Edited job operation edited) : edited ≠ job := by
  intro same
  cases changed with
  | claim waits left issued => exact waits.2 (congrArg DeviceJob.status same).symm
  | heartbeat running held longer kept =>
    have claims := (congrArg DeviceJob.activeClaim same).trans held
    cases claims
    have unchanged := congrArg DeviceClaimSnapshot.leaseExpiresAt kept
    exact absurd (show _ = _ from unchanged) (Nat.ne_of_lt longer)
  | release other running ends later future =>
    exact ends.1 ((congrArg DeviceJob.status same).trans running)
  | resume other aside settled unclaimed => exact aside (congrArg DeviceJob.status same).symm
  | cancel live =>
    have status : DeviceJobStatus.cancelled = job.status := congrArg DeviceJob.status same
    rw [← status] at live
    cases live

theorem sound_edited {version : AggregateVersion} (sound : Sound job)
    (changed : Edited job operation edited) (next : job.version.next = some version) :
    Sound { edited with version, updatedAt := operation.observedAt } := by
  have later : job.attempt + 1 < version.value := by
    have value := (AggregateVersion.next_eq_some next).1
    have versioned := sound.versioned
    omega
  cases changed with
  | claim waits left issued =>
    exact {
      bounded := sound.bounded
      used := left
      fenced := congrArg (· + 1) sound.fenced
      versioned := later
      started := fun _ => Nat.succ_ne_zero job.attempt
      claimed := rfl
      retried := rfl
      future := by simp
      bound := by
        intro claim member
        cases member
        exact ⟨congrArg DeviceClaimSnapshot.jobId issued,
          congrArg DeviceClaimSnapshot.target issued, congrArg DeviceClaimSnapshot.fence issued,
          congrArg DeviceClaimSnapshot.lastHeartbeatAt issued⟩ }
  | @heartbeat _ _ _ _ claim extended running held longer kept =>
    obtain ⟨own, aimed, fenced, -⟩ := sound.bound claim held
    exact {
      bounded := sound.bounded
      used := sound.used
      fenced := sound.fenced
      versioned := Nat.lt_of_succ_lt later
      started := sound.started
      claimed := by simp [running]
      retried := sound.retried
      future := by
        have idle : job.status.requiresRetry = false := by rw [running]; rfl
        have unset : job.retryAt = none := by simpa [idle] using sound.retried
        simp [unset]
      bound := by
        intro claim member
        cases member
        exact ⟨(congrArg DeviceClaimSnapshot.jobId kept).trans own,
          (congrArg DeviceClaimSnapshot.target kept).trans aimed,
          (congrArg DeviceClaimSnapshot.fence kept).trans fenced,
          congrArg DeviceClaimSnapshot.lastHeartbeatAt kept⟩ }
  | release other running ends awaited retries =>
    exact {
      bounded := sound.bounded
      used := sound.used
      fenced := sound.fenced
      versioned := Nat.lt_of_succ_lt later
      started := fun _ => sound.started (by rw [running]; rfl)
      claimed := by simp [ends.1]
      retried := awaited
      future := retries
      bound := by simp }
  | resume other aside settled unclaimed =>
    exact {
      bounded := sound.bounded
      used := sound.used
      fenced := sound.fenced
      versioned := Nat.lt_of_succ_lt later
      started := by simp [DeviceJobStatus.requiresAttempt]
      claimed := by simp [unclaimed]
      retried := settled.symm.trans sound.retried
      future := by
        have unset : job.retryAt = none := by simpa [settled] using sound.retried
        simp [unset]
      bound := by simp [unclaimed] }
  | cancel live =>
    exact {
      bounded := sound.bounded
      used := sound.used
      fenced := sound.fenced
      versioned := Nat.lt_of_succ_lt later
      started := by simp [DeviceJobStatus.requiresAttempt]
      claimed := rfl
      retried := rfl
      future := by simp
      bound := by simp }

theorem attempt_edited (changed : Edited job operation edited) :
    edited.attempt = job.attempt + if operation.isClaim then 1 else 0 := by
  cases changed with
  | claim waits left issued => rfl
  | heartbeat running held longer kept => rfl
  | release other running ends later future => simp [other]
  | resume other aside settled unclaimed => simp [other]
  | cancel live => rfl

theorem edited_of_success (done : (deviceJobs.step job operation).1 = .ok ()) :
    ∃ edited version, Edited job operation edited ∧ job.version.next = some version ∧
      (deviceJobs.step job operation).2 =
        { edited with version, updatedAt := operation.observedAt } := by
  simp only [deviceJobs] at done ⊢
  obtain ⟨-, why, refused⟩ | ⟨-, edited, changed, ends⟩ := operates job operation
  · rw [refused] at done
    cases done
  · rw [ends, outcome_advance, changed.version_eq] at done ⊢
    cases next : job.version.next with
    | none => simp [next] at done
    | some version => exact ⟨edited, version, changed, rfl, rfl⟩

end Steps

section Runs

variable {job : DeviceJob}

theorem sound_run (sound : Sound job) (operations : List DeviceJobOperation)
    (succeed : ∀ entry ∈ deviceJobs.history job operations, entry.output = .ok ()) :
    Sound (deviceJobs.final job operations) ∧ (deviceJobs.final job operations).attempt =
      job.attempt + operations.countP DeviceJobOperation.isClaim := by
  induction operations generalizing job with
  | nil => exact ⟨sound, rfl⟩
  | cons operation rest ih =>
    have done : (deviceJobs.step job operation).1 = .ok () := succeed _ List.mem_cons_self
    obtain ⟨edited, version, changed, next, after⟩ := edited_of_success done
    have kept : Sound (deviceJobs.step job operation).2 := after ▸ sound_edited sound changed next
    have counted : (deviceJobs.step job operation).2.attempt = edited.attempt := by rw [after]
    obtain ⟨last, total⟩ := ih kept fun entry member => succeed entry (List.mem_cons_of_mem _ member)
    refine ⟨last, ?_⟩
    rw [Machine.final, total, counted, attempt_edited changed, List.countP_cons]
    omega

/-- After any run of successful operations the stored job restores to itself. Its claim is there
while it runs, and is bound to it by a fence that counts the claims. -/
theorem snapshot_round_trips {jobId : DeviceJobId} {target : DeviceJobTarget} {maxAttempts : Nat}
    {issuedAt : UnixMillis} (issued : DeviceJob.issue jobId target maxAttempts issuedAt = .ok job)
    (operations : List DeviceJobOperation)
    (succeed : ∀ entry ∈ deviceJobs.history job operations, entry.output = .ok ()) :
    let last := deviceJobs.final job operations
    DeviceJob.restore last.snapshot = .ok last ∧
    (last.activeClaim.isSome ↔ last.status = .running) ∧
    (∀ claim ∈ last.activeClaim, claim.jobId = last.jobId ∧ claim.target = last.target ∧
      claim.fence = last.lastFence) ∧
    last.lastFence = last.attempt ∧
    last.attempt = operations.countP DeviceJobOperation.isClaim ∧
    (last.retryAt.isSome ↔ last.status = .profileBusy ∨ last.status = .retryScheduled) ∧
    (∀ retryAt ∈ last.retryAt, last.updatedAt < retryAt) ∧
    last.attempt ≤ last.maxAttempts := by
  intro last
  obtain ⟨fresh, unused⟩ := sound_issue issued
  obtain ⟨sound, counted⟩ := sound_run fresh operations succeed
  refine ⟨restore_snapshot sound, ?_, fun claim member => ?_, sound.fenced, ?_, ?_, sound.future,
    sound.used⟩
  · rw [sound.claimed, decide_eq_true_eq]
  · obtain ⟨own, aimed, fenced, -⟩ := sound.bound claim member
    exact ⟨own, aimed, fenced⟩
  · rw [counted, unused, Nat.zero_add]
  · rw [← sound.retried]
    cases last.status <;> simp [DeviceJobStatus.requiresRetry]

/-- An operation that fails leaves the job exactly as it was. -/
def Atomic (job : DeviceJob) (operation : DeviceJobOperation) : Prop :=
  ∀ why after, outcome (operate operation) job = (.error why, after) → after = job

/-- An operation fails without a trace unless it passes all its checks on a job whose version is
the last. -/
theorem atomic_iff (job : DeviceJob) (operation : DeviceJobOperation) :
    Atomic job operation ↔ job.version.value + 1 < u64Limit ∨ ¬Accepts job operation := by
  unfold Atomic
  obtain ⟨refuses, why, refused⟩ | ⟨accepts, edited, changed, ends⟩ := operates job operation
  · rw [refused]
    refine ⟨fun _ => .inr refuses, fun _ other after same => ?_⟩
    cases same
    rfl
  · rw [ends, outcome_advance, changed.version_eq]
    by_cases room : job.version.value + 1 < u64Limit
    · simp [AggregateVersion.next, room]
    · simp [AggregateVersion.next, room, accepts, changed.ne]

end Runs

namespace SampleDeviceJob

def target : DeviceJobTarget :=
  ⟨⟨⟨"tenant-device-job", by decide⟩⟩, ⟨⟨"device-device-job", by decide⟩⟩,
    ⟨⟨"profile-device-job", by decide⟩⟩, ⟨⟨"generation-device-job", by decide⟩⟩⟩

def jobId : DeviceJobId := ⟨⟨"job-device-job", by decide⟩⟩
def claimId : DeviceClaimId := ⟨⟨"claim-device-job", by decide⟩⟩

def issued : DeviceJob :=
  ⟨jobId, target, .initial, .pendingDevice, 0, 3, 0, none, none, 100⟩

def operations : List DeviceJobOperation :=
  [.claim claimId 110 200, .markProfileBusy claimId 1 120 130, .claim claimId 130 220,
    .heartbeat claimId 2 140 300]

/-- A running job at the last version there is. -/
def stored : DeviceJobSnapshot :=
  ⟨jobId, target, 0xffffffffffffffff, .running, 1, 3, 1,
    some ⟨claimId, jobId, target, 1, 110, 110, 200⟩, none, 110⟩

end SampleDeviceJob

open SampleDeviceJob in
theorem snapshot_round_trips_claimed :
    DeviceJob.issue jobId target 3 100 = .ok issued ∧
      DeviceJob.restore (deviceJobs.final issued operations).snapshot =
        .ok (deviceJobs.final issued operations) := by
  have accepted : DeviceJob.issue jobId target 3 100 = .ok issued := by decide
  exact ⟨accepted, (snapshot_round_trips accepted operations (by decide)).1⟩

open SampleDeviceJob in
/-- Succeeding fails for want of a version, and the job is left succeeded and without its claim. -/
theorem succeed_not_atomic :
    ∃ job, DeviceJob.restore stored = .ok job ∧ ∃ after,
      outcome (operate (.succeed claimId 1 120)) job = (.error .versionOverflow, after) ∧
      job.status = .running ∧ after.status = .succeeded ∧ after.activeClaim = none ∧
      ¬Atomic job (.succeed claimId 1 120) := by
  refine ⟨_, rfl, _, rfl, rfl, rfl, rfl, fun atomic => ?_⟩
  exact absurd (congrArg DeviceJob.status (atomic _ _ rfl)) (by decide)

end ProfilePlatform.Device
