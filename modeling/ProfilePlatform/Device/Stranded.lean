import ProfilePlatform.Device.Effects

/-! Jobs that wait for a device, and whether a device may still claim them.

A claim uses an attempt up. Most operations that end it send the job back to wait, and only some of
them look at the attempts first.
-/

set_option autoImplicit false

namespace ProfilePlatform.Device

open Foundation

def DeviceJobStatus.waitsForDevice : DeviceJobStatus → Bool
  | .pendingDevice | .profileBusy | .retryScheduled => true
  | _ => false

/-- While the job waits for a device it has attempts left, and every claim that is due and has a
valid lease is accepted. -/
def Served (job : DeviceJob) : Prop :=
  (job.status.waitsForDevice = true → job.attempt < job.maxAttempts ∧
    ∀ claimId observedAt leaseExpiresAt, job.updatedAt ≤ observedAt →
      (∀ retryAt ∈ job.retryAt, retryAt ≤ observedAt) → observedAt < leaseExpiresAt →
      (deviceJobs.step job (.claim claimId observedAt leaseExpiresAt)).1 = .ok ()) ∧
  (job.attempt = job.maxAttempts → job.status = .running ∨ job.status = .authRequired ∨
    job.status = .recoveryRequired ∨ job.status.isTerminal = true)

/-- The operation sends the job back to wait for a device. -/
def sendsBack (job : DeviceJob) : DeviceJobOperation → Bool
  | .markProfileBusy .. | .scheduleRetry .. | .resumeAfterAuth _ | .resumeAfterRecovery _ => true
  | .expireClaim .. => job.attempt < job.maxAttempts
  | _ => false

/-- A job is sent back to wait only with attempts left and with versions for another claim. -/
def SentBackInTime (job : DeviceJob) (operation : DeviceJobOperation) : Prop :=
  sendsBack job operation = true →
    job.attempt < job.maxAttempts ∧ job.version.value + 2 < u64Limit

section Waiting

variable {job : DeviceJob} {operation : DeviceJobOperation}

theorem served_iff (sound : Sound job) : Served job ↔
    (job.status.waitsForDevice = true →
      job.attempt < job.maxAttempts ∧ job.version.value + 1 < u64Limit) := by
  constructor
  · rintro ⟨served, -⟩ waits
    obtain ⟨left, claims⟩ := served waits
    refine ⟨left, ?_⟩
    -- A claim at any time after both the last update and the time of retry.
    have due : ∀ retryAt ∈ job.retryAt, retryAt ≤ job.updatedAt + job.retryAt.getD 0 := by
      intro retryAt member
      rw [Option.mem_def.mp member]
      exact Nat.le_add_left retryAt job.updatedAt
    have accepted := claims ⟨job.jobId.1⟩ _ _ (Nat.le_add_right _ _) due (Nat.lt_succ_self _)
    exact (step_eq_ok_iff.mp accepted).2
  · intro room
    have counters := sound.bounded
    have fenced := sound.fenced
    have claimed := sound.claimed
    refine ⟨fun waits => ⟨(room waits).1, fun claimId observedAt leaseExpiresAt later due lease => ?_⟩,
      fun used => ?_⟩
    · have idle : job.status ≠ .running := fun running => by rw [running] at waits; cases waits
      have left : job.attempt < 100 := Nat.lt_of_lt_of_le (room waits).1 counters.2
      refine step_eq_ok_iff.mpr ⟨⟨later, ?_⟩, (room waits).2⟩
      exact {
        live := by cases held : job.status <;> rw [held] at waits <;> first | rfl | cases waits
        idle
        authorized := fun named => by rw [named] at waits; cases waits
        recovered := fun named => by rw [named] at waits; cases waits
        due
        unclaimed := by simpa [idle] using claimed
        left := (room waits).1
        fence := by
          rw [fenced]
          exact Nat.lt_trans (Nat.succ_lt_succ left) (by decide)
        lease
        counter := Nat.lt_trans (Nat.succ_lt_succ left) (by decide) }
    · have settled : job.status.waitsForDevice ≠ true := fun waits =>
        absurd used (Nat.ne_of_lt (room waits).1)
      cases held : job.status <;> simp_all [DeviceJobStatus.waitsForDevice, DeviceJobStatus.isTerminal]

theorem served_issue {jobId : DeviceJobId} {target : DeviceJobTarget} {maxAttempts : Nat}
    {issuedAt : UnixMillis} (issued : DeviceJob.issue jobId target maxAttempts issuedAt = .ok job) :
    Served job := by
  obtain ⟨sound, unused⟩ := sound_issue issued
  obtain ⟨_, -, same⟩ := bind_eq_ok.mp issued
  refine (served_iff sound).mpr fun _ => ⟨?_, ?_⟩
  · rw [unused]
    exact Nat.pos_of_ne_zero sound.bounded.1
  · cases same
    show 1 + 1 < u64Limit
    decide

theorem effect_maxAttempts (job : DeviceJob) (operation : DeviceJobOperation) :
    (effect job operation).maxAttempts = job.maxAttempts := by
  cases operation <;> try rfl
  next observedAt retryAt =>
    show (if job.maxAttempts ≤ job.attempt then _ else _ : DeviceJob).maxAttempts = job.maxAttempts
    split <;> rfl

/-- A job waits after an operation exactly when the operation has sent it back. -/
theorem waits_effect (accepts : Accepts job operation) :
    ((effect job operation).status.waitsForDevice = true ↔ sendsBack job operation = true) ∧
      (sendsBack job operation = true → (effect job operation).attempt = job.attempt) := by
  cases operation <;> try simp [effect, sendsBack, DeviceJobStatus.waitsForDevice]
  case heartbeat claimId fence observedAt leaseExpiresAt => simp [accepts.2.1.1]
  case expireClaim observedAt retryAt =>
    by_cases used : job.maxAttempts ≤ job.attempt <;> simp [used, Nat.not_le.mp]

theorem served_step (sound : Sound job) (done : (deviceJobs.step job operation).1 = .ok ()) :
    Served (deviceJobs.step job operation).2 ↔ SentBackInTime job operation := by
  obtain ⟨edited, _, changed, next, after⟩ := edited_of_success done
  have kept : Sound (deviceJobs.step job operation).2 := after ▸ sound_edited sound changed next
  obtain ⟨version, next, after⟩ := after_of_success done
  obtain ⟨waits, attempt⟩ := waits_effect (step_eq_ok_iff.mp done).1
  have value : version.value = job.version.value + 1 := (AggregateVersion.next_eq_some next).1
  rw [served_iff kept, after]
  show (_ → (effect job operation).attempt < (effect job operation).maxAttempts ∧
    version.value + 1 < u64Limit) ↔ _
  rw [effect_maxAttempts, value]
  constructor
  · intro room back
    rw [← attempt back]
    exact room (waits.mpr back)
  · intro timely still
    have back := waits.mp still
    rw [attempt back]
    exact timely back

theorem sound_step (sound : Sound job) (done : (deviceJobs.step job operation).1 = .ok ()) :
    Sound (deviceJobs.step job operation).2 := by
  obtain ⟨edited, version, changed, next, after⟩ := edited_of_success done
  exact after ▸ sound_edited sound changed next

/-- No state of a run of successful operations strands the job, exactly when every operation that
sends it back to wait does so with attempts and versions left. -/
theorem never_stranded_iff {jobId : DeviceJobId} {target : DeviceJobTarget} {maxAttempts : Nat}
    {issuedAt : UnixMillis} (issued : DeviceJob.issue jobId target maxAttempts issuedAt = .ok job)
    (operations : List DeviceJobOperation)
    (succeed : ∀ entry ∈ deviceJobs.history job operations, entry.output = .ok ()) :
    (Served job ∧ ∀ entry ∈ deviceJobs.history job operations, Served entry.after) ↔
      ∀ entry ∈ deviceJobs.history job operations, SentBackInTime entry.before entry.input := by
  rw [and_iff_right (served_issue issued)]
  suffices steps : ∀ entry ∈ deviceJobs.history job operations, Sound entry.before ∧
      entry.after = (deviceJobs.step entry.before entry.input).2 ∧
      entry.output = (deviceJobs.step entry.before entry.input).1 by
    refine forall₂_congr fun entry member => ?_
    obtain ⟨sound, after, output⟩ := steps entry member
    rw [after]
    exact served_step sound (output ▸ succeed entry member)
  have sound := (sound_issue issued).1
  clear issued
  induction operations generalizing job with
  | nil => simp
  | cons operation rest ih =>
    intro entry member
    rcases List.mem_cons.mp member with rfl | later
    · exact ⟨sound, rfl, rfl⟩
    · have done : (deviceJobs.step job operation).1 = .ok () := succeed _ List.mem_cons_self
      exact ih (fun entry member => succeed entry (List.mem_cons_of_mem _ member))
        (sound_step sound done) entry later

end Waiting

namespace SampleStranded

def target : DeviceJobTarget :=
  ⟨⟨⟨"tenant-stranded", by decide⟩⟩, ⟨⟨"device-stranded", by decide⟩⟩,
    ⟨⟨"profile-stranded", by decide⟩⟩, ⟨⟨"generation-stranded", by decide⟩⟩⟩

def jobId : DeviceJobId := ⟨⟨"job-stranded", by decide⟩⟩
def claimId : DeviceClaimId := ⟨⟨"claim-stranded", by decide⟩⟩

def issued (maxAttempts : Nat) : DeviceJob :=
  ⟨jobId, target, .initial, .pendingDevice, 0, maxAttempts, 0, none, none, 100⟩

def operations : List DeviceJobOperation :=
  [.claim claimId 110 200, .markProfileBusy claimId 1 120 130]

end SampleStranded

open SampleStranded in
theorem never_stranded_iff_busy :
    DeviceJob.issue jobId target 2 100 = .ok (issued 2) ∧
      ∀ entry ∈ deviceJobs.history (issued 2) operations, Served entry.after := by
  have accepted : DeviceJob.issue jobId target 2 100 = .ok (issued 2) := by decide
  refine ⟨accepted, ((never_stranded_iff accepted operations (by decide)).mpr ?_).2⟩
  unfold SentBackInTime
  decide

open SampleStranded in
/-- The only attempt ends with a busy profile. The job waits to be tried again, and no claim is
ever accepted. -/
theorem busy_job_stranded :
    DeviceJob.issue jobId target 1 100 = .ok (issued 1) ∧
      (∀ entry ∈ deviceJobs.history (issued 1) operations, entry.output = .ok ()) ∧
      let last := deviceJobs.final (issued 1) operations
      last.status = .profileBusy ∧ last.attempt = last.maxAttempts ∧
      (∀ claimId observedAt leaseExpiresAt,
        (deviceJobs.step last (.claim claimId observedAt leaseExpiresAt)).1 ≠ .ok ()) ∧
      ¬Served last := by
  refine ⟨by decide, by decide, by decide, by decide, fun claimId observedAt lease claims => ?_,
    fun served => ?_⟩
  · have left := (step_eq_ok_iff.mp claims).1.2.left
    exact absurd left (by decide)
  · exact absurd (served.1 (by decide)).1 (by decide)

end ProfilePlatform.Device
