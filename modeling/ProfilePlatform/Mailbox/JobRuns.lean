import ProfilePlatform.Mailbox.Job

/-! Which mailbox jobs can still be run.

A job that waits has attempts left, unless its last attempt was put aside for
authentication or suspension. Resuming refuses such a job, so it waits forever.
-/

set_option autoImplicit false

namespace ProfilePlatform.Mailbox

open Foundation

section Operations

variable {job after : MailboxJob} {operation : JobOperation}

theorem requireActive_eq_ok {binding : MailboxBinding} {done : Unit} :
    binding.requireActive = .ok done ↔ binding.status = .active := by
  unfold MailboxBinding.requireActive
  split
  next active => simp [active]
  next revoked => simp [revoked]
  next waits => simp [waits]
  next suspended => simp [suspended]

theorem bumpVersion_eq_ok {version : AggregateVersion} :
    job.bumpVersion = .ok version ↔ job.version.next = some version := by
  unfold MailboxJob.bumpVersion
  split
  next overflow => simp [overflow]
  next version fits => simp [fits]

/-- What an accepted operation does, with all it has checked. -/
inductive Operated (job : MailboxJob) (version : AggregateVersion) : JobOperation → MailboxJob → Prop where
  | queue {now : UnixMillis} (waits : job.status = .scheduled ∨ job.status = .retryPending)
      (due : job.nextRunAt ≤ now) (left : job.attempt < job.maxAttempts) :
      Operated job version (.queue now) { job with version, status := .queued }
  | start {binding : MailboxBinding} (queued : job.status = .queued)
      (tenant : binding.tenantId = job.tenantId) (same : binding.bindingId = job.bindingId)
      (active : binding.status = .active) (left : job.attempt < job.maxAttempts) :
      Operated job version (.start binding)
        { job with attempt := job.attempt + 1, version, status := .running }
  | succeed {nextCursor : Option String} (running : job.status = .running)
      (bounded : validateCursor nextCursor = .ok ()) :
      Operated job version (.succeed nextCursor)
        { job with version, cursor := nextCursor, status := .succeeded }
  | retry {now retryAt : UnixMillis} (running : job.status = .running)
      (left : job.attempt < job.maxAttempts) (later : now < retryAt) :
      Operated job version (.retry now retryAt)
        { job with version, nextRunAt := retryAt, status := .retryPending }
  | requireAuth (running : job.status = .running) :
      Operated job version .requireAuth { job with version, status := .authRequired }
  | suspend (live : job.status.isTerminal = false) (unsuspended : job.status ≠ .suspended) :
      Operated job version .suspend { job with version, status := .suspended }
  | resume {scheduledAt : UnixMillis}
      (aside : job.status = .authRequired ∨ job.status = .suspended)
      (left : job.attempt < job.maxAttempts) :
      Operated job version (.resume scheduledAt)
        { job with version, nextRunAt := scheduledAt, status := .scheduled }
  | fail (running : job.status = .running) :
      Operated job version .fail { job with version, status := .failed }

theorem requireRunning_eq_ok {done : Unit} :
    job.requireRunning = .ok done ↔ job.status = .running := by
  simp [MailboxJob.requireRunning, refuseIf_eq_ok]

theorem operated (accepted : job.operate operation = .ok after) :
    ∃ version, job.version.next = some version ∧ Operated job version operation after := by
  cases operation with
  | queue now =>
    obtain ⟨_, waits, accepted⟩ := bind_eq_ok.mp accepted
    obtain ⟨_, due, accepted⟩ := bind_eq_ok.mp accepted
    obtain ⟨_, left, accepted⟩ := bind_eq_ok.mp accepted
    obtain ⟨version, bumped, same⟩ := bind_eq_ok.mp accepted
    cases same
    simp only [refuseIf_eq_ok, not_and_or, Decidable.not_not] at waits
    simp only [refuseIf_eq_ok, Nat.not_lt, Nat.not_le] at due left
    exact ⟨version, bumpVersion_eq_ok.mp bumped, .queue waits due left⟩
  | start binding =>
    obtain ⟨_, queued, accepted⟩ := bind_eq_ok.mp accepted
    obtain ⟨_, own, accepted⟩ := bind_eq_ok.mp accepted
    obtain ⟨_, active, accepted⟩ := bind_eq_ok.mp accepted
    obtain ⟨_, left, accepted⟩ := bind_eq_ok.mp accepted
    obtain ⟨version, bumped, same⟩ := bind_eq_ok.mp accepted
    cases same
    simp only [refuseIf_eq_ok, not_or, Decidable.not_not] at queued own
    simp only [refuseIf_eq_ok, Nat.not_le] at left
    exact ⟨version, bumpVersion_eq_ok.mp bumped,
      .start queued own.1 own.2 (requireActive_eq_ok.mp active) left⟩
  | succeed nextCursor =>
    obtain ⟨_, running, accepted⟩ := bind_eq_ok.mp accepted
    obtain ⟨_, bounded, accepted⟩ := bind_eq_ok.mp accepted
    obtain ⟨version, bumped, same⟩ := bind_eq_ok.mp accepted
    cases same
    exact ⟨version, bumpVersion_eq_ok.mp bumped,
      .succeed (requireRunning_eq_ok.mp running) bounded⟩
  | retry now retryAt =>
    obtain ⟨_, running, accepted⟩ := bind_eq_ok.mp accepted
    obtain ⟨_, left, accepted⟩ := bind_eq_ok.mp accepted
    obtain ⟨_, later, accepted⟩ := bind_eq_ok.mp accepted
    obtain ⟨version, bumped, same⟩ := bind_eq_ok.mp accepted
    cases same
    simp only [refuseIf_eq_ok, Nat.not_le] at left later
    exact ⟨version, bumpVersion_eq_ok.mp bumped,
      .retry (requireRunning_eq_ok.mp running) left later⟩
  | requireAuth =>
    obtain ⟨_, running, accepted⟩ := bind_eq_ok.mp accepted
    obtain ⟨version, bumped, same⟩ := bind_eq_ok.mp accepted
    cases same
    exact ⟨version, bumpVersion_eq_ok.mp bumped, .requireAuth (requireRunning_eq_ok.mp running)⟩
  | suspend =>
    obtain ⟨_, live, accepted⟩ := bind_eq_ok.mp accepted
    obtain ⟨version, bumped, same⟩ := bind_eq_ok.mp accepted
    cases same
    simp only [refuseIf_eq_ok, not_or, Bool.not_eq_true] at live
    exact ⟨version, bumpVersion_eq_ok.mp bumped, .suspend live.1 live.2⟩
  | resume scheduledAt =>
    obtain ⟨_, aside, accepted⟩ := bind_eq_ok.mp accepted
    obtain ⟨_, left, accepted⟩ := bind_eq_ok.mp accepted
    obtain ⟨version, bumped, same⟩ := bind_eq_ok.mp accepted
    cases same
    simp only [refuseIf_eq_ok, not_and_or, Decidable.not_not] at aside
    simp only [refuseIf_eq_ok, Nat.not_le] at left
    exact ⟨version, bumpVersion_eq_ok.mp bumped, .resume aside left⟩
  | fail =>
    obtain ⟨_, running, accepted⟩ := bind_eq_ok.mp accepted
    obtain ⟨version, bumped, same⟩ := bind_eq_ok.mp accepted
    cases same
    exact ⟨version, bumpVersion_eq_ok.mp bumped, .fail (requireRunning_eq_ok.mp running)⟩

theorem operate_of_operated {version : AggregateVersion} (next : job.version.next = some version)
    (done : Operated job version operation after) : job.operate operation = .ok after := by
  have bumped := bumpVersion_eq_ok.mpr next
  cases done with
  | queue waits due left =>
    have outside : ¬(job.status ≠ .scheduled ∧ job.status ≠ .retryPending) := by tauto
    simp only [MailboxJob.operate, MailboxJob.queue, refuseIf_passes outside,
      refuseIf_passes (Nat.not_lt.mpr due), refuseIf_passes (Nat.not_le.mpr left), bumped]
    rfl
  | @start binding queued tenant same active left =>
    have own : binding.requireActive = .ok () := requireActive_eq_ok.mpr active
    have known : ¬(binding.tenantId ≠ job.tenantId ∨ binding.bindingId ≠ job.bindingId) := by
      simp [tenant, same]
    simp only [MailboxJob.operate, MailboxJob.start, refuseIf_passes (not_not_intro queued),
      refuseIf_passes known, own, refuseIf_passes (Nat.not_le.mpr left), bumped]
    rfl
  | succeed running bounded =>
    simp only [MailboxJob.operate, MailboxJob.succeed, MailboxJob.requireRunning, running, bounded,
      bumped]
    rfl
  | retry running left later =>
    simp only [MailboxJob.operate, MailboxJob.retry, MailboxJob.requireRunning, running,
      refuseIf_passes (Nat.not_le.mpr left), refuseIf_passes (Nat.not_le.mpr later), bumped]
    rfl
  | requireAuth running =>
    simp only [MailboxJob.operate, MailboxJob.requireAuth, MailboxJob.requireRunning, running,
      bumped]
    rfl
  | suspend live unsuspended =>
    have outside : ¬(job.status.isTerminal = true ∨ job.status = .suspended) := by simp [*]
    simp only [MailboxJob.operate, MailboxJob.suspend, refuseIf_passes outside, bumped]
    rfl
  | resume aside left =>
    have outside : ¬(job.status ≠ .authRequired ∧ job.status ≠ .suspended) := by tauto
    simp only [MailboxJob.operate, MailboxJob.resume, refuseIf_passes outside,
      refuseIf_passes (Nat.not_le.mpr left), bumped]
    rfl
  | fail running =>
    simp only [MailboxJob.operate, MailboxJob.fail, MailboxJob.requireRunning, running, bumped]
    rfl

end Operations

section Waiting

variable {job : MailboxJob}

/-- Queued at any late enough time, the job can be started. -/
def Runs (job : MailboxJob) : Prop :=
  ∃ late, ∀ now, late ≤ now → ∀ binding : MailboxBinding, binding.status = .active →
    binding.tenantId = job.tenantId → binding.bindingId = job.bindingId →
    ∃ queued running, job.queue now = .ok queued ∧ queued.start binding = .ok running

/-- A job that waits has attempts left and can be run, resumed first where it has to be. -/
structure NotStranded (job : MailboxJob) : Prop where
  left : job.status.isTerminal = false → job.status ≠ .queued → job.status ≠ .running →
    job.attempt < job.maxAttempts
  runs : job.status = .scheduled ∨ job.status = .retryPending → Runs job
  resumes : job.status = .authRequired ∨ job.status = .suspended →
    ∀ scheduledAt, ∃ resumed, job.resume scheduledAt = .ok resumed ∧ Runs resumed
  exhausted : job.maxAttempts ≤ job.attempt → job.status = .succeeded ∨ job.status = .failed ∨
    job.status = .queued ∨ job.status = .running

/-- Attempts are left unless the last one runs or has run, and the version has room to run again. -/
structure Tracked (job : MailboxJob) : Prop where
  left : job.status.isTerminal = false → job.status ≠ .running → job.attempt < job.maxAttempts
  room : job.version.value + 3 < u64Limit

theorem next_of_room (version : AggregateVersion) (room : version.value + 1 < u64Limit) :
    ∃ after, version.next = some after ∧ after.value = version.value + 1 := by
  refine ⟨⟨version.value + 1, Nat.succ_ne_zero _⟩, ?_, rfl⟩
  simp [AggregateVersion.next, room]

theorem runs_of_left (waits : job.status = .scheduled ∨ job.status = .retryPending)
    (left : job.attempt < job.maxAttempts) (room : job.version.value + 2 < u64Limit) :
    Runs job := by
  obtain ⟨first, next, value⟩ := next_of_room job.version (by omega)
  obtain ⟨second, later, -⟩ := next_of_room first (by omega)
  refine ⟨job.nextRunAt, fun now due binding active tenant same => ?_⟩
  have starts : Operated { job with version := first, status := .queued } second (.start binding)
      { job with attempt := job.attempt + 1, version := second, status := .running } :=
    .start rfl tenant same active left
  exact ⟨_, _, operate_of_operated next (.queue waits due left), operate_of_operated later starts⟩

theorem Tracked.notStranded (tracked : Tracked job) : NotStranded job := by
  have room := tracked.room
  refine ⟨fun live _ idle => tracked.left live idle, fun waits => ?_, fun aside scheduledAt => ?_,
    fun used => ?_⟩
  · refine runs_of_left waits (tracked.left ?_ ?_) (by omega)
    · rcases waits with status | status <;> rw [status] <;> rfl
    · rcases waits with status | status <;> rw [status] <;> nofun
  · have left : job.attempt < job.maxAttempts := by
      refine tracked.left ?_ ?_
      · rcases aside with status | status <;> rw [status] <;> rfl
      · rcases aside with status | status <;> rw [status] <;> nofun
    obtain ⟨version, next, value⟩ := next_of_room job.version (by omega)
    refine ⟨_, operate_of_operated next (.resume aside left), ?_⟩
    exact runs_of_left (.inl rfl) left (by simp only [value]; omega)
  · have exhausted : job.status.isTerminal = false → job.status = .running := fun live =>
      Decidable.not_not.mp fun idle => absurd (tracked.left live idle) (Nat.not_lt.mpr used)
    cases status : job.status <;> simp_all [MailboxJobStatus.isTerminal]

end Waiting

section Runs

variable {job : MailboxJob}

/-- An accepted operation does not put the last attempt of a job aside, and meets a version with
room for four more. -/
def SparesLast (entry : JobEntry) : Prop :=
  entry.output = .ok () →
    (entry.input = .requireAuth ∨ entry.input = .suspend →
      entry.before.attempt < entry.before.maxAttempts) ∧
    entry.before.version.value + 4 < u64Limit

theorem tracked_create {binding : MailboxBinding} {jobId : MailboxJobId} {cursor : Option String}
    {scheduledAt : UnixMillis} {maxAttempts : Nat}
    (created : MailboxJob.create binding jobId cursor scheduledAt maxAttempts = .ok job) :
    Tracked job := by
  obtain ⟨_, -, created⟩ := bind_eq_ok.mp created
  obtain ⟨_, -, created⟩ := bind_eq_ok.mp created
  obtain ⟨_, bounded, same⟩ := bind_eq_ok.mp created
  cases same
  simp only [validateMaxAttempts, refuseIf_eq_ok, not_or] at bounded
  refine ⟨fun _ _ => Nat.pos_of_ne_zero bounded.1, ?_⟩
  show 1 + 3 < u64Limit
  decide

theorem tracked_step (tracked : Tracked job) (operation : JobOperation)
    (spares : SparesLast (jobs.entry job operation)) : Tracked (jobs.step job operation).2 := by
  cases accepted : job.operate operation with
  | error why =>
    simp only [jobs, accepted]
    exact tracked
  | ok after =>
    simp only [jobs, accepted]
    obtain ⟨kept, room⟩ := spares (by simp only [Machine.entry, jobs, accepted])
    simp only [Machine.entry] at kept room
    obtain ⟨version, next, done⟩ := operated accepted
    have value := (AggregateVersion.next_eq_some next).1
    have fits : version.value + 3 < u64Limit := by omega
    cases done with
    | queue waits due left => exact ⟨fun _ _ => left, fits⟩
    | start queued tenant same active left => exact ⟨fun _ idle => absurd rfl idle, fits⟩
    | succeed running bounded => exact ⟨nofun, fits⟩
    | retry running left later => exact ⟨fun _ _ => left, fits⟩
    | requireAuth running => exact ⟨fun _ _ => kept (.inl rfl), fits⟩
    | suspend live unsuspended => exact ⟨fun _ _ => kept (.inr rfl), fits⟩
    | resume aside left => exact ⟨fun _ _ => left, fits⟩
    | fail running => exact ⟨nofun, fits⟩

/-- As long as no accepted operation puts a last attempt aside, no job is stranded. -/
theorem no_job_stranded {binding : MailboxBinding} {jobId : MailboxJobId} {cursor : Option String}
    {scheduledAt : UnixMillis} {maxAttempts : Nat}
    (created : MailboxJob.create binding jobId cursor scheduledAt maxAttempts = .ok job)
    (operations : List JobOperation)
    (spares : ∀ entry ∈ jobs.history job operations, SparesLast entry) :
    ∀ first second, operations = first ++ second → NotStranded (jobs.final job first) := by
  have kept := jobs.history_invariant (fun past job =>
    (∀ entry ∈ past, SparesLast entry) → Tracked job) (fun _ => tracked_create created)
    fun past before operation soFar held => tracked_step
      (soFar fun entry member => held entry (List.mem_append_left _ member)) operation
      (held _ (List.mem_append_right _ (List.mem_singleton.mpr rfl)))
  rintro first second rfl
  refine (kept first fun entry member => spares entry ?_).notStranded
  rw [Machine.history_append]
  exact List.mem_append_left _ member

end Runs

namespace SampleJob

def binding : MailboxBinding :=
  ⟨⟨⟨"tenant-mailbox", by decide⟩⟩, ⟨⟨"binding-mailbox", by decide⟩⟩, .active⟩

def once (attempts : Nat) : MailboxJob :=
  ⟨binding.tenantId, binding.bindingId, ⟨⟨"job-mailbox", by decide⟩⟩, none, .scheduled, 0, attempts,
    10, .initial⟩

/-- The first attempt ends with the provider asking for authentication. -/
def denied : List JobOperation := [.queue 10, .start binding, .requireAuth]

end SampleJob

open SampleJob in
/-- The only attempt of a job is put aside, and nothing can run the job again. -/
theorem last_attempt_aside :
    MailboxJob.create binding (once 1).jobId none 10 1 = .ok (once 1) ∧
      (∀ entry ∈ jobs.history (once 1) denied, entry.output = .ok ()) ∧
      ¬NotStranded (jobs.final (once 1) denied) := by
  refine ⟨by decide, by decide, fun safe => ?_⟩
  have left := safe.left (by decide) (by decide) (by decide)
  exact absurd left (by decide)

open SampleJob in
theorem no_job_stranded_denied :
    MailboxJob.create binding (once 3).jobId none 10 3 = .ok (once 3) ∧
      NotStranded (jobs.final (once 3) denied) := by
  have created : MailboxJob.create binding (once 3).jobId none 10 3 = .ok (once 3) := by decide
  refine ⟨created, no_job_stranded created denied ?_ denied [] (List.append_nil _).symm⟩
  unfold SparesLast
  decide

end ProfilePlatform.Mailbox
