import ProfilePlatform.Mailbox.Job

/-! The operations of a mailbox job as they change it in place. The job that is left is told
beside the result, also when the operation has failed. -/

set_option autoImplicit false

namespace ProfilePlatform.Mailbox.InPlace

open Foundation

abbrev Method : Type := MailboxJob → Except MailboxError Unit × MailboxJob

def u32Limit : Nat := 0x100000000

def bumpVersion : Method := fun job =>
  match job.version.next with
  | none => (.error .versionOverflow, job)
  | some version => (.ok (), { job with version })

/-- Checks that only read the job, the version, and then the other fields. -/
def transition (checks : MailboxJob → Except MailboxError Unit)
    (change : MailboxJob → MailboxJob) : Method := fun job =>
  match checks job with
  | .error why => (.error why, job)
  | .ok () =>
    match bumpVersion job with
    | (.error why, left) => (.error why, left)
    | (.ok (), bumped) => (.ok (), change bumped)

section Checks

def queueChecks (now : UnixMillis) (job : MailboxJob) : Except MailboxError Unit := do
  refuseIf (job.status ≠ .scheduled ∧ job.status ≠ .retryPending) .invalidJobTransition
  refuseIf (now < job.nextRunAt) .jobNotDue
  refuseIf (job.maxAttempts ≤ job.attempt) .maxAttemptsReached

def startChecks (binding : MailboxBinding) (job : MailboxJob) : Except MailboxError Unit := do
  refuseIf (job.status ≠ .queued) .invalidJobTransition
  refuseIf (binding.tenantId ≠ job.tenantId ∨ binding.bindingId ≠ job.bindingId)
    .bindingNotExecutable
  binding.requireActive
  refuseIf (job.maxAttempts ≤ job.attempt) .maxAttemptsReached

def succeedChecks (nextCursor : Option String) (job : MailboxJob) : Except MailboxError Unit := do
  job.requireRunning
  validateCursor nextCursor

def retryChecks (now retryAt : UnixMillis) (job : MailboxJob) : Except MailboxError Unit := do
  job.requireRunning
  refuseIf (job.maxAttempts ≤ job.attempt) .maxAttemptsReached
  refuseIf (retryAt ≤ now) .invalidRetryTime

def suspendChecks (job : MailboxJob) : Except MailboxError Unit :=
  refuseIf (job.status.isTerminal ∨ job.status = .suspended) .invalidJobTransition

def resumeChecks (job : MailboxJob) : Except MailboxError Unit := do
  refuseIf (job.status ≠ .authRequired ∧ job.status ≠ .suspended) .invalidJobTransition
  refuseIf (job.maxAttempts ≤ job.attempt) .maxAttemptsReached

end Checks

section Operations

def queue (now : UnixMillis) : Method :=
  transition (queueChecks now) fun job => { job with status := .queued }

/-- The one operation that changes a field before the version. Attempts are counted in thirty-two
bits. -/
def start (binding : MailboxBinding) : Method := fun job =>
  match startChecks binding job with
  | .error why => (.error why, job)
  | .ok () =>
    if u32Limit ≤ job.attempt + 1 then (.error .maxAttemptsReached, job)
    else
      match bumpVersion { job with attempt := job.attempt + 1 } with
      | (.error why, left) => (.error why, left)
      | (.ok (), bumped) => (.ok (), { bumped with status := .running })

def succeed (nextCursor : Option String) : Method :=
  transition (succeedChecks nextCursor) fun job =>
    { job with cursor := nextCursor, status := .succeeded }

def retry (now retryAt : UnixMillis) : Method :=
  transition (retryChecks now retryAt) fun job =>
    { job with nextRunAt := retryAt, status := .retryPending }

def requireAuth : Method :=
  transition MailboxJob.requireRunning fun job => { job with status := .authRequired }

def suspend : Method := transition suspendChecks fun job => { job with status := .suspended }

def resume (scheduledAt : UnixMillis) : Method :=
  transition resumeChecks fun job => { job with nextRunAt := scheduledAt, status := .scheduled }

def fail : Method := transition MailboxJob.requireRunning fun job => { job with status := .failed }

def operate (operation : JobOperation) : Method :=
  match operation with
  | .queue now => queue now
  | .start binding => start binding
  | .succeed nextCursor => succeed nextCursor
  | .retry now retryAt => retry now retryAt
  | .requireAuth => requireAuth
  | .suspend => suspend
  | .resume scheduledAt => resume scheduledAt
  | .fail => fail

end Operations

/-- Every field that an operation may change is as it was. -/
structure Unchanged (job left : MailboxJob) : Prop where
  status : left.status = job.status
  attempt : left.attempt = job.attempt
  version : left.version = job.version
  cursor : left.cursor = job.cursor
  nextRunAt : left.nextRunAt = job.nextRunAt

/-- A failed call changes nothing, and one that succeeds advances the version by one. -/
def Atomic (job : MailboxJob) : Except MailboxError Unit × MailboxJob → Prop
  | (.error _, left) => Unchanged job left
  | (.ok _, left) => left.version.value = job.version.value + 1

theorem Unchanged.refl (job : MailboxJob) : Unchanged job job := ⟨rfl, rfl, rfl, rfl, rfl⟩

variable {job : MailboxJob}

theorem value_next {version after : AggregateVersion} (next : version.next = some after) :
    after.value = version.value + 1 := (AggregateVersion.next_eq_some next).1

theorem atomic_transition {checks : MailboxJob → Except MailboxError Unit}
    {change : MailboxJob → MailboxJob} (keeps : ∀ job, (change job).version = job.version) :
    Atomic job (transition checks change job) := by
  unfold transition bumpVersion
  cases checks job with
  | error why => exact Unchanged.refl job
  | ok passed =>
    cases next : job.version.next with
    | none => exact Unchanged.refl job
    | some version =>
      show (change { job with version }).version.value = _
      rw [keeps]
      exact value_next next

/-- A start that passes every check, on a job whose version cannot be advanced. -/
def StartsAtLastVersion (job : MailboxJob) (operation : JobOperation) : Prop :=
  ∃ binding, operation = .start binding ∧ startChecks binding job = .ok () ∧
    job.attempt + 1 < u32Limit ∧ job.version.next = none

theorem atomic_start_iff (binding : MailboxBinding) :
    Atomic job (start binding job) ↔ ¬StartsAtLastVersion job (.start binding) := by
  unfold start bumpVersion
  cases checked : startChecks binding job with
  | error why =>
    refine iff_of_true (Unchanged.refl job) ?_
    rintro ⟨_, ⟨⟩, passed, -⟩
    rw [checked] at passed
    cases passed
  | ok passed =>
    by_cases counted : u32Limit ≤ job.attempt + 1
    · simp only [counted, if_true]
      refine iff_of_true (Unchanged.refl job) ?_
      rintro ⟨_, ⟨⟩, -, fits, -⟩
      exact Nat.not_le.mpr fits counted
    · simp only [counted, if_false]
      cases next : job.version.next with
      | none =>
        -- The attempt that has been counted stays counted.
        refine iff_of_false (fun atomic => ?_) (not_not_intro ?_)
        · exact absurd atomic.attempt (Nat.succ_ne_self job.attempt)
        · exact ⟨binding, rfl, checked, Nat.not_le.mp counted, next⟩
      | some version =>
        refine iff_of_true (value_next next) ?_
        rintro ⟨_, ⟨⟩, -, -, overflow⟩
        rw [next] at overflow
        cases overflow

/-- Every operation is atomic, but for a start at the last version. -/
theorem operations_atomic_iff (job : MailboxJob) (operation : JobOperation) :
    Atomic job (operate operation job) ↔ ¬StartsAtLastVersion job operation := by
  cases operation with
  | start binding => exact atomic_start_iff binding
  | queue | succeed | retry | requireAuth | suspend | resume | fail =>
    refine iff_of_true (atomic_transition fun _ => rfl) ?_
    rintro ⟨binding, different, -⟩
    cases different

section Agreement

/-- The result in place is that of the operation which returns the job. -/
def Agrees (ended : Except MailboxError Unit × MailboxJob) : Except MailboxError MailboxJob → Prop
  | .ok after => ended = (.ok (), after)
  | .error why => ended.1 = .error why

theorem agrees_transition {checks : MailboxJob → Except MailboxError Unit}
    {change : MailboxJob → MailboxJob} {computed : Except MailboxError MailboxJob}
    (chain : computed = checks job >>= fun _ =>
      job.bumpVersion >>= fun version => pure (change { job with version })) :
    Agrees (transition checks change job) computed := by
  rw [chain]
  unfold transition bumpVersion MailboxJob.bumpVersion
  cases checks job with
  | error why => rfl
  | ok passed => cases job.version.next <;> rfl

theorem agrees_start (bounded : job.maxAttempts < u32Limit) (binding : MailboxBinding) :
    Agrees (start binding job) (job.start binding) := by
  have chain : job.start binding = startChecks binding job >>= fun _ =>
      job.bumpVersion >>= fun version =>
        pure { job with attempt := job.attempt + 1, version, status := .running } := by
    simp only [MailboxJob.start, startChecks, bind_assoc]
  rw [chain]
  unfold start bumpVersion MailboxJob.bumpVersion
  cases checked : startChecks binding job with
  | error why => rfl
  | ok passed =>
    have left : job.attempt < job.maxAttempts := by
      simp only [startChecks, bind_eq_ok, refuseIf_eq_ok, Nat.not_le] at checked
      obtain ⟨_, _, _, _, _, _, left⟩ := checked
      exact left
    simp only [Nat.not_le.mpr (Nat.lt_of_le_of_lt left bounded), if_false]
    cases job.version.next <;> rfl

/-- In place an operation succeeds where it returns a job, and leaves that job. -/
theorem agrees_operate (bounded : job.maxAttempts < u32Limit) (operation : JobOperation) :
    Agrees (operate operation job) (job.operate operation) := by
  cases operation with
  | start binding => exact agrees_start bounded binding
  | queue now =>
    refine agrees_transition ?_
    simp only [MailboxJob.operate, MailboxJob.queue, queueChecks, bind_assoc]
  | succeed nextCursor =>
    refine agrees_transition ?_
    simp only [MailboxJob.operate, MailboxJob.succeed, succeedChecks, bind_assoc]
  | retry now retryAt =>
    refine agrees_transition ?_
    simp only [MailboxJob.operate, MailboxJob.retry, retryChecks, bind_assoc]
  | requireAuth => exact agrees_transition rfl
  | suspend => exact agrees_transition rfl
  | resume scheduledAt =>
    refine agrees_transition ?_
    simp only [MailboxJob.operate, MailboxJob.resume, resumeChecks, bind_assoc]
  | fail => exact agrees_transition rfl

end Agreement

/-! A job with the largest version, which can still be started. -/

namespace LastVersion

def binding : MailboxBinding :=
  ⟨⟨⟨"tenant-last-version", by decide⟩⟩, ⟨⟨"mailbox-last-version", by decide⟩⟩, .active⟩

def lastJob : MailboxJob where
  tenantId := binding.tenantId
  bindingId := binding.bindingId
  jobId := ⟨⟨"job-last-version", by decide⟩⟩
  cursor := none
  status := .queued
  attempt := 0
  maxAttempts := 3
  nextRunAt := 0
  version := ⟨u64Limit - 1, by decide⟩

/-- The start fails, and its attempt has been counted. -/
theorem attempt_counted : MailboxJob.restore lastJob = .ok lastJob ∧
    operate (.start binding) lastJob = (.error .versionOverflow, { lastJob with attempt := 1 }) ∧
    ¬Atomic lastJob (operate (.start binding) lastJob) := by
  have started : operate (.start binding) lastJob =
      (.error .versionOverflow, { lastJob with attempt := 1 }) := by rfl
  refine ⟨rfl, started, ?_⟩
  rw [started]
  intro atomic
  exact absurd atomic.attempt (by decide)

end LastVersion

end ProfilePlatform.Mailbox.InPlace
