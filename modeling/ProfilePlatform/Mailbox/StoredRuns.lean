import ProfilePlatform.Mailbox.JobRuns
import ProfilePlatform.Mailbox.RunInsertion

/-! The stored job after a run is the job the domain has prepared.

The triggers check again what the domain has checked, on the row instead of the job.
They do not look at the attempts a retry leaves, and not at the age of the binding.
-/

set_option autoImplicit false

namespace ProfilePlatform.Mailbox

open Foundation
open Catalog (Refusal)
open Tables (ranJob movedBinding retryTimeInvalid)

section Prepared

variable {binding : MailboxBinding} {job running after : MailboxJob} {now : UnixMillis}
  {answer : ProviderAnswer} {prepared : MailboxJobPreparedRun}

/-- The provider asks for the binding to be put aside. -/
def PutsAside (answer : ProviderAnswer) : Prop :=
  ∃ failure, answer = .error (.failure failure) ∧
    (failure.disposition = .authRequired ∨ failure.disposition = .suspended)

/-- How a running job is concluded, whatever the outcome. -/
structure Concluded (running : MailboxJob) (now : UnixMillis) (answer : ProviderAnswer)
    (outcome : RunOutcome) (prepared : MailboxJobPreparedRun) (after : MailboxJob) : Prop where
  result : prepared = .fromJob after prepared.providerStatus prepared.boundedItemCount
  accepted : acceptsProviderStatus prepared.providerStatus = true
  few : prepared.boundedItemCount ≤ maxBoundedItemCount
  version : running.version.next = some after.version
  same : after = { running with
    version := after.version
    status := outcome.status
    cursor := if outcome = .succeeded then after.cursor else running.cursor
    nextRunAt := if outcome = .retryPending then after.nextRunAt else running.nextRunAt }
  bounded : outcome = .succeeded → validateCursor after.cursor = .ok ()
  later : outcome = .retryPending → now < after.nextRunAt
  aside : outcome.executionStatus ≠ none ↔ PutsAside answer

theorem acceptsProviderStatus_exhausted : acceptsProviderStatus "RETRY_EXHAUSTED" = true := by
  decide +kernel

theorem acceptsProviderStatus_storageValue (failureClass : MailboxProviderFailureClass) :
    acceptsProviderStatus failureClass.storageValue = true := by
  cases failureClass <;> decide +kernel

theorem applied_failure {failure : MailboxProviderFailure}
    (applied : applyProviderFailure running now failure = .ok (prepared, after)) :
    ∃ outcome, Concluded running now (.error (.failure failure)) outcome prepared after := by
  have named := acceptsProviderStatus_storageValue failure.failureClass
  have aside (disposed : failure.disposition = .authRequired ∨ failure.disposition = .suspended) :
      PutsAside (.error (.failure failure)) := ⟨failure, rfl, disposed⟩
  have stays (disposed : ¬(failure.disposition = .authRequired ∨
      failure.disposition = .suspended)) : ¬PutsAside (.error (.failure failure)) := by
    rintro ⟨other, same, moves⟩
    cases same
    exact disposed moves
  unfold applyProviderFailure at applied
  split at applied
  next retryable =>
    have stays := stays (by simp [retryable])
    split at applied
    next exhausted =>
      obtain ⟨failed, done, same⟩ := bind_eq_ok.mp applied
      cases same
      have done : running.operate .fail = .ok after := mapError_eq_ok.mp done
      obtain ⟨version, next, operated⟩ := operated done
      cases operated
      exact ⟨.failed, rfl, acceptsProviderStatus_exhausted, Nat.zero_le _, next, rfl, by simp, by simp,
        by simp [RunOutcome.executionStatus, stays]⟩
    next left =>
      obtain ⟨retryAt, -, applied⟩ := bind_eq_ok.mp applied
      obtain ⟨retried, done, same⟩ := bind_eq_ok.mp applied
      cases same
      have done : running.operate (.retry now retryAt) = .ok after := mapError_eq_ok.mp done
      obtain ⟨version, next, operated⟩ := operated done
      cases operated with
      | retry _ _ later =>
        exact ⟨.retryPending, rfl, named, Nat.zero_le _, next, rfl, by simp, fun _ => later,
          by simp [RunOutcome.executionStatus, stays]⟩
  next disposed =>
    obtain ⟨moved, done, same⟩ := bind_eq_ok.mp applied
    cases same
    have done : running.operate .requireAuth = .ok after := mapError_eq_ok.mp done
    obtain ⟨version, next, operated⟩ := operated done
    cases operated
    exact ⟨.authRequired, rfl, named, Nat.zero_le _, next, rfl, by simp, by simp,
      by simp [RunOutcome.executionStatus, aside (.inl disposed)]⟩
  next disposed =>
    obtain ⟨moved, done, same⟩ := bind_eq_ok.mp applied
    cases same
    have done : running.operate .suspend = .ok after := mapError_eq_ok.mp done
    obtain ⟨version, next, operated⟩ := operated done
    cases operated
    exact ⟨.suspended, rfl, named, Nat.zero_le _, next, rfl, by simp, by simp,
      by simp [RunOutcome.executionStatus, aside (.inr disposed)]⟩
  next terminal =>
    obtain ⟨failed, done, same⟩ := bind_eq_ok.mp applied
    cases same
    have done : running.operate .fail = .ok after := mapError_eq_ok.mp done
    obtain ⟨version, next, operated⟩ := operated done
    cases operated
    exact ⟨.failed, rfl, named, Nat.zero_le _, next, rfl, by simp, by simp,
      by simp [RunOutcome.executionStatus, stays (by simp [terminal])]⟩

theorem applied_result
    (applied : applyProviderResult binding running now answer = .ok (prepared, after)) :
    ∃ outcome, Concluded running now answer outcome prepared after := by
  unfold applyProviderResult at applied
  split at applied
  next observation =>
    obtain ⟨_, -, applied⟩ := bind_eq_ok.mp applied
    obtain ⟨succeeded, done, same⟩ := bind_eq_ok.mp applied
    cases same
    have done : running.operate (.succeed observation.nextCursor) = .ok after :=
      mapError_eq_ok.mp done
    obtain ⟨version, next, operated⟩ := operated done
    cases operated with
    | succeed _ bounded =>
      refine ⟨.succeeded, rfl, observation.acceptedStatus, observation.boundedCount, next, rfl,
        fun _ => bounded, nofun, ?_⟩
      simp [RunOutcome.executionStatus, PutsAside]
  next failure => exact applied_failure applied
  next => cases applied

/-- The job while the provider is asked. -/
def startedJob (job : MailboxJob) (version : AggregateVersion) : MailboxJob :=
  { job with attempt := job.attempt + 1, version, status := .running }

theorem prepared_run
    (run : prepareMailboxRun binding job now answer = .ok (prepared, after)) :
    (job.status = .scheduled ∨ job.status = .retryPending) ∧ job.nextRunAt ≤ now ∧
      job.attempt < job.maxAttempts ∧ ∃ outcome version,
        version.value = job.version.value + 2 ∧
          Concluded (startedJob job version) now answer outcome prepared after := by
  obtain ⟨queued, queue, run⟩ := bind_eq_ok.mp run
  obtain ⟨running, start, applied⟩ := bind_eq_ok.mp run
  have queue : job.operate (.queue now) = .ok queued := mapError_eq_ok.mp queue
  have start : queued.operate (.start binding) = .ok running := mapError_eq_ok.mp start
  obtain ⟨first, bumped, queue⟩ := operated queue
  obtain ⟨second, again, start⟩ := operated start
  cases queue with
  | queue waits due left =>
    cases start with
    | start _ tenant same active left =>
      obtain ⟨outcome, concluded⟩ := applied_result applied
      refine ⟨waits, due, left, outcome, second, ?_, concluded⟩
      rw [(AggregateVersion.next_eq_some again).1, (AggregateVersion.next_eq_some bumped).1]

end Prepared

section Mapping

variable {row : JobRow} {read : MailboxJobReadModel} {write : MailboxJobRunWrite}
  {command : RunCommandRow}

/-- What a row has to satisfy for the repository to read it, and what it then reads. -/
structure Maps (row : JobRow) (read : MailboxJobReadModel) : Prop where
  few : row.boundedItemCount ≤ 10000
  named : ¬(row.providerStatus.any fun status => !acceptsProviderStatus status) = true
  attempts : ¬(10 < row.attempt ∨ 10 < row.maxAttempts)
  version : read.job.version.value = row.version
  cursor : validateCursor row.cursor = .ok ()
  maxAttempts : validateMaxAttempts row.maxAttempts = .ok ()
  within : row.attempt ≤ row.maxAttempts
  same : read = {
    job := {
      tenantId := row.key.binding.tenantId
      bindingId := row.key.binding.bindingId
      jobId := row.key.jobId
      cursor := row.cursor
      status := row.lifecycleStatus
      attempt := row.attempt
      maxAttempts := row.maxAttempts
      nextRunAt := row.nextRunAtMs
      version := read.job.version }
    providerStatus := row.providerStatus
    boundedItemCount := row.boundedItemCount }

theorem restore_eq_ok {snapshot job : MailboxJob} :
    MailboxJob.restore snapshot = .ok job ↔
      validateCursor snapshot.cursor = .ok () ∧ validateMaxAttempts snapshot.maxAttempts = .ok () ∧
        snapshot.attempt ≤ snapshot.maxAttempts ∧ snapshot = job := by
  constructor
  · intro restored
    obtain ⟨_, cursor, restored⟩ := bind_eq_ok.mp restored
    obtain ⟨_, limit, restored⟩ := bind_eq_ok.mp restored
    obtain ⟨_, within, same⟩ := bind_eq_ok.mp restored
    cases same
    exact ⟨cursor, limit, Nat.le_of_not_lt (refuseIf_eq_ok.mp within), rfl⟩
  · rintro ⟨cursor, limit, within, rfl⟩
    unfold MailboxJob.restore
    rw [cursor, limit, refuseIf_passes (Nat.not_lt.mpr within)]
    rfl

theorem jobFromRow_eq_ok : jobFromRow row = .ok read ↔ Maps row read := by
  constructor
  · intro mapped
    obtain ⟨_, few, mapped⟩ := bind_eq_ok.mp mapped
    obtain ⟨_, named, mapped⟩ := bind_eq_ok.mp mapped
    obtain ⟨_, attempts, mapped⟩ := bind_eq_ok.mp mapped
    obtain ⟨version, numbered, mapped⟩ := bind_eq_ok.mp mapped
    obtain ⟨job, restored, same⟩ := bind_eq_ok.mp mapped
    obtain ⟨cursor, limit, within, rfl⟩ := restore_eq_ok.mp (mapError_eq_ok.mp restored)
    cases same
    exact ⟨Nat.le_of_not_lt (refuseIf_eq_ok.mp few), refuseIf_eq_ok.mp named,
      refuseIf_eq_ok.mp attempts, AggregateVersion.value_of_new (mapError_eq_ok.mp numbered),
      cursor, limit, within, rfl⟩
  · rintro ⟨few, named, attempts, version, cursor, limit, within, same⟩
    have numbered : positiveVersion row.version = .ok read.job.version := by
      rw [← version]
      exact mapError_eq_ok.mpr (AggregateVersion.new_value _)
    rw [same]
    refine bind_eq_ok.mpr ⟨(), refuseIf_passes (Nat.not_lt.mpr few), ?_⟩
    refine bind_eq_ok.mpr ⟨(), refuseIf_passes named, ?_⟩
    refine bind_eq_ok.mpr ⟨(), refuseIf_passes attempts, ?_⟩
    refine bind_eq_ok.mpr ⟨_, numbered, ?_⟩
    exact bind_eq_ok.mpr ⟨_, mapError_eq_ok.mpr (restore_eq_ok.mpr ⟨cursor, limit, within, rfl⟩),
      rfl⟩

theorem runOutcome_eq_ok {status : MailboxJobStatus} {outcome : RunOutcome} :
    runOutcome status = .ok outcome ↔ status = outcome.status := by
  cases status <;> cases outcome <;> simp [runOutcome, RunOutcome.status]

theorem sqliteInteger_eq_ok {value stored : Nat} :
    sqliteInteger value = .ok stored ↔ stored = value ∧ value < sqliteLimit := by
  unfold sqliteInteger
  split
  next fits => simp [fits, eq_comm]
  next large => simp [large]

theorem sqliteRetryTime_eq_ok {time : Option UnixMillis} {stored : Option Nat}
    (bound : sqliteRetryTime time = .ok stored) :
    stored = time ∧ time.all (· < sqliteLimit) = true := by
  cases time with
  | none =>
    cases bound
    exact ⟨rfl, rfl⟩
  | some value =>
    obtain ⟨fitted, fits, same⟩ := bind_eq_ok.mp bound
    cases same
    obtain ⟨rfl, fits⟩ := sqliteInteger_eq_ok.mp fits
    exact ⟨rfl, by simpa using fits⟩

theorem validateMailboxJobRunVersion_eq_ok {version result : AggregateVersion}
    (fits : validateMailboxJobRunVersion version = .ok result) : result.value = version.value + 3 := by
  unfold validateMailboxJobRunVersion at fits
  split at fits
  next later found =>
    cases fits
    obtain ⟨second, found, third⟩ := Option.bind_eq_some_iff.mp found
    obtain ⟨first, began, second⟩ := Option.bind_eq_some_iff.mp found
    rw [(AggregateVersion.next_eq_some third).1, (AggregateVersion.next_eq_some second).1,
      (AggregateVersion.next_eq_some began).1]
  next => cases fits

/-- The command row the repository binds, and that its values fit. -/
structure Sent (write : MailboxJobRunWrite) (command : RunCommandRow) : Prop where
  job : command.job =
    ⟨⟨write.actor.tenantScope.tenantId, write.bindingId⟩, write.jobId⟩
  version : command.expectedJobVersion = write.expectedVersion.value
  outcome : write.prepared.status = command.outcome.status
  nextCursor : command.nextCursor = write.prepared.cursor
  providerStatus : command.providerStatus = write.prepared.providerStatus
  boundedItemCount : command.boundedItemCount = write.prepared.boundedItemCount
  retryAtMs : command.retryAtMs = write.prepared.retryAt
  executedAtMs : command.executedAtMs = write.now
  timeFits : write.now < sqliteLimit
  retryFits : command.retryAtMs.all (· < sqliteLimit) = true
  versionFits : write.expectedVersion.value + 3 < sqliteLimit

theorem sent_of_commandRow (bound : commandRow write = .ok command) : Sent write command := by
  obtain ⟨_, -, bound⟩ := bind_eq_ok.mp bound
  obtain ⟨_, -, bound⟩ := bind_eq_ok.mp bound
  obtain ⟨resultVersion, numbered, bound⟩ := bind_eq_ok.mp bound
  obtain ⟨_, -, bound⟩ := bind_eq_ok.mp bound
  obtain ⟨outcome, ended, bound⟩ := bind_eq_ok.mp bound
  obtain ⟨executedAtMs, timed, bound⟩ := bind_eq_ok.mp bound
  obtain ⟨retryAtMs, planned, bound⟩ := bind_eq_ok.mp bound
  obtain ⟨expectedJobVersion, expected, bound⟩ := bind_eq_ok.mp bound
  obtain ⟨stored, fits, same⟩ := bind_eq_ok.mp bound
  cases same
  obtain ⟨rfl, timeFits⟩ := sqliteInteger_eq_ok.mp timed
  obtain ⟨rfl, -⟩ := sqliteInteger_eq_ok.mp expected
  obtain ⟨rfl, retryFits⟩ := sqliteRetryTime_eq_ok planned
  have versionFits := (sqliteInteger_eq_ok.mp fits).2
  rw [validateMailboxJobRunVersion_eq_ok (mapError_eq_ok.mp numbered)] at versionFits
  exact ⟨rfl, rfl, runOutcome_eq_ok.mp ended, rfl, rfl, rfl, rfl, rfl, timeFits, retryFits,
    versionFits⟩

end Mapping

section Agreement

variable {tables : Tables} {row : JobRow} {bindingRow : BindingRow} {read : MailboxJobReadModel}
  {after : MailboxJob} {write : MailboxJobRunWrite} {command : RunCommandRow}
  {answer : ProviderAnswer}

/-- The insertion is accepted, and the job's row then reads as the prepared job. -/
def Stores (tables : Tables) (row : JobRow) (command : RunCommandRow)
    (prepared : MailboxJobPreparedRun) (after : MailboxJob) (now : UnixMillis) : Prop :=
  ∃ result, tables.insertRun command = .ok result ∧ ∃ stored,
    Rows.Replaced JobRow.key row stored tables.jobs result.jobs ∧ stored.key = row.key ∧
      jobFromRow stored = .ok ⟨after, some prepared.providerStatus, prepared.boundedItemCount⟩ ∧
      stored.version = row.version + 3 ∧ stored.updatedAtMs = now

theorem checked_of_sent {outcome : RunOutcome} {running : MailboxJob}
    (sent : Sent write command)
    (concluded : Concluded running write.now answer outcome write.prepared after) :
    command.checked = true := by
  have positive := write.expectedVersion.positive
  have few := concluded.few
  have fits := sent.versionFits
  have timed := sent.timeFits
  unfold maxBoundedItemCount at few
  simp only [RunCommandRow.checked, Bool.and_eq_true, decide_eq_true_eq, sent.version,
    sent.boundedItemCount, sent.executedAtMs]
  exact ⟨⟨⟨⟨by omega, by omega⟩, few⟩, sent.retryFits⟩, timed⟩

theorem outcome_of_sent {outcome : RunOutcome} {running : MailboxJob} (sent : Sent write command)
    (concluded : Concluded running write.now answer outcome write.prepared after) :
    command.outcome = outcome := by
  have ended := sent.outcome
  rw [concluded.result, concluded.same] at ended
  have ended : outcome.status = command.outcome.status := ended
  revert ended
  cases outcome <;> cases command.outcome <;> decide

/-- The run of a job that was read from a row, and the command that the repository sends for it. -/
structure Ran (row : JobRow) (read : MailboxJobReadModel) (write : MailboxJobRunWrite)
    (answer : ProviderAnswer) (after : MailboxJob) (command : RunCommandRow) : Prop where
  mapped : Maps row read
  sent : Sent write command
  expected : read.job.version = write.expectedVersion
  waits : row.Waits
  due : row.nextRunAtMs ≤ write.now
  left : row.attempt < row.maxAttempts
  version : after.version.value = row.version + 3
  concluded : ∃ started, Concluded (startedJob read.job started) write.now answer command.outcome
    write.prepared after

theorem ran_of_runMailboxJob {binding : MailboxBinding} (mapped : Maps row read)
    (run : runMailboxJob write.expectedVersion binding read.job write.now answer =
      .ok (write.prepared, after)) (bound : commandRow write = .ok command) :
    Ran row read write answer after command := by
  have sent := sent_of_commandRow bound
  obtain ⟨response, -, run⟩ := bind_eq_ok.mp run
  obtain ⟨_, expected, run⟩ := bind_eq_ok.mp run
  obtain ⟨result, prepared, run⟩ := bind_eq_ok.mp run
  obtain ⟨_, -, same⟩ := bind_eq_ok.mp run
  cases same
  obtain ⟨waits, due, left, outcome, started, begun, concluded⟩ := prepared_run prepared
  have ended := outcome_of_sent sent concluded
  have later := (AggregateVersion.next_eq_some concluded.version).1
  have first := mapped.version
  have same := mapped.same
  subst ended
  refine ⟨mapped, sent, not_not.mp (refuseIf_eq_ok.mp expected), ?_, ?_, ?_, ?_, started, concluded⟩
  · rw [same] at waits
    exact waits
  · rw [same] at due
    exact due
  · rw [same] at left
    exact left
  · have running : (startedJob read.job started).version = started := rfl
    rw [running] at later
    omega

namespace Ran

variable (ran : Ran row read write answer after command)

include ran

theorem nextCursor : command.nextCursor = after.cursor := by
  obtain ⟨started, concluded⟩ := ran.concluded
  rw [ran.sent.nextCursor, concluded.result]
  rfl

theorem afterStatus : after.status = command.outcome.status := by
  obtain ⟨started, concluded⟩ := ran.concluded
  rw [concluded.same]

theorem retryAtMs : command.retryAtMs =
    if command.outcome = .retryPending then some after.nextRunAt else none := by
  obtain ⟨started, concluded⟩ := ran.concluded
  rw [ran.sent.retryAtMs, concluded.result]
  simp only [MailboxJobPreparedRun.fromJob, ran.afterStatus]
  cases command.outcome <;> rfl

theorem boundedCursor : validateCursor (ranJob command row).cursor = .ok () := by
  obtain ⟨started, concluded⟩ := ran.concluded
  simp only [ranJob]
  split
  next succeeded =>
    rw [ran.nextCursor]
    exact concluded.bounded succeeded
  next => exact ran.mapped.cursor

theorem maps : Maps (ranJob command row)
    ⟨after, some write.prepared.providerStatus, write.prepared.boundedItemCount⟩ := by
  obtain ⟨started, concluded⟩ := ran.concluded
  have left := ran.left
  have limit := ran.mapped.attempts
  refine ⟨?_, ?_, ?_, ran.version, ran.boundedCursor, ran.mapped.maxAttempts, left, ?_⟩
  · rw [ranJob, ran.sent.boundedItemCount]
    exact concluded.few
  · simp [ranJob, ran.sent.providerStatus, concluded.accepted]
  · simp only [ranJob]
    omega
  · have job := congrArg MailboxJobReadModel.job ran.mapped.same
    have same := concluded.same
    rw [startedJob, job] at same
    have next : (ranJob command row).nextRunAtMs =
        if command.outcome = .retryPending then after.nextRunAt else row.nextRunAtMs := by
      simp only [ranJob, ran.retryAtMs]
      split <;> rfl
    rw [next]
    simp only [ranJob, ran.sent.providerStatus, ran.sent.boundedItemCount, ran.nextCursor]
    exact congrArg (MailboxJobReadModel.mk · _ _) same

theorem retryTimeInvalid_eq_false : retryTimeInvalid command = false := by
  obtain ⟨started, concluded⟩ := ran.concluded
  have planned := ran.retryAtMs
  unfold retryTimeInvalid
  rw [planned]
  cases ended : command.outcome with
  | retryPending =>
    have later := concluded.later ended
    simpa [ran.sent.executedAtMs] using later
  | authRequired => rfl
  | suspended => rfl
  | succeeded => rfl
  | failed => rfl

theorem shortCursor : command.nextCursor.any (512 < sqlLength ·) = false := by
  obtain ⟨started, concluded⟩ := ran.concluded
  have short : command.nextCursor.all (sqlLength · ≤ 512) = true := by
    rw [ran.nextCursor]
    by_cases succeeded : command.outcome = .succeeded
    · exact sqlLength_of_validateCursor (concluded.bounded succeeded)
    · have kept : after.cursor = row.cursor := by
        rw [concluded.same]
        simp only [startedJob, if_neg succeeded]
        exact congrArg (·.job.cursor) ran.mapped.same
      rw [kept]
      exact sqlLength_of_validateCursor ran.mapped.cursor
  cases written : command.nextCursor with
  | none => rfl
  | some cursor => simpa [written] using short

/-- All that the trigger may still object to is a clock that has gone back. -/
theorem validated_iff : Validated row command ↔ row.updatedAtMs ≤ write.now := by
  obtain ⟨started, concluded⟩ := ran.concluded
  have executed := ran.sent.executedAtMs
  have numbered : row.version = command.expectedJobVersion := by
    rw [ran.sent.version, ← ran.expected, ran.mapped.version]
  have room := ran.sent.versionFits
  have expected := ran.sent.version
  unfold sqliteLimit at room
  constructor
  · intro validated
    rw [← executed]
    exact validated.forward
  · intro forward
    refine ⟨ran.waits, numbered, executed ▸ ran.due, ran.left, by omega, ?_,
      ran.shortCursor, ran.retryTimeInvalid_eq_false, executed ▸ forward⟩
    rw [ran.sent.providerStatus]
    exact isProviderStatus_of_accepts concluded.accepted

end Ran

theorem stores_iff (valid : tables.Valid) (names : tables.Names command row bindingRow)
    (receives : tables.Receives command) (ran : Ran row read write answer after command) :
    Stores tables row command write.prepared after write.now ↔
      row.updatedAtMs ≤ write.now ∧ (PutsAside answer →
        bindingRow.createdAtMs ≤ write.now ∧ bindingRow.version + 1 < sqliteLimit) := by
  obtain ⟨started, concluded⟩ := ran.concluded
  have checked := checked_of_sent ran.sent concluded
  have movable : (movedBinding command bindingRow).checked = true ↔ _ :=
    movedBinding_checked checked
  rw [ran.sent.executedAtMs] at movable
  rw [← ran.validated_iff, ← concluded.aside, ← movable]
  constructor
  · rintro ⟨result, inserted, -⟩
    obtain ⟨_, passed, -⟩ := bind_eq_ok.mp inserted
    have validated := (validateRun_eq_ok valid names receives).mp passed
    exact ⟨validated, (insertRun_eq_ok valid names receives checked validated).mp
      ⟨result, inserted⟩⟩
  · rintro ⟨validated, moves⟩
    obtain ⟨result, inserted⟩ := (insertRun_eq_ok valid names receives checked validated).mpr moves
    exact ⟨result, inserted, ranJob command row,
      jobs_of_insertRun valid names receives checked validated inserted, rfl,
      jobFromRow_eq_ok.mpr ran.maps, rfl, ran.sent.executedAtMs⟩

end Agreement

section Refusals

variable {tables : Tables} {row : JobRow} {bindingRow : BindingRow} {read : MailboxJobReadModel}
  {command : RunCommandRow}

inductive CommandRefusal where
  | version
  | domain (why : MailboxError)
  deriving DecidableEq, Repr

/-- The reasons of state, version, time and attempts. -/
def CommandRefusal.isGoverned : CommandRefusal → Bool
  | .version => true
  | .domain why => why ∈ [MailboxError.invalidJobTransition, .jobNotDue, .maxAttemptsReached,
      .invalidRetryTime, .versionOverflow]

/-- What the domain says to the command of a stored row: its three transitions, of the job in the
version the command expects. A retry without a time is none. -/
def MailboxJob.follow (binding : MailboxBinding) (command : RunCommandRow) (job : MailboxJob) :
    Except CommandRefusal MailboxJob := do
  refuseIf (job.version.value ≠ command.expectedJobVersion) .version
  let queued ← (job.queue command.executedAtMs).mapError .domain
  let running ← (queued.start binding).mapError .domain
  match command.outcome with
  | .succeeded => (running.succeed command.nextCursor).mapError .domain
  | .retryPending =>
    match command.retryAtMs with
    | some retryAtMs => (running.retry command.executedAtMs retryAtMs).mapError .domain
    | none => .error (.domain .invalidRetryTime)
  | .authRequired => running.requireAuth.mapError .domain
  | .suspended => running.suspend.mapError .domain
  | .failed => running.fail.mapError .domain

/-- A retry of the last attempt, with nothing else to object to. -/
structure RetriesLastAttempt (row : JobRow) (command : RunCommandRow) : Prop where
  outcome : command.outcome = .retryPending
  last : row.attempt + 1 = row.maxAttempts
  waits : row.Waits
  version : row.version = command.expectedJobVersion
  room : command.expectedJobVersion ≤ 9223372036854775804
  due : row.nextRunAtMs ≤ command.executedAtMs
  forward : row.updatedAtMs ≤ command.executedAtMs
  later : ∃ retryAtMs, command.retryAtMs = some retryAtMs ∧ command.executedAtMs < retryAtMs
  accepted : isProviderStatus command.providerStatus = true
  short : command.nextCursor.any (512 < sqlLength ·) = false

/-- The two transitions before the outcome, of a command that the trigger lets pass. -/
theorem started_of_validated (names : tables.Names command row bindingRow) (mapped : Maps row read)
    (validated : Validated row command) :
    ∃ queued started, read.job.queue command.executedAtMs = .ok queued ∧
      queued.start (bindingFromRow bindingRow) = .ok (startedJob read.job started) ∧
      started.value + 1 < u64Limit := by
  have room := validated.room
  have numbered := validated.version
  have first := mapped.version
  have job := congrArg MailboxJobReadModel.job mapped.same
  have limit : u64Limit = 0x10000000000000000 := rfl
  obtain ⟨version, queues, counted⟩ := next_of_room read.job.version (by omega)
  obtain ⟨started, starts, again⟩ := next_of_room version (by omega)
  have waits : read.job.status = .scheduled ∨ read.job.status = .retryPending := by
    rw [job]
    exact validated.waits
  have due : read.job.nextRunAt ≤ command.executedAtMs := by
    rw [job]
    exact validated.due
  have left : read.job.attempt < read.job.maxAttempts := by
    rw [job]
    exact validated.left
  have tenant : (bindingFromRow bindingRow).tenantId = read.job.tenantId := by
    rw [job]
    simp only [bindingFromRow, names.bindingKey, names.jobKey]
    rfl
  have same : (bindingFromRow bindingRow).bindingId = read.job.bindingId := by
    rw [job]
    simp only [bindingFromRow, names.bindingKey, names.jobKey]
    rfl
  have active : (bindingFromRow bindingRow).status = .active := by
    simp [bindingFromRow, names.executable.1, names.executable.2]
  have queued := operate_of_operated queues (.queue waits due left)
  have running : Operated { read.job with version := version, status := .queued } started
      (.start (bindingFromRow bindingRow)) (startedJob read.job started) :=
    .start rfl tenant same active left
  exact ⟨_, started, queued, operate_of_operated starts running, by omega⟩

theorem last_of_refused (names : tables.Names command row bindingRow) (mapped : Maps row read)
    (validated : Validated row command) {why : CommandRefusal}
    (refused : read.job.follow (bindingFromRow bindingRow) command = .error why)
    (governed : why.isGoverned = true) :
    command.outcome = .retryPending ∧ row.attempt + 1 = row.maxAttempts := by
  obtain ⟨queued, started, queues, starts, room⟩ := started_of_validated names mapped validated
  obtain ⟨ended, concludes, -⟩ := next_of_room started room
  have numbered : ¬read.job.version.value ≠ command.expectedJobVersion := by
    rw [mapped.version]
    exact not_not_intro validated.version
  have running : (startedJob read.job started).status = .running := rfl
  unfold MailboxJob.follow at refused
  rw [refuseIf_passes numbered, queues] at refused
  simp only [bind, Except.bind, Except.mapError, starts] at refused
  split at refused
  next succeeded =>
    cases bounded : validateCursor command.nextCursor with
    | ok =>
      have done : (startedJob read.job started).succeed command.nextCursor = .ok _ :=
        operate_of_operated concludes (.succeed running bounded)
      rw [done] at refused
      cases refused
    | error long =>
      have long : long = .cursorTooLong := by
        unfold validateCursor refuseIf at bounded
        split at bounded
        · cases bounded
          rfl
        · cases bounded
      have done : (startedJob read.job started).succeed command.nextCursor = .error .cursorTooLong := by
        simp only [MailboxJob.succeed, MailboxJob.requireRunning, refuseIf_passes
          (not_not_intro running), bounded, long]
        rfl
      rw [done] at refused
      cases refused
      exact absurd governed (by decide)
  next retries =>
    obtain ⟨retryAtMs, planned, later⟩ := retryTime_of_validated validated retries
    refine ⟨retries, ?_⟩
    rw [planned] at refused
    have attempts : (startedJob read.job started).attempt = row.attempt + 1 := by
      simp only [startedJob]
      rw [mapped.same]
    have limit : (startedJob read.job started).maxAttempts = row.maxAttempts := by
      simp only [startedJob]
      rw [mapped.same]
    have left := validated.left
    by_contra more
    have done : (startedJob read.job started).retry command.executedAtMs retryAtMs = .ok _ :=
      operate_of_operated concludes (.retry running (by omega) later)
    simp only [done] at refused
    cases refused
  next outcome =>
    have done : (startedJob read.job started).requireAuth = .ok _ :=
      operate_of_operated concludes (.requireAuth running)
    rw [done] at refused
    cases refused
  next outcome =>
    have done : (startedJob read.job started).suspend = .ok _ :=
      operate_of_operated concludes (.suspend rfl (by rw [running]; decide))
    rw [done] at refused
    cases refused
  next outcome =>
    have done : (startedJob read.job started).fail = .ok _ :=
      operate_of_operated concludes (.fail running)
    rw [done] at refused
    cases refused

theorem aborted_iff (valid : tables.Valid) (names : tables.Names command row bindingRow)
    (receives : tables.Receives command) (checked : command.checked = true)
    (mapped : Maps row read) {why : CommandRefusal}
    (refused : read.job.follow (bindingFromRow bindingRow) command = .error why)
    (governed : why.isGoverned = true) :
    (∃ message, tables.insertRun command = .error (.abort message)) ↔
      ¬RetriesLastAttempt row command := by
  constructor
  · rintro ⟨message, aborted⟩ retries
    obtain ⟨retryAtMs, planned, later⟩ := retries.later
    have timed : retryTimeInvalid command = false := by
      simp only [retryTimeInvalid, retries.outcome, planned, decide_eq_false_iff_not, Nat.not_le]
      exact later
    have limit := retries.last
    have validated : Validated row command :=
      ⟨retries.waits, retries.version, retries.due, by omega, retries.room, retries.accepted,
        retries.short, timed, retries.forward⟩
    obtain ⟨result, inserted⟩ := (insertRun_eq_ok valid names receives checked validated).mpr
      (by simp [retries.outcome, RunOutcome.executionStatus])
    rw [inserted] at aborted
    cases aborted
  · intro otherwise
    cases passed : tables.validateRun command with
    | ok =>
      have validated := (validateRun_eq_ok valid names receives).mp passed
      obtain ⟨outcome, last⟩ := last_of_refused names mapped validated refused governed
      exact absurd ⟨outcome, last, validated.waits, validated.version, validated.room,
        validated.due, validated.forward, retryTime_of_validated validated outcome,
        validated.accepted, validated.short⟩ otherwise
    | error earlier =>
      obtain ⟨message, rfl⟩ := aborts_validateRun earlier passed
      exact ⟨message, by rw [Tables.insertRun, passed]; rfl⟩

end Refusals

section Results

variable {tables : Tables} {row : JobRow} {bindingRow : BindingRow} {read : MailboxJobReadModel}

/-- The tables store what the domain prepares unless a clock has gone back or the binding that
is put aside has no room for it, and abort what the domain refuses unless it is a retry of the
last attempt. -/
theorem stored_runs_agree (valid : tables.Valid) (stored : row ∈ tables.jobs)
    (bound : bindingRow ∈ tables.bindings) (same : bindingRow.key = row.key.binding)
    (executable : bindingRow.IsExecutable) (mapped : jobFromRow row = .ok read) :
    (∀ (answer : ProviderAnswer) (write : MailboxJobRunWrite) (after : MailboxJob)
      (command : RunCommandRow),
      row.key = ⟨⟨write.actor.tenantScope.tenantId, write.bindingId⟩, write.jobId⟩ →
      runMailboxJob write.expectedVersion (bindingFromRow bindingRow) read.job write.now answer =
        .ok (write.prepared, after) →
      commandRow write = .ok command → tables.Receives command →
      (Stores tables row command write.prepared after write.now ↔
        row.updatedAtMs ≤ write.now ∧ (PutsAside answer →
          bindingRow.createdAtMs ≤ write.now ∧ bindingRow.version + 1 < sqliteLimit))) ∧
    ∀ (command : RunCommandRow) (why : CommandRefusal), command.job = row.key →
      command.checked = true → tables.Receives command →
      read.job.follow (bindingFromRow bindingRow) command = .error why → why.isGoverned = true →
      ((∃ message, tables.insertRun command = .error (.abort message)) ↔
        ¬RetriesLastAttempt row command) := by
  have maps := jobFromRow_eq_ok.mp mapped
  have names (command : RunCommandRow) (key : command.job = row.key) :
      tables.Names command row bindingRow :=
    ⟨stored, bound, key.symm, by rw [same, ← key]; rfl, executable⟩
  constructor
  · intro answer write after command key run sends receives
    have ran := ran_of_runMailboxJob maps run sends
    exact stores_iff valid (names command (ran.sent.job.trans key.symm)) receives ran
  · intro command why key checked receives refused governed
    exact aborted_iff valid (names command key) receives checked maps refused governed

end Results

namespace SampleRun

def tenantId : TenantId := ⟨⟨"tenant-stored-run", by decide⟩⟩
def actorId : ActorId := ⟨⟨"actor-stored-run", by decide⟩⟩
def bindingId : MailboxBindingId := ⟨⟨"binding-stored-run", by decide⟩⟩
def jobId : MailboxJobId := ⟨⟨"job-stored-run", by decide⟩⟩
def correlationId : CorrelationId := ⟨⟨"correlation-stored-run", by decide⟩⟩

def bindingRow : BindingRow :=
  ⟨⟨tenantId, bindingId⟩, .imap, ⟨"secret-stored-run", by decide⟩, .active, 1, actorId, actorId, 5, 5,
    .active⟩

/-- A job that may be tried once, and is due. -/
def row : JobRow :=
  ⟨⟨⟨tenantId, bindingId⟩, jobId⟩, none, .pending, 0, 1, 10, none, 0, 1, actorId, actorId, 5, 5,
    .scheduled⟩

def job : MailboxJob := ⟨tenantId, bindingId, jobId, none, .scheduled, 0, 1, 10, .initial⟩

def tables : Tables where
  surroundings := ⟨[⟨tenantId, actorId, .tenantOwner, .active⟩], [], [], []⟩
  bindings := [bindingRow]
  jobs := [row]
  runCommands := []
  revokeCommands := []

/-- The provider asks for a new authentication. -/
def denied : ProviderAnswer := .error (.failure ⟨.authentication, none, nofun⟩)

def prepared : MailboxJobPreparedRun :=
  ⟨.authRequired, 1, ⟨4, by decide⟩, none, "AUTH", 0, none⟩

def write : MailboxJobRunWrite :=
  ⟨⟨⟨tenantId⟩, actorId, correlationId⟩, "command-stored-run", bindingId, jobId, .initial, prepared, 10⟩

def command : RunCommandRow :=
  ⟨tenantId, "command-stored-run", actorId, bindingId, jobId, 1, .authRequired, none, "AUTH", 0, none,
    10⟩

/-- A retry, although no attempt is left for it. -/
def retry : RunCommandRow :=
  ⟨tenantId, "command-stored-run", actorId, bindingId, jobId, 1, .retryPending, none, "RATE_LIMIT", 0,
    some 20, 10⟩

theorem valid : tables.Valid where
  jobsDistinct := by decide
  bindingsDistinct := by decide
  jobsChecked := by decide
  bindingsChecked := by decide

theorem receives : tables.Receives command where
  owner := by decide
  fresh := by decide

theorem receives_retry : tables.Receives retry where
  owner := by decide
  fresh := by decide

end SampleRun

open SampleRun in
/-- The domain has no attempt left for the retry, and the tables take it. -/
theorem last_retry_taken :
    jobFromRow row = .ok ⟨job, none, 0⟩ ∧ retry.checked = true ∧ tables.Receives retry ∧
      job.follow (bindingFromRow bindingRow) retry = .error (.domain .maxAttemptsReached) ∧
      (tables.insertRun retry).isOk = true := by
  refine ⟨by decide, by decide, receives_retry, by decide, by decide +kernel⟩

open SampleRun in
theorem stored_runs_agree_denied :
    Stores tables row command prepared
      { job with attempt := 1, version := ⟨4, by decide⟩, status := .authRequired } 10 ∧
      ¬∃ message, tables.insertRun retry = .error (.abort message) := by
  have agree := stored_runs_agree valid (List.mem_singleton.mpr rfl) (List.mem_singleton.mpr rfl)
    rfl (by decide) (show jobFromRow row = .ok ⟨job, none, 0⟩ by decide)
  have retries : RetriesLastAttempt row retry :=
    ⟨rfl, rfl, by decide, rfl, by decide, by decide, by decide, ⟨20, rfl, by decide⟩, by decide,
      by decide⟩
  constructor
  · exact (agree.1 denied write _ command rfl (by decide) (by decide) receives).mpr
      ⟨by decide, fun _ => by decide⟩
  · intro aborted
    exact (agree.2 retry (.domain .maxAttemptsReached) rfl (by decide) receives_retry (by decide)
      (by decide)).mp aborted retries

end ProfilePlatform.Mailbox
