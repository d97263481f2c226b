import ProfilePlatform.Catalog.Database
import ProfilePlatform.Foundation.Texts
import ProfilePlatform.Mailbox.PreparedRun

/-! The mailbox tables and the command that runs a job.

A run command carries out all three transitions of a job in one update, after a
trigger has looked at the stored row. The guards of the two tables look at the
update again and find the command in its journal.
-/

set_option autoImplicit false

namespace ProfilePlatform.Mailbox

open Foundation
open Catalog (Refusal Surroundings)

section Texts

/-- ASCII letters, digits, '_', '.' and '-'. -/
def isProviderStatusChar (char : Char) : Bool :=
  ('A' ≤ char && char ≤ 'Z') || ('a' ≤ char && char ≤ 'z') || ('0' ≤ char && char ≤ '9') ||
    char == '_' || char == '.' || char == '-'

def isProviderStatus (text : String) : Bool :=
  1 ≤ sqlLength text && sqlLength text ≤ 64 && (sqlChars text).all isProviderStatusChar

end Texts

structure BindingKey where
  tenantId : TenantId
  bindingId : MailboxBindingId
  deriving DecidableEq

structure JobKey where
  binding : BindingKey
  jobId : MailboxJobId
  deriving DecidableEq

inductive MailboxProvider where
  | gmailApi | imap | browserFallback | microsoftGraph
  deriving DecidableEq, Repr

inductive BindingStatus where
  | active | revoked
  deriving DecidableEq, Repr

inductive ExecutionStatus where
  | active | authRequired | suspended
  deriving DecidableEq, Repr

structure BindingRow where
  key : BindingKey
  provider : MailboxProvider
  secretHandle : OpaqueId
  status : BindingStatus
  version : Nat
  createdByActorId : ActorId
  updatedByActorId : ActorId
  createdAtMs : Nat
  updatedAtMs : Nat
  executionStatus : ExecutionStatus
  deriving DecidableEq

namespace BindingRow

def checked (self : BindingRow) : Bool :=
  1 ≤ self.version && self.version < sqliteLimit && self.createdAtMs ≤ self.updatedAtMs &&
    self.updatedAtMs < sqliteLimit

/-- The columns no update may change. -/
def identity (self : BindingRow) :=
  (self.key, self.provider, self.secretHandle, self.createdByActorId, self.createdAtMs)

def IsExecutable (self : BindingRow) : Prop :=
  self.status = .active ∧ self.executionStatus = .active

instance (row : BindingRow) : Decidable row.IsExecutable := inferInstanceAs (Decidable (_ ∧ _))

end BindingRow

/-- The status column of the first design, kept for programs that still read it. -/
inductive CompatibilityStatus where
  | pending | running | retryPending | succeeded | failed
  deriving DecidableEq, Repr

structure JobRow where
  key : JobKey
  cursor : Option String
  status : CompatibilityStatus
  attempt : Nat
  maxAttempts : Nat
  nextRunAtMs : Nat
  providerStatus : Option String
  boundedItemCount : Nat
  version : Nat
  createdByActorId : ActorId
  updatedByActorId : ActorId
  createdAtMs : Nat
  updatedAtMs : Nat
  lifecycleStatus : MailboxJobStatus
  deriving DecidableEq

namespace JobRow

def checked (self : JobRow) : Bool :=
  self.cursor.all (sqlLength · ≤ 512) && self.attempt ≤ 10 &&
    1 ≤ self.maxAttempts && self.maxAttempts ≤ 10 && self.nextRunAtMs < sqliteLimit &&
    self.providerStatus.all isProviderStatus && self.boundedItemCount ≤ 10000 &&
    1 ≤ self.version && self.version < sqliteLimit &&
    self.createdAtMs ≤ self.updatedAtMs && self.updatedAtMs < sqliteLimit

def identity (self : JobRow) :=
  (self.key, self.maxAttempts, self.createdByActorId, self.createdAtMs)

def Waits (self : JobRow) : Prop :=
  self.lifecycleStatus = .scheduled ∨ self.lifecycleStatus = .retryPending

instance (row : JobRow) : Decidable row.Waits := inferInstanceAs (Decidable (_ ∨ _))

end JobRow

/-- The statuses a run can end in. -/
inductive RunOutcome where
  | retryPending | authRequired | suspended | succeeded | failed
  deriving DecidableEq, Repr

namespace RunOutcome

def status : RunOutcome → MailboxJobStatus
  | .retryPending => .retryPending
  | .authRequired => .authRequired
  | .suspended => .suspended
  | .succeeded => .succeeded
  | .failed => .failed

def compatibilityStatus : RunOutcome → CompatibilityStatus
  | .retryPending => .retryPending
  | .succeeded => .succeeded
  | .failed => .failed
  | .authRequired | .suspended => .pending

/-- The outcomes that also put the binding aside. -/
def executionStatus : RunOutcome → Option ExecutionStatus
  | .authRequired => some .authRequired
  | .suspended => some .suspended
  | .retryPending | .succeeded | .failed => none

end RunOutcome

/-- A row of `mailbox_job_run_commands_v2`. -/
structure RunCommandRow where
  tenantId : TenantId
  commandId : String
  commandActorId : ActorId
  bindingId : MailboxBindingId
  jobId : MailboxJobId
  expectedJobVersion : Nat
  outcome : RunOutcome
  nextCursor : Option String
  providerStatus : String
  boundedItemCount : Nat
  retryAtMs : Option Nat
  executedAtMs : Nat
  deriving DecidableEq

namespace RunCommandRow

def checked (self : RunCommandRow) : Bool :=
  1 ≤ self.expectedJobVersion && self.expectedJobVersion < sqliteLimit &&
    self.boundedItemCount ≤ 10000 && self.retryAtMs.all (· < sqliteLimit) &&
    self.executedAtMs < sqliteLimit

def binding (self : RunCommandRow) : BindingKey := ⟨self.tenantId, self.bindingId⟩

def job (self : RunCommandRow) : JobKey := ⟨self.binding, self.jobId⟩

end RunCommandRow

structure RevokeCommandRow where
  binding : BindingKey
  commandActorId : ActorId
  expectedBindingVersion : Nat
  executedAtMs : Nat
  deriving DecidableEq

structure Tables where
  surroundings : Surroundings
  bindings : List BindingRow
  jobs : List JobRow
  runCommands : List RunCommandRow
  revokeCommands : List RevokeCommandRow

namespace Tables

section Validation

/-- Some job is the one the command names, and has the property. -/
def HasJob (self : Tables) (command : RunCommandRow) (property : JobRow → Prop) : Prop :=
  ∃ row ∈ self.jobs, row.key = command.job ∧ property row

instance (self : Tables) (command : RunCommandRow) (property : JobRow → Prop)
    [DecidablePred property] : Decidable (self.HasJob command property) :=
  inferInstanceAs (Decidable (∃ _ ∈ _, _))

def HasBinding (self : Tables) (command : RunCommandRow) (property : BindingRow → Prop) : Prop :=
  ∃ row ∈ self.bindings, row.key = command.binding ∧ property row

instance (self : Tables) (command : RunCommandRow) (property : BindingRow → Prop)
    [DecidablePred property] : Decidable (self.HasBinding command property) :=
  inferInstanceAs (Decidable (∃ _ ∈ _, _))

/-- A retry has a later time, and nothing else has one. -/
def retryTimeInvalid (command : RunCommandRow) : Bool :=
  match command.outcome, command.retryAtMs with
  | .retryPending, none => true
  | .retryPending, some retryAtMs => retryAtMs ≤ command.executedAtMs
  | _, none => false
  | _, some _ => true

/-- `mailbox_job_run_v2_command_validate`. -/
def validateRun (self : Tables) (command : RunCommandRow) : Except Refusal Unit := do
  refuseIf (¬self.surroundings.IsOwner command.tenantId command.commandActorId)
    (.abort "mailbox_job_run_owner_required")
  refuseIf (¬self.HasBinding command fun _ => True) (.abort "mailbox_binding_missing")
  refuseIf (¬self.HasBinding command BindingRow.IsExecutable)
    (.abort "mailbox_binding_not_executable")
  refuseIf (¬self.HasJob command fun _ => True) (.abort "mailbox_job_missing")
  refuseIf (¬self.HasJob command fun row =>
    row.Waits ∧ row.version = command.expectedJobVersion) (.abort "mailbox_job_version_mismatch")
  refuseIf (self.HasJob command fun row => command.executedAtMs < row.nextRunAtMs)
    (.abort "mailbox_job_not_due")
  refuseIf (self.HasJob command fun row => row.maxAttempts ≤ row.attempt)
    (.abort "mailbox_job_attempts_exhausted")
  refuseIf (9223372036854775804 < command.expectedJobVersion)
    (.abort "mailbox_job_version_overflow")
  refuseIf (isProviderStatus command.providerStatus = false)
    (.abort "mailbox_provider_status_invalid")
  refuseIf (command.nextCursor.any (512 < sqlLength ·)) (.abort "mailbox_cursor_too_long")
  refuseIf (retryTimeInvalid command = true) (.abort "mailbox_retry_time_invalid")
  refuseIf (self.HasJob command fun row => command.executedAtMs < row.updatedAtMs)
    (.abort "mailbox_time_regression")

end Validation

section Guards

/-- Some command of the journal asks for this update of the job. -/
def RunsJob (self : Tables) (old new : JobRow) : Prop :=
  ∃ command ∈ self.runCommands, command.job = old.key ∧
    command.expectedJobVersion = old.version ∧ command.outcome.status = new.lifecycleStatus ∧
    new.status = command.outcome.compatibilityStatus ∧
    some command.providerStatus = new.providerStatus ∧
    command.boundedItemCount = new.boundedItemCount ∧
    command.commandActorId = new.updatedByActorId ∧ command.executedAtMs = new.updatedAtMs ∧
    (if command.outcome = .succeeded then command.nextCursor = new.cursor
      else new.cursor = old.cursor) ∧
    (if command.outcome = .retryPending then command.retryAtMs = some new.nextRunAtMs
      else new.nextRunAtMs = old.nextRunAtMs)

instance (self : Tables) (old new : JobRow) : Decidable (self.RunsJob old new) :=
  inferInstanceAs (Decidable (∃ _ ∈ _, _))

/-- `mailbox_jobs_update_governed`, and the checks. -/
def guardJob (self : Tables) (old new : JobRow) : Except Refusal Unit := do
  refuseIf (new.identity ≠ old.identity) (.abort "mailbox_job_identity_immutable")
  refuseIf (¬self.RunsJob old new) (.abort "mailbox_job_update_not_governed")
  refuseIf (¬old.Waits ∨
    new.lifecycleStatus ∉ [MailboxJobStatus.succeeded, .retryPending, .authRequired, .suspended,
      .failed] ∨
    new.attempt ≠ old.attempt + 1 ∨ new.version ≠ old.version + 3)
    (.abort "mailbox_job_update_invalid_transition")
  refuseIf (new.checked = false) .check

/-- Some command puts the binding aside, or revokes it. -/
def MovesBinding (self : Tables) (old new : BindingRow) : Prop :=
  (∃ command ∈ self.revokeCommands, command.binding = old.key ∧
    command.expectedBindingVersion = old.version ∧
    command.commandActorId = new.updatedByActorId ∧ command.executedAtMs = new.updatedAtMs) ∨
  ∃ command ∈ self.runCommands, command.binding = old.key ∧
    command.outcome.executionStatus = some new.executionStatus ∧
    command.commandActorId = new.updatedByActorId ∧ command.executedAtMs = new.updatedAtMs

instance (self : Tables) (old new : BindingRow) : Decidable (self.MovesBinding old new) :=
  inferInstanceAs (Decidable (_ ∨ _))

/-- `mailbox_bindings_update_governed`, and the checks. -/
def guardBinding (self : Tables) (old new : BindingRow) : Except Refusal Unit := do
  refuseIf (new.identity ≠ old.identity) (.abort "mailbox_binding_identity_immutable")
  refuseIf (¬self.MovesBinding old new) (.abort "mailbox_binding_update_not_governed")
  refuseIf (¬(old.status = .active ∧ new.status = .revoked ∧
      new.executionStatus = old.executionStatus ∧ new.version = old.version + 1) ∧
    ¬(old.status = .active ∧ new.status = .active ∧ old.executionStatus = .active ∧
      new.executionStatus ≠ .active ∧ new.version = old.version + 1))
    (.abort "mailbox_binding_update_invalid_transition")
  refuseIf (new.checked = false) .check

end Guards

section Application

/-- What the command makes of the job it names. -/
def ranJob (command : RunCommandRow) (row : JobRow) : JobRow where
  key := row.key
  cursor := if command.outcome = .succeeded then command.nextCursor else row.cursor
  status := command.outcome.compatibilityStatus
  attempt := row.attempt + 1
  maxAttempts := row.maxAttempts
  nextRunAtMs :=
    if command.outcome = .retryPending then command.retryAtMs.getD row.nextRunAtMs
    else row.nextRunAtMs
  providerStatus := some command.providerStatus
  boundedItemCount := command.boundedItemCount
  version := row.version + 3
  createdByActorId := row.createdByActorId
  updatedByActorId := command.commandActorId
  createdAtMs := row.createdAtMs
  updatedAtMs := command.executedAtMs
  lifecycleStatus := command.outcome.status

def movedBinding (command : RunCommandRow) (row : BindingRow) : BindingRow :=
  { row with
    executionStatus := command.outcome.executionStatus.getD row.executionStatus
    version := row.version + 1
    updatedByActorId := command.commandActorId
    updatedAtMs := command.executedAtMs }

/-- `mailbox_job_run_v2_command_apply`. -/
def applyRun (self : Tables) (command : RunCommandRow) : Except Refusal Tables := do
  let jobs ← Rows.update (fun row => row.key = command.job) (ranJob command) self.guardJob
    (fun other new => other.key = new.key) .unique [] self.jobs
  let bindings ← Rows.update
    (fun row => row.key = command.binding ∧ row.IsExecutable ∧
      command.outcome.executionStatus ≠ none)
    (movedBinding command) self.guardBinding (fun other new => other.key = new.key) .unique []
    self.bindings
  return { self with jobs, bindings }

/-- The insertion of a run command: the trigger before it, the checks of the row, the key, and the
trigger after it. -/
def insertRun (self : Tables) (command : RunCommandRow) : Except Refusal Tables := do
  self.validateRun command
  refuseIf (command.checked = false) .check
  refuseIf (∃ old ∈ self.runCommands, old.tenantId = command.tenantId ∧
    old.commandId = command.commandId) .unique
  Tables.applyRun { self with runCommands := self.runCommands ++ [command] } command

end Application

end Tables

section Rows

inductive RowError where
  | integer
  | domain (why : MailboxError)
  | invalidProviderStatus
  deriving DecidableEq, Repr

/-- What the repository reads of a stored job. -/
structure MailboxJobReadModel where
  job : MailboxJob
  providerStatus : Option String
  boundedItemCount : Nat
  deriving DecidableEq

def positiveVersion (value : Nat) : Except RowError AggregateVersion :=
  (AggregateVersion.new value).mapError fun _ => .integer

def bindingFromRow (row : BindingRow) : MailboxBinding where
  tenantId := row.key.tenantId
  bindingId := row.key.bindingId
  status :=
    match row.status, row.executionStatus with
    | .revoked, _ => .revoked
    | .active, .active => .active
    | .active, .authRequired => .authRequired
    | .active, .suspended => .suspended

def jobFromRow (row : JobRow) : Except RowError MailboxJobReadModel := do
  refuseIf (10000 < row.boundedItemCount) .integer
  refuseIf (row.providerStatus.any fun status => !acceptsProviderStatus status)
    .invalidProviderStatus
  refuseIf (10 < row.attempt ∨ 10 < row.maxAttempts) .integer
  let version ← positiveVersion row.version
  let job ← (MailboxJob.restore {
    tenantId := row.key.binding.tenantId
    bindingId := row.key.binding.bindingId
    jobId := row.key.jobId
    cursor := row.cursor
    status := row.lifecycleStatus
    attempt := row.attempt
    maxAttempts := row.maxAttempts
    nextRunAt := row.nextRunAtMs
    version }).mapError .domain
  return { job, providerStatus := row.providerStatus, boundedItemCount := row.boundedItemCount }

end Rows

section Binding

inductive RunWriteError where
  | invalidProviderStatus
  | domain (why : MailboxError)
  | versionMismatch
  | outcomeInvalid
  | integer
  deriving DecidableEq, Repr

/-- What the repository is handed to write. -/
structure MailboxJobRunWrite where
  actor : ActorContext
  commandId : String
  bindingId : MailboxBindingId
  jobId : MailboxJobId
  expectedVersion : AggregateVersion
  prepared : MailboxJobPreparedRun
  now : UnixMillis

def sqliteInteger (value : Nat) : Except RunWriteError Nat :=
  if value < sqliteLimit then .ok value else .error .integer

def runOutcome : MailboxJobStatus → Except RunWriteError RunOutcome
  | .succeeded => .ok .succeeded
  | .retryPending => .ok .retryPending
  | .authRequired => .ok .authRequired
  | .suspended => .ok .suspended
  | .failed => .ok .failed
  | .scheduled | .queued | .running => .error .outcomeInvalid

def sqliteRetryTime : Option UnixMillis → Except RunWriteError (Option Nat)
  | none => .ok none
  | some value => do
    let bound ← sqliteInteger value
    return some bound

/-- The command row of `run_job`. A value that SQLite cannot hold has none. -/
def commandRow (write : MailboxJobRunWrite) : Except RunWriteError RunCommandRow := do
  refuseIf (acceptsProviderStatus write.prepared.providerStatus = false) .invalidProviderStatus
  (validateCursor write.prepared.cursor).mapError RunWriteError.domain
  let resultVersion ← (validateMailboxJobRunVersion write.expectedVersion).mapError fun _ =>
    RunWriteError.versionMismatch
  refuseIf (resultVersion ≠ write.prepared.version) .versionMismatch
  let outcome ← runOutcome write.prepared.status
  let executedAtMs ← sqliteInteger write.now
  let retryAtMs ← sqliteRetryTime write.prepared.retryAt
  let expectedJobVersion ← sqliteInteger write.expectedVersion.value
  let _ ← sqliteInteger resultVersion.value
  return {
    tenantId := write.actor.tenantScope.tenantId
    commandId := write.commandId
    commandActorId := write.actor.actorId
    bindingId := write.bindingId
    jobId := write.jobId
    expectedJobVersion, outcome
    nextCursor := write.prepared.cursor
    providerStatus := write.prepared.providerStatus
    boundedItemCount := write.prepared.boundedItemCount
    retryAtMs, executedAtMs }

end Binding

end ProfilePlatform.Mailbox
