import ProfilePlatform.Foundation.Fallible
import ProfilePlatform.Foundation.Machine
import ProfilePlatform.Primitives

/-! A mailbox job: one check of a mailbox, tried a bounded number of times.

Every transition is refused outside its status and advances the version by one.
An attempt is counted when it starts.
-/

set_option autoImplicit false

namespace ProfilePlatform.Mailbox

open Foundation

inductive MailboxError where
  | bindingNotExecutable
  | bindingRevoked
  | cursorTooLong
  | invalidJobTransition
  | invalidJobStatus
  | invalidMaxAttempts
  | jobNotDue
  | maxAttemptsReached
  | invalidRetryTime
  | versionOverflow
  deriving DecidableEq, Repr

inductive MailboxBindingStatus where
  | active | authRequired | suspended | revoked
  deriving DecidableEq, Repr

/-- The part of a binding that its jobs look at. -/
structure MailboxBinding where
  tenantId : TenantId
  bindingId : MailboxBindingId
  status : MailboxBindingStatus
  deriving DecidableEq

inductive MailboxJobStatus where
  | scheduled | queued | running | retryPending | authRequired | suspended | succeeded | failed
  deriving DecidableEq, Repr

def MailboxJobStatus.isTerminal : MailboxJobStatus → Bool
  | .succeeded | .failed => true
  | _ => false

def maxCursorLength : Nat := 512
def maxJobAttempts : Nat := 10

def validateCursor (value : Option String) : Except MailboxError Unit :=
  refuseIf (value.any fun cursor => maxCursorLength < (utf8Bytes cursor).length) .cursorTooLong

def validateMaxAttempts (value : Nat) : Except MailboxError Unit :=
  refuseIf (value = 0 ∨ maxJobAttempts < value) .invalidMaxAttempts

structure MailboxJob where
  tenantId : TenantId
  bindingId : MailboxBindingId
  jobId : MailboxJobId
  cursor : Option String
  status : MailboxJobStatus
  attempt : Nat
  maxAttempts : Nat
  nextRunAt : UnixMillis
  version : AggregateVersion
  deriving DecidableEq

/-- Only an active binding lets its jobs be created and started. -/
def MailboxBinding.requireActive (binding : MailboxBinding) : Except MailboxError Unit :=
  match binding.status with
  | .active => .ok ()
  | .revoked => .error .bindingRevoked
  | .authRequired | .suspended => .error .bindingNotExecutable

namespace MailboxJob

def create (binding : MailboxBinding) (jobId : MailboxJobId) (cursor : Option String)
    (scheduledAt : UnixMillis) (maxAttempts : Nat) : Except MailboxError MailboxJob := do
  binding.requireActive
  validateCursor cursor
  validateMaxAttempts maxAttempts
  return {
    tenantId := binding.tenantId
    bindingId := binding.bindingId
    jobId, cursor
    status := .scheduled
    attempt := 0
    maxAttempts
    nextRunAt := scheduledAt
    version := .initial }

def restore (snapshot : MailboxJob) : Except MailboxError MailboxJob := do
  validateCursor snapshot.cursor
  validateMaxAttempts snapshot.maxAttempts
  refuseIf (snapshot.maxAttempts < snapshot.attempt) .maxAttemptsReached
  return snapshot

def bumpVersion (job : MailboxJob) : Except MailboxError AggregateVersion :=
  match job.version.next with
  | none => .error .versionOverflow
  | some version => .ok version

def requireRunning (job : MailboxJob) : Except MailboxError Unit :=
  refuseIf (job.status ≠ .running) .invalidJobTransition

def queue (now : UnixMillis) (job : MailboxJob) : Except MailboxError MailboxJob := do
  refuseIf (job.status ≠ .scheduled ∧ job.status ≠ .retryPending) .invalidJobTransition
  refuseIf (now < job.nextRunAt) .jobNotDue
  refuseIf (job.maxAttempts ≤ job.attempt) .maxAttemptsReached
  let version ← job.bumpVersion
  return { job with version, status := .queued }

/-- The attempt is counted before the version is advanced. A caller drops the job on an error. -/
def start (binding : MailboxBinding) (job : MailboxJob) : Except MailboxError MailboxJob := do
  refuseIf (job.status ≠ .queued) .invalidJobTransition
  refuseIf (binding.tenantId ≠ job.tenantId ∨ binding.bindingId ≠ job.bindingId)
    .bindingNotExecutable
  binding.requireActive
  refuseIf (job.maxAttempts ≤ job.attempt) .maxAttemptsReached
  let version ← job.bumpVersion
  return { job with attempt := job.attempt + 1, version, status := .running }

def succeed (nextCursor : Option String) (job : MailboxJob) : Except MailboxError MailboxJob := do
  job.requireRunning
  validateCursor nextCursor
  let version ← job.bumpVersion
  return { job with version, cursor := nextCursor, status := .succeeded }

def retry (now retryAt : UnixMillis) (job : MailboxJob) : Except MailboxError MailboxJob := do
  job.requireRunning
  refuseIf (job.maxAttempts ≤ job.attempt) .maxAttemptsReached
  refuseIf (retryAt ≤ now) .invalidRetryTime
  let version ← job.bumpVersion
  return { job with version, nextRunAt := retryAt, status := .retryPending }

def requireAuth (job : MailboxJob) : Except MailboxError MailboxJob := do
  job.requireRunning
  let version ← job.bumpVersion
  return { job with version, status := .authRequired }

def suspend (job : MailboxJob) : Except MailboxError MailboxJob := do
  refuseIf (job.status.isTerminal ∨ job.status = .suspended) .invalidJobTransition
  let version ← job.bumpVersion
  return { job with version, status := .suspended }

def resume (scheduledAt : UnixMillis) (job : MailboxJob) : Except MailboxError MailboxJob := do
  refuseIf (job.status ≠ .authRequired ∧ job.status ≠ .suspended) .invalidJobTransition
  refuseIf (job.maxAttempts ≤ job.attempt) .maxAttemptsReached
  let version ← job.bumpVersion
  return { job with version, nextRunAt := scheduledAt, status := .scheduled }

def fail (job : MailboxJob) : Except MailboxError MailboxJob := do
  job.requireRunning
  let version ← job.bumpVersion
  return { job with version, status := .failed }

end MailboxJob

inductive JobOperation where
  | queue (now : UnixMillis)
  | start (binding : MailboxBinding)
  | succeed (nextCursor : Option String)
  | retry (now retryAt : UnixMillis)
  | requireAuth
  | suspend
  | resume (scheduledAt : UnixMillis)
  | fail
  deriving DecidableEq

def MailboxJob.operate (job : MailboxJob) : JobOperation → Except MailboxError MailboxJob
  | .queue now => job.queue now
  | .start binding => job.start binding
  | .succeed nextCursor => job.succeed nextCursor
  | .retry now retryAt => job.retry now retryAt
  | .requireAuth => job.requireAuth
  | .suspend => job.suspend
  | .resume scheduledAt => job.resume scheduledAt
  | .fail => job.fail

/-- Jobs under operations. A refused operation leaves the job as it was. -/
def jobs : Machine MailboxJob JobOperation (Except MailboxError Unit) where
  step job operation :=
    match job.operate operation with
    | .ok after => (.ok (), after)
    | .error why => (.error why, job)

abbrev JobEntry := Entry MailboxJob JobOperation (Except MailboxError Unit)

end ProfilePlatform.Mailbox
