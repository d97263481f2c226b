import ProfilePlatform.Device.JobRepository
import ProfilePlatform.Foundation.Programs

/-! The use cases of device jobs, as programs that ask the repository. -/

set_option autoImplicit false

namespace ProfilePlatform.Device

open Foundation Program

section Ports

inductive DeviceJobCapability where
  | issue | claim | heartbeat | complete | recover | cancel
  deriving DecidableEq, Repr

inductive DeviceExecutionBlocker where
  | deviceUnauthorized | generationInactive | certificationIncomplete
  deriving DecidableEq, Repr

inductive DeviceExecutionReadiness where
  | ready
  | blocked (blocker : DeviceExecutionBlocker)
  deriving DecidableEq, Repr

/-- What the ports other than the repository answer during one call. -/
structure DevicePorts where
  authenticatedDeviceId : ActorContext → Except DeviceJobPortError DeviceId
  isDeviceJobAuthorized : ActorContext → DeviceJobTarget → DeviceJobCapability →
    Except DeviceJobPortError Bool
  evaluateDeviceExecution : ActorContext → DeviceJobTarget →
    Except DeviceJobPortError DeviceExecutionReadiness

inductive DeviceJobOperationError where
  | invalidRequest
  | forbidden
  | notFound
  | conflict
  | versionConflict
  | preconditionFailed (blocker : DeviceExecutionBlocker)
  | domain (why : DeviceJobError)
  | integrityFailure
  | dependencyUnavailable
  deriving DecidableEq, Repr

def mapPortError : DeviceJobPortError → DeviceJobOperationError
  | .authenticationFailed => .forbidden
  | .integrityFailure => .integrityFailure
  | .dependencyUnavailable => .dependencyUnavailable

/-- What is asked of the repository. -/
inductive JobRequest where
  | insert (tenantId : TenantId) (job : DeviceJob)
  | load (tenantId : TenantId) (jobId : DeviceJobId)
  | swap (tenantId : TenantId) (expectedVersion : AggregateVersion) (job : DeviceJob)

abbrev JobAnswer : JobRequest → Type
  | .insert .. => Except DeviceJobPortError DeviceJobInsertOutcome
  | .load .. => Except DeviceJobPortError (Option DeviceJob)
  | .swap .. => Except DeviceJobPortError DeviceJobWriteOutcome

abbrev JobUseCase := ExceptT DeviceJobOperationError (Program JobRequest JobAnswer)

end Ports

section Commands

structure IssueDeviceJobCommand where
  jobId : DeviceJobId
  target : DeviceJobTarget
  maxAttempts : Nat
  issuedAt : UnixMillis

structure ClaimDeviceJobCommand where
  jobId : DeviceJobId
  target : DeviceJobTarget
  expectedVersion : AggregateVersion
  claimId : DeviceClaimId
  observedAt : UnixMillis
  leaseExpiresAt : UnixMillis

structure HeartbeatDeviceJobCommand where
  jobId : DeviceJobId
  target : DeviceJobTarget
  expectedVersion : AggregateVersion
  claimId : DeviceClaimId
  fence : Nat
  observedAt : UnixMillis
  leaseExpiresAt : UnixMillis

inductive DeviceJobOutcome where
  | succeeded
  | retryScheduled (retryAt : UnixMillis)
  | profileBusy (retryAt : UnixMillis)
  | authRequired
  | recoveryRequired
  | failed
  deriving DecidableEq, Repr

structure ApplyDeviceJobOutcomeCommand where
  jobId : DeviceJobId
  target : DeviceJobTarget
  expectedVersion : AggregateVersion
  claimId : DeviceClaimId
  fence : Nat
  observedAt : UnixMillis
  outcome : DeviceJobOutcome

structure ExpireDeviceClaimCommand where
  jobId : DeviceJobId
  target : DeviceJobTarget
  expectedVersion : AggregateVersion
  observedAt : UnixMillis
  retryAt : UnixMillis

structure ResumeDeviceJobCommand where
  jobId : DeviceJobId
  target : DeviceJobTarget
  expectedVersion : AggregateVersion
  observedAt : UnixMillis

structure CancelDeviceJobCommand where
  jobId : DeviceJobId
  target : DeviceJobTarget
  expectedVersion : AggregateVersion
  observedAt : UnixMillis

end Commands

section Steps

variable (actor : ActorContext) (ports : DevicePorts)

def ensureTenant (target : DeviceJobTarget) : JobUseCase Unit :=
  decided <| refuseIf (actor.tenantScope.tenantId ≠ target.tenantId) .invalidRequest

def ensureAuthenticatedDevice (target : DeviceJobTarget) : JobUseCase Unit := do
  let authenticated ← decided <| (ports.authenticatedDeviceId actor).mapError mapPortError
  decided <| refuseIf (authenticated ≠ target.deviceId) .forbidden

def authorize (target : DeviceJobTarget) (capability : DeviceJobCapability) : JobUseCase Unit := do
  let authorized ← decided <|
    (ports.isDeviceJobAuthorized actor target capability).mapError mapPortError
  decided <| refuseIf (authorized = false) .forbidden

def ensureExecutionReady (target : DeviceJobTarget) : JobUseCase Unit := do
  match ← decided <| (ports.evaluateDeviceExecution actor target).mapError mapPortError with
  | .ready => decided (.ok ())
  | .blocked blocker => decided (.error (.preconditionFailed blocker))

def loadExactJob (jobId : DeviceJobId) (target : DeviceJobTarget)
    (expectedVersion : AggregateVersion) : JobUseCase DeviceJob := do
  let answer ← asked (.load actor.tenantScope.tenantId jobId)
  let found ← decided <| Except.mapError mapPortError answer
  let job ← decided <| okOr found .notFound
  decided <| refuseIf (job.target ≠ target) .notFound
  decided <| refuseIf (job.version ≠ expectedVersion) .versionConflict
  return job

def persist (expectedVersion : AggregateVersion) (job : DeviceJob) : JobUseCase Unit := do
  let answer ← asked (.swap actor.tenantScope.tenantId expectedVersion job)
  let written ← decided <| Except.mapError mapPortError answer
  decided <| refuseIf (written = .versionConflict) .versionConflict

/-- The job after an operation on a copy of it, which an error discards. -/
def apply (operation : DeviceJobOperation) (job : DeviceJob) :
    Except DeviceJobOperationError DeviceJob :=
  match outcome (operate operation) job with
  | (.ok (), after) => .ok after
  | (.error why, _) => .error (.domain why)

end Steps

section UseCases

variable (actor : ActorContext) (ports : DevicePorts)

def executeIssueDeviceJob (command : IssueDeviceJobCommand) : JobUseCase DeviceJob := do
  ensureTenant actor command.target
  authorize actor ports command.target .issue
  let job ← decided <| (DeviceJob.issue command.jobId command.target command.maxAttempts
    command.issuedAt).mapError .domain
  let answer ← asked (.insert actor.tenantScope.tenantId job)
  let written ← decided <| Except.mapError mapPortError answer
  decided <| refuseIf (written = .conflict) .conflict
  return job

def executeClaimDeviceJob (command : ClaimDeviceJobCommand) : JobUseCase DeviceJob := do
  ensureTenant actor command.target
  ensureAuthenticatedDevice actor ports command.target
  authorize actor ports command.target .claim
  ensureExecutionReady actor ports command.target
  let job ← loadExactJob actor command.jobId command.target command.expectedVersion
  let job ← decided <| apply (.claim command.claimId command.observedAt command.leaseExpiresAt) job
  persist actor command.expectedVersion job
  return job

def executeHeartbeatDeviceJob (command : HeartbeatDeviceJobCommand) : JobUseCase DeviceJob := do
  ensureTenant actor command.target
  ensureAuthenticatedDevice actor ports command.target
  authorize actor ports command.target .heartbeat
  let job ← loadExactJob actor command.jobId command.target command.expectedVersion
  let job ← decided <| apply (.heartbeat command.claimId command.fence command.observedAt
    command.leaseExpiresAt) job
  persist actor command.expectedVersion job
  return job

def ApplyDeviceJobOutcomeCommand.operation (command : ApplyDeviceJobOutcomeCommand) :
    DeviceJobOperation :=
  match command.outcome with
  | .succeeded => .succeed command.claimId command.fence command.observedAt
  | .retryScheduled retryAt =>
    .scheduleRetry command.claimId command.fence command.observedAt retryAt
  | .profileBusy retryAt =>
    .markProfileBusy command.claimId command.fence command.observedAt retryAt
  | .authRequired => .requireAuth command.claimId command.fence command.observedAt
  | .recoveryRequired => .requireRecovery command.claimId command.fence command.observedAt
  | .failed => .fail command.claimId command.fence command.observedAt

def executeApplyDeviceJobOutcome (command : ApplyDeviceJobOutcomeCommand) :
    JobUseCase DeviceJob := do
  ensureTenant actor command.target
  ensureAuthenticatedDevice actor ports command.target
  authorize actor ports command.target .complete
  ensureExecutionReady actor ports command.target
  let job ← loadExactJob actor command.jobId command.target command.expectedVersion
  let job ← decided <| apply command.operation job
  persist actor command.expectedVersion job
  return job

def executeExpireDeviceClaim (command : ExpireDeviceClaimCommand) : JobUseCase DeviceJob := do
  ensureTenant actor command.target
  authorize actor ports command.target .recover
  let job ← loadExactJob actor command.jobId command.target command.expectedVersion
  let job ← decided <| apply (.expireClaim command.observedAt command.retryAt) job
  persist actor command.expectedVersion job
  return job

/-- Resuming takes the way that the status asks for. -/
def resumed (observedAt : UnixMillis) (job : DeviceJob) :
    Except DeviceJobOperationError DeviceJob :=
  match job.status with
  | .authRequired => apply (.resumeAfterAuth observedAt) job
  | .recoveryRequired => apply (.resumeAfterRecovery observedAt) job
  | _ => .error (.domain .invalidState)

def executeResumeDeviceJob (command : ResumeDeviceJobCommand) : JobUseCase DeviceJob := do
  ensureTenant actor command.target
  authorize actor ports command.target .recover
  ensureExecutionReady actor ports command.target
  let job ← loadExactJob actor command.jobId command.target command.expectedVersion
  let job ← decided <| resumed command.observedAt job
  persist actor command.expectedVersion job
  return job

def executeCancelDeviceJob (command : CancelDeviceJobCommand) : JobUseCase DeviceJob := do
  ensureTenant actor command.target
  authorize actor ports command.target .cancel
  let job ← loadExactJob actor command.jobId command.target command.expectedVersion
  let job ← decided <| apply (.cancel command.observedAt) job
  persist actor command.expectedVersion job
  return job

inductive DeviceJobCommand where
  | issue (command : IssueDeviceJobCommand)
  | claim (command : ClaimDeviceJobCommand)
  | heartbeat (command : HeartbeatDeviceJobCommand)
  | applyOutcome (command : ApplyDeviceJobOutcomeCommand)
  | expire (command : ExpireDeviceClaimCommand)
  | resume (command : ResumeDeviceJobCommand)
  | cancel (command : CancelDeviceJobCommand)

/-- A call of a worker, with what its ports will answer. -/
structure DeviceJobCall where
  actor : ActorContext
  ports : DevicePorts
  command : DeviceJobCommand

def DeviceJobCall.execute (call : DeviceJobCall) : JobUseCase DeviceJob :=
  match call.command with
  | .issue command => executeIssueDeviceJob call.actor call.ports command
  | .claim command => executeClaimDeviceJob call.actor call.ports command
  | .heartbeat command => executeHeartbeatDeviceJob call.actor call.ports command
  | .applyOutcome command => executeApplyDeviceJobOutcome call.actor call.ports command
  | .expire command => executeExpireDeviceClaim call.actor call.ports command
  | .resume command => executeResumeDeviceJob call.actor call.ports command
  | .cancel command => executeCancelDeviceJob call.actor call.ports command

end UseCases

section Workers

/-- A statement that is refused changes nothing. -/
def settled {A : Type} (before : JobDatabase) (result : Except DeviceJobPortError (A × JobDatabase)) :
    Except DeviceJobPortError A × JobDatabase :=
  match result with
  | .ok (value, after) => (.ok value, after)
  | .error why => (.error why, before)

def JobDatabase.serve (self : JobDatabase) : (request : JobRequest) → JobAnswer request × JobDatabase
  | .insert tenantId job => settled self (self.insertDeviceJob tenantId job)
  | .load tenantId jobId => (self.loadDeviceJob tenantId jobId, self)
  | .swap tenantId expectedVersion job =>
    settled self (self.compareAndSwapDeviceJob tenantId expectedVersion job)

/-- Any number of calls at a time, on one database whose other tables change under them. -/
def deviceJobService : Service JobDatabase JobSurroundings JobRequest JobAnswer DeviceJobCall
    (Except DeviceJobOperationError DeviceJob) where
  execute call := call.execute.run
  serve := JobDatabase.serve
  disturb database surroundings := { database with surroundings }

end Workers

end ProfilePlatform.Device
