import ProfilePlatform.Device.JobRows
import ProfilePlatform.Foundation.Rows

/-! The statements of the device job repository on its database.

A statement either takes effect as a whole or is refused: by a check, a foreign key or a trigger,
or because the database does not answer.
-/

set_option autoImplicit false

namespace ProfilePlatform.Device

open Foundation

inductive DeviceJobInsertOutcome where
  | inserted | conflict
  deriving DecidableEq, Repr

inductive DeviceJobWriteOutcome where
  | applied | versionConflict
  deriving DecidableEq, Repr

/-- A generation by the texts of its key. -/
structure GenerationText where
  tenantId : String
  profileId : String
  generationId : String
  deriving DecidableEq

structure DeviceAuthorizationRow where
  deviceId : String
  generation : GenerationText
  status : String
  version : Int
  deriving DecidableEq

structure DeviceMembershipRow where
  tenantId : String
  actorId : String
  status : String
  role : String
  deriving DecidableEq

structure ProfileGrantRow where
  tenantId : String
  profileId : String
  actorId : String
  deriving DecidableEq

/-- The tables that the statements only look at, and whether the database answers. -/
structure JobSurroundings where
  generations : List GenerationText
  retired : List GenerationText
  authorizations : List DeviceAuthorizationRow
  memberships : List DeviceMembershipRow
  grants : List ProfileGrantRow
  answers : Bool
  deriving DecidableEq

structure JobDatabase where
  jobs : List DeviceJobRow
  surroundings : JobSurroundings

namespace DeviceJobRow

def key (self : DeviceJobRow) : String × String := (self.tenantId, self.jobId)

def generation (self : DeviceJobRow) : GenerationText :=
  ⟨self.tenantId, self.profileId, self.generationId⟩

/-- The columns of the primary key and of the target, which no update changes. -/
def target (self : DeviceJobRow) := (self.key, self.deviceId, self.generation)

/-- The columns that an update sets. -/
def set (self bound : DeviceJobRow) : DeviceJobRow :=
  { self with
    aggregateVersion := bound.aggregateVersion
    status := bound.status
    attempt := bound.attempt
    maxAttempts := bound.maxAttempts
    lastFence := bound.lastFence
    currentClaimId := bound.currentClaimId
    claimFence := bound.claimFence
    claimedAtMs := bound.claimedAtMs
    claimHeartbeatAtMs := bound.claimHeartbeatAtMs
    claimLeaseExpiresAtMs := bound.claimLeaseExpiresAtMs
    retryAtMs := bound.retryAtMs
    updatedAtMs := bound.updatedAtMs }

end DeviceJobRow

namespace JobDatabase

section Statements

/-- The foreign keys of a job. -/
def Refers (self : JobDatabase) (row : DeviceJobRow) : Prop :=
  row.generation ∈ self.surroundings.generations ∧
    ∃ grant ∈ self.surroundings.authorizations,
      grant.deviceId = row.deviceId ∧ grant.generation = row.generation

instance (self : JobDatabase) (row : DeviceJobRow) : Decidable (self.Refers row) :=
  inferInstanceAs (Decidable (_ ∧ ∃ _ ∈ _, _))

/-- `INSERT_DEVICE_JOB`. -/
def insertRow (self : JobDatabase) (row : DeviceJobRow) :
    Except DeviceJobPortError (DeviceJobInsertOutcome × JobDatabase) := do
  refuseIf (self.surroundings.answers = false) .dependencyUnavailable
  if ∃ old ∈ self.jobs, old.key = row.key then .ok (.conflict, self) else do
    refuseIf (row.generation ∈ self.surroundings.retired) .dependencyUnavailable
    refuseIf (row.checked = false) .dependencyUnavailable
    refuseIf (¬self.Refers row) .dependencyUnavailable
    return (.inserted, { self with jobs := self.jobs ++ [row] })

/-- The where clause of `CAS_DEVICE_JOB`. -/
def Swaps (bound : DeviceJobRow) (expected : Int) (row : DeviceJobRow) : Prop :=
  row.target = bound.target ∧ row.aggregateVersion = expected

instance (bound : DeviceJobRow) (expected : Int) : DecidablePred (Swaps bound expected) :=
  fun _ => inferInstanceAs (Decidable (_ ∧ _))

/-- `CAS_DEVICE_JOB`. -/
def swapRow (self : JobDatabase) (bound : DeviceJobRow) (expected : Int) :
    Except DeviceJobPortError (DeviceJobWriteOutcome × JobDatabase) := do
  refuseIf (self.surroundings.answers = false) .dependencyUnavailable
  refuseIf (∃ row ∈ self.jobs, Swaps bound expected row ∧ (row.set bound).checked = false)
    .dependencyUnavailable
  return (if ∃ row ∈ self.jobs, Swaps bound expected row then .applied else .versionConflict,
    { self with jobs := Rows.amend (Swaps bound expected) (DeviceJobRow.set · bound) self.jobs })

/-- The actor owns the tenant, or is a member with a grant of the profile. -/
def MaySee (self : JobDatabase) (actorId : ActorId) (row : DeviceJobRow) : Prop :=
  ∃ membership ∈ self.surroundings.memberships,
    membership.tenantId = row.tenantId ∧ membership.actorId = actorId.asStr ∧
    membership.status = "ACTIVE" ∧
    (membership.role = "TENANT_OWNER" ∨
      (membership.role = "MEMBER" ∧ ∃ grant ∈ self.surroundings.grants,
        grant.tenantId = row.tenantId ∧ grant.profileId = row.profileId ∧
        grant.actorId = membership.actorId))

instance (self : JobDatabase) (actorId : ActorId) (row : DeviceJobRow) :
    Decidable (self.MaySee actorId row) :=
  inferInstanceAs (Decidable (∃ _ ∈ _, _ ∧ _ ∧ _ ∧ (_ ∨ (_ ∧ ∃ _ ∈ _, _))))

def IsAuthorized (self : JobDatabase) (row : DeviceJobRow) : Prop :=
  ∃ grant ∈ self.surroundings.authorizations, grant.deviceId = row.deviceId ∧
    grant.generation = row.generation ∧ grant.status = "ACTIVE" ∧ 1 ≤ grant.version

instance (self : JobDatabase) (row : DeviceJobRow) : Decidable (self.IsAuthorized row) :=
  inferInstanceAs (Decidable (∃ _ ∈ _, _ ∧ _ ∧ _ ∧ _))

/-- The job waits for a device, or for a time that has come. -/
def IsDue (nowMs : Int) (row : DeviceJobRow) : Prop :=
  row.status = "PENDING_DEVICE" ∨
    (row.waitsForRetry = true ∧ ∃ retryAtMs ∈ row.retryAtMs, retryAtMs ≤ nowMs)

instance (nowMs : Int) (row : DeviceJobRow) : Decidable (IsDue nowMs row) :=
  inferInstanceAs (Decidable (_ ∨ (_ ∧ ∃ _ ∈ _, _)))

/-- By the time the job is due, then by its last update, then by its identifier. -/
def comesFirst (left right : DeviceJobRow) : Bool :=
  let due (row : DeviceJobRow) := row.retryAtMs.getD row.updatedAtMs
  if due left ≠ due right then due left < due right
  else if left.updatedAtMs ≠ right.updatedAtMs then left.updatedAtMs < right.updatedAtMs
  else left.jobId ≤ right.jobId

/-- `LIST_CLAIMABLE_DEVICE_JOBS`. -/
def claimableRows (self : JobDatabase) (actor : ActorContext) (deviceId : DeviceId) (nowMs : Int)
    (limit : Nat) : List DeviceJobRow :=
  ((self.jobs.filter fun row =>
    row.tenantId = actor.tenantScope.tenantId.asStr ∧ row.deviceId = deviceId.asStr ∧
      self.IsAuthorized row ∧ self.MaySee actor.actorId row ∧ IsDue nowMs row).mergeSort
        comesFirst).take limit

end Statements

section Repository

def requireTenantBinding (tenantId : TenantId) (target : DeviceJobTarget) :
    Except DeviceJobPortError Unit := refuseIf (target.tenantId ≠ tenantId) .integrityFailure

def insertDeviceJob (self : JobDatabase) (tenantId : TenantId) (job : DeviceJob) :
    Except DeviceJobPortError (DeviceJobInsertOutcome × JobDatabase) := do
  requireTenantBinding tenantId job.target
  let snapshot := job.snapshot
  refuseIf (snapshot.aggregateVersion ≠ AggregateVersion.initial.value ∨
    snapshot.status ≠ .pendingDevice ∨ snapshot.attempt ≠ 0 ∨ snapshot.lastFence ≠ 0 ∨
    snapshot.activeClaim.isSome = true ∨ snapshot.retryAt.isSome = true) .integrityFailure
  let row ← boundRow tenantId snapshot
  self.insertRow row

def loadDeviceJob (self : JobDatabase) (tenantId : TenantId) (jobId : DeviceJobId) :
    Except DeviceJobPortError (Option DeviceJob) := do
  refuseIf (self.surroundings.answers = false) .dependencyUnavailable
  match Rows.first (fun row => row.key = (tenantId.asStr, jobId.asStr)) self.jobs with
  | none => .ok none
  | some row => (restoreRow tenantId jobId row).map some

def compareAndSwapDeviceJob (self : JobDatabase) (tenantId : TenantId)
    (expectedVersion : AggregateVersion) (job : DeviceJob) :
    Except DeviceJobPortError (DeviceJobWriteOutcome × JobDatabase) := do
  requireTenantBinding tenantId job.target
  let requiredVersion ← okOr expectedVersion.next .integrityFailure
  refuseIf (job.version ≠ requiredVersion) .integrityFailure
  let row ← boundRow tenantId job.snapshot
  let expected ← u64ToI64 expectedVersion.value
  self.swapRow row expected

def listClaimableDeviceJobs (self : JobDatabase) (actor : ActorContext) (deviceId : DeviceId)
    (now : UnixMillis) (limit : Nat) : Except DeviceJobPortError (List DeviceJob) := do
  refuseIf (limit = 0) .integrityFailure
  let nowMs ← unixToI64 now
  refuseIf (self.surroundings.answers = false) .dependencyUnavailable
  let rows := self.claimableRows actor deviceId nowMs limit
  refuseIf (limit < rows.length) .integrityFailure
  rows.mapM fun row => do
    let jobId ← parsed row.jobId
    restoreRow actor.tenantScope.tenantId jobId row

end Repository

end JobDatabase

end ProfilePlatform.Device
