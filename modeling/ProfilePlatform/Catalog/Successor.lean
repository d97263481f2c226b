import ProfilePlatform.Catalog.Commands
import ProfilePlatform.Catalog.Guards

/-! The successor commands: a new generation is registered, verified and made active at once.

An interactive writer inserts the command itself; a device job inserts a device
commit, whose trigger inserts the successor command and then ends the job. Both
journals only grow.
-/

set_option autoImplicit false

namespace ProfilePlatform.Catalog

open Foundation

/-- The generation a successor command brings into the catalog. -/
def SuccessorColumns.registered (self : SuccessorColumns) : GenerationRow where
  key := self.candidate
  objectKey := self.objectKey
  metadataDigest := self.metadataDigest
  containerDigest := self.containerDigest
  status := .registered
  version := 1
  verificationReference := none
  registeredByActorId := self.commandActorId
  verifiedByActorId := none
  quarantinedByActorId := none
  createdAtMs := self.executedAtMs
  updatedAtMs := self.executedAtMs
  verifiedAtMs := none
  quarantinedAtMs := none

/-- The first update of the trigger: the new generation becomes verified. -/
def SuccessorColumns.verification (self : SuccessorColumns) : GenerationUpdate where
  chosen row := row.key = self.candidate && row.status = .registered && row.version = 1
  change row := { row with
    status := .verified
    version := 2
    verificationReference := some self.reference
    verifiedByActorId := some self.commandActorId
    verifiedAtMs := some self.executedAtMs
    updatedAtMs := self.executedAtMs }

/-- The generation is stored as the command says it. -/
def SuccessorColumns.Stored (self : SuccessorColumns) (row : GenerationRow) : Prop :=
  row.key = self.candidate ∧ row.objectKey = self.objectKey ∧
    row.metadataDigest = self.metadataDigest ∧ row.containerDigest = self.containerDigest ∧
    row.status = .verified ∧ row.version = 2

instance (columns : SuccessorColumns) (row : GenerationRow) : Decidable (columns.Stored row) :=
  inferInstanceAs (Decidable (_ ∧ _))

/-- The second update of the trigger: the pointer moves from the base to the new generation. -/
def SuccessorColumns.activation (self : SuccessorColumns) (generations : List GenerationRow) :
    ProfileUpdate :=
  { ProfileUpdate.pointer self.profile (some self.generationId) .ready self.commandActorId
      self.executedAtMs with
    chosen row := row.key = self.profile && row.version = self.expectedProfileVersion &&
      row.status = .ready && row.activeGenerationId = some self.baseGenerationId &&
      decide (∃ generation ∈ generations, self.Stored generation) }

namespace DeviceCommitCommandRow

/-- The job runs under the claim and the fence of the commit, and the claim has not expired. -/
def holdsClaim (self : DeviceCommitCommandRow) (job : DeviceJobRow) : Bool :=
  job.key = (self.profile.tenantId, self.jobId) && job.deviceId = self.deviceId &&
    job.generation = self.base && job.aggregateVersion = self.expectedJobVersion &&
    job.status = .running && job.currentClaimId = some self.claimId &&
    job.claimFence = some self.claimFence && job.lastFence = self.claimFence &&
    job.updatedAtMs ≤ self.executedAtMs &&
    job.claimHeartbeatAtMs.any (· ≤ self.executedAtMs) &&
    isAhead job.claimLeaseExpiresAtMs self.executedAtMs

/-- The update that ends the job of a device commit. -/
def termination (self : DeviceCommitCommandRow) : DeviceJobUpdate where
  chosen job := self.holdsClaim job
  change job := { job with
    aggregateVersion := job.aggregateVersion + 1
    status := .succeeded
    currentClaimId := none
    claimFence := none
    claimedAtMs := none
    claimHeartbeatAtMs := none
    claimLeaseExpiresAtMs := none
    retryAtMs := none
    updatedAtMs := self.executedAtMs }
  keepsJob _ := rfl
  keepsGeneration _ := rfl

/-- The successor command that the trigger of a device commit inserts. -/
def successor (self : DeviceCommitCommandRow) : SuccessorCommandRow :=
  { self.toSuccessorColumns with authorityKind := .deviceJob }

end DeviceCommitCommandRow

namespace Database

/-- The profile is ready at the expected version, and its pointer names the verified base. -/
def IsBaseCurrent (self : Database) (columns : SuccessorColumns) : Prop :=
  self.HasGeneration columns.base .verified ∧
    ∃ profile ∈ self.profiles, profile.key = columns.profile ∧ profile.status = .ready ∧
      profile.version = columns.expectedProfileVersion ∧
      profile.activeGenerationId = some columns.baseGenerationId ∧
      profile.updatedAtMs ≤ columns.executedAtMs

instance (self : Database) (columns : SuccessorColumns) : Decidable (self.IsBaseCurrent columns) :=
  inferInstanceAs (Decidable (_ ∧ _))

def IsAuthorized (self : Database) (deviceId : DeviceId) (generation : GenerationKey) : Prop :=
  ∃ grant ∈ self.deviceAuthorizations, grant.key = (deviceId, generation) ∧ grant.status = .active

instance (self : Database) (deviceId : DeviceId) (generation : GenerationKey) :
    Decidable (self.IsAuthorized deviceId generation) := inferInstanceAs (Decidable (∃ _ ∈ _, _))

section SuccessorCommand

def validateSuccessor (self : Database) (row : SuccessorCommandRow) : Except Refusal Unit := do
  refuseIf (self.Retired row.base ∨ self.Retired row.candidate)
    (.abort "retired_generation_cannot_be_successor")
  refuseIf (¬self.surroundings.IsActive row.profile.tenantId row.commandActorId)
    (.abort "profile_generation_successor_actor_inactive")
  refuseIf (row.authorityKind = .interactiveLaunch ∧
      ¬self.surroundings.IsOperator row.profile row.commandActorId)
    (.abort "profile_generation_successor_profile_access_denied")
  refuseIf (¬self.surroundings.IsBound row.profile.tenantId row.commandActorId row.deviceId)
    (.abort "profile_generation_successor_device_binding_mismatch")
  refuseIf (¬self.IsAuthorized row.deviceId row.base)
    (.abort "profile_generation_successor_device_authorization_stale")
  refuseIf (row.authorityKind = .deviceJob ∧ ¬∃ command ∈ self.deviceCommitCommands,
      command.toSuccessorColumns = row.toSuccessorColumns)
    (.abort "profile_generation_successor_device_job_authority_missing")
  refuseIf (¬self.IsBaseCurrent row.toSuccessorColumns)
    (.abort "profile_generation_successor_base_generation_stale")
  refuseIf (∃ generation ∈ self.generations, generation.key = row.candidate)
    (.abort "profile_generation_successor_candidate_exists")
  refuseIf (¬∃ projection ∈ self.surroundings.coordinatorProjections,
      projection.Admits row.toSuccessorColumns ∧ projection.projectedAtMs ≤ row.executedAtMs)
    (.abort "profile_generation_successor_coordinator_stale")

/-- The number of rows an update is about. -/
def changes {R : Type} (chosen : R → Bool) (rows : List R) : Nat := (rows.filter chosen).length

/-- `profile_generation_successor_command_apply`. -/
def applySuccessor (self : Database) (columns : SuccessorColumns) : Except Refusal Database := do
  let registered ← self.insertGeneration columns.registered
  let verified ← registered.updateGenerations columns.verification
  refuseIf (changes columns.verification.chosen registered.generations ≠ 1)
    (.abort "profile_generation_successor_verify_incomplete")
  let activation := columns.activation verified.generations
  let activated ← verified.updateProfiles activation
  refuseIf (changes activation.chosen verified.profiles ≠ 1)
    (.abort "profile_generation_successor_activate_incomplete")
  return activated

def insertSuccessorCommand (self : Database) (row : SuccessorCommandRow) :
    Except Refusal Database := do
  self.validateSuccessor row
  refuseIf (¬row.checked) .check
  refuseIf (∃ old ∈ self.successorCommands, old.Clashes row) .unique
  { self with successorCommands := self.successorCommands ++ [row] }.applySuccessor
    row.toSuccessorColumns

end SuccessorCommand

section DeviceCommit

def validateDeviceCommit (self : Database) (row : DeviceCommitCommandRow) :
    Except Refusal Unit := do
  refuseIf (¬self.surroundings.IsActive row.profile.tenantId row.commandActorId)
    (.abort "device_generation_commit_actor_inactive")
  refuseIf (¬self.surroundings.IsBound row.profile.tenantId row.commandActorId row.deviceId)
    (.abort "device_generation_commit_device_binding_mismatch")
  refuseIf (¬self.IsAuthorized row.deviceId row.base)
    (.abort "device_generation_commit_authorization_stale")
  refuseIf (¬∃ job ∈ self.deviceJobs, row.holdsClaim job)
    (.abort "device_generation_commit_claim_stale")
  refuseIf (¬self.IsBaseCurrent row.toSuccessorColumns)
    (.abort "device_generation_commit_base_generation_stale")
  refuseIf (∃ generation ∈ self.generations, generation.key = row.candidate)
    (.abort "device_generation_commit_candidate_exists")
  refuseIf (¬∃ projection ∈ self.surroundings.coordinatorProjections,
      projection.Admits row.toSuccessorColumns)
    (.abort "device_generation_commit_coordinator_stale")

def insertDeviceCommitCommand (self : Database) (row : DeviceCommitCommandRow) :
    Except Refusal Database := do
  self.validateDeviceCommit row
  refuseIf (¬row.checked ∨ row.expectedJobVersion < 1 ∨ row.claimFence = 0) .check
  refuseIf (∃ old ∈ self.deviceCommitCommands,
    old.profile.tenantId = row.profile.tenantId ∧ old.jobId = row.jobId) .unique
  let committed ← { self with
      deviceCommitCommands := self.deviceCommitCommands ++ [row] }.insertSuccessorCommand
    row.successor
  let termination := row.termination
  let terminated ← committed.updateDeviceJobs termination
  refuseIf (changes termination.chosen committed.deviceJobs ≠ 1)
    (.abort "device_generation_commit_job_terminalize_incomplete")
  return terminated

end DeviceCommit

end Database

end ProfilePlatform.Catalog
