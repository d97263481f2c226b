import ProfilePlatform.Catalog.Tables

/-! The database of the catalog, and how a statement is refused.

Working proofs and retirement intents stand beside the catalog's own tables, with
the device authorizations and device jobs they have to look at. A statement that
fails is answered with the text of the trigger or of the constraint it met.
-/

set_option autoImplicit false

namespace ProfilePlatform.Catalog

open Foundation

section Retention

structure WorkingProofRow where
  key : GenerationKey
  observedCurrentGenerationId : GenerationId
  metadataDigest : String
  containerDigest : String
  rootKeyId : String
  runtimeInventorySha256 : String
  observedByActorId : ActorId
  observedByDeviceId : DeviceId
  coordinatorSessionId : SessionId
  coordinatorEpoch : Nat
  provenAtMs : Nat
  nativeSnapshotSha256 : Option String
  nativeBrowserWitnessSha256 : Option String
  deriving DecidableEq

namespace WorkingProofRow

def checked (self : WorkingProofRow) : Bool :=
  isSha256Hex self.metadataDigest && isSha256Hex self.containerDigest &&
    OpaqueId.accepts self.rootKeyId && isSha256Hex self.runtimeInventorySha256 &&
    0 < self.coordinatorEpoch && self.key.generationId ≠ self.observedCurrentGenerationId &&
    self.nativeSnapshotSha256.all isSha256Hex && self.nativeBrowserWitnessSha256.all isSha256Hex

/-- The snapshot saved and the bytes a browser was restored from have one digest. -/
def ExactlyNative (self : WorkingProofRow) : Prop :=
  self.nativeSnapshotSha256.isSome ∧ self.nativeBrowserWitnessSha256 = self.nativeSnapshotSha256

instance (row : WorkingProofRow) : Decidable row.ExactlyNative :=
  inferInstanceAs (Decidable (_ ∧ _))

end WorkingProofRow

structure RetirementIntentRow where
  key : GenerationKey
  observedCurrentGenerationId : GenerationId
  retainedWorkingGenerationId : GenerationId
  expectedProfileVersion : Nat
  objectKey : String
  metadataDigest : String
  containerDigest : String
  approvedRuntimeInventorySha256 : String
  admittedByActorId : ActorId
  admittedByDeviceId : DeviceId
  coordinatorSessionId : SessionId
  coordinatorEpoch : Nat
  admittedAtMs : Nat
  deletedAtMs : Option Nat
  deriving DecidableEq

namespace RetirementIntentRow

def current (self : RetirementIntentRow) : GenerationKey :=
  ⟨self.key.profile, self.observedCurrentGenerationId⟩

def retained (self : RetirementIntentRow) : GenerationKey :=
  ⟨self.key.profile, self.retainedWorkingGenerationId⟩

def checked (self : RetirementIntentRow) : Bool :=
  0 < self.expectedProfileVersion && isSha256Hex self.metadataDigest &&
    isSha256Hex self.containerDigest && isSha256Hex self.approvedRuntimeInventorySha256 &&
    0 < self.coordinatorEpoch && self.deletedAtMs.all (self.admittedAtMs ≤ ·) &&
    self.key ≠ self.current && self.key ≠ self.retained && self.current ≠ self.retained

end RetirementIntentRow

inductive AuthorizationStatus where
  | active | revoked
  deriving DecidableEq, Repr

structure AuthorizationRow where
  deviceId : DeviceId
  generation : GenerationKey
  version : Nat
  status : AuthorizationStatus
  evidenceReference : String
  authorizedByActorId : ActorId
  updatedByActorId : ActorId
  authorizedAtMs : Nat
  updatedAtMs : Nat
  revokedAtMs : Option Nat
  deriving DecidableEq

namespace AuthorizationRow

def key (self : AuthorizationRow) : DeviceId × GenerationKey := (self.deviceId, self.generation)

def checked (self : AuthorizationRow) : Bool :=
  1 ≤ self.version && isReference self.evidenceReference &&
    self.authorizedAtMs ≤ self.updatedAtMs &&
    match self.status, self.revokedAtMs with
    | .active, none => true
    | .revoked, some revokedAtMs =>
      self.authorizedAtMs ≤ revokedAtMs && revokedAtMs = self.updatedAtMs
    | _, _ => false

end AuthorizationRow

inductive DeviceJobStatus where
  | pendingDevice | profileBusy | running | retryScheduled | authRequired | recoveryRequired
  | succeeded | failed | cancelled
  deriving DecidableEq, Repr

structure DeviceJobRow where
  jobId : DeviceJobId
  deviceId : DeviceId
  generation : GenerationKey
  aggregateVersion : Nat
  status : DeviceJobStatus
  attempt : Nat
  maxAttempts : Nat
  lastFence : Nat
  currentClaimId : Option DeviceClaimId
  claimFence : Option Nat
  claimedAtMs : Option Nat
  claimHeartbeatAtMs : Option Nat
  claimLeaseExpiresAtMs : Option Nat
  retryAtMs : Option Nat
  updatedAtMs : Nat
  deriving DecidableEq

namespace DeviceJobRow

def key (self : DeviceJobRow) : TenantId × DeviceJobId :=
  (self.generation.profile.tenantId, self.jobId)

/-- A claim is all there or not at all, a running job has one, and it is the latest. -/
def claimChecked (self : DeviceJobRow) : Bool :=
  match self.currentClaimId, self.claimFence, self.claimedAtMs, self.claimHeartbeatAtMs,
    self.claimLeaseExpiresAtMs with
  | none, none, none, none, none => self.status ≠ .running
  | some _, some fence, some claimedAtMs, some heartbeatAtMs, some leaseExpiresAtMs =>
    self.status = .running && 0 < fence && fence = self.lastFence &&
      claimedAtMs ≤ heartbeatAtMs && heartbeatAtMs = self.updatedAtMs &&
      heartbeatAtMs < leaseExpiresAtMs
  | _, _, _, _, _ => false

def checked (self : DeviceJobRow) : Bool :=
  1 ≤ self.aggregateVersion && self.aggregateVersion < sqliteLimit && self.maxAttempts ≤ 100 &&
    1 ≤ self.maxAttempts && self.attempt ≤ self.maxAttempts && self.lastFence = self.attempt &&
    self.attempt < self.aggregateVersion &&
    (self.status ∈ [.pendingDevice, .cancelled] || 0 < self.attempt) && self.claimChecked &&
    if self.status ∈ [DeviceJobStatus.profileBusy, .retryScheduled] then
      self.retryAtMs.any (self.updatedAtMs < ·)
    else self.retryAtMs.isNone

end DeviceJobRow

end Retention

section Surroundings

inductive MembershipRole where
  | tenantOwner | member
  deriving DecidableEq, Repr

inductive MembershipStatus where
  | active | suspended | revoked
  deriving DecidableEq, Repr

structure MembershipRow where
  tenantId : TenantId
  actorId : ActorId
  role : MembershipRole
  status : MembershipStatus
  deriving DecidableEq

inductive DeviceBindingStatus where
  | active | revoked
  deriving DecidableEq, Repr

structure DeviceActorBindingRow where
  tenantId : TenantId
  actorId : ActorId
  deviceId : DeviceId
  status : DeviceBindingStatus
  deriving DecidableEq

inductive ProfileGrantRole where
  | profileViewer | profileOperator
  deriving DecidableEq, Repr

structure ProfileGrantRow where
  profile : ProfileKey
  actorId : ActorId
  role : ProfileGrantRole
  deriving DecidableEq

inductive ProjectedCoordinatorStatus where
  | idle | active | draining | dirty | uncertain
  deriving DecidableEq, Repr

structure CoordinatorProjectionRow where
  profile : ProfileKey
  coordinatorStatus : ProjectedCoordinatorStatus
  coordinatorVersion : Nat
  coordinatorSequence : Nat
  activeSessionId : Option SessionId
  activeDeviceId : Option DeviceId
  activeEpoch : Option Nat
  idleExpiresAtMs : Option Nat
  hardExpiresAtMs : Option Nat
  drainDeadlineMs : Option Nat
  projectedAtMs : Nat
  deriving DecidableEq

/-- A deadline that is set and still ahead; a null one is not. -/
def isAhead (deadlineMs : Option Nat) (nowMs : Nat) : Bool := deadlineMs.any (nowMs < ·)

/-- The projection names the writer of the command, and its lease runs. -/
def CoordinatorProjectionRow.Admits (self : CoordinatorProjectionRow)
    (columns : SuccessorColumns) : Prop :=
  self.profile = columns.profile ∧
    self.coordinatorStatus ∈ [ProjectedCoordinatorStatus.active, .draining] ∧
    self.coordinatorVersion = columns.coordinatorVersion ∧
    self.coordinatorSequence = columns.coordinatorSequence ∧
    self.activeSessionId = some columns.coordinatorSessionId ∧
    self.activeDeviceId = some columns.deviceId ∧
    self.activeEpoch = some columns.coordinatorEpoch ∧
    isAhead self.idleExpiresAtMs columns.executedAtMs ∧
    isAhead self.hardExpiresAtMs columns.executedAtMs ∧
    (self.coordinatorStatus = .draining → isAhead self.drainDeadlineMs columns.executedAtMs)

instance (row : CoordinatorProjectionRow) (columns : SuccessorColumns) :
    Decidable (row.Admits columns) := inferInstanceAs (Decidable (_ ∧ _))

/-- The rows that other components write. -/
structure Surroundings where
  memberships : List MembershipRow
  deviceActorBindings : List DeviceActorBindingRow
  profileGrants : List ProfileGrantRow
  coordinatorProjections : List CoordinatorProjectionRow

namespace Surroundings

def IsActive (self : Surroundings) (tenantId : TenantId) (actorId : ActorId) : Prop :=
  ∃ member ∈ self.memberships, member.tenantId = tenantId ∧ member.actorId = actorId ∧
    member.status = .active

def IsOwner (self : Surroundings) (tenantId : TenantId) (actorId : ActorId) : Prop :=
  ∃ member ∈ self.memberships, member.tenantId = tenantId ∧ member.actorId = actorId ∧
    member.role = .tenantOwner ∧ member.status = .active

/-- An active owner, or an active member with the operator grant of the profile. -/
def IsOperator (self : Surroundings) (profile : ProfileKey) (actorId : ActorId) : Prop :=
  ∃ member ∈ self.memberships, member.tenantId = profile.tenantId ∧ member.actorId = actorId ∧
    member.status = .active ∧
    (member.role = .tenantOwner ∨ member.role = .member ∧ ∃ grant ∈ self.profileGrants,
      grant.profile = profile ∧ grant.actorId = actorId ∧ grant.role = .profileOperator)

def IsBound (self : Surroundings) (tenantId : TenantId) (actorId : ActorId)
    (deviceId : DeviceId) : Prop :=
  ∃ binding ∈ self.deviceActorBindings, binding.tenantId = tenantId ∧ binding.actorId = actorId ∧
    binding.deviceId = deviceId ∧ binding.status = .active

instance (self : Surroundings) (tenantId : TenantId) (actorId : ActorId) :
    Decidable (self.IsActive tenantId actorId) := inferInstanceAs (Decidable (∃ _ ∈ _, _))

instance (self : Surroundings) (tenantId : TenantId) (actorId : ActorId) :
    Decidable (self.IsOwner tenantId actorId) := inferInstanceAs (Decidable (∃ _ ∈ _, _))

instance (self : Surroundings) (profile : ProfileKey) (actorId : ActorId) :
    Decidable (self.IsOperator profile actorId) := inferInstanceAs (Decidable (∃ _ ∈ _, _))

instance (self : Surroundings) (tenantId : TenantId) (actorId : ActorId) (deviceId : DeviceId) :
    Decidable (self.IsBound tenantId actorId deviceId) := inferInstanceAs (Decidable (∃ _ ∈ _, _))

end Surroundings

end Surroundings

/-- Why a statement is refused: a trigger aborts it, or a constraint fails. -/
inductive Refusal where
  | abort (message : String)
  | check
  | unique
  | foreignKey
  deriving DecidableEq, Repr

structure Database where
  surroundings : Surroundings
  profiles : List ProfileRow
  generations : List GenerationRow
  registerCommands : List RegisterCommandRow
  verifyCommands : List VerifyCommandRow
  activateCommands : List PointerCommandRow
  quarantineCommands : List QuarantineCommandRow
  deactivateCommands : List PointerCommandRow
  successorCommands : List SuccessorCommandRow
  deviceCommitCommands : List DeviceCommitCommandRow
  workingProofs : List WorkingProofRow
  retirementIntents : List RetirementIntentRow
  deviceAuthorizations : List AuthorizationRow
  deviceJobs : List DeviceJobRow

def Database.empty : Database :=
  ⟨⟨[], [], [], []⟩, [], [], [], [], [], [], [], [], [], [], [], [], []⟩

namespace Database

/-- Some intent retires the generation. -/
def Retired (self : Database) (key : GenerationKey) : Prop :=
  ∃ intent ∈ self.retirementIntents, intent.key = key

instance (self : Database) (key : GenerationKey) : Decidable (self.Retired key) :=
  inferInstanceAs (Decidable (∃ _ ∈ _, _))

/-- The profile's pointer names the generation. -/
def Selects (self : Database) (key : GenerationKey) : Prop :=
  ∃ profile ∈ self.profiles, profile.key = key.profile ∧
    profile.activeGenerationId = some key.generationId

instance (self : Database) (key : GenerationKey) : Decidable (self.Selects key) :=
  inferInstanceAs (Decidable (∃ _ ∈ _, _))

/-- The catalog knows the generation, in that status. -/
def HasGeneration (self : Database) (key : GenerationKey) (status : GenerationStatus) : Prop :=
  ∃ generation ∈ self.generations, generation.key = key ∧ generation.status = status

instance (self : Database) (key : GenerationKey) (status : GenerationStatus) :
    Decidable (self.HasGeneration key status) := inferInstanceAs (Decidable (∃ _ ∈ _, _))

end Database

end ProfilePlatform.Catalog
