import ProfilePlatform.Foundation.Rows
import ProfilePlatform.Primitives

/-! The generation catalog's tables: profiles, their generations, and the command
rows that govern both.

A column that only accepts identifiers has the type of the identifier, and the
other checks of a table are a predicate of its row. Who is a member, what a device
is bound to and what the coordinator last projected is written by other components.
-/

set_option autoImplicit false

namespace ProfilePlatform.Catalog

structure ProfileKey where
  tenantId : TenantId
  profileId : ProfileId
  deriving DecidableEq

structure GenerationKey where
  profile : ProfileKey
  generationId : GenerationId
  deriving DecidableEq

/-- The canonical location of a generation's container. -/
def GenerationKey.canonicalObjectKey (self : GenerationKey) : String :=
  "tenants/" ++ self.profile.tenantId.asStr ++ "/profiles/" ++ self.profile.profileId.asStr ++
    "/generations/" ++ self.generationId.asStr ++ ".bpgc"

section Texts

def isSha256Hex (text : String) : Bool := PayloadFingerprint.accepts text

/-- ASCII letters, digits, '_', '.', '/', ':' and '-'. -/
def isObjectKeyByte (byte : UInt8) : Bool :=
  isIdByte byte || byte == 46 || byte == 47 || byte == 58

def isObjectKey (text : String) : Bool :=
  let bytes := utf8Bytes text
  16 ≤ bytes.length && bytes.length ≤ 512 && bytes.head? ≠ some 47 &&
    !(bytes.zip bytes.tail).contains (46, 46) && bytes.all isObjectKeyByte

/-- ASCII letters, digits, '_', ':' and '-'. -/
def isReference (text : String) : Bool :=
  let bytes := utf8Bytes text
  8 ≤ bytes.length && bytes.length ≤ 256 && bytes.all fun byte => isIdByte byte || byte == 58

def hasBackslash (text : String) : Bool := (utf8Bytes text).contains 92

end Texts

inductive ProfileStatus where
  | draft | quarantined | ready | inUse | dirtyLocal | syncing | suspended | deleting | deleted
  deriving DecidableEq, Repr

/-- The states in which a profile can be coordinated. -/
def ProfileStatus.isLive (self : ProfileStatus) : Bool :=
  self ∈ [.ready, .inUse, .dirtyLocal, .syncing]

structure ProfileRow where
  key : ProfileKey
  status : ProfileStatus
  activeGenerationId : Option GenerationId
  version : Nat
  createdByActorId : ActorId
  updatedByActorId : ActorId
  createdAtMs : Nat
  updatedAtMs : Nat
  deriving DecidableEq

/-- An incremented version has to fit the column. -/
def ProfileRow.Checked (self : ProfileRow) : Prop :=
  1 ≤ self.version ∧ self.version < sqliteLimit ∧ self.createdAtMs ≤ self.updatedAtMs

instance (row : ProfileRow) : Decidable row.Checked := inferInstanceAs (Decidable (_ ∧ _ ∧ _))

inductive GenerationStatus where
  | registered | verified | quarantined
  deriving DecidableEq, Repr

structure GenerationRow where
  key : GenerationKey
  objectKey : String
  metadataDigest : String
  containerDigest : String
  status : GenerationStatus
  version : Nat
  verificationReference : Option String
  registeredByActorId : ActorId
  verifiedByActorId : Option ActorId
  quarantinedByActorId : Option ActorId
  createdAtMs : Nat
  updatedAtMs : Nat
  verifiedAtMs : Option Nat
  quarantinedAtMs : Option Nat
  deriving DecidableEq

namespace GenerationRow

/-- A column that is null or satisfies the check. -/
def nullOr {A : Type} (check : A → Bool) (column : Option A) : Bool := column.all check

def checked (self : GenerationRow) : Bool :=
  isObjectKey self.objectKey && isSha256Hex self.metadataDigest &&
    isSha256Hex self.containerDigest && 1 ≤ self.version && self.version < sqliteLimit &&
    nullOr isReference self.verificationReference && self.createdAtMs ≤ self.updatedAtMs &&
    nullOr (self.createdAtMs ≤ ·) self.verifiedAtMs &&
    nullOr (self.createdAtMs ≤ ·) self.quarantinedAtMs

/-- The columns that identify the stored object, and who registered it when. -/
def identity (self : GenerationRow) :
    GenerationKey × String × String × String × ActorId × Nat :=
  (self.key, self.objectKey, self.metadataDigest, self.containerDigest, self.registeredByActorId,
    self.createdAtMs)

/-- Two rows that the table cannot hold together. -/
def Clashes (self other : GenerationRow) : Prop :=
  self.key = other.key ∨
    self.key.profile.tenantId = other.key.profile.tenantId ∧ self.objectKey = other.objectKey

instance : DecidableRel Clashes := fun _ _ => inferInstanceAs (Decidable (_ ∨ _))

/-- Verified, with the reference that says against what. -/
def Proven (self : GenerationRow) : Prop :=
  self.status = .verified ∧ self.verificationReference.isSome

instance (row : GenerationRow) : Decidable row.Proven := inferInstanceAs (Decidable (_ ∧ _))

end GenerationRow

section Commands

structure RegisterCommandRow where
  commandId : String
  commandActorId : ActorId
  key : GenerationKey
  objectKey : String
  metadataDigest : String
  containerDigest : String
  executedAtMs : Nat
  initialDeviceId : Option DeviceId
  initialExpectedProfileVersion : Option Nat
  deriving DecidableEq

structure VerifyCommandRow where
  commandId : String
  commandActorId : ActorId
  key : GenerationKey
  expectedGenerationVersion : Nat
  verificationReference : String
  executedAtMs : Nat
  deriving DecidableEq

/-- A row of the activate commands or of the deactivate commands, which have the same columns. -/
structure PointerCommandRow where
  commandId : String
  commandActorId : ActorId
  key : GenerationKey
  expectedProfileVersion : Nat
  executedAtMs : Nat
  deriving DecidableEq

structure QuarantineCommandRow where
  commandId : String
  commandActorId : ActorId
  key : GenerationKey
  expectedGenerationVersion : Nat
  executedAtMs : Nat
  deriving DecidableEq

/-- The columns that a successor command and a device generation commit share. -/
structure SuccessorColumns where
  commandActorId : ActorId
  deviceId : DeviceId
  profile : ProfileKey
  baseGenerationId : GenerationId
  generationId : GenerationId
  objectKey : String
  metadataDigest : String
  containerDigest : String
  containerBytes : Nat
  expectedProfileVersion : Nat
  coordinatorSessionId : SessionId
  coordinatorFencingTokenDigest : String
  coordinatorEpoch : Nat
  coordinatorVersion : Nat
  coordinatorSequence : Nat
  executedAtMs : Nat
  deriving DecidableEq

namespace SuccessorColumns

def base (self : SuccessorColumns) : GenerationKey := ⟨self.profile, self.baseGenerationId⟩

def candidate (self : SuccessorColumns) : GenerationKey := ⟨self.profile, self.generationId⟩

/-- The reference under which a successor is verified: the digest of its container. -/
def reference (self : SuccessorColumns) : String := "r2sha256:" ++ self.containerDigest

def checked (self : SuccessorColumns) : Bool :=
  isObjectKey self.objectKey && isSha256Hex self.metadataDigest &&
    isSha256Hex self.containerDigest && 1 ≤ self.containerBytes &&
    self.containerBytes ≤ 637534208 && 1 ≤ self.expectedProfileVersion &&
    isSha256Hex self.coordinatorFencingTokenDigest && 0 < self.coordinatorEpoch &&
    1 ≤ self.coordinatorVersion && self.generationId ≠ self.baseGenerationId &&
    self.coordinatorVersion = self.coordinatorSequence + 1 &&
    self.objectKey = self.candidate.canonicalObjectKey

end SuccessorColumns

inductive AuthorityKind where
  | interactiveLaunch | deviceJob
  deriving DecidableEq, Repr

structure SuccessorCommandRow extends SuccessorColumns where
  authorityKind : AuthorityKind
  deriving DecidableEq

/-- A base has at most one successor, and a generation succeeds at most one base. -/
def SuccessorCommandRow.Clashes (self other : SuccessorCommandRow) : Prop :=
  self.base = other.base ∨ self.candidate = other.candidate

instance : DecidableRel SuccessorCommandRow.Clashes :=
  fun _ _ => inferInstanceAs (Decidable (_ ∨ _))

structure DeviceCommitCommandRow extends SuccessorColumns where
  jobId : DeviceJobId
  expectedJobVersion : Nat
  claimId : DeviceClaimId
  claimFence : Nat
  deriving DecidableEq

end Commands

end ProfilePlatform.Catalog
