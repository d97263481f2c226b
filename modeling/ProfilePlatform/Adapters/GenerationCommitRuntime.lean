import ProfilePlatform.Ports.GenerationCommit
import ProfilePlatform.Foundation.Bytes

/-! The wire form in which a generation commit reaches the coordinator object.

The authority digest identifies a commit across its retries. It covers every
field but the correlation id, each one framed by its length.
-/

set_option autoImplicit false

namespace ProfilePlatform.Adapters

open Foundation Ports

/-- A field of the wire form that does not parse is an integrity failure. -/
def parseField {kind : IdKind} (value : String) :
    Except DeviceGenerationCommitErrorClass (TypedId kind) :=
  (TypedId.parse value).mapError fun _ => .integrityFailure

def parseFieldVersion (value : Nat) : Except DeviceGenerationCommitErrorClass AggregateVersion :=
  (AggregateVersion.new value).mapError fun _ => .integrityFailure

def hashField (value : List UInt8) : List UInt8 :=
  bigEndian 8 (min value.length (u64Limit - 1)) ++ value

def hashText (value : String) : List UInt8 := hashField (utf8Bytes value)

def hashNumber (value : Nat) : List UInt8 := hashField (bigEndian 8 value)

structure DeviceGenerationCommitInternalRequest where
  tenantId : String
  actorId : String
  correlationId : String
  jobId : String
  claimId : String
  expectedJobVersion : Nat
  claimFence : Nat
  deviceId : String
  profileId : String
  baseGenerationId : String
  generationId : String
  objectKey : String
  metadataDigest : String
  containerDigest : String
  containerBytes : Nat
  expectedProfileVersion : Nat
  coordinatorSessionId : String
  coordinatorFencingToken : String
  coordinatorEpoch : Nat
  coordinatorVersion : Nat
  coordinatorSequence : Nat

namespace DeviceGenerationCommitInternalRequest

def intoDomain (self : DeviceGenerationCommitInternalRequest) (observedAt : UnixMillis) :
    Except DeviceGenerationCommitErrorClass (ActorContext × DeviceGenerationCommitRequest) := do
  let tenantId ← parseField self.tenantId
  let actorId ← parseField self.actorId
  let correlationId ← parseField self.correlationId
  let profileId ← parseField self.profileId
  let jobId ← parseField self.jobId
  let claimId ← parseField self.claimId
  let expectedJobVersion ← parseFieldVersion self.expectedJobVersion
  let deviceId ← parseField self.deviceId
  let baseGenerationId ← parseField self.baseGenerationId
  let generationId ← parseField self.generationId
  let expectedProfileVersion ← parseFieldVersion self.expectedProfileVersion
  let sessionId ← parseField self.coordinatorSessionId
  let fencingToken ← parseField self.coordinatorFencingToken
  return (
    { tenantScope := ⟨tenantId⟩, actorId, correlationId },
    { jobId, claimId, expectedJobVersion, claimFence := self.claimFence, deviceId, profileId,
      baseGenerationId,
      object :=
        { profileId, generationId, objectKey := self.objectKey
          metadataDigest := self.metadataDigest
          containerDigest := self.containerDigest
          containerBytes := self.containerBytes }
      expectedProfileVersion,
      coordinator :=
        { sessionId, fencingToken, epoch := self.coordinatorEpoch
          coordinatorVersion := self.coordinatorVersion
          coordinatorSequence := self.coordinatorSequence }
      observedAt })

/-- The bytes the authority digest is taken of. -/
def authority (self : DeviceGenerationCommitInternalRequest) : List UInt8 :=
  [self.tenantId, self.actorId, self.jobId, self.claimId, self.deviceId, self.profileId,
    self.baseGenerationId, self.generationId, self.objectKey, self.metadataDigest,
    self.containerDigest, self.coordinatorSessionId, self.coordinatorFencingToken].flatMap
      hashText ++
  [self.expectedJobVersion, self.claimFence, self.containerBytes, self.expectedProfileVersion,
    self.coordinatorEpoch, self.coordinatorVersion, self.coordinatorSequence].flatMap hashNumber

def authorityDigest (sha256 : List UInt8 → Block 32)
    (self : DeviceGenerationCommitInternalRequest) : String :=
  hexDigest (sha256 self.authority).val

end DeviceGenerationCommitInternalRequest

structure ProfileGenerationSuccessorInternalRequest where
  tenantId : String
  actorId : String
  correlationId : String
  deviceId : String
  profileId : String
  baseGenerationId : String
  generationId : String
  objectKey : String
  metadataDigest : String
  containerDigest : String
  containerBytes : Nat
  expectedProfileVersion : Nat
  coordinatorSessionId : String
  coordinatorFencingToken : String
  coordinatorEpoch : Nat
  coordinatorVersion : Nat
  coordinatorSequence : Nat

namespace ProfileGenerationSuccessorInternalRequest

def intoDomain (self : ProfileGenerationSuccessorInternalRequest) (observedAt : UnixMillis) :
    Except ProfileGenerationSuccessorCommitErrorClass
      (ActorContext × ProfileGenerationSuccessorCommitRequest) := do
  let tenantId ← parseField self.tenantId
  let actorId ← parseField self.actorId
  let correlationId ← parseField self.correlationId
  let profileId ← parseField self.profileId
  let deviceId ← parseField self.deviceId
  let baseGenerationId ← parseField self.baseGenerationId
  let generationId ← parseField self.generationId
  let expectedProfileVersion ← parseFieldVersion self.expectedProfileVersion
  let sessionId ← parseField self.coordinatorSessionId
  let fencingToken ← parseField self.coordinatorFencingToken
  return (
    { tenantScope := ⟨tenantId⟩, actorId, correlationId },
    { deviceId, profileId, baseGenerationId,
      object :=
        { profileId, generationId, objectKey := self.objectKey
          metadataDigest := self.metadataDigest
          containerDigest := self.containerDigest
          containerBytes := self.containerBytes }
      expectedProfileVersion,
      coordinator :=
        { sessionId, fencingToken, epoch := self.coordinatorEpoch
          coordinatorVersion := self.coordinatorVersion
          coordinatorSequence := self.coordinatorSequence }
      observedAt })

/-- A prefix of its own keeps these digests apart from those of device commits. -/
def authority (self : ProfileGenerationSuccessorInternalRequest) : List UInt8 :=
  utf8Bytes "profile-generation-successor-authority-v1\n" ++
  [self.tenantId, self.actorId, self.deviceId, self.profileId, self.baseGenerationId,
    self.generationId, self.objectKey, self.metadataDigest, self.containerDigest,
    self.coordinatorSessionId, self.coordinatorFencingToken].flatMap hashText ++
  [self.containerBytes, self.expectedProfileVersion, self.coordinatorEpoch,
    self.coordinatorVersion, self.coordinatorSequence].flatMap hashNumber

def authorityDigest (sha256 : List UInt8 → Block 32)
    (self : ProfileGenerationSuccessorInternalRequest) : String :=
  hexDigest (sha256 self.authority).val

end ProfileGenerationSuccessorInternalRequest

end ProfilePlatform.Adapters
