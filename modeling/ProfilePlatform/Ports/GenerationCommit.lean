import ProfilePlatform.Primitives

/-! The two requests that make a generation active, and how a commit can end.

The device commit and the profile successor commit are the same transition under
two authorities: a device job, and an interactive writer.
-/

set_option autoImplicit false

namespace ProfilePlatform.Ports

structure GenerationObjectDescriptor where
  profileId : ProfileId
  generationId : GenerationId
  objectKey : String
  metadataDigest : String
  containerDigest : String
  containerBytes : Nat
  deriving DecidableEq

/-- The coordinator lease, version and sequence that authorize a commit. -/
structure CoordinatorGenerationCommitWitness where
  sessionId : SessionId
  fencingToken : FencingToken
  epoch : Nat
  coordinatorVersion : Nat
  coordinatorSequence : Nat
  deriving DecidableEq

/-- The successor port declares the same fields under a name of its own. -/
abbrev ProfileGenerationCommitWitness := CoordinatorGenerationCommitWitness

structure DeviceGenerationCommitRequest where
  jobId : DeviceJobId
  claimId : DeviceClaimId
  expectedJobVersion : AggregateVersion
  claimFence : Nat
  deviceId : DeviceId
  profileId : ProfileId
  baseGenerationId : GenerationId
  object : GenerationObjectDescriptor
  expectedProfileVersion : AggregateVersion
  coordinator : CoordinatorGenerationCommitWitness
  observedAt : UnixMillis

structure ProfileGenerationSuccessorCommitRequest where
  deviceId : DeviceId
  profileId : ProfileId
  baseGenerationId : GenerationId
  object : GenerationObjectDescriptor
  expectedProfileVersion : AggregateVersion
  coordinator : ProfileGenerationCommitWitness
  observedAt : UnixMillis

inductive DeviceGenerationCommitErrorClass where
  | staleAuthority
  | versionConflict
  | integrityFailure
  | dependencyUnavailable
  deriving DecidableEq, Repr

/-- The successor port declares the same classes under a name of its own. -/
abbrev ProfileGenerationSuccessorCommitErrorClass := DeviceGenerationCommitErrorClass

/-- `Activated` and `AlreadyActive`; the device journal calls them `Applied` and `ExactReplay`. -/
inductive ProfileGenerationSuccessorCommitOutcome where
  | activated
  | alreadyActive
  deriving DecidableEq, Repr

end ProfilePlatform.Ports
