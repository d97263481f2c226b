import ProfilePlatform.Foundation.Fallible
import ProfilePlatform.Foundation.Leads
import ProfilePlatform.Foundation.Machine
import ProfilePlatform.Primitives

/-! The update controller: it stages a release, activates it, and keeps the release before it until
the new one has shown its health.
-/

set_option autoImplicit false

namespace ProfilePlatform.Certification

open Foundation

def minNameBytes : Nat := 3
def maxNameBytes : Nat := 96

/-- ASCII letters, digits, '.', '-' and '_'. -/
def isNameByte (byte : UInt8) : Bool :=
  isAsciiAlphanumeric byte || byte == 46 || byte == 45 || byte == 95

def acceptsName (value : String) : Bool :=
  minNameBytes ≤ (utf8Bytes value).length && (utf8Bytes value).length ≤ maxNameBytes &&
    (utf8Bytes value).all isNameByte

structure ReleaseId where
  asStr : String
  accepted : acceptsName asStr = true
  deriving DecidableEq

structure VerificationEvidenceId where
  asStr : String
  accepted : acceptsName asStr = true
  deriving DecidableEq

/-- A SHA-256 that is not all zero. -/
structure ContentDigest where
  bytes : List UInt8
  sized : bytes.length = 32
  nonzero : bytes.all (· == 0) = false
  deriving DecidableEq

inductive CertificationError where
  | invalidReleaseVersion
  | contentDigestMismatch
  | staleReleaseVersion
  | updateBusy
  | invalidUpdateTransition
  | missingStagedRelease
  | missingActiveRelease
  | releaseIdentityMismatch
  | verificationEvidenceMismatch
  deriving DecidableEq, Repr

structure PreverifiedSignatureEvidence where
  verifier : String
  evidenceId : VerificationEvidenceId
  releaseId : ReleaseId
  releaseVersion : Nat
  contentDigest : ContentDigest
  named : acceptsName verifier = true
  versioned : releaseVersion ≠ 0

instance : DecidableEq PreverifiedSignatureEvidence := fun left right =>
  decidable_of_iff (left.verifier = right.verifier ∧ left.evidenceId = right.evidenceId ∧
    left.releaseId = right.releaseId ∧ left.releaseVersion = right.releaseVersion ∧
    left.contentDigest = right.contentDigest) (by cases left; cases right; simp)

def PreverifiedSignatureEvidence.approves (evidence : PreverifiedSignatureEvidence)
    (releaseId : ReleaseId) (releaseVersion : Nat) (contentDigest : ContentDigest) : Bool :=
  evidence.releaseId = releaseId && evidence.releaseVersion = releaseVersion &&
    evidence.contentDigest = contentDigest

/-- A release whose evidence approves it, which is the only way to build one. -/
structure ReleaseCandidate where
  releaseId : ReleaseId
  version : Nat
  contentDigest : ContentDigest
  verification : PreverifiedSignatureEvidence
  versioned : version ≠ 0
  approved : verification.approves releaseId version contentDigest = true

instance : DecidableEq ReleaseCandidate := fun left right =>
  decidable_of_iff (left.releaseId = right.releaseId ∧ left.version = right.version ∧
    left.contentDigest = right.contentDigest ∧ left.verification = right.verification)
    (by cases left; cases right; simp)

namespace ReleaseCandidate

def new (releaseId : ReleaseId) (version : Nat) (contentDigest : ContentDigest)
    (verification : PreverifiedSignatureEvidence) : Except CertificationError ReleaseCandidate :=
  if versioned : version = 0 then .error .invalidReleaseVersion
  else if approved : verification.approves releaseId version contentDigest = true then
    .ok { releaseId, version, contentDigest, verification, versioned, approved }
  else .error .verificationEvidenceMismatch

def matchesIdentity (candidate : ReleaseCandidate) (releaseId : ReleaseId) (version : Nat)
    (contentDigest : ContentDigest) : Bool :=
  candidate.releaseId = releaseId && candidate.version = version &&
    candidate.contentDigest = contentDigest

end ReleaseCandidate

inductive RollbackOutcome where
  | restored (version : Nat)
  | noPreviousRelease
  deriving DecidableEq, Repr

inductive UpdateState where
  | idle | staged | awaitingHealth | healthy | rolledBack | failed
  deriving DecidableEq, Repr

structure UpdateController where
  active : Option ReleaseCandidate
  previous : Option ReleaseCandidate
  staged : Option ReleaseCandidate
  highestSeenVersion : Nat
  state : UpdateState
  deriving DecidableEq

def UpdateController.default : UpdateController := ⟨none, none, none, 0, .idle⟩

/-- A method of the controller. On an error it leaves behind what it has changed. -/
abbrev UpdateMethod := ExceptT CertificationError (StateM UpdateController)

section Methods

def stage (candidate : ReleaseCandidate) (observedDigest : ContentDigest) : UpdateMethod Unit := do
  refuseWhen (candidate.contentDigest ≠ observedDigest) .contentDigestMismatch
  let controller ← get
  refuseWhen (candidate.version ≤ controller.highestSeenVersion) .staleReleaseVersion
  refuseWhen (controller.staged.isSome ∨ controller.state = .awaitingHealth) .updateBusy
  set { controller with
    highestSeenVersion := candidate.version
    staged := some candidate
    state := .staged }

def activateStaged : UpdateMethod Nat := do
  let controller ← get
  refuseWhen (controller.state ≠ .staged) .invalidUpdateTransition
  set { controller with staged := none }
  match controller.staged with
  | none => throw .missingStagedRelease
  | some candidate =>
    set { controller with
      staged := none
      previous := controller.active
      active := some candidate
      state := .awaitingHealth }
    return candidate.version

/-- The active release, when its health is awaited and the identity is its own. -/
def awaitedRelease (releaseId : ReleaseId) (version : Nat) (contentDigest : ContentDigest) :
    UpdateMethod ReleaseCandidate := do
  let controller ← get
  refuseWhen (controller.state ≠ .awaitingHealth) .invalidUpdateTransition
  match controller.active with
  | none => throw .missingActiveRelease
  | some active =>
    refuseWhen (active.matchesIdentity releaseId version contentDigest = false)
      .releaseIdentityMismatch
    return active

def confirmHealth (releaseId : ReleaseId) (version : Nat) (contentDigest : ContentDigest) :
    UpdateMethod Unit := do
  let _ ← awaitedRelease releaseId version contentDigest
  modify fun controller => { controller with state := .healthy }

def failHealthAndRollback (releaseId : ReleaseId) (version : Nat) (contentDigest : ContentDigest) :
    UpdateMethod RollbackOutcome := do
  let _ ← awaitedRelease releaseId version contentDigest
  let controller ← get
  match controller.previous with
  | some previous =>
    set { controller with previous := none, active := some previous, state := .rolledBack }
    return .restored previous.version
  | none =>
    set { controller with previous := none, active := none, state := .failed }
    return .noPreviousRelease

end Methods

inductive UpdateOperation where
  | stage (candidate : ReleaseCandidate) (observedDigest : ContentDigest)
  | activateStaged
  | confirmHealth (releaseId : ReleaseId) (version : Nat) (contentDigest : ContentDigest)
  | failHealthAndRollback (releaseId : ReleaseId) (version : Nat) (contentDigest : ContentDigest)
  deriving DecidableEq

inductive UpdateAnswer where
  | done
  | activated (version : Nat)
  | rolledBack (outcome : RollbackOutcome)
  deriving DecidableEq, Repr

def update : UpdateOperation → UpdateMethod UpdateAnswer
  | .stage candidate observedDigest => do
    stage candidate observedDigest
    return .done
  | .activateStaged => do
    let version ← activateStaged
    return .activated version
  | .confirmHealth releaseId version contentDigest => do
    confirmHealth releaseId version contentDigest
    return .done
  | .failHealthAndRollback releaseId version contentDigest => do
    let outcome ← failHealthAndRollback releaseId version contentDigest
    return .rolledBack outcome

def updates : Machine UpdateController UpdateOperation (Except CertificationError UpdateAnswer) where
  step controller operation := outcome (update operation) controller

abbrev UpdateEntry :=
  Entry UpdateController UpdateOperation (Except CertificationError UpdateAnswer)

end ProfilePlatform.Certification
