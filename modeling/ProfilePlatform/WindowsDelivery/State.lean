import ProfilePlatform.Foundation.Fallible
import ProfilePlatform.Foundation.Leads
import ProfilePlatform.Foundation.Machine
import ProfilePlatform.Primitives

/-! The manifest of a Windows delivery and the identity that a verified candidate stands under. -/

set_option autoImplicit false

namespace ProfilePlatform.WindowsDelivery

open Foundation

def deliverySchemaVersion : Nat := 1
def deliveryKind : String := "WINDOWS_PROFILE_BRIDGE_DELIVERY"
def releaseSetStart : String := "release-set-v3-sha256-"
def profileBridgeStart : String := "profile-bridge-v2-sha256-"
def runtimeBundleStart : String := "runtime-bundle-v3-sha256-"
def profileBridgeProtocolVersion : Nat := 1
def camouhostIpcVersion : Nat := 3
def runtimeBundleVersion : String := "3.0.0"

inductive DeliveryPolicyError where
  | invalidManifest
  | incompatibleCandidate
  deriving DecidableEq, Repr

structure WindowsDeliveryComponent where
  releaseId : String
  artifactSha256 : String
  artifactSizeBytes : Nat
  componentManifestSha256 : String
  deriving DecidableEq

structure WindowsDeliveryComponents where
  profileBridge : WindowsDeliveryComponent
  runtimeBundle : WindowsDeliveryComponent
  deriving DecidableEq

structure WindowsDeliveryEvidence where
  sbomSha256 : String
  provenanceSha256 : String
  deriving DecidableEq

structure WindowsDeliveryCompatibility where
  profileBridgeProtocolVersion : Nat
  camouhostIpcVersion : Nat
  runtimeBundleVersion : String
  deriving DecidableEq

structure WindowsDeliveryManifest where
  schemaVersion : Nat
  kind : String
  releaseSetId : String
  sequence : Nat
  sourceCommitSha : String
  components : WindowsDeliveryComponents
  evidence : WindowsDeliveryEvidence
  compatibility : WindowsDeliveryCompatibility
  deriving DecidableEq

def isLowerHexOf (expectedLength : Nat) (value : List UInt8) : Bool :=
  value.length == expectedLength && value.all isLowerHex

def prefixedSha256 (value start : String) : Bool :=
  (utf8Bytes start).isPrefixOf (utf8Bytes value) &&
    isLowerHexOf 64 ((utf8Bytes value).drop (utf8Bytes start).length)

def validateComponent (component : WindowsDeliveryComponent) (releaseStart : String) :
    Except DeliveryPolicyError Unit :=
  refuseIf (¬prefixedSha256 component.releaseId releaseStart ∨ component.artifactSizeBytes = 0 ∨
    ¬isLowerHexOf 64 (utf8Bytes component.artifactSha256) ∨
    ¬isLowerHexOf 64 (utf8Bytes component.componentManifestSha256)) .invalidManifest

def validateManifest (manifest : WindowsDeliveryManifest) : Except DeliveryPolicyError Unit := do
  refuseIf (manifest.schemaVersion ≠ deliverySchemaVersion ∨ manifest.kind ≠ deliveryKind ∨
    manifest.sequence = 0 ∨ ¬prefixedSha256 manifest.releaseSetId releaseSetStart ∨
    ¬isLowerHexOf 40 (utf8Bytes manifest.sourceCommitSha)) .invalidManifest
  validateComponent manifest.components.profileBridge profileBridgeStart
  validateComponent manifest.components.runtimeBundle runtimeBundleStart
  refuseIf (¬isLowerHexOf 64 (utf8Bytes manifest.evidence.sbomSha256) ∨
    ¬isLowerHexOf 64 (utf8Bytes manifest.evidence.provenanceSha256) ∨
    manifest.compatibility.profileBridgeProtocolVersion ≠ profileBridgeProtocolVersion ∨
    manifest.compatibility.camouhostIpcVersion ≠ camouhostIpcVersion ∨
    manifest.compatibility.runtimeBundleVersion ≠ runtimeBundleVersion) .incompatibleCandidate

structure DeliveryIdentity where
  sequence : Nat
  releaseSetId : String
  manifestSha256 : String
  profileBridgeReleaseId : String
  runtimeBundleReleaseId : String
  deriving DecidableEq

def validDeliveryIdentity (identity : DeliveryIdentity) : Bool :=
  identity.sequence != 0 && prefixedSha256 identity.releaseSetId releaseSetStart &&
    isLowerHexOf 64 (utf8Bytes identity.manifestSha256) &&
    prefixedSha256 identity.profileBridgeReleaseId profileBridgeStart &&
    prefixedSha256 identity.runtimeBundleReleaseId runtimeBundleStart

/-- What verification hands out: a valid manifest under the SHA-256 of its bytes. -/
structure VerifiedDeliveryCandidate where
  manifest : WindowsDeliveryManifest
  manifestSha256 : String
  signerKeyId : String
  validated : validateManifest manifest = .ok ()
  hashed : isLowerHexOf 64 (utf8Bytes manifestSha256) = true

def VerifiedDeliveryCandidate.identity (candidate : VerifiedDeliveryCandidate) :
    DeliveryIdentity where
  sequence := candidate.manifest.sequence
  releaseSetId := candidate.manifest.releaseSetId
  manifestSha256 := candidate.manifestSha256
  profileBridgeReleaseId := candidate.manifest.components.profileBridge.releaseId
  runtimeBundleReleaseId := candidate.manifest.components.runtimeBundle.releaseId

inductive DeliveryActivationOutcome where
  | pendingHealth | healthAttemptStarted | healthy | rolledBack | recoveryRequired
  deriving DecidableEq, Repr

/-- The health of the activated release is still open. -/
def DeliveryActivationOutcome.isOpen : DeliveryActivationOutcome → Bool
  | .pendingHealth | .healthAttemptStarted => true
  | _ => false

structure DeliveryActivationEvidence where
  attempt : Nat
  candidate : DeliveryIdentity
  outcome : DeliveryActivationOutcome
  deriving DecidableEq

inductive DeliveryFailureKind where
  | healthRejected | interruptedActivation | interruptedHandoff
  deriving DecidableEq, Repr

structure DeliveryFailureEvidence where
  candidate : DeliveryIdentity
  kind : DeliveryFailureKind
  deriving DecidableEq

inductive DeliveryStateError where
  | downgradeRejected
  | replayConflict
  | activeRuntime
  | healthPending
  | healthAttemptMismatch
  | healthAttemptNotStarted
  | handoffNotStarted
  | noStagedCandidate
  | noActiveCandidate
  | recoveryRequired
  | attemptCounterExhausted
  | corruptPersistedState
  deriving DecidableEq, Repr

structure DeliveryState where
  active : Option DeliveryIdentity
  activeHealthConfirmed : Bool
  lastKnownGood : Option DeliveryIdentity
  staged : Option DeliveryIdentity
  activationGeneration : Nat
  lastActivation : Option DeliveryActivationEvidence
  lastFailure : Option DeliveryFailureEvidence
  deriving DecidableEq

namespace DeliveryState

def default : DeliveryState := ⟨none, false, none, none, 0, none, none⟩

/-- Every identity the state mentions. -/
def identities (state : DeliveryState) : List DeliveryIdentity :=
  [state.active, state.lastKnownGood, state.staged,
    state.lastActivation.map DeliveryActivationEvidence.candidate,
    state.lastFailure.map DeliveryFailureEvidence.candidate].filterMap id

/-- The evidence of an activation contradicts what is active. -/
def contradicts (state : DeliveryState) (evidence : DeliveryActivationEvidence) : Bool :=
  match evidence.outcome with
  | .pendingHealth | .healthAttemptStarted =>
    state.active ≠ some evidence.candidate || state.activeHealthConfirmed
  | .healthy => state.active ≠ some evidence.candidate || !state.activeHealthConfirmed ||
    state.lastFailure.isSome
  | .rolledBack => state.active = some evidence.candidate || !state.activeHealthConfirmed
  | .recoveryRequired => state.active.isSome || state.activeHealthConfirmed

def validateActivation (state : DeliveryState) : Except DeliveryStateError Unit :=
  match state.lastActivation with
  | none => refuseIf (state.activationGeneration ≠ 0) .corruptPersistedState
  | some evidence => do
    refuseIf (evidence.attempt = 0 ∨ state.activationGeneration < evidence.attempt)
      .corruptPersistedState
    refuseIf (state.contradicts evidence) .corruptPersistedState

def validateFailure (state : DeliveryState) : Except DeliveryStateError Unit :=
  match state.lastFailure, state.lastActivation with
  | none, _ => .ok ()
  | some _, none => .error .corruptPersistedState
  | some failure, some activation =>
    refuseIf (failure.candidate ≠ activation.candidate ∨
      (activation.outcome ≠ .rolledBack ∧ activation.outcome ≠ .recoveryRequired))
      .corruptPersistedState

def validatePersisted (state : DeliveryState) : Except DeliveryStateError Unit := do
  refuseIf (∃ identity ∈ state.identities, validDeliveryIdentity identity = false)
    .corruptPersistedState
  refuseIf (state.activeHealthConfirmed ∧ state.active = none) .corruptPersistedState
  refuseIf (state.lastKnownGood.isSome ∧ state.active = none) .corruptPersistedState
  refuseIf (state.active = state.lastKnownGood ∧ state.active.isSome) .corruptPersistedState
  refuseIf (∃ active ∈ state.active, ∃ staged ∈ state.staged, staged.sequence < active.sequence ∨
    (staged.sequence = active.sequence ∧ staged ≠ active)) .corruptPersistedState
  state.validateActivation
  state.validateFailure

end DeliveryState

/-- A method of the state. On an error it leaves behind what it has changed. -/
abbrev DeliveryMethod := ExceptT DeliveryStateError (StateM DeliveryState)

section Methods

def stage (candidate : VerifiedDeliveryCandidate) : DeliveryMethod Unit := do
  let state ← get
  given state.validatePersisted
  let identity := candidate.identity
  refuseWhen (∃ active ∈ state.active, identity.sequence < active.sequence) .downgradeRejected
  refuseWhen (∃ active ∈ state.active, identity.sequence = active.sequence ∧ identity ≠ active)
    .replayConflict
  -- The active identity is staged again whatever is staged.
  refuseWhen (state.active ≠ some identity ∧
    ∃ staged ∈ state.staged, identity.sequence < staged.sequence) .downgradeRejected
  refuseWhen (state.active ≠ some identity ∧
    ∃ staged ∈ state.staged, identity.sequence = staged.sequence ∧ identity ≠ staged)
    .replayConflict
  set { state with staged := some identity }

/-- A newer release may take the place of one whose health is still open. What was confirmed is
kept to fall back on. -/
def DeliveryState.superseded (state : DeliveryState) : Option DeliveryIdentity :=
  if state.activeHealthConfirmed then state.active else state.lastKnownGood

def activateCandidate (staged : DeliveryIdentity) : DeliveryMethod Unit := do
  let state ← get
  if state.active.isSome ∧ state.activeHealthConfirmed = false ∧
      state.lastActivation.any (·.outcome.isOpen) = false then
    set { state with staged := some staged }
    throw .healthPending
  else
    let attempt ← given <| okOr (checkedAdd state.activationGeneration 1) .attemptCounterExhausted
    set { state with
      active := some staged
      activeHealthConfirmed := false
      lastKnownGood := state.superseded
      activationGeneration := attempt
      lastActivation := some ⟨attempt, staged, .pendingHealth⟩
      lastFailure := none }

def activateStaged (quiescent : Bool) : DeliveryMethod Unit := do
  let state ← get
  given state.validatePersisted
  refuseWhen (quiescent = false) .activeRuntime
  set { state with staged := none }
  let staged ← given <| okOr state.staged .noStagedCandidate
  if state.active = some staged then
    return
  else
    activateCandidate staged

def startHealthAttempt (candidate : DeliveryIdentity) (attempt : Nat) : DeliveryMethod Unit := do
  let state ← get
  given state.validatePersisted
  refuseWhen (attempt = 0 ∨ state.active ≠ some candidate ∨ state.activeHealthConfirmed ∨
    state.activationGeneration ≠ attempt) .healthAttemptMismatch
  let activation ← given <| okOr state.lastActivation .corruptPersistedState
  refuseWhen (activation.attempt ≠ attempt ∨ activation.candidate ≠ candidate)
    .healthAttemptMismatch
  match activation.outcome with
  | .pendingHealth =>
    set { state with lastActivation := some { activation with outcome := .healthAttemptStarted } }
  | .healthAttemptStarted => return
  | _ => throw .healthAttemptNotStarted

def confirmHealth : DeliveryMethod Unit := do
  let state ← get
  given state.validatePersisted
  let active ← given <| okOr state.active .noActiveCandidate
  let activation ← given <| okOr state.lastActivation .corruptPersistedState
  refuseWhen (activation.candidate ≠ active) .corruptPersistedState
  refuseWhen (activation.outcome ≠ .healthAttemptStarted) .healthAttemptNotStarted
  set { state with
    lastActivation := some { activation with outcome := .healthy }
    activeHealthConfirmed := true
    lastFailure := none }

def unstarted (expectedOutcome : DeliveryActivationOutcome) : DeliveryStateError :=
  match expectedOutcome with
  | .pendingHealth => .handoffNotStarted
  | _ => .healthAttemptNotStarted

/-- Without a release to fall back on nothing is active any more, and that is told as an error. -/
def rollbackAfterFailure (kind : DeliveryFailureKind)
    (expectedOutcome : DeliveryActivationOutcome) : DeliveryMethod Unit := do
  let state ← get
  given state.validatePersisted
  let failed ← given <| okOr state.active .noActiveCandidate
  let activation ← given <| okOr state.lastActivation .corruptPersistedState
  refuseWhen (activation.candidate ≠ failed) .healthAttemptMismatch
  refuseWhen (activation.outcome ≠ expectedOutcome) (unstarted expectedOutcome)
  match state.lastKnownGood with
  | some lastKnownGood =>
    set { state with
      active := some lastKnownGood
      activeHealthConfirmed := true
      lastKnownGood := none
      staged := none
      lastActivation := some { activation with outcome := .rolledBack }
      lastFailure := some ⟨failed, kind⟩ }
  | none =>
    set { state with
      active := none
      activeHealthConfirmed := false
      staged := none
      lastActivation := some { activation with outcome := .recoveryRequired }
      lastFailure := some ⟨failed, kind⟩ }
    throw .recoveryRequired

def failHealthAndRollback : DeliveryMethod Unit :=
  rollbackAfterFailure .healthRejected .healthAttemptStarted

def recoverInterruptedActivation : DeliveryMethod Unit :=
  rollbackAfterFailure .interruptedActivation .healthAttemptStarted

def recoverInterruptedHandoff : DeliveryMethod Unit :=
  rollbackAfterFailure .interruptedHandoff .pendingHealth

end Methods

inductive DeliveryOperation where
  | stage (candidate : VerifiedDeliveryCandidate)
  | activateStaged (quiescent : Bool)
  | startHealthAttempt (candidate : DeliveryIdentity) (attempt : Nat)
  | confirmHealth
  | failHealthAndRollback
  | recoverInterruptedActivation
  | recoverInterruptedHandoff

def deliver : DeliveryOperation → DeliveryMethod Unit
  | .stage candidate => stage candidate
  | .activateStaged quiescent => activateStaged quiescent
  | .startHealthAttempt candidate attempt => startHealthAttempt candidate attempt
  | .confirmHealth => confirmHealth
  | .failHealthAndRollback => failHealthAndRollback
  | .recoverInterruptedActivation => recoverInterruptedActivation
  | .recoverInterruptedHandoff => recoverInterruptedHandoff

def deliveries : Machine DeliveryState DeliveryOperation (Except DeliveryStateError Unit) where
  step state operation := outcome (deliver operation) state

abbrev DeliveryEntry := Entry DeliveryState DeliveryOperation (Except DeliveryStateError Unit)

end ProfilePlatform.WindowsDelivery
