import ProfilePlatform.WindowsDelivery.State

/-! What a snapshot of the delivery state holds: the state, evidence of a handoff, and where in the
journal it belongs.
-/

set_option autoImplicit false

namespace ProfilePlatform.WindowsDelivery

open Foundation

def stateSchemaVersion : Nat := 1
def stateKind : String := "WINDOWS_PROFILE_BRIDGE_DELIVERY_STATE"

inductive DeliveryStateStoreError where
  | missingState
  | alreadyInitialized
  | ambiguousState
  | pendingRecoveryRequired
  | corruptState
  | revisionExhausted
  | serialization
  | io
  | state (why : DeliveryStateError)
  | handoffEvidence
  deriving DecidableEq, Repr

inductive DeliveryHandoffKind where
  | activation | recovery
  deriving DecidableEq, Repr

inductive DeliveryHandoffOutcome where
  | started | arrived
  deriving DecidableEq, Repr

structure DeliveryHandoffEvidence where
  kind : DeliveryHandoffKind
  sourceCandidate : DeliveryIdentity
  sourceAttempt : Nat
  target : DeliveryIdentity
  outcome : DeliveryHandoffOutcome
  deriving DecidableEq

namespace DeliveryHandoffEvidence

/-- Whether the health of the activation fits an arrived handoff. -/
def fitsArrival (state : DeliveryState) : DeliveryActivationOutcome → Bool
  | .pendingHealth | .healthAttemptStarted => !state.activeHealthConfirmed
  | .healthy => state.activeHealthConfirmed
  | .rolledBack | .recoveryRequired => false

def validate (evidence : DeliveryHandoffEvidence) (state : DeliveryState) :
    Except DeliveryStateStoreError Unit := do
  state.validatePersisted.mapError .state
  refuseIf (evidence.sourceAttempt = 0) .handoffEvidence
  let activation ← okOr state.lastActivation .handoffEvidence
  match evidence.kind, evidence.outcome with
  | .activation, .started =>
    refuseIf (evidence.sourceCandidate ≠ evidence.target ∨ state.active ≠ some evidence.target ∨
      state.activeHealthConfirmed ∨ state.staged.isSome ∨
      state.activationGeneration ≠ evidence.sourceAttempt ∨
      activation.attempt ≠ evidence.sourceAttempt ∨ activation.candidate ≠ evidence.target ∨
      activation.outcome ≠ .pendingHealth) .handoffEvidence
  | .activation, .arrived => do
    refuseIf (evidence.sourceCandidate ≠ evidence.target ∨ state.active ≠ some evidence.target ∨
      state.activationGeneration ≠ evidence.sourceAttempt ∨
      activation.attempt ≠ evidence.sourceAttempt ∨ activation.candidate ≠ evidence.target)
      .handoffEvidence
    refuseIf (fitsArrival state activation.outcome = false) .handoffEvidence
  | .recovery, _ => do
    let failure ← okOr state.lastFailure .handoffEvidence
    refuseIf (evidence.sourceCandidate = evidence.target ∨ state.active ≠ some evidence.target ∨
      state.activeHealthConfirmed = false ∨ activation.attempt ≠ evidence.sourceAttempt ∨
      activation.candidate ≠ evidence.sourceCandidate ∨ activation.outcome ≠ .rolledBack ∨
      failure.candidate ≠ evidence.sourceCandidate) .handoffEvidence

end DeliveryHandoffEvidence

structure PersistedStateEnvelope where
  schemaVersion : Nat
  kind : String
  revision : Nat
  previousSnapshotSha256 : Option (List UInt8)
  state : DeliveryState
  handoff : Option DeliveryHandoffEvidence
  deriving DecidableEq

namespace PersistedStateEnvelope

/-- The state is valid, and so is the evidence that comes with it. -/
def validateContents (state : DeliveryState) (handoff : Option DeliveryHandoffEvidence) :
    Except DeliveryStateStoreError Unit := do
  state.validatePersisted.mapError .state
  match handoff with
  | some evidence => evidence.validate state
  | none => .ok ()

def new (revision : Nat) (previousSnapshotSha256 : Option (List UInt8)) (state : DeliveryState)
    (handoff : Option DeliveryHandoffEvidence) :
    Except DeliveryStateStoreError PersistedStateEnvelope := do
  refuseIf (revision = 0) .corruptState
  refuseIf (revision = 1 ∧ previousSnapshotSha256.isSome) .corruptState
  refuseIf (1 < revision ∧ ¬previousSnapshotSha256.any (isLowerHexOf 64)) .corruptState
  validateContents state handoff
  return ⟨stateSchemaVersion, stateKind, revision, previousSnapshotSha256, state, handoff⟩

def validate (envelope : PersistedStateEnvelope) (expectedRevision : Nat)
    (expectedPrevious : Option (List UInt8)) : Except DeliveryStateStoreError Unit := do
  refuseIf (envelope.schemaVersion ≠ stateSchemaVersion ∨ envelope.kind ≠ stateKind ∨
    envelope.revision ≠ expectedRevision ∨ envelope.previousSnapshotSha256 ≠ expectedPrevious)
    .corruptState
  validateContents envelope.state envelope.handoff

variable {revision : Nat} {previous : Option (List UInt8)} {state : DeliveryState}
  {handoff : Option DeliveryHandoffEvidence} {envelope : PersistedStateEnvelope}

theorem new_eq_ok (made : new revision previous state handoff = .ok envelope) :
    envelope.validate revision previous = .ok () ∧ envelope.revision = revision ∧
      envelope.previousSnapshotSha256 = previous ∧ envelope.state = state ∧
      envelope.handoff = handoff := by
  obtain ⟨_, -, made⟩ := bind_eq_ok.mp made
  obtain ⟨_, -, made⟩ := bind_eq_ok.mp made
  obtain ⟨_, -, made⟩ := bind_eq_ok.mp made
  obtain ⟨_, valid, same⟩ := bind_eq_ok.mp made
  cases same
  exact ⟨bind_eq_ok.mpr ⟨(), refuseIf_passes (by simp), valid⟩, rfl, rfl, rfl, rfl⟩

theorem new_succeeds (valid : validateContents state handoff = .ok ()) (positive : 0 < revision)
    (first : revision = 1 → previous = none)
    (later : 1 < revision → previous.any (isLowerHexOf 64) = true) :
    new revision previous state handoff =
      .ok ⟨stateSchemaVersion, stateKind, revision, previous, state, handoff⟩ := by
  refine bind_eq_ok.mpr ⟨(), refuseIf_passes (Nat.ne_of_gt positive), ?_⟩
  refine bind_eq_ok.mpr ⟨(), refuseIf_passes ?_, ?_⟩
  · rintro ⟨start, given⟩
    rw [first start] at given
    cases given
  refine bind_eq_ok.mpr ⟨(), refuseIf_passes ?_, ?_⟩
  · rintro ⟨more, unhashed⟩
    exact unhashed (later more)
  exact bind_eq_ok.mpr ⟨(), valid, rfl⟩

end PersistedStateEnvelope

end ProfilePlatform.WindowsDelivery
