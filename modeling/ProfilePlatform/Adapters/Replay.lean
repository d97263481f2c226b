import ProfilePlatform.Adapters.Recovery

/-! Exact replay at the durable document.

The receipts of the replayed state are those of the last accepted envelopes, so
the domain would answer each of them again. The provenance guard comes first,
and it judges the retry by who owns the profile now.
-/

set_option autoImplicit false

namespace ProfilePlatform.Adapters

open Foundation Session ProfileCoordinatorState

/-- The envelope and the decision of a step that was accepted as new. -/
def appendedDecision (entry : DocumentEntry) :
    Option (StoredCoordinatorEnvelope × CoordinatorDecision) :=
  match entry.output with
  | .error _ => none
  | .ok applied => if applied.appended then some (entry.input, applied.decision) else none

def decidedIn (history : List DocumentEntry) :
    List (StoredCoordinatorEnvelope × CoordinatorDecision) :=
  history.filterMap appendedDecision

/-- The receipt the domain keeps of an accepted envelope. -/
def receiptOf (decided : StoredCoordinatorEnvelope × CoordinatorDecision) :
    Option CommandReceipt :=
  match decided.1.toDomain with
  | .ok domain => some (domain.receipt decided.2)
  | .error _ => none

/-- The receipts of a state are those of the last envelopes that were decided. -/
def Receipted (decided : List (StoredCoordinatorEnvelope × CoordinatorDecision))
    (state : ProfileCoordinatorState) : Prop :=
  state.receipts.map some = (decided.rtake receiptLimit).map receiptOf ∧
    ∀ receipt, state.Keeps receipt

theorem decidedIn_cons (entry : DocumentEntry) (rest : List DocumentEntry) :
    decidedIn (entry :: rest) = (appendedDecision entry).toList ++ decidedIn rest := by
  cases taken : appendedDecision entry <;> simp [decidedIn, taken]

namespace Refines

variable {initial : ProfileCoordinatorState} {document : StoredCoordinatorDocument}
  {reference : ReferenceCoordinator}
  {decided : List (StoredCoordinatorEnvelope × CoordinatorDecision)}

theorem Commit.receipted {envelope : StoredCoordinatorEnvelope}
    {domain : CoordinatorCommandEnvelope} {decision : CoordinatorDecision}
    {next : ProfileCoordinatorState} (commit : Commit reference envelope domain decision next)
    (receipted : Receipted decided reference.state) :
    Receipted (decided ++ [(envelope, decision)]) next := by
  obtain ⟨window, keeps⟩ := receipted
  refine ⟨?_, fun receipt => commit.commits.keeps (keeps receipt)⟩
  have made : receiptOf (envelope, decision) = some (domain.receipt decision) := by
    simp only [receiptOf, commit.converted]
  rw [commit.commits.receipts_eq, pushBounded_map, window, ← pushBounded_rtake, pushBounded_map,
    made]

theorem receipted_run (refines : Refines initial document reference)
    (receipted : Receipted decided reference.state) (inputs : List StoredCoordinatorEnvelope) :
    Receipted (decided ++ decidedIn (documents.history document inputs))
      (references.final reference inputs).state := by
  induction inputs generalizing document reference decided with
  | nil => rwa [Machine.history_nil, decidedIn, List.filterMap_nil, List.append_nil]
  | cons envelope rest ih =>
    change Receipted (decided ++ decidedIn (documents.entry document envelope ::
      documents.history (document.apply envelope).2 rest))
      (references.final (reference.apply envelope).2 rest).state
    rw [decidedIn_cons, ← List.append_assoc]
    refine ih (refines.step envelope) ?_
    cases refines.answers envelope with
    | refused why left right =>
      simpa [right, appendedDecision, Machine.entry, documents, left] using receipted
    | replayed domain receipt applied same old left right =>
      simpa [right, appendedDecision, Machine.entry, documents, left, old] using receipted
    | committed domain next applied appended commit new left right stands =>
      simpa [right, appendedDecision, Machine.entry, documents, left, new] using
        commit.receipted receipted

end Refines

/-- The last Claim of a history was made by this actor on this device. -/
def OwnsLastClaim (accepted : List StoredCoordinatorEnvelope) (actorId deviceId : String) : Prop :=
  ∃ claim, lastClaimIn accepted = some claim ∧ claim.actorId = actorId ∧ claim.deviceId = deviceId

/-- A launch intent is for the owner of the last Claim, when it recovers and
when it is issued under a reservation. -/
def ProvenanceHolds (accepted : List StoredCoordinatorEnvelope) (recoveryClaimPending : Bool) :
    StoredCoordinatorCommand → Prop
  | .issueLaunchIntent _ actorId deviceId _ _ =>
    recoveryClaimPending = true → OwnsLastClaim accepted actorId deviceId
  | .recoverAndIssueLaunchIntent _ actorId deviceId _ _ => OwnsLastClaim accepted actorId deviceId
  | _ => True

/-- The document answers the envelope with this decision and is left unchanged. -/
def ReplaysExactly (document : StoredCoordinatorDocument) (envelope : StoredCoordinatorEnvelope)
    (decision : CoordinatorDecision) : Prop :=
  ∃ applied, document.apply envelope = (.ok applied, document) ∧
    applied.decision = decision ∧ applied.appended = false

theorem ownedByLastClaim_iff (reference : ReferenceCoordinator) (actor : ActorId)
    (device : DeviceId) :
    ownedByLastClaim reference.lastClaimMatches actor.asStr device.asStr = .ok () ↔
      OwnsLastClaim reference.history actor.asStr device.asStr := by
  have matched : reference.lastClaimMatches actor device = true ↔
      OwnsLastClaim reference.history actor.asStr device.asStr := by
    simp only [ReferenceCoordinator.lastClaimMatches, Option.any_eq_true, OwnsLastClaim,
      StoredClaimIdentity.belongsTo, Bool.and_eq_true, beq_iff_eq]
  rw [← matched]
  constructor
  · exact ownedByLastClaim_eq_ok
  · intro owner
    simp only [ownedByLastClaim, parseId_asStr, bind, Except.bind, owner]
    rfl

theorem recoveryGuard_iff (reference : ReferenceCoordinator) (pending : Bool)
    (command : CoordinatorCommand) :
    recoveryGuard reference.lastClaimMatches pending (storedCommand command) = .ok () ↔
      ProvenanceHolds reference.history pending (storedCommand command) := by
  cases command with
  | issueLaunchIntent intent actor device now expiresAt =>
    cases pending with
    | false => simp [storedCommand, recoveryGuard, ProvenanceHolds]
    | true =>
      simpa [storedCommand, recoveryGuard, ProvenanceHolds] using
        ownedByLastClaim_iff reference actor device
  | recoverAndIssueLaunchIntent intent actor device now expiresAt =>
    exact ownedByLastClaim_iff reference actor device
  | _ => simp [storedCommand, recoveryGuard, ProvenanceHolds]

/-- The domain answers a retained envelope again, so the guard alone decides. -/
theorem Refines.replaysExactly_iff {initial : ProfileCoordinatorState}
    {document : StoredCoordinatorDocument} {reference : ReferenceCoordinator}
    (refines : Refines initial document reference)
    {decided : List (StoredCoordinatorEnvelope × CoordinatorDecision)}
    (receipted : Receipted decided reference.state)
    {envelope : StoredCoordinatorEnvelope} {decision : CoordinatorDecision}
    (retained : (envelope, decision) ∈ decided.rtake receiptLimit) :
    ReplaysExactly document envelope decision ↔
      ProvenanceHolds reference.history reference.state.recoveryClaimPending envelope.command := by
  obtain ⟨window, keeps⟩ := receipted
  have made : receiptOf (envelope, decision) ∈ reference.state.receipts.map some := by
    rw [window]
    exact List.mem_map_of_mem retained
  obtain ⟨receipt, member, same⟩ := List.mem_map.mp made
  cases converted : envelope.toDomain with
  | error why => simp [receiptOf, converted] at same
  | ok domain =>
  obtain rfl : receipt = domain.receipt decision := by
    simpa [receiptOf, converted] using same
  have found := receiptFor_of_keeps (keeps _) member
  have answered : reference.state.apply domain = (.ok decision, reference.state) := by
    unfold ProfileCoordinatorState.apply
    rw [show reference.state.receiptFor domain.idempotencyKey = _ from found]
    exact if_pos ⟨rfl, rfl⟩
  have old : ¬decision.sequence > reference.state.lastSequence :=
    Nat.not_lt.mpr (refines.remembers _ member)
  have stored : envelope.command = storedCommand domain.command := by
    rw [storedEnvelope_of_toDomain converted]
    rfl
  rw [stored, ← recoveryGuard_iff, ← stored, ← refines.lastClaimMatches]
  cases admitted : recoveryGuard document.lastClaimMatches reference.state.recoveryClaimPending
      envelope.command with
  | error why =>
    refine ⟨?_, fun impossible => nomatch impossible⟩
    rintro ⟨applied, answer, -⟩
    simp only [StoredCoordinatorDocument.apply, refines.replay, admitted] at answer
    cases answer
  | ok admission =>
    refine ⟨fun _ => rfl, fun _ => ?_⟩
    refine ⟨⟨.fromState reference.state, decision, false, nextAlarmAt reference.state⟩, ?_, rfl, rfl⟩
    simp only [StoredCoordinatorDocument.apply, refines.replay, admitted, converted, answered, old,
      decide_false, Bool.false_eq_true, if_false]

/-- Exactly the retained envelopes whose provenance still holds are replayed. -/
theorem retained_replay_iff (tenantId : TenantId) (profileId : ProfileId)
    (config : CoordinatorConfig) (inputs : List StoredCoordinatorEnvelope) :
    let document := documents.final (.new tenantId profileId config) inputs
    let history := documents.history (.new tenantId profileId config) inputs
    ∃ state, document.replay = .ok state ∧
      ∀ decided ∈ (decidedIn history).rtake retainRecentCommands,
        ReplaysExactly document decided.1 decided.2 ↔
          ProvenanceHolds (acceptedIn history) state.recoveryClaimPending decided.1.command := by
  intro document history
  have start := new_refines tenantId profileId config
  have refines := reachable_refines tenantId profileId config inputs
  have accepted := start.accepted_history inputs
  have nothing : Receipted [] (.new tenantId profileId config) :=
    ⟨rfl, fun receipt retained => nomatch retained⟩
  have receipted := start.receipted_run nothing inputs
  refine ⟨_, refines.replay, fun decided retained => ?_⟩
  have settled := refines.replaysExactly_iff receipted retained
  rwa [accepted] at settled

namespace ForeignIntent

def tenant : TenantId := ⟨⟨"tenant-0001", by decide⟩⟩
def profile : ProfileId := ⟨⟨"profile-0001", by decide⟩⟩

def timeouts : CoordinatorConfig :=
  ⟨30000, 900000, 60000, by decide, by decide, by decide, by decide⟩

/-- One device lets its intent run out; another claims, crashes and recovers. -/
def commands : List StoredCoordinatorEnvelope := [
  ⟨"command-0001", 1, 1,
    .issueLaunchIntent "intent-other" "actor-other" "device-other" 1000 2000⟩,
  ⟨"command-0002", 2, 2, .tick 2000⟩,
  ⟨"command-0003", 3, 3,
    .issueLaunchIntent "intent-owner" "actor-owner" "device-owner" 3000 4000⟩,
  ⟨"command-0004", 4, 4,
    .claim "intent-owner" "actor-owner" "device-owner" "session-owner" "token-owner" 3500⟩,
  ⟨"command-0005", 5, 5, .release "session-owner" 1 "token-owner" .uncertain 3600⟩,
  ⟨"command-0006", 6, 6,
    .recoverAndIssueLaunchIntent "intent-again" "actor-owner" "device-owner" 3700 5000⟩]

def retry : StoredCoordinatorEnvelope :=
  ⟨"command-0001", 1, 1,
    .issueLaunchIntent "intent-other" "actor-other" "device-other" 1000 2000⟩

def answer : CoordinatorDecision :=
  ⟨⟨2, by decide⟩, 1, .launchIntentIssued ⟨⟨"intent-other", by decide⟩⟩⟩

theorem retained :
    (retry, answer) ∈ (decidedIn (documents.history (.new tenant profile timeouts) commands)).rtake
      retainRecentCommands :=
  .head _

theorem refused :
    ((documents.final (.new tenant profile timeouts) commands).apply retry).1 =
      .error (.domain .staleWriter) := rfl

end ForeignIntent

/-- A retained launch intent is refused once the profile is reserved for someone else. -/
theorem retained_replay_fails :
    ¬∀ (tenantId : TenantId) (profileId : ProfileId) (config : CoordinatorConfig)
      (inputs : List StoredCoordinatorEnvelope),
      ∀ decided ∈ (decidedIn (documents.history (.new tenantId profileId config) inputs)).rtake
        retainRecentCommands,
        ReplaysExactly (documents.final (.new tenantId profileId config) inputs) decided.1
          decided.2 := by
  intro always
  obtain ⟨applied, answered, -⟩ := always _ _ _ _ _ ForeignIntent.retained
  have refused := ForeignIntent.refused
  rw [answered] at refused
  cases refused

end ProfilePlatform.Adapters
