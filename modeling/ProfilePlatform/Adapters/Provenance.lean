import ProfilePlatform.Adapters.Replay

/-! Who made the claim of a lease.

A document scans its journal backwards and falls back on what the checkpoint has kept. Both answers
are about the last Claim ever accepted, since a lease is that of the last Claim.
-/

set_option autoImplicit false

namespace ProfilePlatform.Adapters

open Foundation Session ProfileCoordinatorState

section Scans

variable {A B : Type} {find : A → Option B} {wanted : B → Bool}

/-- A scan that passes over what is not wanted still stops at the first find when that is wanted. -/
theorem findSome?_filter {items : List A} {found : B} (first : items.findSome? find = some found)
    (fits : wanted found = true) :
    items.findSome? (fun item => (find item).filter wanted) = some found := by
  induction items with
  | nil => cases first
  | cons item rest ih =>
    rw [List.findSome?_cons] at first ⊢
    cases here : find item with
    | none =>
      rw [here] at first
      exact ih first
    | some value =>
      rw [here] at first
      cases first
      rw [Option.filter_some, if_pos fits]

theorem findSome?_filter_none {items : List A} (never : items.findSome? find = none) :
    items.findSome? (fun item => (find item).filter wanted) = none := by
  rw [List.findSome?_eq_none_iff] at never ⊢
  intro item member
  rw [never item member]
  rfl

end Scans

/-- The active lease is that of the last Claim of the history. -/
def LeaseClaimed (reference : ReferenceCoordinator) : Prop :=
  ∀ lease, reference.state.activeLease = some lease → ∃ claim,
    lastClaimIn reference.history = some claim ∧ claim.deviceId = lease.deviceId.asStr ∧
      claim.sessionId = lease.sessionId.asStr

theorem Refines.Commit.leaseClaimed {reference : ReferenceCoordinator}
    {envelope : StoredCoordinatorEnvelope} {domain : CoordinatorCommandEnvelope}
    {decision : CoordinatorDecision} {next : ProfileCoordinatorState}
    (commit : Commit reference envelope domain decision next) (claimed : LeaseClaimed reference) :
    LeaseClaimed ⟨next, reference.history ++ [envelope]⟩ := by
  have stored := commit.stored
  obtain ⟨after, accepts, rfl⟩ := commit.commits.transition
  intro lease held
  have held : after.activeLease = some lease := held
  rw [lastClaimIn_concat, stored]
  -- a lease that was there before, under a command that claims nothing
  have kept : ∀ before, reference.state.activeLease = some before →
      before.deviceId = lease.deviceId → before.sessionId = lease.sessionId →
      domain.command.isClaim = false →
      ∃ claim, (storedCommand domain.command).claimIdentity.or (lastClaimIn reference.history) =
        some claim ∧ claim.deviceId = lease.deviceId.asStr ∧
          claim.sessionId = lease.sessionId.asStr := by
    intro before present device session other
    obtain ⟨claim, last, ofDevice, ofSession⟩ := claimed before present
    have identity := claimIdentity_storedCommand domain.command
    rw [other, Option.isSome_eq_false_iff, Option.isNone_iff_eq_none] at identity
    exact ⟨claim, by rw [identity, last]; rfl, device ▸ ofDevice, session ▸ ofSession⟩
  generalize domain.command = command at *
  generalize decision.outcome = outcome at *
  cases accepts with
  | issue future free idle noLive => exact kept lease held rfl rfl rfl
  | recover recoverable free noLive future => exact kept lease held rfl rfl rfl
  | claim idle free pending live epochFits idleFits hardFits =>
    cases held
    exact ⟨_, rfl, rfl, rfl⟩
  | @keep before now hard command form writing present ordered inTime idleFits =>
    cases held
    refine kept before present rfl rfl ?_
    rcases form with ⟨rfl, -⟩ | ⟨rfl, -⟩ <;> rfl
  | release present inTime => cases held
  | drain active present inTime drainFits => exact kept lease held rfl rfl rfl
  | timeout present looks due => cases held
  | intentExpired pending lapsed => exact kept lease held rfl rfl rfl
  | quiet alive inTime => exact kept lease held rfl rfl rfl
  | recovered free required => exact kept lease held rfl rfl rfl

namespace Refines

variable {initial : ProfileCoordinatorState} {document : StoredCoordinatorDocument}
  {reference : ReferenceCoordinator}

theorem leaseClaimed_step (refines : Refines initial document reference)
    (claimed : LeaseClaimed reference) (envelope : StoredCoordinatorEnvelope) :
    LeaseClaimed (reference.apply envelope).2 := by
  cases refines.answers envelope with
  | refused why left right => rwa [right]
  | replayed domain receipt applied same old left right => rwa [right]
  | committed domain next applied appended commit new left right stands =>
    rw [right]
    exact commit.leaseClaimed claimed

theorem leaseClaimed_run (refines : Refines initial document reference)
    (claimed : LeaseClaimed reference) (inputs : List StoredCoordinatorEnvelope) :
    LeaseClaimed (references.final reference inputs) :=
  (Machine.lockstep documents references
    (fun document reference => Refines initial document reference ∧ LeaseClaimed reference)
    (fun _ _ envelope ⟨refines, claimed⟩ =>
      ⟨refines.step envelope, refines.leaseClaimed_step claimed envelope⟩)
    ⟨refines, claimed⟩ inputs).2

/-- The scans by session find the last Claim of the history when it is of that session. -/
theorem activeClaimMatches (refines : Refines initial document reference)
    (claimed : LeaseClaimed reference) (actorId : ActorId) (deviceId : DeviceId)
    (sessionId : SessionId) :
    ∃ matched, document.activeClaimMatches actorId deviceId sessionId = .ok matched ∧
      (matched = true ↔ reference.state.activeLease.isSome = true ∧
        lastClaimIn reference.history =
          some ⟨actorId.asStr, deviceId.asStr, sessionId.asStr⟩) := by
  obtain ⟨past, anchor, represents, history⟩ := refines.represented
  unfold StoredCoordinatorDocument.activeClaimMatches
  rw [refines.replay]
  simp only [bind, Except.bind]
  cases held : reference.state.activeLease with
  | none => exact ⟨false, rfl, by simp⟩
  | some active =>
  obtain ⟨claim, last, ofDevice, ofSession⟩ := claimed active held
  dsimp only
  split
  next other =>
    refine ⟨false, rfl, (fun impossible => by cases impossible), fun ⟨_, same⟩ => ?_⟩
    cases last.symm.trans same
    rcases other with device | session
    · exact absurd (TypedId.ext_asStr ofDevice.symm) device
    · exact absurd (TypedId.ext_asStr ofSession.symm) session
  next named =>
    obtain ⟨device, session⟩ := not_or.mp named
    obtain rfl := not_not.mp device
    obtain rfl := not_not.mp session
    have known : claim = ⟨actorId.asStr, active.deviceId.asStr, active.sessionId.asStr⟩ ↔
        claim.actorId = actorId.asStr := by
      rw [← ofDevice, ← ofSession]
      exact ⟨congrArg StoredClaimIdentity.actorId, fun same => by rw [← same]⟩
    have belongs : claim.belongsTo actorId active.deviceId = true ↔
        claim.actorId = actorId.asStr := by
      simp [StoredClaimIdentity.belongsTo, ofDevice]
    have whole := last
    rw [history, lastClaimIn_append] at whole
    rw [last, Option.some_inj, known]
    cases recent : lastClaimIn document.journal with
    | some found =>
      rw [recent] at whole
      cases whole
      rw [findSome?_filter recent (by simp [ofSession])]
      exact ⟨_, rfl, by simp [belongs]⟩
    | none =>
      rw [recent, Option.none_or] at whole
      rw [findSome?_filter_none recent, represents.checkpointClaim, whole]
      exact ⟨_, rfl, by simp [belongs, ofSession]⟩

end Refines

/-- However often the journal was compacted, a document tells the owner of the last Claim ever
accepted, and whether the live lease is of that Claim. -/
theorem claim_provenance_exact (tenantId : TenantId) (profileId : ProfileId)
    (config : CoordinatorConfig) (inputs : List StoredCoordinatorEnvelope) :
    let document := documents.final (.new tenantId profileId config) inputs
    let accepted := acceptedIn (documents.history (.new tenantId profileId config) inputs)
    ∃ state, document.replay = .ok state ∧
      (∀ actorId deviceId sessionId, ∃ matched,
        document.activeClaimMatches actorId deviceId sessionId = .ok matched ∧
        (matched = true ↔ state.activeLease.isSome = true ∧
          lastClaimIn accepted = some ⟨actorId.asStr, deviceId.asStr, sessionId.asStr⟩)) ∧
      ∀ actorId deviceId, document.lastClaimMatches actorId deviceId = true ↔
        OwnsLastClaim accepted actorId.asStr deviceId.asStr := by
  intro document accepted
  have start := new_refines tenantId profileId config
  have refines := reachable_refines tenantId profileId config inputs
  have history : (references.final (.new tenantId profileId config) inputs).history = accepted :=
    start.accepted_history inputs
  have fresh : LeaseClaimed (.new tenantId profileId config) := fun lease held => by cases held
  have claimed := start.leaseClaimed_run fresh inputs
  refine ⟨_, refines.replay, fun actorId deviceId sessionId => ?_, fun actorId deviceId => ?_⟩
  · rw [← history]
    exact refines.activeClaimMatches claimed actorId deviceId sessionId
  · rw [← history, refines.lastClaimMatches]
    simp only [ReferenceCoordinator.lastClaimMatches, Option.any_eq_true, OwnsLastClaim,
      StoredClaimIdentity.belongsTo, Bool.and_eq_true, beq_iff_eq]

end ProfilePlatform.Adapters
