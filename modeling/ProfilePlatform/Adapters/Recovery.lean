import ProfilePlatform.Adapters.Compaction

/-! The recovery reservation.

Between a recovery and the Claim it is for, the profile is reserved for the
owner of the last accepted Claim. The reservation is kept half by the guard of
the document and half by the flags of the domain; it is an invariant of the
reference coordinator, and documents inherit it through any compaction.
-/

set_option autoImplicit false

namespace ProfilePlatform.Adapters

open Foundation Session ProfileCoordinatorState

abbrev DocumentEntry :=
  Entry StoredCoordinatorDocument StoredCoordinatorEnvelope
    (Except CoordinatorAdapterError CoordinatorApplied)

/-- The envelope of a step that was accepted as new. -/
def appendedEnvelope (entry : DocumentEntry) : Option StoredCoordinatorEnvelope :=
  match entry.output with
  | .error _ => none
  | .ok applied => if applied.appended then some entry.input else none

def acceptedIn (history : List DocumentEntry) : List StoredCoordinatorEnvelope :=
  history.filterMap appendedEnvelope

theorem acceptedIn_cons (entry : DocumentEntry) (rest : List DocumentEntry) :
    acceptedIn (entry :: rest) = (appendedEnvelope entry).toList ++ acceptedIn rest := by
  cases taken : appendedEnvelope entry <;> simp [acceptedIn, taken]

theorem ownedByLastClaim_eq_ok {lastClaimMatches : ActorId → DeviceId → Bool} {actor : ActorId}
    {device : DeviceId}
    (admitted : ownedByLastClaim lastClaimMatches actor.asStr device.asStr = .ok ()) :
    lastClaimMatches actor device = true := by
  simp only [ownedByLastClaim, parseId_asStr, bind, Except.bind] at admitted
  split at admitted
  next owner => exact owner
  next => cases admitted

theorem lastClaimIn_concat (history : List StoredCoordinatorEnvelope)
    (envelope : StoredCoordinatorEnvelope) :
    lastClaimIn (history ++ [envelope]) = envelope.command.claimIdentity.or (lastClaimIn history) := by
  rw [lastClaimIn_append]
  simp [lastClaimIn]

/-- What a transition does to the reservation and the pending intent. -/
inductive IntentStep (s t : ProfileCoordinatorState) : CoordinatorCommand → Prop where
  | cleared {command} (cleared : t.recoveryClaimPending = false)
      (claims : s.recoveryClaimPending = true → s.status = .idle → command.isClaim = true) :
      IntentStep s t command
  | issued {launchIntentId actorId deviceId now expiresAt}
      (same : t.recoveryClaimPending = s.recoveryClaimPending)
      (pending : t.pendingIntent = some ⟨launchIntentId, actorId, deviceId, expiresAt⟩) :
      IntentStep s t (.issueLaunchIntent launchIntentId actorId deviceId now expiresAt)
  | reserved {launchIntentId actorId deviceId now expiresAt}
      (set : t.recoveryClaimPending = true)
      (pending : t.pendingIntent = some ⟨launchIntentId, actorId, deviceId, expiresAt⟩) :
      IntentStep s t (.recoverAndIssueLaunchIntent launchIntentId actorId deviceId now expiresAt)
  | kept {command} (other : command.isClaim = false)
      (same : t.recoveryClaimPending = s.recoveryClaimPending)
      (intent : t.pendingIntent = s.pendingIntent ∨ t.pendingIntent = none) :
      IntentStep s t command

theorem intentStep {s t : ProfileCoordinatorState} {command : CoordinatorCommand}
    {outcome : CoordinatorOutcome} (accepts : s.Accepts command outcome t) :
    IntentStep s t command := by
  cases accepts with
  | issue => exact .issued rfl rfl
  | recover => exact .reserved rfl rfl
  | claim => exact .cleared rfl fun _ _ => rfl
  | keep form =>
    refine .kept ?_ rfl (.inl rfl)
    rcases form with ⟨rfl, -⟩ | ⟨rfl, -⟩ <;> rfl
  | release | intentExpired => exact .kept rfl rfl (.inr rfl)
  | drain | quiet => exact .kept rfl rfl (.inl rfl)
  | timeout held looks due =>
    refine .kept ?_ rfl (.inr rfl)
    cases command with
    | claim => exact looks.elim
    | _ => rfl
  | recovered free required =>
    refine .cleared rfl fun _ idle => ?_
    rcases required with dirty | uncertain
    · cases idle.symm.trans dirty
    · cases idle.symm.trans uncertain

theorem claimIdentity_storedCommand (command : CoordinatorCommand) :
    (storedCommand command).claimIdentity.isSome = command.isClaim := by
  cases command <;> rfl

/-- A pending recovery has an owner, and a pending intent is the owner's. -/
def Reservation (reference : ReferenceCoordinator) : Prop :=
  reference.state.recoveryClaimPending = true →
    ∃ owner, lastClaimIn reference.history = some owner ∧
      ∀ intent, reference.state.pendingIntent = some intent →
        owner.belongsTo intent.actorId intent.deviceId = true

namespace Refines

variable {initial : ProfileCoordinatorState} {document : StoredCoordinatorDocument}
  {reference : ReferenceCoordinator}

theorem wellFormed (refines : Refines initial document reference) : reference.state.WellFormed := by
  obtain ⟨past, anchor, represents, -⟩ := refines.represented
  exact represents.journaled.invariant WellFormed (fun _ _ _ => journaled_wellFormed)
    represents.anchor_valid.1

/-- The envelopes a run of the document accepts are those the reference writes down. -/
theorem accepted_history (refines : Refines initial document reference)
    (inputs : List StoredCoordinatorEnvelope) :
    (references.final reference inputs).history =
      reference.history ++ acceptedIn (documents.history document inputs) := by
  induction inputs generalizing document reference with
  | nil => exact (List.append_nil _).symm
  | cons envelope rest ih =>
    have later := ih (refines.step envelope)
    change (references.final (reference.apply envelope).2 rest).history =
      reference.history ++ acceptedIn (documents.entry document envelope ::
        documents.history (document.apply envelope).2 rest)
    rw [later, acceptedIn_cons, ← List.append_assoc]
    congr 1
    cases refines.answers envelope with
    | refused why left right =>
      simp [right, appendedEnvelope, Machine.entry, documents, left]
    | replayed domain receipt applied same old left right =>
      simp [right, appendedEnvelope, Machine.entry, documents, left, old]
    | committed domain next applied appended commit new left right stands =>
      simp [right, appendedEnvelope, Machine.entry, documents, left, new]

end Refines

namespace Refines.Commit

variable {reference : ReferenceCoordinator} {envelope : StoredCoordinatorEnvelope}
  {domain : CoordinatorCommandEnvelope} {decision : CoordinatorDecision}
  {next : ProfileCoordinatorState}

theorem stored (commit : Commit reference envelope domain decision next) :
    envelope.command = storedCommand domain.command := by
  rw [storedEnvelope_of_toDomain commit.converted]
  rfl

/-- Whoever the guard lets issue an intent under a reservation is its owner. -/
theorem owner_of_guard (commit : Commit reference envelope domain decision next)
    {actor : ActorId} {device : DeviceId}
    (asked : recoveryGuard reference.lastClaimMatches reference.state.recoveryClaimPending
      envelope.command = ownedByLastClaim reference.lastClaimMatches actor.asStr device.asStr) :
    ∃ owner, lastClaimIn reference.history = some owner ∧ owner.belongsTo actor device = true := by
  have owned := ownedByLastClaim_eq_ok (asked ▸ commit.admitted)
  exact (Option.any_eq_true _ _).mp owned

theorem reservation (commit : Commit reference envelope domain decision next)
    (reserved : Reservation reference) :
    Reservation ⟨next, reference.history ++ [envelope]⟩ := by
  have stored := commit.stored
  have admitted := @owner_of_guard reference envelope domain decision next commit
  have identity := claimIdentity_storedCommand domain.command
  obtain ⟨after, accepts, rfl⟩ := commit.commits.transition
  intro pending
  have pending : after.recoveryClaimPending = true := pending
  change ∃ owner, _ ∧ ∀ intent, after.pendingIntent = some intent → _
  rw [lastClaimIn_concat, stored]
  rw [stored] at admitted
  generalize domain.command = command at *
  cases intentStep accepts with
  | cleared cleared => cases cleared.symm.trans pending
  | issued same written =>
    have guarded : reference.state.recoveryClaimPending = true := same ▸ pending
    obtain ⟨owner, last, owns⟩ := admitted (if_pos guarded)
    refine ⟨owner, last, fun intent present => ?_⟩
    cases written.symm.trans present
    exact owns
  | reserved set written =>
    obtain ⟨owner, last, owns⟩ := admitted rfl
    refine ⟨owner, last, fun intent present => ?_⟩
    cases written.symm.trans present
    exact owns
  | kept other same intent =>
    obtain ⟨owner, last, owns⟩ := reserved (same ▸ pending)
    have none : (storedCommand command).claimIdentity = none := by
      rw [other] at identity
      simpa using identity
    refine ⟨owner, by rw [none, last]; rfl, fun present written => ?_⟩
    rcases intent with unchanged | gone
    · exact owns present (unchanged ▸ written)
    · cases gone.symm.trans written

theorem claim_owner (commit : Commit reference envelope domain decision next)
    (reserved : Reservation reference) (pending : reference.state.recoveryClaimPending = true)
    {identity : StoredClaimIdentity} (claim : envelope.command.claimIdentity = some identity) :
    ∃ owner, lastClaimIn reference.history = some owner ∧
      identity.actorId = owner.actorId ∧ identity.deviceId = owner.deviceId := by
  obtain ⟨owner, last, owns⟩ := reserved pending
  refine ⟨owner, last, ?_⟩
  rw [commit.stored] at claim
  obtain ⟨after, accepts, -⟩ := commit.commits.transition
  generalize domain.command = command at *
  generalize decision.outcome = outcome at *
  cases accepts with
  | claim idle free present live epochFits idleFits hardFits =>
    have matched := owns _ present
    simp only [StoredClaimIdentity.belongsTo, Bool.and_eq_true, beq_iff_eq] at matched
    cases claim
    exact ⟨matched.1.symm, matched.2.symm⟩
  | keep form =>
    rcases form with ⟨rfl, -⟩ | ⟨rfl, -⟩ <;> cases claim
  | @timeout command lease kind held looks due =>
    cases command with
    | claim => exact looks.elim
    | _ => cases claim
  | _ => cases claim

theorem cleared_by_claim (commit : Commit reference envelope domain decision next)
    (wellFormed : reference.state.WellFormed)
    (pending : reference.state.recoveryClaimPending = true)
    (cleared : next.recoveryClaimPending = false) :
    ∃ identity, envelope.command.claimIdentity = some identity := by
  rw [← Option.isSome_iff_exists, commit.stored, claimIdentity_storedCommand]
  obtain ⟨after, accepts, rfl⟩ := commit.commits.transition
  have cleared : after.recoveryClaimPending = false := cleared
  generalize domain.command = command at *
  cases intentStep accepts with
  | cleared _ claim => exact claim pending (wellFormed.reserved pending).1
  | issued same => cases (same.trans pending).symm.trans cleared
  | reserved set => cases set.symm.trans cleared
  | kept other same => cases (same.trans pending).symm.trans cleared

end Refines.Commit

/-- The document accepts the envelope as a new command. -/
def StoredCoordinatorDocument.Accepts (self : StoredCoordinatorDocument)
    (envelope : StoredCoordinatorEnvelope) : Prop :=
  ∃ applied, (self.apply envelope).1 = .ok applied ∧ applied.appended = true

namespace Refines

variable {initial : ProfileCoordinatorState} {document : StoredCoordinatorDocument}
  {reference : ReferenceCoordinator}

theorem reservation_step (refines : Refines initial document reference)
    (reserved : Reservation reference) (envelope : StoredCoordinatorEnvelope) :
    Reservation (reference.apply envelope).2 := by
  cases refines.answers envelope with
  | refused why left right => rwa [right]
  | replayed domain receipt applied same old left right => rwa [right]
  | committed domain next applied appended commit new left right stands =>
    rw [right]
    exact commit.reservation reserved

theorem reservation_run (refines : Refines initial document reference)
    (reserved : Reservation reference) (inputs : List StoredCoordinatorEnvelope) :
    Refines initial (documents.final document inputs) (references.final reference inputs) ∧
      Reservation (references.final reference inputs) :=
  Machine.lockstep documents references
    (fun document reference => Refines initial document reference ∧ Reservation reference)
    (fun _ _ envelope ⟨refines, reserved⟩ =>
      ⟨refines.step envelope, refines.reservation_step reserved envelope⟩)
    ⟨refines, reserved⟩ inputs

theorem pending_persists (refines : Refines initial document reference)
    (pending : reference.state.recoveryClaimPending = true)
    (inputs : List StoredCoordinatorEnvelope)
    (noClaim : lastClaimIn (acceptedIn (documents.history document inputs)) = none) :
    (references.final reference inputs).state.recoveryClaimPending = true := by
  induction inputs generalizing document reference with
  | nil => exact pending
  | cons envelope rest ih =>
    have noClaim : lastClaimIn (acceptedIn (documents.entry document envelope ::
        documents.history (document.apply envelope).2 rest)) = none := noClaim
    rw [acceptedIn_cons, lastClaimIn_append, Option.or_eq_none_iff] at noClaim
    obtain ⟨later, now⟩ := noClaim
    refine ih (refines.step envelope) ?_ later
    change (reference.apply envelope).2.state.recoveryClaimPending = true
    cases refines.answers envelope with
    | refused why left right => rwa [right]
    | replayed domain receipt applied same old left right => rwa [right]
    | committed domain next applied appended commit new left right stands =>
      have accepted : appendedEnvelope (documents.entry document envelope) = some envelope := by
        simp [appendedEnvelope, Machine.entry, documents, left, new]
      rw [accepted] at now
      rw [right]
      -- the accepted envelope is no Claim, so it cannot have ended the reservation
      cases cleared : next.recoveryClaimPending with
      | true => rfl
      | false =>
        obtain ⟨identity, claim⟩ := commit.cleared_by_claim refines.wellFormed pending cleared
        simp [lastClaimIn, claim] at now

/-- While the recovery is pending, a Claim is accepted from the reserved owner only. -/
theorem accepted_claim_owner (refines : Refines initial document reference)
    (reserved : Reservation reference) (pending : reference.state.recoveryClaimPending = true)
    {owner identity : StoredClaimIdentity} {claim : StoredCoordinatorEnvelope}
    (last : lastClaimIn reference.history = some owner) (accepts : document.Accepts claim)
    (identified : claim.command.claimIdentity = some identity) :
    identity.actorId = owner.actorId ∧ identity.deviceId = owner.deviceId := by
  obtain ⟨applied, answer, new⟩ := accepts
  cases refines.answers claim with
  | refused why left right =>
    rw [left] at answer
    cases answer
  | replayed domain receipt other same old left right =>
    rw [left] at answer
    cases answer
    cases old.symm.trans new
  | committed domain next other appended commit _ left right stands =>
    obtain ⟨lastOwner, lastThen, same⟩ := commit.claim_owner reserved pending identified
    cases last.symm.trans lastThen
    exact same

/-- Only an accepted Claim ends the reservation: errors and replays leave the document alone. -/
theorem cleared_by_accepted_claim (refines : Refines initial document reference)
    (pending : reference.state.recoveryClaimPending = true) {envelope : StoredCoordinatorEnvelope}
    {after : ProfileCoordinatorState} (replayed : (document.apply envelope).2.replay = .ok after)
    (cleared : after.recoveryClaimPending = false) :
    document.Accepts envelope ∧ ∃ identity, envelope.command.claimIdentity = some identity := by
  cases refines.answers envelope with
  | refused why left right =>
    rw [left, refines.replay] at replayed
    cases replayed
    cases pending.symm.trans cleared
  | replayed domain receipt applied same old left right =>
    rw [left, refines.replay] at replayed
    cases replayed
    cases pending.symm.trans cleared
  | committed domain next applied appended commit new left right stands =>
    rw [left, stands.replay] at replayed
    cases replayed
    refine ⟨⟨applied, by rw [left], new⟩, ?_⟩
    exact commit.cleared_by_claim refines.wellFormed pending cleared

end Refines

/-- The profile waits for one actor on one device. -/
structure ReservedFor (owner : StoredClaimIdentity) (document : StoredCoordinatorDocument)
    (state : ProfileCoordinatorState) : Prop where
  intent : ∀ intent, state.pendingIntent = some intent →
    intent.actorId.asStr = owner.actorId ∧ intent.deviceId.asStr = owner.deviceId
  nextClaim : ∀ more claim identity,
    lastClaimIn (acceptedIn (documents.history document more)) = none →
    (documents.final document more).Accepts claim →
    claim.command.claimIdentity = some identity →
    identity.actorId = owner.actorId ∧ identity.deviceId = owner.deviceId
  cleared : ∀ envelope after, (document.apply envelope).2.replay = .ok after →
    after.recoveryClaimPending = false →
    document.Accepts envelope ∧ ∃ identity, envelope.command.claimIdentity = some identity

/-- A pending recovery reserves the profile for the owner of the last accepted
Claim, and nothing but that owner's Claim ends it. -/
theorem recovery_reservation (tenantId : TenantId) (profileId : ProfileId)
    (config : CoordinatorConfig) (inputs : List StoredCoordinatorEnvelope) :
    let document := documents.final (.new tenantId profileId config) inputs
    let accepted := acceptedIn (documents.history (.new tenantId profileId config) inputs)
    ∃ state, document.replay = .ok state ∧
      (state.recoveryClaimPending = true →
        ∃ owner, lastClaimIn accepted = some owner ∧ ReservedFor owner document state) := by
  intro document accepted
  have start := new_refines tenantId profileId config
  obtain ⟨refines, reserved⟩ := start.reservation_run (fun pending => nomatch pending) inputs
  have history := start.accepted_history inputs
  generalize references.final (.new tenantId profileId config) inputs = reference at *
  have history : reference.history = accepted := history
  refine ⟨reference.state, refines.replay, fun pending => ?_⟩
  obtain ⟨owner, last, owns⟩ := reserved pending
  refine ⟨owner, history ▸ last, ?_, ?_, ?_⟩
  · intro intent present
    have matched := owns intent present
    simp only [StoredClaimIdentity.belongsTo, Bool.and_eq_true, beq_iff_eq] at matched
    exact ⟨matched.1.symm, matched.2.symm⟩
  · intro more claim identity noClaim accepts identified
    -- without a Claim in between, the reservation and its owner are still those of now
    have stillPending := refines.pending_persists pending more noClaim
    have stillLast : lastClaimIn (references.final reference more).history = some owner := by
      rw [refines.accepted_history more, lastClaimIn_append, noClaim, last]
      rfl
    obtain ⟨refinesThen, reservedThen⟩ := refines.reservation_run reserved more
    exact refinesThen.accepted_claim_owner reservedThen stillPending stillLast accepts identified
  · intro envelope after replayed cleared
    exact refines.cleared_by_accepted_claim pending replayed cleared

end ProfilePlatform.Adapters
