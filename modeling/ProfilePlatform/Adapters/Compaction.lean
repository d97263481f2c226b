import ProfilePlatform.Adapters.Encoding
import ProfilePlatform.Foundation.Window
import ProfilePlatform.Session.Ledger

/-! Journal compaction refines the uncompacted coordinator.

The reference keeps one domain state and the whole history of accepted
envelopes. A document represents it when its journal is the recent end of that
history and its checkpoint stands for everything before.
-/

set_option autoImplicit false

namespace ProfilePlatform.Adapters

open Foundation Session ProfileCoordinatorState

/-! A journal is a log of commits, and a checkpoint is a snapshot of it. -/

/-- A stored envelope the state commits. -/
def Journaled (s : ProfileCoordinatorState) (envelope : StoredCoordinatorEnvelope)
    (t : ProfileCoordinatorState) : Prop :=
  ∃ domain decision, envelope.toDomain = .ok domain ∧ s.Commits domain decision t

theorem applyAll_of_run {s t : ProfileCoordinatorState} {log : List StoredCoordinatorEnvelope}
    (run : Run Journaled s log t) : applyAll s log = .ok t := by
  induction run with
  | nil => rfl
  | cons taken _ ih =>
    obtain ⟨domain, decision, converted, commits⟩ := taken
    simp only [applyAll, converted, apply_of_commits commits, ih, bind, Except.bind]

/-- Checkpoints forget the receipts, and the window of them is rebuilt by the journal. -/
def checkpoints : Snapshotting Journaled where
  valid s := s.receipts.length ≤ receiptLimit
  forget s := s.remembering []
  window := receiptLimit
  agree k s t := ∃ receipts, t = s.remembering receipts ∧ receipts <:+ s.receipts ∧
    (receipts = s.receipts ∨ k ≤ receipts.length)
  valid_step := by
    rintro s envelope t ⟨domain, decision, -, commits⟩ bounded
    rw [commits.receipts_eq, pushBounded_length bounded]
    exact Nat.min_le_left _ _
  agree_forget _ := ⟨[], rfl, List.nil_suffix, .inr (Nat.zero_le _)⟩
  agree_step := by
    rintro k s s' t envelope bounded ⟨receipts, rfl, recent, enough⟩
      ⟨domain, decision, converted, commits⟩
    refine ⟨_, ⟨domain, decision, converted, commits.remembering recent⟩, _, rfl, ?_, ?_⟩
    · rw [commits.receipts_eq]
      exact pushBounded_suffix recent bounded _
    · rw [commits.receipts_eq]
      rcases pushBounded_shorter recent bounded (domain.receipt decision) with same | longer
      · exact .inl same
      · rcases enough with all | enough
        · exact .inl (by rw [all])
        · rw [longer, List.length_append, List.length_singleton]
          exact .inr (Nat.succ_le_succ enough)
  -- a full window holds as many receipts on either side, and one is the recent end of the other
  agree_window := by
    rintro k s t bounded full ⟨receipts, rfl, recent, same | enough⟩
    · rw [same]
      rfl
    · rw [recent.eq_of_length_le (by omega)]
      rfl

theorem journaled_wellFormed {s t : ProfileCoordinatorState} {envelope : StoredCoordinatorEnvelope}
    (taken : Journaled s envelope t) (wellFormed : s.WellFormed) : t.WellFormed := by
  obtain ⟨domain, decision, -, commits⟩ := taken
  exact commits.wellFormed wellFormed

theorem journaled_identity {s t : ProfileCoordinatorState} {envelope : StoredCoordinatorEnvelope}
    (taken : Journaled s envelope t) :
    t.tenantId = s.tenantId ∧ t.profileId = s.profileId ∧ t.config = s.config := by
  obtain ⟨domain, decision, -, commits⟩ := taken
  exact commits.identity

theorem lastClaimIn_append (first second : List StoredCoordinatorEnvelope) :
    lastClaimIn (first ++ second) = (lastClaimIn second).or (lastClaimIn first) := by
  simp only [lastClaimIn, List.reverse_append, List.findSome?_append]

/-- What a checkpoint stands for: nothing yet, or the state after the envelopes
that have left the journal, with enough journal behind it to fill the receipts. -/
inductive Base (document : StoredCoordinatorDocument) (past : List StoredCoordinatorEnvelope)
    (anchor : ProfileCoordinatorState) : Prop where
  | absent (stored : document.checkpoint = none) (empty : past = [])
  | snapshot (stored : document.checkpoint = some (.fromState anchor (lastClaimIn past)))
      (enough : retainRecentCommands ≤ document.journal.length)

/-- The document stands for a state and the history of envelopes that led to it. -/
structure Represents (initial : ProfileCoordinatorState) (document : StoredCoordinatorDocument)
    (state : ProfileCoordinatorState) (past : List StoredCoordinatorEnvelope)
    (anchor : ProfileCoordinatorState) : Prop where
  tenant : document.tenantId = initial.tenantId.asStr
  profile : document.profileId = initial.profileId.asStr
  idle : document.idleTimeoutMs = initial.config.idleTimeoutMs
  hard : document.hardTimeoutMs = initial.config.hardTimeoutMs
  drain : document.drainTimeoutMs = initial.config.drainTimeoutMs
  fresh : initial = .new initial.tenantId initial.profileId initial.config
  base : Base document past anchor
  compacted : Run Journaled initial past anchor
  journaled : Run Journaled anchor document.journal state

namespace Represents

variable {initial state anchor : ProfileCoordinatorState} {document : StoredCoordinatorDocument}
  {past : List StoredCoordinatorEnvelope}

theorem initial_wellFormed (represents : Represents initial document state past anchor) :
    initial.WellFormed ∧ initial.receipts.length ≤ receiptLimit := by
  rw [represents.fresh]
  exact ⟨new_wellFormed _ _ _, Nat.zero_le _⟩

theorem anchor_valid (represents : Represents initial document state past anchor) :
    anchor.WellFormed ∧ anchor.receipts.length ≤ receiptLimit := by
  obtain ⟨wellFormed, bounded⟩ := represents.initial_wellFormed
  exact ⟨represents.compacted.invariant WellFormed (fun _ _ _ => journaled_wellFormed) wellFormed,
    represents.compacted.invariant checkpoints.valid (fun _ _ _ => checkpoints.valid_step) bounded⟩

theorem anchor_identity (represents : Represents initial document state past anchor) :
    anchor.tenantId = initial.tenantId ∧ anchor.profileId = initial.profileId ∧
      anchor.config = initial.config := by
  refine represents.compacted.invariant (fun t => t.tenantId = initial.tenantId ∧
    t.profileId = initial.profileId ∧ t.config = initial.config) ?_ ⟨rfl, rfl, rfl⟩
  rintro s envelope t taken ⟨tenant, profile, config⟩
  obtain ⟨sameTenant, sameProfile, sameConfig⟩ := journaled_identity taken
  exact ⟨sameTenant.trans tenant, sameProfile.trans profile, sameConfig.trans config⟩

/-- The base of the replay is the anchor, complete or without its receipts. -/
theorem restoreBase (represents : Represents initial document state past anchor) :
    ∃ base, document.restoreBase = .ok base ∧ checkpoints.agree 0 anchor base ∧
      Run Journaled base document.journal state := by
  obtain ⟨wellFormed, bounded⟩ := represents.anchor_valid
  obtain ⟨tenant, profile, config⟩ := represents.anchor_identity
  cases represents.base with
  | absent stored empty =>
    -- nothing has left the journal yet, so the anchor is where the document began
    have start : anchor = initial := by
      have run := represents.compacted
      rw [empty] at run
      cases run
      rfl
    refine ⟨anchor, ?_, ⟨anchor.receipts, rfl, List.suffix_refl _, .inl rfl⟩,
      represents.journaled⟩
    simp only [StoredCoordinatorDocument.restoreBase, represents.tenant, represents.profile,
      represents.idle, represents.hard, represents.drain, stored, parseId_asStr,
      CoordinatorConfig.new_accepted]
    rw [start]
    exact congrArg Except.ok represents.fresh.symm
  | snapshot stored enough =>
    refine ⟨anchor.remembering [], ?_, checkpoints.agree_forget bounded,
      checkpoints.run_forget represents.journaled bounded enough⟩
    simp only [StoredCoordinatorDocument.restoreBase, represents.tenant, represents.profile,
      represents.idle, represents.hard, represents.drain, stored, parseId_asStr,
      CoordinatorConfig.new_accepted, StoredCoordinatorCheckpoint.intoDomain_fromState wellFormed]
    rw [← tenant, ← profile, ← config]
    exact congrArg (Except.mapError CoordinatorAdapterError.domain) wellFormed.restoreCheckpoint

theorem replay (represents : Represents initial document state past anchor) :
    document.replay = .ok state := by
  obtain ⟨base, restored, -, run⟩ := represents.restoreBase
  simp only [StoredCoordinatorDocument.replay, restored]
  exact applyAll_of_run run

theorem checkpointClaim (represents : Represents initial document state past anchor) :
    document.checkpointClaim = lastClaimIn past := by
  cases represents.base with
  | absent stored empty =>
    rw [StoredCoordinatorDocument.checkpointClaim, stored, empty]
    rfl
  | snapshot stored enough =>
    rw [StoredCoordinatorDocument.checkpointClaim, stored]
    rfl

/-- The journal and the checkpoint share one owner: that of the last Claim of the history. -/
theorem lastClaimMatches (represents : Represents initial document state past anchor)
    (actor : ActorId) (device : DeviceId) :
    document.lastClaimMatches actor device =
      (lastClaimIn (past ++ document.journal)).any fun claim => claim.belongsTo actor device := by
  rw [StoredCoordinatorDocument.lastClaimMatches, represents.checkpointClaim, lastClaimIn_append]
  cases lastClaimIn document.journal <;> rfl

/-- Compaction succeeds on whatever it is called for and keeps what the document stands for. -/
theorem compactJournal (represents : Represents initial document state past anchor) :
    ∃ compacted older newer anchor', document.compactJournal = .ok compacted ∧
      document.journal = older ++ newer ∧
      newer.length = min retainRecentCommands document.journal.length ∧
      compacted.journal = newer ∧ Represents initial compacted state (past ++ older) anchor' := by
  obtain ⟨count, counted⟩ : ∃ count, document.journal.length - retainRecentCommands = count :=
    ⟨_, rfl⟩
  by_cases short : count = 0
  · refine ⟨document, [], document.journal, anchor, ?_, rfl, ?_, rfl, by rwa [List.append_nil]⟩
    · simp only [StoredCoordinatorDocument.compactJournal, counted]
      rw [if_pos short]
      rfl
    · omega
  have splitJournal := List.take_append_drop count document.journal
  have kept : (document.journal.drop count).length = retainRecentCommands := by
    rw [List.length_drop]
    omega
  obtain ⟨base, restored, agrees, -⟩ := represents.restoreBase
  obtain ⟨wellFormed, bounded⟩ := represents.anchor_valid
  have journaled := represents.journaled
  rw [← splitJournal] at journaled
  obtain ⟨middle, older, newer⟩ := journaled.split
  have middleWellFormed : middle.WellFormed :=
    older.invariant WellFormed (fun _ _ _ => journaled_wellFormed) wellFormed
  have middleBounded : checkpoints.valid middle :=
    older.invariant checkpoints.valid (fun _ _ _ => checkpoints.valid_step) bounded
  -- over the base the journal's head reaches the middle state but for some receipts
  obtain ⟨reached, olderFromBase, receipts, rfl, -, -⟩ :=
    checkpoints.run_agree older bounded agrees
  have rebuilt : Run Journaled (middle.remembering []) (document.journal.drop count) state :=
    checkpoints.run_forget newer middleBounded (Nat.le_of_eq kept.symm)
  have snapshotRestored : (restoreCheckpoint (middle.remembering receipts).tenantId
      (middle.remembering receipts).profileId (middle.remembering receipts).config
      middle.checkpoint).mapError CoordinatorAdapterError.domain = .ok (middle.remembering []) :=
    mapError_eq_ok.mpr middleWellFormed.restoreCheckpoint
  have claim : (lastClaimIn (document.journal.take count)).or document.checkpointClaim =
      lastClaimIn (past ++ document.journal.take count) := by
    rw [represents.checkpointClaim, lastClaimIn_append]
  have snapshot : StoredCoordinatorCheckpoint.fromState (middle.remembering receipts)
      (lastClaimIn (past ++ document.journal.take count)) =
      .fromState middle (lastClaimIn (past ++ document.journal.take count)) := rfl
  refine ⟨{ document with
      checkpoint := some (.fromState middle (lastClaimIn (past ++ document.journal.take count)))
      journal := document.journal.drop count },
    document.journal.take count, document.journal.drop count, middle, ?_, splitJournal.symm,
    by omega, rfl, ?_⟩
  · simp only [StoredCoordinatorDocument.compactJournal, counted]
    rw [if_neg short]
    simp only [restored, applyAll_of_run olderFromBase, claim, snapshot, represents.replay,
      StoredCoordinatorCheckpoint.intoDomain_fromState middleWellFormed, snapshotRestored,
      applyAll_of_run rebuilt, bind, Except.bind]
    exact if_neg (not_not_intro rfl)
  · exact {
      represents with
      base := .snapshot rfl (Nat.le_of_eq kept.symm)
      compacted := represents.compacted.append older
      journaled := newer }

theorem push (represents : Represents initial document state past anchor)
    {envelope : StoredCoordinatorEnvelope} {next : ProfileCoordinatorState}
    (taken : Journaled state envelope next) :
    Represents initial (document.push envelope) next past anchor := by
  refine { represents with base := ?_, journaled := represents.journaled.concat taken }
  cases represents.base with
  | absent stored empty => exact .absent stored empty
  | snapshot stored enough =>
    refine .snapshot stored (Nat.le_trans enough ?_)
    simp [StoredCoordinatorDocument.push]

end Represents

/-- The uncompacted coordinator: one domain state and the full command history. -/
structure ReferenceCoordinator where
  state : ProfileCoordinatorState
  history : List StoredCoordinatorEnvelope

namespace ReferenceCoordinator

def new (tenantId : TenantId) (profileId : ProfileId) (config : CoordinatorConfig) :
    ReferenceCoordinator where
  state := .new tenantId profileId config
  history := []

/-- The last accepted Claim in the whole history belongs to this actor and device. -/
def lastClaimMatches (self : ReferenceCoordinator) (actor : ActorId) (device : DeviceId) : Bool :=
  (lastClaimIn self.history).any fun claim => claim.belongsTo actor device

def apply (self : ReferenceCoordinator) (envelope : StoredCoordinatorEnvelope) :
    Except CoordinatorAdapterError CoordinatorDecision × ReferenceCoordinator :=
  match recoveryGuard self.lastClaimMatches self.state.recoveryClaimPending envelope.command with
  | .error why => (.error why, self)
  | .ok () =>
    match envelope.toDomain with
    | .error why => (.error why, self)
    | .ok domain =>
      match self.state.apply domain with
      | (.error why, _) => (.error (.domain why), self)
      | (.ok decision, after) =>
        if decision.sequence > self.state.lastSequence then
          (.ok decision, { state := after, history := self.history ++ [envelope] })
        else (.ok decision, { self with state := after })

end ReferenceCoordinator

def documents : Machine StoredCoordinatorDocument StoredCoordinatorEnvelope
    (Except CoordinatorAdapterError CoordinatorApplied) where
  step := StoredCoordinatorDocument.apply

def references : Machine ReferenceCoordinator StoredCoordinatorEnvelope
    (Except CoordinatorAdapterError CoordinatorDecision) where
  step := ReferenceCoordinator.apply

/-- The document stands for the reference coordinator and its journal is not full. -/
structure Refines (initial : ProfileCoordinatorState) (document : StoredCoordinatorDocument)
    (reference : ReferenceCoordinator) : Prop where
  represented : ∃ past anchor, Represents initial document reference.state past anchor ∧
    reference.history = past ++ document.journal
  short : document.journalLen < compactJournalAt
  remembers : reference.state.Remembers

theorem new_refines (tenantId : TenantId) (profileId : ProfileId) (config : CoordinatorConfig) :
    Refines (.new tenantId profileId config) (.new tenantId profileId config)
      (.new tenantId profileId config) where
  represented := ⟨[], _, ⟨rfl, rfl, rfl, rfl, rfl, rfl, .absent rfl rfl, .nil _, .nil _⟩, rfl⟩
  short := (by decide : 0 < compactJournalAt)
  remembers := new_remembers tenantId profileId config

namespace Refines

variable {initial : ProfileCoordinatorState} {document : StoredCoordinatorDocument}
  {reference : ReferenceCoordinator}

theorem replay (refines : Refines initial document reference) :
    document.replay = .ok reference.state := by
  obtain ⟨past, anchor, represents, -⟩ := refines.represented
  exact represents.replay

theorem lastClaimMatches (refines : Refines initial document reference) :
    document.lastClaimMatches = reference.lastClaimMatches := by
  obtain ⟨past, anchor, represents, history⟩ := refines.represented
  funext actor device
  rw [represents.lastClaimMatches, ← history]
  rfl

theorem append (refines : Refines initial document reference)
    {envelope : StoredCoordinatorEnvelope} {next : ProfileCoordinatorState}
    (taken : Journaled reference.state envelope next) :
    ∃ appended, document.append envelope = (.ok (), appended) ∧
      Refines initial appended ⟨next, reference.history ++ [envelope]⟩ := by
  obtain ⟨past, anchor, represents, history⟩ := refines.represented
  have pushed := represents.push taken
  have remembers : next.Remembers := by
    obtain ⟨domain, decision, -, commits⟩ := taken
    exact commits.remembers refines.remembers
  by_cases full : (document.push envelope).journal.length ≥ compactJournalAt
  -- compaction keeps half of a full journal
  · obtain ⟨compacted, older, newer, middle, done, journal, length, rest, stands⟩ :=
      pushed.compactJournal
    refine ⟨compacted, ?_, ⟨_, middle, stands, ?_⟩, ?_, remembers⟩
    · simp only [StoredCoordinatorDocument.append, if_pos full, done]
    · rw [rest, List.append_assoc, ← journal, history, List.append_assoc]
      rfl
    · have bounded : newer.length ≤ retainRecentCommands := length ▸ Nat.min_le_left _ _
      rw [StoredCoordinatorDocument.journalLen, rest]
      exact Nat.lt_of_le_of_lt bounded (by decide)
  · refine ⟨document.push envelope, ?_, ⟨past, anchor, pushed, ?_⟩, Nat.not_le.mp full, remembers⟩
    · simp only [StoredCoordinatorDocument.append, if_neg full]
    · rw [history, List.append_assoc]
      rfl

/-- What the document does with an envelope the reference commits. -/
structure Commit (reference : ReferenceCoordinator) (envelope : StoredCoordinatorEnvelope)
    (domain : CoordinatorCommandEnvelope) (decision : CoordinatorDecision)
    (next : ProfileCoordinatorState) : Prop where
  admitted : recoveryGuard reference.lastClaimMatches reference.state.recoveryClaimPending
    envelope.command = .ok ()
  converted : envelope.toDomain = .ok domain
  commits : reference.state.Commits domain decision next

/-- The document and the reference give the same answer to every envelope. -/
inductive Answers (initial : ProfileCoordinatorState) (document : StoredCoordinatorDocument)
    (reference : ReferenceCoordinator) (envelope : StoredCoordinatorEnvelope) : Prop where
  | refused (why : CoordinatorAdapterError)
      (left : document.apply envelope = (.error why, document))
      (right : reference.apply envelope = (.error why, reference))
  | replayed (domain : CoordinatorCommandEnvelope) (receipt : CommandReceipt)
      (applied : CoordinatorApplied) (same : applied.decision = receipt.decision)
      (old : applied.appended = false) (left : document.apply envelope = (.ok applied, document))
      (right : reference.apply envelope = (.ok receipt.decision, reference))
  | committed (domain : CoordinatorCommandEnvelope) (next : ProfileCoordinatorState)
      (applied : CoordinatorApplied) (appended : StoredCoordinatorDocument)
      (commit : Commit reference envelope domain applied.decision next)
      (new : applied.appended = true) (left : document.apply envelope = (.ok applied, appended))
      (right : reference.apply envelope =
        (.ok applied.decision, ⟨next, reference.history ++ [envelope]⟩))
      (refines : Refines initial appended ⟨next, reference.history ++ [envelope]⟩)

theorem answers (refines : Refines initial document reference)
    (envelope : StoredCoordinatorEnvelope) : Answers initial document reference envelope := by
  have sameGuard : recoveryGuard document.lastClaimMatches reference.state.recoveryClaimPending
      envelope.command = recoveryGuard reference.lastClaimMatches
        reference.state.recoveryClaimPending envelope.command := by
    rw [refines.lastClaimMatches]
  cases admitted : recoveryGuard reference.lastClaimMatches
      reference.state.recoveryClaimPending envelope.command with
  | error why =>
    refine .refused why ?_ ?_
    · simp only [StoredCoordinatorDocument.apply, refines.replay, sameGuard, admitted]
    · simp only [ReferenceCoordinator.apply, admitted]
  | ok admission =>
  cases converted : envelope.toDomain with
  | error why =>
    refine .refused why ?_ ?_
    · simp only [StoredCoordinatorDocument.apply, refines.replay, sameGuard, admitted, converted]
    · simp only [ReferenceCoordinator.apply, admitted, converted]
  | ok domain =>
  rcases reference.state.apply_cases domain with ⟨why, refused⟩ |
    ⟨receipt, retained, -, -, replayed⟩ | ⟨decision, next, commits, applied⟩
  · refine .refused (.domain why) ?_ ?_
    · simp only [StoredCoordinatorDocument.apply, refines.replay, sameGuard, admitted, converted,
        refused]
    · simp only [ReferenceCoordinator.apply, admitted, converted, refused]
  · have counted := Nat.not_lt.mpr (refines.remembers receipt retained)
    refine .replayed domain receipt ⟨.fromState reference.state, receipt.decision, false,
      nextAlarmAt reference.state⟩ rfl rfl ?_ ?_
    · simp only [StoredCoordinatorDocument.apply, refines.replay, sameGuard, admitted, converted,
        replayed, gt_iff_lt, counted, decide_false, Bool.false_eq_true, if_false]
    · simp only [ReferenceCoordinator.apply, admitted, converted, replayed, gt_iff_lt, counted,
        if_false]
  -- a new decision has the next sequence, so both sides record the envelope
  · have later : decision.sequence > reference.state.lastSequence := by
      rw [commits.numbered, commits.inSequence]
      exact Nat.lt_succ_self _
    obtain ⟨appended, done, stands⟩ := refines.append ⟨domain, decision, converted, commits⟩
    refine .committed domain next ⟨.fromState next, decision, true, nextAlarmAt next⟩ appended
      ⟨admitted, converted, commits⟩ rfl ?_ ?_ stands
    · simp only [StoredCoordinatorDocument.apply, refines.replay, sameGuard, admitted, converted,
        applied, later, decide_true, if_true, done]
    · simp only [ReferenceCoordinator.apply, admitted, converted, applied, later, if_true]

theorem step (refines : Refines initial document reference)
    (envelope : StoredCoordinatorEnvelope) :
    Refines initial (document.apply envelope).2 (reference.apply envelope).2 := by
  cases refines.answers envelope with
  | refused why left right => rwa [left, right]
  | replayed domain receipt applied same old left right => rwa [left, right]
  | committed domain next applied appended commit new left right stands => rwa [left, right]

end Refines

/-- Every reachable document refines the reference that was fed the same envelopes. -/
theorem reachable_refines (tenantId : TenantId) (profileId : ProfileId) (config : CoordinatorConfig)
    (inputs : List StoredCoordinatorEnvelope) :
    Refines (.new tenantId profileId config)
      (documents.final (.new tenantId profileId config) inputs)
      (references.final (.new tenantId profileId config) inputs) :=
  Machine.lockstep documents references (Refines (.new tenantId profileId config))
    (fun _ _ envelope refines => refines.step envelope) (new_refines tenantId profileId config) inputs

/-- Compaction is invisible: decisions, errors and the replayed state are those
of the coordinator that never compacts, and the journal never fills up. -/
theorem compaction_refines_reference (tenantId : TenantId) (profileId : ProfileId)
    (config : CoordinatorConfig) (inputs : List StoredCoordinatorEnvelope)
    (envelope : StoredCoordinatorEnvelope) :
    let document := documents.final (.new tenantId profileId config) inputs
    let reference := references.final (.new tenantId profileId config) inputs
    (document.apply envelope).1.map CoordinatorApplied.decision = (reference.apply envelope).1 ∧
      document.replay = .ok reference.state ∧
      document.journalLen < compactJournalAt ∧
      (∃ compacted, document.compactJournal = .ok compacted) ∧
      ((reference.apply envelope).2.history = reference.history ∨
        ∃ compacted, (document.push envelope).compactJournal = .ok compacted) := by
  intro document reference
  have refines : Refines (.new tenantId profileId config) document reference :=
    reachable_refines tenantId profileId config inputs
  obtain ⟨past, anchor, represents, -⟩ := refines.represented
  obtain ⟨compacted, -, -, -, done, -⟩ := represents.compactJournal
  refine ⟨?_, refines.replay, refines.short, ⟨compacted, done⟩, ?_⟩
  · cases refines.answers envelope with
    | refused why left right => rw [left, right]; rfl
    | replayed domain receipt applied same old left right => rw [left, right, ← same]; rfl
    | committed domain next applied appended commit new left right stands =>
      rw [left, right]; rfl
  · cases refines.answers envelope with
    | refused why left right => rw [right]; exact .inl rfl
    | replayed domain receipt applied same old left right => rw [right]; exact .inl rfl
    | committed domain next applied appended commit new left right stands =>
      obtain ⟨pushed, -, -, -, done, -⟩ :=
        (represents.push ⟨domain, applied.decision, commit.converted, commit.commits⟩).compactJournal
      exact .inr ⟨pushed, done⟩

end ProfilePlatform.Adapters
