import ProfilePlatform.Foundation.Machine
import ProfilePlatform.Session.Transitions

/-! Applying an envelope: refused, replayed or committed.

A commit is the only thing that changes a coordinator. Runs of the coordinator
are read through their ledger, the receipts of all commits in order. The bounded
receipts of a state are the recent end of it.
-/

set_option autoImplicit false

namespace ProfilePlatform.Session

open Foundation

def CoordinatorCommandEnvelope.receipt (envelope : CoordinatorCommandEnvelope)
    (decision : CoordinatorDecision) : CommandReceipt where
  idempotencyKey := envelope.idempotencyKey
  sequence := envelope.sequence
  command := envelope.command
  decision := decision

namespace ProfileCoordinatorState

variable {s t : ProfileCoordinatorState} {envelope : CoordinatorCommandEnvelope}
  {decision : CoordinatorDecision}

/-- The state once an accepted transition is on record. -/
def recorded (after : ProfileCoordinatorState) (envelope : CoordinatorCommandEnvelope)
    (decision : CoordinatorDecision) : ProfileCoordinatorState :=
  { after with
    version := decision.version
    lastSequence := envelope.sequence
    lastObservedAt := envelope.command.observedAt
    receipts := pushBounded receiptLimit after.receipts (envelope.receipt decision) }

/-- A fresh envelope the state accepts, with the decision and the state it leads to. -/
structure Commits (s : ProfileCoordinatorState) (envelope : CoordinatorCommandEnvelope)
    (decision : CoordinatorDecision) (t : ProfileCoordinatorState) : Prop where
  fresh : s.receiptFor envelope.idempotencyKey = none
  inSequence : envelope.sequence = s.lastSequence + 1
  sequenceFits : s.lastSequence + 1 < u64Limit
  atVersion : envelope.expectedVersion = s.version
  inOrder : s.lastObservedAt ≤ envelope.command.observedAt
  nextVersion : s.version.next = some decision.version
  numbered : decision.sequence = envelope.sequence
  transition : ∃ after, s.Accepts envelope.command decision.outcome after ∧
    t = after.recorded envelope decision

theorem apply_of_commits (commits : s.Commits envelope decision t) :
    s.apply envelope = (.ok decision, t) := by
  obtain ⟨after, accepts, rfl⟩ := commits.transition
  have counted := checkedAdd_eq_some.mpr ⟨rfl, commits.sequenceFits⟩
  have numbered : CoordinatorDecision.mk decision.version envelope.sequence decision.outcome =
      decision := by
    rw [← commits.numbered]
  simp only [apply, commits.fresh, counted]
  rw [if_neg (not_not_intro commits.inSequence), if_neg (not_not_intro commits.atVersion),
    if_neg (Nat.not_lt.mpr commits.inOrder)]
  simp only [commits.nextVersion, applyNew_of_accepts accepts, numbered]
  rfl

/-- A receipt answers the envelope it was made for. -/
def Answers (receipt : CommandReceipt) (envelope : CoordinatorCommandEnvelope) : Prop :=
  receipt.idempotencyKey = envelope.idempotencyKey ∧ receipt.sequence = envelope.sequence ∧
    receipt.command = envelope.command

theorem receiptFor_eq_some {key : IdempotencyKey} {receipt : CommandReceipt}
    (found : s.receiptFor key = some receipt) :
    receipt ∈ s.receipts ∧ receipt.idempotencyKey = key :=
  ⟨List.mem_of_find?_eq_some found, by simpa using List.find?_some found⟩

/-- Everything one application can do. The error exits lie before the
transition or inside a refused one, and a refused transition moves nothing. -/
theorem apply_cases (s : ProfileCoordinatorState) (envelope : CoordinatorCommandEnvelope) :
    (∃ why, s.apply envelope = (.error why, s)) ∨
    (∃ receipt ∈ s.receipts, Answers receipt envelope ∧
      s.receiptFor envelope.idempotencyKey = some receipt ∧
      s.apply envelope = (.ok receipt.decision, s)) ∨
    ∃ decision t, s.Commits envelope decision t ∧ s.apply envelope = (.ok decision, t) := by
  unfold apply
  split
  next receipt found =>
    obtain ⟨retained, sameKey⟩ := receiptFor_eq_some found
    split
    next same => exact .inr (.inl ⟨receipt, retained, ⟨sameKey, same⟩, found, rfl⟩)
    next => exact .inl ⟨_, rfl⟩
  next fresh =>
  split
  · exact .inl ⟨_, rfl⟩
  next expectedSequence counted =>
  split
  · exact .inl ⟨_, rfl⟩
  next inSequence =>
  split
  · exact .inl ⟨_, rfl⟩
  next atVersion =>
  split
  · exact .inl ⟨_, rfl⟩
  next inOrder =>
  split
  · exact .inl ⟨_, rfl⟩
  next nextVersion advanced =>
  split
  next why after refused =>
    -- the method failed, and a failing method has written nothing
    obtain rfl := applyNew_error refused
    exact .inl ⟨why, rfl⟩
  next outcome after accepted =>
    obtain ⟨rfl, sequenceFits⟩ := checkedAdd_eq_some.mp counted
    refine .inr (.inr ⟨_, _, ?_, rfl⟩)
    exact {
      fresh
      inSequence := Decidable.not_not.mp inSequence
      sequenceFits
      atVersion := Decidable.not_not.mp atVersion
      inOrder := Nat.not_lt.mp inOrder
      nextVersion := advanced
      numbered := rfl
      transition := ⟨after, accepts_of_applyNew accepted, rfl⟩ }

theorem Commits.advances (commits : s.Commits envelope decision t) :
    t.version = decision.version ∧ t.version.value = s.version.value + 1 ∧
      t.lastSequence = s.lastSequence + 1 ∧ t.lastObservedAt = envelope.command.observedAt := by
  obtain ⟨after, -, rfl⟩ := commits.transition
  exact ⟨rfl, (AggregateVersion.next_eq_some commits.nextVersion).1, commits.inSequence, rfl⟩

theorem Commits.receipts_eq (commits : s.Commits envelope decision t) :
    t.receipts = pushBounded receiptLimit s.receipts (envelope.receipt decision) := by
  obtain ⟨after, accepts, rfl⟩ := commits.transition
  obtain ⟨-, -, -, receipts⟩ := accepts.frame
  rw [← receipts]
  rfl

theorem Commits.identity (commits : s.Commits envelope decision t) :
    t.tenantId = s.tenantId ∧ t.profileId = s.profileId ∧ t.config = s.config := by
  obtain ⟨after, accepts, rfl⟩ := commits.transition
  obtain ⟨tenant, profile, config, -⟩ := accepts.frame
  exact ⟨tenant, profile, config⟩

theorem Commits.remembering (commits : s.Commits envelope decision t)
    {receipts : List CommandReceipt} (recent : receipts <:+ s.receipts) :
    (s.remembering receipts).Commits envelope decision
      (t.remembering (pushBounded receiptLimit receipts (envelope.receipt decision))) := by
  obtain ⟨after, accepts, rfl⟩ := commits.transition
  refine { commits with fresh := ?_, transition := ?_ }
  · have none := List.find?_eq_none.mp commits.fresh
    exact List.find?_eq_none.mpr fun receipt member => none receipt (recent.subset member)
  · exact ⟨after.remembering receipts, accepts.remembering receipts, rfl⟩

/-- The state refuses the envelope and stays as it is. -/
def Refuses (s : ProfileCoordinatorState) (envelope : CoordinatorCommandEnvelope) : Prop :=
  ∃ why, s.apply envelope = (.error why, s)

/-- A retained receipt answers the envelope and the state stays as it is. -/
def Replays (s : ProfileCoordinatorState) (envelope : CoordinatorCommandEnvelope) : Prop :=
  ∃ receipt ∈ s.receipts, Answers receipt envelope ∧ s.apply envelope = (.ok receipt.decision, s)

/-- The envelope gets a new decision and the counters advance by one. -/
def Advances (s : ProfileCoordinatorState) (envelope : CoordinatorCommandEnvelope) : Prop :=
  ∃ decision t, s.apply envelope = (.ok decision, t) ∧
    decision.version = t.version ∧ decision.sequence = t.lastSequence ∧
    t.version.value = s.version.value + 1 ∧ t.lastSequence = s.lastSequence + 1 ∧
    t.lastObservedAt = envelope.command.observedAt

theorem Commits.toAdvances (commits : s.Commits envelope decision t) : s.Advances envelope := by
  obtain ⟨version, next, sequence, observed⟩ := commits.advances
  have numbered : decision.sequence = t.lastSequence := by
    rw [commits.numbered, commits.inSequence, sequence]
  exact ⟨decision, t, apply_of_commits commits, version.symm, numbered, next, sequence, observed⟩

end ProfileCoordinatorState

open ProfileCoordinatorState

/-- The coordinator as a machine over envelopes. -/
def coordinator : Machine ProfileCoordinatorState CoordinatorCommandEnvelope
    (Except CoordinatorError CoordinatorDecision) where
  step := ProfileCoordinatorState.apply

abbrev CoordinatorEntry :=
  Entry ProfileCoordinatorState CoordinatorCommandEnvelope
    (Except CoordinatorError CoordinatorDecision)

theorem coordinator_changed {s : ProfileCoordinatorState} {envelope : CoordinatorCommandEnvelope}
    (changed : (s.apply envelope).2 ≠ s) :
    ∃ decision t, s.Commits envelope decision t ∧ s.apply envelope = (.ok decision, t) := by
  rcases s.apply_cases envelope with ⟨why, refused⟩ | ⟨receipt, -, -, -, replayed⟩ | committed
  · exact absurd (congrArg Prod.snd refused) changed
  · exact absurd (congrArg Prod.snd replayed) changed
  · exact committed

/-- The key and sequence of every envelope that changed the state. -/
def effects (history : List CoordinatorEntry) : List (IdempotencyKey × Nat) :=
  (history.filter fun entry => entry.before ≠ entry.after).map fun entry =>
    (entry.input.idempotencyKey, entry.input.sequence)

theorem effects_unchanged (past : List CoordinatorEntry) {entry : CoordinatorEntry}
    (same : entry.before = entry.after) : effects (past ++ [entry]) = effects past := by
  simp [effects, same]

theorem effects_changed (past : List CoordinatorEntry) {entry : CoordinatorEntry}
    (changed : entry.before ≠ entry.after) :
    effects (past ++ [entry]) =
      effects past ++ [(entry.input.idempotencyKey, entry.input.sequence)] := by
  simp [effects, changed]

/-- Effects are numbered upwards: each one has a sequence no earlier one had. -/
theorem effects_invariant (s : ProfileCoordinatorState)
    (inputs : List CoordinatorCommandEnvelope) :
    (effects (coordinator.history s inputs)).Nodup ∧
      ∀ effect ∈ effects (coordinator.history s inputs),
        effect.2 ≤ (coordinator.final s inputs).lastSequence := by
  refine coordinator.history_invariant
    (fun past t => (effects past).Nodup ∧ ∀ effect ∈ effects past, effect.2 ≤ t.lastSequence)
    ⟨.nil, fun _ member => nomatch member⟩ ?_ inputs
  rintro past t envelope ⟨distinct, bounded⟩
  by_cases same : t = (t.apply envelope).2
  · rw [effects_unchanged past same]
    refine ⟨distinct, ?_⟩
    simp only [coordinator]
    rwa [← same]
  · obtain ⟨decision, u, commits, applied⟩ := coordinator_changed (Ne.symm same)
    have sequence : u.lastSequence = t.lastSequence + 1 := commits.advances.2.2.1
    have stepped : (coordinator.step t envelope).2 = u := congrArg Prod.snd applied
    rw [effects_changed past same, stepped]
    constructor
    · -- the new sequence exceeds everything the run has counted so far
      refine List.nodup_append.mpr ⟨distinct, List.pairwise_singleton _ _, ?_⟩
      rintro effect earlier new now rfl
      obtain rfl := List.mem_singleton.mp now
      have earlierBound : envelope.sequence ≤ t.lastSequence := bounded _ earlier
      have := commits.inSequence
      omega
    · intro effect member
      rcases List.mem_append.mp member with earlier | now
      · have := bounded _ earlier
        omega
      · obtain rfl := List.mem_singleton.mp now
        exact Nat.le_of_eq (commits.inSequence.trans sequence.symm)

/-- Application is atomic, and no envelope takes effect twice in any run. -/
theorem apply_atomic_at_most_once :
    (∀ (s : ProfileCoordinatorState) (envelope : CoordinatorCommandEnvelope),
      s.Refuses envelope ∧ ¬s.Replays envelope ∧ ¬s.Advances envelope ∨
      ¬s.Refuses envelope ∧ s.Replays envelope ∧ ¬s.Advances envelope ∨
      ¬s.Refuses envelope ∧ ¬s.Replays envelope ∧ s.Advances envelope) ∧
    ∀ (s : ProfileCoordinatorState) (inputs : List CoordinatorCommandEnvelope),
      (effects (coordinator.history s inputs)).Nodup := by
  refine ⟨fun s envelope => ?_, fun s inputs => (effects_invariant s inputs).1⟩
  have refusesNotOk {decision t} (ok : s.apply envelope = (.ok decision, t)) :
      ¬s.Refuses envelope := by
    rintro ⟨why, refused⟩
    rw [ok] at refused
    cases refused
  have replaysNotAdvances : s.Replays envelope → ¬s.Advances envelope := by
    rintro ⟨receipt, -, -, replayed⟩ ⟨decision, t, applied, -, -, -, sequence, -⟩
    rw [replayed] at applied
    cases applied
    omega
  rcases s.apply_cases envelope with ⟨why, refused⟩ | ⟨receipt, retained, answers, -, replayed⟩ |
    ⟨decision, t, commits, applied⟩
  · refine .inl ⟨⟨why, refused⟩, ?_, ?_⟩
    · rintro ⟨receipt, -, -, replayed⟩
      exact refusesNotOk replayed ⟨why, refused⟩
    · rintro ⟨decision, t, applied, -⟩
      exact refusesNotOk applied ⟨why, refused⟩
  · have replays : s.Replays envelope := ⟨receipt, retained, answers, replayed⟩
    exact .inr (.inl ⟨refusesNotOk replayed, replays, replaysNotAdvances replays⟩)
  · have advances := commits.toAdvances
    exact .inr (.inr ⟨refusesNotOk applied, fun replays => replaysNotAdvances replays advances,
      advances⟩)

end ProfilePlatform.Session
