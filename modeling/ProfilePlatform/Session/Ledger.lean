import ProfilePlatform.Session.Invariant

/-! The ledger of a run: the receipts of everything that took effect, oldest first.

A state keeps the recent end of the ledger, and it remembers at most one receipt
under a key. Properties of runs are proved along the ledger, one commit at a time.
-/

set_option autoImplicit false

namespace ProfilePlatform.Session

open Foundation ProfileCoordinatorState

/-- The receipt of a step that took effect; a refused or a replayed one has none. -/
def taken (entry : CoordinatorEntry) : Option CommandReceipt :=
  match entry.output with
  | .error _ => none
  | .ok decision =>
    if decision.sequence > entry.before.lastSequence then some (entry.input.receipt decision)
    else none

def ledger (history : List CoordinatorEntry) : List CommandReceipt :=
  history.filterMap taken

namespace ProfileCoordinatorState

variable {s t : ProfileCoordinatorState} {envelope : CoordinatorCommandEnvelope}
  {decision : CoordinatorDecision}

/-- The receipts are of decisions the state has already counted. -/
def Remembers (s : ProfileCoordinatorState) : Prop :=
  ∀ receipt ∈ s.receipts, receipt.decision.sequence ≤ s.lastSequence

theorem Commits.remembers (commits : s.Commits envelope decision t) (remembers : s.Remembers) :
    t.Remembers := by
  have sequence : t.lastSequence = s.lastSequence + 1 := commits.advances.2.2.1
  intro receipt retained
  rw [commits.receipts_eq] at retained
  rcases mem_pushBounded retained with old | rfl
  · have := remembers receipt old
    omega
  · have : (envelope.receipt decision).decision.sequence = envelope.sequence := commits.numbered
    have := commits.inSequence
    omega

/-- A retained receipt is the only one under its key. -/
def Keeps (s : ProfileCoordinatorState) (receipt : CommandReceipt) : Prop :=
  receipt ∈ s.receipts →
    ∀ other ∈ s.receipts, other.idempotencyKey = receipt.idempotencyKey → other = receipt

theorem receiptFor_of_keeps {receipt : CommandReceipt} (keeps : s.Keeps receipt)
    (retained : receipt ∈ s.receipts) :
    s.receiptFor receipt.idempotencyKey = some receipt := by
  cases found : s.receiptFor receipt.idempotencyKey with
  | none => simpa using List.find?_eq_none.mp found receipt retained
  | some other =>
    obtain ⟨member, sameKey⟩ := receiptFor_eq_some found
    rw [keeps retained other member sameKey]

theorem Commits.fresh_key (commits : s.Commits envelope decision t) {receipt : CommandReceipt}
    (retained : receipt ∈ s.receipts) : receipt.idempotencyKey ≠ envelope.idempotencyKey := by
  simpa using List.find?_eq_none.mp commits.fresh receipt retained

theorem Commits.keeps_new (commits : s.Commits envelope decision t) :
    t.Keeps (envelope.receipt decision) := by
  intro _ other member sameKey
  rw [commits.receipts_eq] at member
  rcases mem_pushBounded member with old | same
  · exact absurd sameKey (commits.fresh_key old)
  · exact same

theorem Commits.keeps {receipt : CommandReceipt} (commits : s.Commits envelope decision t)
    (keeps : s.Keeps receipt) : t.Keeps receipt := by
  intro retained other member sameKey
  rw [commits.receipts_eq] at retained member
  rcases mem_pushBounded retained with old | rfl
  -- a fresh key meets no retained receipt, so two under one key are both old or both new
  · rcases mem_pushBounded member with otherOld | rfl
    · exact keeps old other otherOld sameKey
    · exact absurd sameKey.symm (commits.fresh_key old)
  · rcases mem_pushBounded member with otherOld | same
    · exact absurd sameKey (commits.fresh_key otherOld)
    · exact same

end ProfileCoordinatorState

theorem taken_commit {s t : ProfileCoordinatorState} {envelope : CoordinatorCommandEnvelope}
    {decision : CoordinatorDecision} (commits : s.Commits envelope decision t) :
    taken (coordinator.entry s envelope) = some (envelope.receipt decision) := by
  have later : decision.sequence > s.lastSequence := by
    rw [commits.numbered, commits.inSequence]
    exact Nat.lt_succ_self _
  have output : (s.apply envelope).1 = .ok decision := by rw [apply_of_commits commits]
  simp only [taken, Machine.entry, coordinator, output]
  exact if_pos later

/-- The run rule of the ledger: an invariant that every commit carries over to
the longer ledger holds at the end of every run. -/
theorem ledger_invariant (Inv : List CommandReceipt → ProfileCoordinatorState → Prop)
    {s : ProfileCoordinatorState} (remembers : s.Remembers) (start : Inv [] s)
    (step : ∀ {past t envelope decision u}, Inv past t → Commits t envelope decision u →
      Inv (past ++ [envelope.receipt decision]) u)
    (inputs : List CoordinatorCommandEnvelope) :
    Inv (ledger (coordinator.history s inputs)) (coordinator.final s inputs) := by
  refine (coordinator.history_invariant (fun past t => t.Remembers ∧ Inv (ledger past) t)
    ⟨remembers, start⟩ ?_ inputs).2
  rintro past t envelope ⟨known, holds⟩
  have appended : ledger (past ++ [coordinator.entry t envelope]) =
      ledger past ++ (taken (coordinator.entry t envelope)).toList := by
    cases now : taken (coordinator.entry t envelope) <;>
      simp [ledger, List.filterMap_append, now]
  rw [appended]
  rcases t.apply_cases envelope with ⟨why, refused⟩ | ⟨receipt, retained, -, -, replayed⟩ |
    ⟨decision, u, commits, applied⟩
  · have none : taken (coordinator.entry t envelope) = none := by
      simp [taken, Machine.entry, coordinator, refused]
    have same : (coordinator.step t envelope).2 = t := congrArg Prod.snd refused
    rw [none, same]
    simpa using ⟨known, holds⟩
  -- a replayed decision is one the state has already counted, so nothing is taken
  · have counted := Nat.not_lt.mpr (known receipt retained)
    have none : taken (coordinator.entry t envelope) = none := by
      simp [taken, Machine.entry, coordinator, replayed, counted]
    have same : (coordinator.step t envelope).2 = t := congrArg Prod.snd replayed
    rw [none, same]
    simpa using ⟨known, holds⟩
  · have stepped : (coordinator.step t envelope).2 = u := congrArg Prod.snd applied
    rw [taken_commit commits, stepped]
    exact ⟨commits.remembers known, step holds commits⟩

theorem lastSequence_monotone (s : ProfileCoordinatorState)
    (inputs : List CoordinatorCommandEnvelope) :
    s.lastSequence ≤ (coordinator.final s inputs).lastSequence := by
  refine coordinator.monotone (fun s t => s.lastSequence ≤ t.lastSequence)
    (fun _ => Nat.le_refl _) (fun _ _ _ => Nat.le_trans) ?_ s inputs
  intro t envelope
  refine apply_invariant (fun u => t.lastSequence ≤ u.lastSequence) ?_ t envelope
    (Nat.le_refl t.lastSequence)
  intro u v other decision commits before
  have := commits.advances.2.2.1
  omega

theorem keeps_run {s : ProfileCoordinatorState} {receipt : CommandReceipt}
    (keeps : s.Keeps receipt) (inputs : List CoordinatorCommandEnvelope) :
    (coordinator.final s inputs).Keeps receipt :=
  coordinator.invariant (fun t => t.Keeps receipt)
    (apply_invariant _ fun commits keeps => commits.keeps keeps) keeps inputs

theorem new_remembers (tenantId : TenantId) (profileId : ProfileId) (config : CoordinatorConfig) :
    (new tenantId profileId config).Remembers :=
  fun _ retained => nomatch retained

theorem receipts_eq_ledger (tenantId : TenantId) (profileId : ProfileId)
    (config : CoordinatorConfig) (inputs : List CoordinatorCommandEnvelope) :
    (coordinator.final (new tenantId profileId config) inputs).receipts =
      (ledger (coordinator.history (new tenantId profileId config) inputs)).rtake receiptLimit := by
  refine ledger_invariant (fun past t => t.receipts = past.rtake receiptLimit)
    (new_remembers tenantId profileId config) rfl ?_ inputs
  intro past t envelope decision u window commits
  rw [commits.receipts_eq, window, pushBounded_rtake]

end ProfilePlatform.Session

/-! When a deadline is over, said once for every command that looks at it. -/

namespace ProfilePlatform.Session.ProfileCoordinatorState

open Foundation

variable {s t : ProfileCoordinatorState} {lease : CoordinatorLease} {now : UnixMillis}

/-- No deadline of the lease has passed. -/
structure InTime (s : ProfileCoordinatorState) (lease : CoordinatorLease) (now : UnixMillis) :
    Prop where
  idle : now < lease.idleExpiresAt
  hard : now < lease.hardExpiresAt
  drain : s.status = .draining → ∀ deadline ∈ s.drainDeadline, now < deadline

theorem timeoutKind_eq_none_iff : s.timeoutKind lease now = none ↔ s.InTime lease now := by
  constructor
  · intro quiet
    obtain ⟨hard, idle⟩ := timeoutKind_none quiet
    refine ⟨idle, hard, fun draining deadline known => Nat.not_le.mp fun over_ => ?_⟩
    unfold timeoutKind at quiet
    have passed : (s.status == .draining &&
        s.drainDeadline.any fun deadline => decide (now ≥ deadline)) = true := by
      rw [draining, Option.mem_def.mp known]
      simpa using over_
    rw [if_pos passed] at quiet
    cases quiet
  · rintro ⟨idle, hard, drain⟩
    have open_ : ¬(s.status == .draining &&
        s.drainDeadline.any fun deadline => decide (now ≥ deadline)) = true := by
      simp only [Bool.and_eq_true, beq_iff_eq, Option.any_eq_true, decide_eq_true_eq, not_and,
        not_exists]
      exact fun draining deadline known => Nat.not_le.mpr (drain draining deadline known)
    unfold timeoutKind
    rw [if_neg open_, if_neg (Nat.not_le.mpr hard), if_neg (Nat.not_le.mpr idle)]

theorem timeoutIfDue_of_inTime (inTime : ∀ lease, s.activeLease = some lease → s.InTime lease now) :
    s.timeoutIfDue now = (none, s) := by
  unfold timeoutIfDue
  cases held : s.activeLease with
  | none => rfl
  | some lease =>
    dsimp only
    rw [timeoutKind_eq_none_iff.mpr (inTime lease held)]

theorem timeoutIfDue_of_late (held : s.activeLease = some lease) (late : ¬s.InTime lease now) :
    ∃ kind, s.timeoutIfDue now = (some (.timedOut kind), s.expired) := by
  cases due : s.timeoutKind lease now with
  | none => exact absurd (timeoutKind_eq_none_iff.mp due) late
  | some kind =>
    refine ⟨kind, ?_⟩
    unfold timeoutIfDue
    simp only [held, due]
    rfl

/-- Nothing has run out: neither the intent nor the lease. -/
def Quiet (s : ProfileCoordinatorState) (now : UnixMillis) : Prop :=
  s.intentAlive now ∧ ∀ lease, s.activeLease = some lease → s.InTime lease now

theorem tick_of_quiet (quiet : s.Quiet now) : s.tick now = (.ok .noChange, s) := by
  obtain ⟨alive, inTime⟩ := quiet
  have pending : ¬s.pendingIntent.any (fun intent => decide (now ≥ intent.expiresAt)) = true := by
    simp only [Option.any_eq_true, decide_eq_true_eq, not_exists, not_and]
    exact fun intent known => Nat.not_le.mpr (alive intent known)
  unfold tick
  rw [if_neg pending, timeoutIfDue_of_inTime inTime]
  rfl

theorem tick_of_not_quiet (loud : ¬s.Quiet now) :
    ∃ outcome after, s.tick now = (.ok outcome, after) ∧ outcome ≠ .noChange := by
  unfold tick
  split
  next => exact ⟨_, _, rfl, by simp⟩
  next pending =>
    simp only [Option.any_eq_true, decide_eq_true_eq, not_exists, not_and, Nat.not_le] at pending
    obtain ⟨lease, held, late⟩ : ∃ lease, s.activeLease = some lease ∧ ¬s.InTime lease now := by
      by_contra none_
      simp only [not_exists, not_and, not_not] at none_
      exact loud ⟨pending, none_⟩
    obtain ⟨kind, timed⟩ := timeoutIfDue_of_late held late
    rw [timed]
    exact ⟨_, _, rfl, by simp⟩

theorem tick_quiet_iff : s.tick now = (.ok .noChange, s) ↔ s.Quiet now := by
  refine ⟨fun ticks => ?_, tick_of_quiet⟩
  by_contra loud
  obtain ⟨outcome, after, other, changes⟩ := tick_of_not_quiet loud
  rw [other] at ticks
  cases ticks
  exact changes rfl

theorem WellFormed.quiet_iff (wellFormed : s.WellFormed) (held : s.activeLease = some lease) :
    s.Quiet now ↔ s.InTime lease now := by
  constructor
  · exact fun quiet => quiet.2 lease held
  · intro inTime
    refine ⟨fun intent pending => ?_, fun other same => ?_⟩
    · cases held.symm.trans (wellFormed.pending (by rw [pending]; rfl)).2
    · cases held.symm.trans same
      exact inTime

/-- A heartbeat of the writer times the lease out exactly when a deadline of it has passed. -/
theorem heartbeat_times_out_iff (wellFormed : s.WellFormed) (held : s.activeLease = some lease)
    (later : s.lastObservedAt ≤ now) (renewHard : Bool) :
    (∃ kind, (s.heartbeat lease.sessionId lease.epoch lease.fencingToken now renewHard).1 =
      .ok (.timedOut kind)) ↔ ¬s.InTime lease now := by
  have writing := wellFormed.leased.mp (by rw [held]; rfl)
  have active : ¬(!(s.status == .active || s.status == .draining)) = true := by
    rcases writing with active | draining <;> simp [*]
  have accepted : lease.acceptsWriter lease.sessionId lease.epoch lease.fencingToken = true :=
    (lease.acceptsWriter_iff ..).mpr rfl
  have ordered : ¬now < lease.lastHeartbeatAt :=
    Nat.not_lt.mpr (Nat.le_trans (wellFormed.observed lease held) later)
  unfold heartbeat
  rw [if_neg active]
  simp only [held, accepted, Bool.not_true, Bool.false_eq_true, if_false, if_neg ordered]
  by_cases inTime : s.InTime lease now
  · rw [timeoutIfDue_of_inTime fun other same => by cases held.symm.trans same; exact inTime]
    refine ⟨fun ⟨kind, impossible⟩ => ?_, fun late => absurd inTime late⟩
    dsimp only at impossible
    split at impossible
    · cases impossible
    split at impossible
    · cases impossible
    · simp only [held] at impossible
      cases impossible
  · obtain ⟨kind, timed⟩ := timeoutIfDue_of_late held inTime
    rw [timed]
    exact ⟨fun _ => inTime, fun _ => ⟨kind, rfl⟩⟩

end ProfilePlatform.Session.ProfileCoordinatorState
