import ProfilePlatform.Adapters.Recovery
import ProfilePlatform.Session.Ledger

/-! The alarm of the coordinator: set for the first Tick that changes anything. -/

set_option autoImplicit false

namespace ProfilePlatform.Adapters

open Foundation Session ProfileCoordinatorState

section Alarm

variable {state : ProfileCoordinatorState} {now : UnixMillis}

/-- One of the deadlines of the lease has passed. -/
def LeaseOver (state : ProfileCoordinatorState) (lease : CoordinatorLease) (now : UnixMillis) :
    Prop :=
  lease.idleExpiresAt ≤ now ∨ lease.hardExpiresAt ≤ now ∨
    ∃ deadline ∈ state.drainDeadline, deadline ≤ now

theorem nextAlarmAt_le_iff : (∃ alarm ∈ nextAlarmAt state, alarm ≤ now) ↔
    (∃ intent ∈ state.pendingIntent, intent.expiresAt ≤ now) ∨
      ∃ lease ∈ state.activeLease, LeaseOver state lease now := by
  have first : ∀ left right latest : Nat, (if left < right then left else right) ≤ latest ↔
      left ≤ latest ∨ right ≤ latest := by
    intro left right latest
    split <;> omega
  unfold nextAlarmAt LeaseOver
  cases state.pendingIntent <;> cases state.activeLease <;> cases state.drainDeadline <;>
    simp [first, or_comm, or_left_comm]

theorem nextAlarmAt_eq_none_iff : nextAlarmAt state = none ↔
    state.pendingIntent = none ∧ state.activeLease = none := by
  unfold nextAlarmAt
  cases state.pendingIntent <;> cases state.activeLease <;> simp

theorem not_quiet_iff (wellFormed : state.WellFormed) : ¬state.Quiet now ↔
    (∃ intent ∈ state.pendingIntent, intent.expiresAt ≤ now) ∨
      ∃ lease ∈ state.activeLease, LeaseOver state lease now := by
  constructor
  · intro loud
    by_contra none_
    obtain ⟨alive, inTime⟩ := not_or.mp none_
    refine loud ⟨fun intent pending => Nat.not_le.mp fun over_ => alive ⟨intent, pending, over_⟩, ?_⟩
    intro lease held
    have open_ : ¬LeaseOver state lease now := fun over_ => inTime ⟨lease, held, over_⟩
    obtain ⟨idle, hard, drain⟩ := (not_or.trans (and_congr_right fun _ => not_or)).mp open_
    exact ⟨Nat.not_le.mp idle, Nat.not_le.mp hard, fun _ deadline known =>
      Nat.not_le.mp fun over_ => drain ⟨deadline, known, over_⟩⟩
  · rintro (⟨intent, pending, over_⟩ | ⟨lease, held, over_⟩) ⟨alive, inTime⟩
    · exact absurd (alive intent pending) (Nat.not_lt.mpr over_)
    · obtain ⟨idle, hard, drain⟩ := inTime lease held
      rcases over_ with over_ | over_ | ⟨deadline, known, over_⟩
      · exact absurd idle (Nat.not_lt.mpr over_)
      · exact absurd hard (Nat.not_lt.mpr over_)
      · have draining := wellFormed.draining.mp (by rw [Option.mem_def.mp known]; rfl)
        exact absurd (drain draining deadline known) (Nat.not_lt.mpr over_)

theorem tick_changes_iff (wellFormed : state.WellFormed) :
    (∃ outcome after, state.applyNew (.tick now) = (.ok outcome, after) ∧ outcome ≠ .noChange) ↔
      ∃ alarm ∈ nextAlarmAt state, alarm ≤ now := by
  rw [nextAlarmAt_le_iff, ← not_quiet_iff wellFormed]
  constructor
  · rintro ⟨outcome, after, ticks, changes⟩ quiet
    cases ticks.symm.trans (tick_of_quiet quiet)
    exact changes rfl
  · exact tick_of_not_quiet

/-- What a Tick may take away. -/
structure SameHolding (state after : ProfileCoordinatorState) : Prop where
  status : after.status = state.status
  lease : after.activeLease = state.activeLease
  intent : after.pendingIntent = state.pendingIntent

/-- Without an alarm Ticks leave everything as it is, however many come and whenever. -/
theorem ticks_keep (quiet : nextAlarmAt state = none) (ticks : List CoordinatorCommandEnvelope)
    (only : ∀ envelope ∈ ticks, ∃ now, envelope.command = .tick now) :
    SameHolding state (coordinator.final state ticks) := by
  obtain ⟨noIntent, free⟩ := nextAlarmAt_eq_none_iff.mp quiet
  induction ticks generalizing state with
  | nil => exact ⟨rfl, rfl, rfl⟩
  | cons envelope rest ih =>
    have same : SameHolding state (state.apply envelope).2 := by
      rcases state.apply_cases envelope with ⟨why, refused⟩ | ⟨receipt, -, -, -, replayed⟩ |
        ⟨decision, next, commits, applied⟩
      · rw [refused]
        exact ⟨rfl, rfl, rfl⟩
      · rw [replayed]
        exact ⟨rfl, rfl, rfl⟩
      · obtain ⟨now, command⟩ := only envelope List.mem_cons_self
        obtain ⟨after, accepts, rfl⟩ := commits.transition
        rw [command] at accepts
        rw [applied]
        generalize decision.outcome = outcome at accepts
        cases accepts with
        | keep form => rcases form with ⟨impossible, -⟩ | ⟨impossible, -⟩ <;> cases impossible
        | timeout held looks due => cases free.symm.trans held
        | intentExpired pending lapsed => cases noIntent.symm.trans pending
        | quiet alive inTime => exact ⟨rfl, rfl, rfl⟩
    have kept := ih (nextAlarmAt_eq_none_iff.mpr ⟨same.intent.trans noIntent, same.lease.trans free⟩)
      (fun later member => only later (List.mem_cons_of_mem _ member))
      (same.intent.trans noIntent) (same.lease.trans free)
    exact ⟨kept.status.trans same.status, kept.lease.trans same.lease, kept.intent.trans same.intent⟩

/-- In every state that a document reaches, a Tick changes something exactly when the alarm of the
state is over. A state without an alarm is one that no later Ticks change. -/
theorem alarm_exact (tenantId : TenantId) (profileId : ProfileId) (config : CoordinatorConfig)
    (inputs : List StoredCoordinatorEnvelope) :
    ∃ state, (documents.final (.new tenantId profileId config) inputs).replay = .ok state ∧
      (∀ now, (∃ outcome after, state.applyNew (.tick now) = (.ok outcome, after) ∧
          outcome ≠ .noChange) ↔ ∃ alarm, nextAlarmAt state = some alarm ∧ alarm ≤ now) ∧
      (nextAlarmAt state = none → ∀ ticks : List CoordinatorCommandEnvelope,
        (∀ envelope ∈ ticks, ∃ now, envelope.command = .tick now) →
        SameHolding state (coordinator.final state ticks)) := by
  have refines := reachable_refines tenantId profileId config inputs
  exact ⟨_, refines.replay, fun now => tick_changes_iff refines.wellFormed, ticks_keep⟩

end Alarm

end ProfilePlatform.Adapters
