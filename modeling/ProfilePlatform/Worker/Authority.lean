import ProfilePlatform.Session.Ledger
import ProfilePlatform.Worker.ProfileCoordinator

/-! The authority of a generation writer, and the timers of its lease.

The check tests the deadlines by itself. It agrees with the state machine, which tests them in
another order before it lets a lease go.
-/

set_option autoImplicit false

namespace ProfilePlatform.Worker

open Foundation Session ProfileCoordinatorState

/-- The writer that a commit names is the one of the active lease, at the very state it has seen. -/
structure Names (state : ProfileCoordinatorState) (deviceId : DeviceId) (writer : Writer)
    (coordinatorVersion coordinatorSequence : Nat) (lease : CoordinatorLease) : Prop where
  version : coordinatorVersion = state.version.value
  sequence : coordinatorSequence = state.lastSequence
  held : state.activeLease = some lease
  device : deviceId = lease.deviceId
  writer : writer = lease.writer

section Authority

variable {state : ProfileCoordinatorState} {deviceId : DeviceId} {sessionId : SessionId}
  {epoch : Nat} {fencingToken : FencingToken} {coordinatorVersion coordinatorSequence : Nat}
  {authorizedAt : UnixMillis}

theorem authority_is_live_iff (wellFormed : state.WellFormed)
    (later : state.lastObservedAt ≤ authorizedAt) :
    coordinatorGenerationAuthorityIsLive state deviceId sessionId epoch fencingToken
        coordinatorVersion coordinatorSequence authorizedAt = true ↔
      ∃ lease, Names state deviceId ⟨sessionId, epoch, fencingToken⟩ coordinatorVersion
        coordinatorSequence lease ∧ state.InTime lease authorizedAt := by
  unfold coordinatorGenerationAuthorityIsLive
  cases held : state.activeLease with
  | none =>
    constructor
    · intro live
      split at live <;> cases live
    · rintro ⟨lease, names, -⟩
      cases held.symm.trans names.held
  | some lease =>
    have writing := wellFormed.leased.mp (by rw [held]; rfl)
    have active : (state.status == .active || state.status == .draining) = true := by
      rcases writing with active | draining <;> simp [*]
    have presented := lease.acceptsWriter_iff sessionId epoch fencingToken
    have drained : (state.status == .draining &&
        state.drainDeadline.all fun deadline => decide (authorizedAt ≥ deadline)) = true ↔
        ¬(state.status = .draining → ∀ deadline ∈ state.drainDeadline, authorizedAt < deadline) := by
      simp only [Bool.and_eq_true, beq_iff_eq]
      rcases Option.eq_none_or_eq_some state.drainDeadline with unset | ⟨deadline, set⟩
      · have other : state.status ≠ .draining := fun draining => by
          have known := wellFormed.draining.mpr draining
          rw [unset] at known
          cases known
        simp [other]
      · simp [set]
    constructor
    · intro live
      split at live
      · cases live
      next seen =>
        dsimp only at live
        split at live
        · cases live
        next named =>
          split at live
          · cases live
          next open_ =>
            simp only [active, Bool.not_true, Bool.false_or, Bool.or_eq_true, bne_iff_ne, ne_eq,
              decide_eq_true_eq, not_or, not_not] at seen
            simp only [Bool.or_eq_true, bne_iff_ne, ne_eq, Bool.not_eq_true', decide_eq_true_eq,
              not_or, not_not, Bool.not_eq_false, ge_iff_le, Nat.not_le] at named
            exact ⟨lease, ⟨seen.1.1.symm, seen.1.2.symm, held, named.1.1.1.symm,
              presented.mp named.1.1.2⟩, named.1.2, named.2,
              not_not.mp fun late => open_ (drained.mpr late)⟩
    · rintro ⟨other, names, inTime⟩
      cases held.symm.trans names.held
      have accepted := presented.mpr names.writer
      have open_ : ¬_ := fun late => drained.mp late inTime.drain
      rw [if_neg (by simp [active, names.version, names.sequence, Nat.not_lt.mpr later])]
      dsimp only
      rw [if_neg (by simp [names.device, accepted, inTime.idle, inTime.hard]), if_neg open_]

/-- In every reachable state the authority of a writer is live exactly when a Tick at that time
would leave its lease in place. For the writer of the lease it is gone exactly when its heartbeat
would time the lease out. -/
theorem authority_agrees_with_timers (tenantId : TenantId) (profileId : ProfileId)
    (config : CoordinatorConfig) (inputs : List CoordinatorCommandEnvelope) (deviceId : DeviceId)
    (sessionId : SessionId) (epoch : Nat) (fencingToken : FencingToken)
    (coordinatorVersion coordinatorSequence : Nat) (authorizedAt : UnixMillis)
    (later : (coordinator.final (.new tenantId profileId config) inputs).lastObservedAt ≤
      authorizedAt) :
    let state := coordinator.final (.new tenantId profileId config) inputs
    let live := coordinatorGenerationAuthorityIsLive state deviceId sessionId epoch fencingToken
      coordinatorVersion coordinatorSequence authorizedAt
    (live = true ↔ ∃ lease, Names state deviceId ⟨sessionId, epoch, fencingToken⟩
        coordinatorVersion coordinatorSequence lease ∧
      state.applyNew (.tick authorizedAt) = (.ok .noChange, state)) ∧
    ∀ lease, Names state deviceId ⟨sessionId, epoch, fencingToken⟩ coordinatorVersion
        coordinatorSequence lease →
      (live = false ↔ ∃ kind,
        (state.applyNew (.heartbeat sessionId epoch fencingToken authorizedAt)).1 =
          .ok (.timedOut kind)) := by
  intro state live
  have wellFormed : state.WellFormed := reachable_wellFormed tenantId profileId config inputs
  have inTime : live = true ↔ _ := authority_is_live_iff wellFormed later
  constructor
  · rw [inTime]
    refine exists_congr fun lease => and_congr_right fun names => ?_
    rw [← wellFormed.quiet_iff names.held]
    exact tick_quiet_iff.symm
  · intro lease names
    have same := names.writer
    obtain ⟨rfl, rfl, rfl⟩ : sessionId = lease.sessionId ∧ epoch = lease.epoch ∧
        fencingToken = lease.fencingToken := by
      cases same
      exact ⟨rfl, rfl, rfl⟩
    have times := heartbeat_times_out_iff wellFormed names.held later false
    show live = false ↔ ∃ kind, (state.heartbeat lease.sessionId lease.epoch lease.fencingToken
      authorizedAt false).1 = .ok (.timedOut kind)
    rw [times, ← Bool.not_eq_true, inTime]
    constructor
    · exact fun gone inTime => gone ⟨lease, names, inTime⟩
    · rintro late ⟨other, named, inTime⟩
      cases names.held.symm.trans named.held
      exact late inTime

end Authority

namespace SampleAuthority

def tenant : TenantId := ⟨⟨"tenant-authority", by decide⟩⟩
def profile : ProfileId := ⟨⟨"profile-authority", by decide⟩⟩
def actor : ActorId := ⟨⟨"actor-authority", by decide⟩⟩
def device : DeviceId := ⟨⟨"device-authority", by decide⟩⟩
def intent : LaunchIntentId := ⟨⟨"intent-authority", by decide⟩⟩
def session : SessionId := ⟨⟨"session-authority", by decide⟩⟩
def token : FencingToken := ⟨⟨"token-authority", by decide⟩⟩

def timeouts : CoordinatorConfig :=
  ⟨31000, 910000, 61000, by decide, by decide, by decide, by decide⟩

/-- An intent is claimed, and the session begins to drain. -/
def inputs : List CoordinatorCommandEnvelope := [
  ⟨⟨⟨"key-authority-1", by decide⟩⟩, 1, ⟨1, Nat.one_ne_zero⟩,
    .issueLaunchIntent intent actor device 1000 5000, Nat.one_ne_zero⟩,
  ⟨⟨⟨"key-authority-2", by decide⟩⟩, 2, ⟨2, Nat.succ_ne_zero 1⟩,
    .claim intent actor device session token 2000, Nat.succ_ne_zero 1⟩,
  ⟨⟨⟨"key-authority-3", by decide⟩⟩, 3, ⟨3, Nat.succ_ne_zero 2⟩, .beginDrain 3000,
    Nat.succ_ne_zero 2⟩]

end SampleAuthority

open SampleAuthority in
theorem authority_agrees_with_timers_draining :
    ∃ kind, ((coordinator.final (.new tenant profile timeouts) inputs).applyNew
      (.heartbeat session 1 token 33000)).1 = .ok (.timedOut kind) := by
  refine ((authority_agrees_with_timers tenant profile timeouts inputs device session 1 token 4 3
    33000 (by decide)).2 ⟨session, device, 1, token, 2000, 2000, 33000, 912000⟩ ?_).mp (by decide)
  exact ⟨by decide, by decide, by decide, by decide, by decide⟩

end ProfilePlatform.Worker
