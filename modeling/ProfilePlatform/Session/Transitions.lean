import ProfilePlatform.Session.Coordinator

/-! What one coordinator command can do.

`Accepts` lists every transition the methods can take, with the guards under
which they take it. Each method is inverted into it once; invariants and run
properties are then case analyses over `Accepts` and never open a method.
-/

set_option autoImplicit false

namespace ProfilePlatform.Session

open Foundation

/-- The lease authority a command presents. -/
structure Writer where
  sessionId : SessionId
  epoch : Nat
  fencingToken : FencingToken
  deriving DecidableEq

namespace CoordinatorCommand

def writer : CoordinatorCommand → Option Writer
  | .heartbeat sessionId epoch fencingToken _ => some ⟨sessionId, epoch, fencingToken⟩
  | .renewLease sessionId epoch fencingToken _ => some ⟨sessionId, epoch, fencingToken⟩
  | .release sessionId epoch fencingToken _ _ => some ⟨sessionId, epoch, fencingToken⟩
  | _ => none

def isClaim : CoordinatorCommand → Bool
  | .claim .. => true
  | _ => false

end CoordinatorCommand

def CoordinatorLease.writer (lease : CoordinatorLease) : Writer :=
  ⟨lease.sessionId, lease.epoch, lease.fencingToken⟩

theorem CoordinatorLease.acceptsWriter_iff (lease : CoordinatorLease) (sessionId : SessionId)
    (epoch : Nat) (fencingToken : FencingToken) :
    lease.acceptsWriter sessionId epoch fencingToken = true ↔
      (⟨sessionId, epoch, fencingToken⟩ : Writer) = lease.writer := by
  simp only [acceptsWriter, writer, Bool.and_eq_true, beq_iff_eq, Writer.mk.injEq]
  constructor
  · rintro ⟨⟨session, sameEpoch⟩, token⟩
    exact ⟨session.symm, sameEpoch.symm, token.symm⟩
  · rintro ⟨session, sameEpoch, token⟩
    exact ⟨⟨session.symm, sameEpoch.symm⟩, token.symm⟩

theorem addMillis_eq_ok {value sum : UnixMillis} {delta : Nat} :
    addMillis value delta = .ok sum ↔ sum = value + delta ∧ value + delta < u64Limit := by
  unfold addMillis
  split
  next found => rw [Except.ok.injEq, eq_comm, ← checkedAdd_eq_some, found, Option.some.injEq, eq_comm]
  next missing =>
    refine ⟨fun impossible => (nomatch impossible), fun sums => ?_⟩
    rw [checkedAdd_eq_some.mpr sums] at missing
    cases missing

namespace ProfileCoordinatorState

/-- The lease is gone and its outcome unknown. -/
def expired (s : ProfileCoordinatorState) : ProfileCoordinatorState :=
  { s with activeLease := none, pendingIntent := none, drainDeadline := none, status := .uncertain }

def writing (s : ProfileCoordinatorState) : Prop := s.status = .active ∨ s.status = .draining

/-- No command but Tick forgets an intent that is over. -/
def intentAlive (s : ProfileCoordinatorState) (now : UnixMillis) : Prop :=
  ∀ intent, s.pendingIntent = some intent → now < intent.expiresAt

/-- The guards a command passes before it looks at the deadlines of the lease. -/
def looksAtDeadlines (s : ProfileCoordinatorState) (lease : CoordinatorLease) :
    CoordinatorCommand → Prop
  | .heartbeat sessionId epoch fencingToken now | .renewLease sessionId epoch fencingToken now =>
    s.writing ∧ lease.lastHeartbeatAt ≤ now ∧
      (⟨sessionId, epoch, fencingToken⟩ : Writer) = lease.writer
  | .release sessionId epoch fencingToken _ _ =>
    (⟨sessionId, epoch, fencingToken⟩ : Writer) = lease.writer
  | .beginDrain _ => s.status = .active
  | .tick now => s.intentAlive now
  | _ => False

/-- The transitions of a state: command, outcome and the state it leads to. -/
inductive Accepts (s : ProfileCoordinatorState) :
    CoordinatorCommand → CoordinatorOutcome → ProfileCoordinatorState → Prop where
  | issue {launchIntentId actorId deviceId now expiresAt}
      (future : now < expiresAt) (free : s.activeLease = none) (idle : s.status = .idle)
      (noLive : s.intentLive now = false) :
      Accepts s (.issueLaunchIntent launchIntentId actorId deviceId now expiresAt)
        (.launchIntentIssued launchIntentId)
        { s with pendingIntent := some ⟨launchIntentId, actorId, deviceId, expiresAt⟩ }
  | recover {launchIntentId actorId deviceId now expiresAt}
      (recoverable : s.status = .uncertain ∨ s.status = .idle ∧ s.recoveryClaimPending = true)
      (free : s.activeLease = none) (noLive : s.intentLive now = false) (future : now < expiresAt) :
      Accepts s (.recoverAndIssueLaunchIntent launchIntentId actorId deviceId now expiresAt)
        (.launchIntentIssued launchIntentId)
        { s with
          pendingIntent := some ⟨launchIntentId, actorId, deviceId, expiresAt⟩
          status := .idle
          recoveryClaimPending := true
          drainDeadline := none }
  | claim {intent : PendingLaunchIntent} {sessionId fencingToken now}
      (idle : s.status = .idle) (free : s.activeLease = none)
      (pending : s.pendingIntent = some intent) (live : now < intent.expiresAt)
      (epochFits : s.nextEpoch + 1 < u64Limit)
      (idleFits : now + s.config.idleTimeoutMs < u64Limit)
      (hardFits : now + s.config.hardTimeoutMs < u64Limit) :
      Accepts s
        (.claim intent.launchIntentId intent.actorId intent.deviceId sessionId fencingToken now)
        (.leaseClaimed ⟨sessionId, intent.deviceId, s.nextEpoch + 1, fencingToken, now, now,
          now + s.config.idleTimeoutMs, now + s.config.hardTimeoutMs⟩)
        { s with
          nextEpoch := s.nextEpoch + 1
          status := .active
          recoveryClaimPending := false
          pendingIntent := none
          activeLease := some ⟨sessionId, intent.deviceId, s.nextEpoch + 1, fencingToken, now, now,
            now + s.config.idleTimeoutMs, now + s.config.hardTimeoutMs⟩
          drainDeadline := none }
  | keep {lease : CoordinatorLease} {now : UnixMillis} {hard : UnixMillis} {command}
      (form : command = .heartbeat lease.sessionId lease.epoch lease.fencingToken now ∧
          hard = lease.hardExpiresAt ∨
        command = .renewLease lease.sessionId lease.epoch lease.fencingToken now ∧
          hard = now + s.config.hardTimeoutMs ∧ now + s.config.hardTimeoutMs < u64Limit)
      (writing : s.writing) (held : s.activeLease = some lease)
      (ordered : lease.lastHeartbeatAt ≤ now) (inTime : s.timeoutKind lease now = none)
      (idleFits : now + s.config.idleTimeoutMs < u64Limit) :
      Accepts s command (.heartbeatAccepted (min (now + s.config.idleTimeoutMs) hard))
        { s with activeLease := some { lease with
            lastHeartbeatAt := now
            idleExpiresAt := min (now + s.config.idleTimeoutMs) hard
            hardExpiresAt := hard } }
  | release {lease : CoordinatorLease} {disposition now}
      (held : s.activeLease = some lease) (inTime : s.timeoutKind lease now = none) :
      Accepts s (.release lease.sessionId lease.epoch lease.fencingToken disposition now)
        (.released disposition)
        { s with
          activeLease := none
          pendingIntent := none
          drainDeadline := none
          status := statusAfter disposition }
  | drain {lease : CoordinatorLease} {now}
      (active : s.status = .active) (held : s.activeLease = some lease)
      (inTime : s.timeoutKind lease now = none)
      (drainFits : now + s.config.drainTimeoutMs < u64Limit) :
      Accepts s (.beginDrain now)
        (.drainStarted (min (now + s.config.drainTimeoutMs) lease.hardExpiresAt))
        { s with
          status := .draining
          drainDeadline := some (min (now + s.config.drainTimeoutMs) lease.hardExpiresAt) }
  | timeout {command} {lease : CoordinatorLease} {kind}
      (held : s.activeLease = some lease) (looks : s.looksAtDeadlines lease command)
      (due : s.timeoutKind lease command.observedAt = some kind) :
      Accepts s command (.timedOut kind) s.expired
  | intentExpired {intent : PendingLaunchIntent} {now}
      (pending : s.pendingIntent = some intent) (lapsed : intent.expiresAt ≤ now) :
      Accepts s (.tick now) .launchIntentExpired { s with pendingIntent := none }
  | quiet {now}
      (alive : s.intentAlive now)
      (inTime : ∀ lease, s.activeLease = some lease → s.timeoutKind lease now = none) :
      Accepts s (.tick now) .noChange s
  | recovered {now}
      (free : s.activeLease = none) (required : s.status = .dirty ∨ s.status = .uncertain) :
      Accepts s (.markRecovered now) .recovered
        { s with
          status := .idle
          recoveryClaimPending := false
          pendingIntent := none
          drainDeadline := none }

variable {s t : ProfileCoordinatorState}

/-- A method result that is either an untouched error or a listed transition. -/
def Sound (s : ProfileCoordinatorState) (command : CoordinatorCommand)
    (result : Except CoordinatorError CoordinatorOutcome × ProfileCoordinatorState) : Prop :=
  match result with
  | (.error _, after) => after = s
  | (.ok outcome, after) => s.Accepts command outcome after

theorem issueLaunchIntent_sound (s : ProfileCoordinatorState) (launchIntentId : LaunchIntentId)
    (actorId : ActorId) (deviceId : DeviceId) (now expiresAt : UnixMillis) :
    s.Sound (.issueLaunchIntent launchIntentId actorId deviceId now expiresAt)
      (s.issueLaunchIntent launchIntentId actorId deviceId now expiresAt) := by
  unfold issueLaunchIntent
  split
  · rfl
  next future =>
  split
  · rfl
  next available =>
  split
  · rfl
  next noLive =>
  simp only [Bool.or_eq_true, bne_iff_ne, not_or, Bool.not_eq_true, Option.isSome_eq_false_iff,
    Option.isNone_iff_eq_none, Decidable.not_not] at available
  exact .issue (Nat.not_le.mp future) available.1 available.2 (Bool.not_eq_true _ ▸ noLive)

theorem claim_sound (s : ProfileCoordinatorState) (launchIntentId : LaunchIntentId)
    (actorId : ActorId) (deviceId : DeviceId) (sessionId : SessionId) (fencingToken : FencingToken)
    (now : UnixMillis) :
    s.Sound (.claim launchIntentId actorId deviceId sessionId fencingToken now)
      (s.claim launchIntentId actorId deviceId sessionId fencingToken now) := by
  unfold claim
  split
  · rfl
  next available =>
  split
  · rfl
  next intent pending =>
  split
  · rfl
  next sameIntent =>
  split
  · rfl
  next sameActor =>
  split
  · rfl
  next sameDevice =>
  split
  · rfl
  next live =>
  split
  · rfl
  next epoch counted =>
  split
  · rfl
  next idleExpiresAt idle =>
  split
  · rfl
  next hardExpiresAt hard =>
  -- all guards have passed: the intent is the one presented, and every sum fits
  simp only [Bool.or_eq_true, bne_iff_ne, not_or, Bool.not_eq_true, Option.isSome_eq_false_iff,
    Option.isNone_iff_eq_none, Decidable.not_not] at available
  obtain rfl := Decidable.not_not.mp sameIntent
  obtain rfl := Decidable.not_not.mp sameActor
  obtain rfl := Decidable.not_not.mp sameDevice
  obtain ⟨rfl, epochFits⟩ := checkedAdd_eq_some.mp counted
  obtain ⟨rfl, idleFits⟩ := addMillis_eq_ok.mp idle
  obtain ⟨rfl, hardFits⟩ := addMillis_eq_ok.mp hard
  exact .claim available.1 available.2 pending (Nat.not_le.mp live) epochFits idleFits hardFits

theorem recoverAndIssueLaunchIntent_sound (s : ProfileCoordinatorState)
    (launchIntentId : LaunchIntentId) (actorId : ActorId) (deviceId : DeviceId)
    (now expiresAt : UnixMillis) :
    s.Sound (.recoverAndIssueLaunchIntent launchIntentId actorId deviceId now expiresAt)
      (s.recoverAndIssueLaunchIntent launchIntentId actorId deviceId now expiresAt) := by
  unfold recoverAndIssueLaunchIntent
  split
  · rfl
  next available =>
  split
  · rfl
  next future =>
  simp only [Bool.or_eq_true, Bool.not_eq_true', not_or, Bool.not_eq_false, Bool.and_eq_true,
    beq_iff_eq, Bool.not_eq_true, Option.isSome_eq_false_iff, Option.isNone_iff_eq_none]
    at available
  obtain ⟨⟨recoverable, free⟩, noLive⟩ := available
  exact .recover recoverable free noLive (Nat.not_le.mp future)

theorem timeoutIfDue_eq_none {now : UnixMillis} (quiet : s.timeoutIfDue now = (none, t)) :
    t = s ∧ ∀ lease, s.activeLease = some lease → s.timeoutKind lease now = none := by
  unfold timeoutIfDue at quiet
  split at quiet
  next free =>
    cases quiet
    exact ⟨rfl, fun lease held => nomatch free.symm.trans held⟩
  next lease held =>
    split at quiet
    next inTime =>
      cases quiet
      refine ⟨rfl, fun other same => ?_⟩
      obtain rfl := Option.some.inj (held.symm.trans same)
      exact inTime
    · cases quiet

theorem timeoutIfDue_eq_some {now : UnixMillis} {outcome : CoordinatorOutcome}
    (timed : s.timeoutIfDue now = (some outcome, t)) :
    ∃ lease kind, s.activeLease = some lease ∧ s.timeoutKind lease now = some kind ∧
      outcome = .timedOut kind ∧ t = s.expired := by
  unfold timeoutIfDue at timed
  split at timed
  · cases timed
  next lease held =>
    split at timed
    · cases timed
    next kind due =>
      cases timed
      exact ⟨lease, kind, held, due, rfl, rfl⟩

/-- Every command that looks at the deadlines first takes this transition when one has passed. -/
theorem timeout_accepted {command : CoordinatorCommand} {lease : CoordinatorLease}
    {outcome : CoordinatorOutcome} (held : s.activeLease = some lease)
    (looks : s.looksAtDeadlines lease command)
    (timed : s.timeoutIfDue command.observedAt = (some outcome, t)) :
    s.Accepts command outcome t := by
  obtain ⟨other, kind, same, due, rfl, rfl⟩ := timeoutIfDue_eq_some timed
  obtain rfl := Option.some.inj (held.symm.trans same)
  exact .timeout held looks due

/-- The command `heartbeat` was called for. -/
def heartbeatCommand (renewHard : Bool) (sessionId : SessionId) (epoch : Nat)
    (fencingToken : FencingToken) (now : UnixMillis) : CoordinatorCommand :=
  if renewHard then .renewLease sessionId epoch fencingToken now
  else .heartbeat sessionId epoch fencingToken now

theorem heartbeat_sound (s : ProfileCoordinatorState) (sessionId : SessionId) (epoch : Nat)
    (fencingToken : FencingToken) (now : UnixMillis) (renewHard : Bool) :
    s.Sound (heartbeatCommand renewHard sessionId epoch fencingToken now)
      (s.heartbeat sessionId epoch fencingToken now renewHard) := by
  unfold heartbeat
  split
  · rfl
  next active =>
  split
  · rfl
  next lease held =>
  split
  · rfl
  next accepted =>
  simp only [Bool.not_eq_true', Bool.not_eq_false, Bool.or_eq_true, beq_iff_eq] at active accepted
  have presented := (lease.acceptsWriter_iff sessionId epoch fencingToken).mp accepted
  split
  · rfl
  next ordered =>
  split
  next outcome after timed =>
    have looks : s.looksAtDeadlines lease (heartbeatCommand renewHard sessionId epoch fencingToken now) := by
      cases renewHard <;> exact ⟨active, Nat.not_lt.mp ordered, presented⟩
    refine timeout_accepted held looks ?_
    cases renewHard <;> exact timed
  -- no deadline has passed, so the state is still the one the method was called on
  next after quiet =>
  obtain ⟨rfl, inTime⟩ := timeoutIfDue_eq_none quiet
  split
  · rfl
  next proposedIdle idle =>
  obtain ⟨rfl, idleFits⟩ := addMillis_eq_ok.mp idle
  split
  · rfl
  next proposedHard hard =>
  split
  · rfl
  next other same =>
  obtain rfl := Option.some.inj (held.symm.trans same)
  obtain ⟨rfl, rfl, rfl⟩ := Writer.mk.inj presented
  refine .keep ?_ active held (Nat.not_lt.mp ordered) (inTime lease held) idleFits
  cases renewHard with
  | false =>
    cases hard
    exact .inl ⟨rfl, rfl⟩
  | true =>
    simp only [if_true] at hard
    cases reached : addMillis now after.config.hardTimeoutMs with
    | error why => simp [reached, Except.map] at hard
    | ok deadline =>
      obtain ⟨rfl, hardFits⟩ := addMillis_eq_ok.mp reached
      simp only [reached, Except.map, Except.ok.injEq] at hard
      cases hard
      exact .inr ⟨rfl, rfl, hardFits⟩

theorem release_sound (s : ProfileCoordinatorState) (sessionId : SessionId) (epoch : Nat)
    (fencingToken : FencingToken) (disposition : ReleaseDisposition) (now : UnixMillis) :
    s.Sound (.release sessionId epoch fencingToken disposition now)
      (s.release sessionId epoch fencingToken disposition now) := by
  unfold release
  split
  · rfl
  next lease held =>
  split
  · rfl
  next accepted =>
  simp only [Bool.not_eq_true', Bool.not_eq_false] at accepted
  have presented := (lease.acceptsWriter_iff sessionId epoch fencingToken).mp accepted
  split
  next outcome after timed =>
    exact timeout_accepted held presented timed
  next after quiet =>
  obtain ⟨rfl, inTime⟩ := timeoutIfDue_eq_none quiet
  obtain ⟨rfl, rfl, rfl⟩ := Writer.mk.inj presented
  exact .release held (inTime lease held)

theorem beginDrain_sound (s : ProfileCoordinatorState) (now : UnixMillis) :
    s.Sound (.beginDrain now) (s.beginDrain now) := by
  unfold beginDrain
  split
  · rfl
  next available =>
  simp only [Bool.or_eq_true, bne_iff_ne, not_or, Bool.not_eq_true, Decidable.not_not,
    Option.isNone_eq_false_iff] at available
  obtain ⟨active, writer⟩ := available
  obtain ⟨lease, held⟩ := Option.isSome_iff_exists.mp writer
  split
  next outcome after timed =>
    have looks : s.looksAtDeadlines lease (.beginDrain now) := active
    exact timeout_accepted held looks timed
  next after quiet =>
  obtain ⟨rfl, inTime⟩ := timeoutIfDue_eq_none quiet
  split
  · rfl
  next proposedDeadline drain =>
  obtain ⟨rfl, drainFits⟩ := addMillis_eq_ok.mp drain
  split
  · rfl
  next other same =>
  exact .drain active same (inTime other same) drainFits

theorem tick_sound (s : ProfileCoordinatorState) (now : UnixMillis) :
    s.Sound (.tick now) (s.tick now) := by
  unfold tick
  split
  -- an intent that is over is reported before the lease is looked at
  next lapsed =>
    obtain ⟨intent, pending, expired⟩ := (Option.any_eq_true _ _).mp lapsed
    exact .intentExpired pending (of_decide_eq_true expired)
  next alive =>
  have pendingAlive : s.intentAlive now := by
    intro intent pending
    simpa [pending] using alive
  split
  next outcome after timed =>
  cases outcome with
  | none =>
    obtain ⟨rfl, inTime⟩ := timeoutIfDue_eq_none timed
    exact .quiet pendingAlive inTime
  | some outcome =>
    obtain ⟨lease, kind, held, -, -, -⟩ := timeoutIfDue_eq_some timed
    have looks : s.looksAtDeadlines lease (.tick now) := pendingAlive
    exact timeout_accepted held looks timed

theorem markRecovered_sound (s : ProfileCoordinatorState) (now : UnixMillis) :
    s.Sound (.markRecovered now) (s.markRecovered now) := by
  unfold markRecovered
  split
  · rfl
  next free =>
  split
  · rfl
  next required =>
  simp only [Bool.not_eq_true, Option.isSome_eq_false_iff, Option.isNone_iff_eq_none] at free
  simp only [Bool.not_eq_true', Bool.not_eq_false, Bool.or_eq_true, beq_iff_eq] at required
  exact .recovered free required

/-- Every method either refuses and leaves the state alone or takes a listed transition. -/
theorem applyNew_sound (s : ProfileCoordinatorState) (command : CoordinatorCommand) :
    s.Sound command (s.applyNew command) := by
  cases command with
  | issueLaunchIntent => exact issueLaunchIntent_sound ..
  | recoverAndIssueLaunchIntent => exact recoverAndIssueLaunchIntent_sound ..
  | claim => exact claim_sound ..
  | heartbeat => exact heartbeat_sound s _ _ _ _ false
  | renewLease => exact heartbeat_sound s _ _ _ _ true
  | release => exact release_sound ..
  | beginDrain => exact beginDrain_sound ..
  | tick => exact tick_sound ..
  | markRecovered => exact markRecovered_sound ..

theorem applyNew_error {command : CoordinatorCommand} {why : CoordinatorError}
    (refused : s.applyNew command = (.error why, t)) : t = s := by
  have sound := s.applyNew_sound command
  rw [refused] at sound
  exact sound

theorem accepts_of_applyNew {command : CoordinatorCommand} {outcome : CoordinatorOutcome}
    (accepted : s.applyNew command = (.ok outcome, t)) : s.Accepts command outcome t := by
  have sound := s.applyNew_sound command
  rw [accepted] at sound
  exact sound

theorem timeoutIfDue_inTime {now : UnixMillis}
    (inTime : ∀ lease, s.activeLease = some lease → s.timeoutKind lease now = none) :
    s.timeoutIfDue now = (none, s) := by
  unfold timeoutIfDue
  split
  · rfl
  next lease held => rw [inTime lease held]

theorem timeoutIfDue_due {now : UnixMillis} {lease : CoordinatorLease} {kind : TimeoutKind}
    (held : s.activeLease = some lease) (due : s.timeoutKind lease now = some kind) :
    s.timeoutIfDue now = (some (.timedOut kind), s.expired) := by
  simp only [timeoutIfDue, held, due]
  rfl

theorem heartbeat_accepted {lease : CoordinatorLease} {now : UnixMillis} (writing : s.writing)
    (held : s.activeLease = some lease) (ordered : lease.lastHeartbeatAt ≤ now)
    (inTime : s.timeoutKind lease now = none) (idleFits : now + s.config.idleTimeoutMs < u64Limit)
    {renewHard : Bool} (hardFits : renewHard = true → now + s.config.hardTimeoutMs < u64Limit)
    {hard : UnixMillis}
    (moved : hard = if renewHard then now + s.config.hardTimeoutMs else lease.hardExpiresAt) :
    s.heartbeat lease.sessionId lease.epoch lease.fencingToken now renewHard =
      (.ok (.heartbeatAccepted (min (now + s.config.idleTimeoutMs) hard)),
        { s with activeLease := some { lease with
            lastHeartbeatAt := now
            idleExpiresAt := min (now + s.config.idleTimeoutMs) hard
            hardExpiresAt := hard } }) := by
  have quiet : s.timeoutIfDue now = (none, s) := by
    refine timeoutIfDue_inTime fun other same => ?_
    rwa [← Option.some.inj (held.symm.trans same)]
  have idle := addMillis_eq_ok.mpr ⟨rfl, idleFits⟩
  have active : (!(s.status == .active || s.status == .draining)) = false := by
    rcases writing with active | draining <;> simp [*]
  have accepted := (lease.acceptsWriter_iff _ _ _).mpr (rfl : _ = lease.writer)
  unfold heartbeat
  simp only [active, held, accepted, Nat.not_lt.mpr ordered, quiet, idle, Bool.not_true,
    Bool.false_eq_true, if_false]
  cases renewHard with
  | false => subst moved; rfl
  | true =>
    subst moved
    simp only [if_true, addMillis_eq_ok.mpr ⟨rfl, hardFits rfl⟩, Except.map, Option.getD_some]

theorem heartbeat_due {lease : CoordinatorLease} {now : UnixMillis} {kind : TimeoutKind}
    (held : s.activeLease = some lease) (writing : s.writing)
    (ordered : lease.lastHeartbeatAt ≤ now) (due : s.timeoutKind lease now = some kind)
    (renewHard : Bool) :
    s.heartbeat lease.sessionId lease.epoch lease.fencingToken now renewHard =
      (.ok (.timedOut kind), s.expired) := by
  have active : (!(s.status == .active || s.status == .draining)) = false := by
    rcases writing with active | draining <;> simp [*]
  have accepted := (lease.acceptsWriter_iff _ _ _).mpr (rfl : _ = lease.writer)
  unfold heartbeat
  simp only [active, held, accepted, Nat.not_lt.mpr ordered, timeoutIfDue_due held due,
    Bool.not_true, Bool.false_eq_true, if_false]

theorem applyNew_timeout {command : CoordinatorCommand} {lease : CoordinatorLease}
    {kind : TimeoutKind} (held : s.activeLease = some lease)
    (looks : s.looksAtDeadlines lease command)
    (due : s.timeoutKind lease command.observedAt = some kind) :
    s.applyNew command = (.ok (.timedOut kind), s.expired) := by
  cases command with
  | heartbeat sessionId epoch fencingToken now =>
    obtain ⟨writing, ordered, presented⟩ := looks
    obtain ⟨rfl, rfl, rfl⟩ := Writer.mk.inj presented
    exact heartbeat_due held writing ordered due false
  | renewLease sessionId epoch fencingToken now =>
    obtain ⟨writing, ordered, presented⟩ := looks
    obtain ⟨rfl, rfl, rfl⟩ := Writer.mk.inj presented
    exact heartbeat_due held writing ordered due true
  | release sessionId epoch fencingToken disposition now =>
    have accepted := (lease.acceptsWriter_iff sessionId epoch fencingToken).mpr looks
    have timed : s.timeoutIfDue now = (some (.timedOut kind), s.expired) :=
      timeoutIfDue_due held due
    simp only [applyNew, release, held, accepted, timed, Bool.not_true, Bool.false_eq_true,
      if_false]
  | beginDrain now =>
    have active : s.status = .active := looks
    have timed : s.timeoutIfDue now = (some (.timedOut kind), s.expired) :=
      timeoutIfDue_due held due
    simp only [applyNew, beginDrain, active, held, timed, bne_self_eq_false, Option.isNone_some,
      Bool.or_false, Bool.false_eq_true, if_false]
  | tick now =>
    have alive : s.pendingIntent.any (fun intent => decide (now ≥ intent.expiresAt)) = false := by
      cases pending : s.pendingIntent with
      | none => rfl
      | some intent => exact decide_eq_false (Nat.not_le.mpr (looks intent pending))
    have timed : s.timeoutIfDue now = (some (.timedOut kind), s.expired) :=
      timeoutIfDue_due held due
    simp only [applyNew, tick, alive, timed, Bool.false_eq_true, if_false, Option.getD_some]
  -- the other commands never look at a deadline
  | issueLaunchIntent | recoverAndIssueLaunchIntent | claim | markRecovered => exact looks.elim

theorem applyNew_of_accepts {command : CoordinatorCommand} {outcome : CoordinatorOutcome}
    (accepts : s.Accepts command outcome t) : s.applyNew command = (.ok outcome, t) := by
  cases accepts with
  | issue future free idle noLive =>
    simp [applyNew, issueLaunchIntent, Nat.not_le.mpr future, free, idle, noLive]
  | recover recoverable free noLive future =>
    have admitted : (!(s.status == .uncertain || s.status == .idle && s.recoveryClaimPending)) = false := by
      rcases recoverable with uncertain | ⟨idle, reserved⟩ <;> simp [*]
    simp [applyNew, recoverAndIssueLaunchIntent, admitted, free, noLive, Nat.not_le.mpr future]
  | claim idle free pending live epochFits idleFits hardFits =>
    have counted := checkedAdd_eq_some.mpr ⟨rfl, epochFits⟩
    simp [applyNew, ProfileCoordinatorState.claim, idle, free, pending, Nat.not_le.mpr live, counted,
      addMillis_eq_ok.mpr ⟨rfl, idleFits⟩, addMillis_eq_ok.mpr ⟨rfl, hardFits⟩]
  | @keep lease now hard command form writing held ordered inTime idleFits =>
    -- a heartbeat and a renewal differ only in the hard deadline they leave
    rcases form with ⟨rfl, rfl⟩ | ⟨rfl, rfl, hardFits⟩
    · have fixed (renews : false = true) : now + s.config.hardTimeoutMs < u64Limit := nomatch renews
      exact heartbeat_accepted writing held ordered inTime idleFits fixed rfl
    · exact heartbeat_accepted writing held ordered inTime idleFits (fun _ => hardFits) rfl
  | @release lease disposition now held inTime =>
    have accepted := (lease.acceptsWriter_iff _ _ _).mpr (rfl : _ = lease.writer)
    have quiet : s.timeoutIfDue now = (none, s) := by
      refine timeoutIfDue_inTime fun other same => ?_
      rwa [← Option.some.inj (held.symm.trans same)]
    simp [applyNew, ProfileCoordinatorState.release, held, accepted, quiet]
  | @drain lease now active held inTime drainFits =>
    have quiet : s.timeoutIfDue now = (none, s) := by
      refine timeoutIfDue_inTime fun other same => ?_
      rwa [← Option.some.inj (held.symm.trans same)]
    simp [applyNew, beginDrain, active, held, quiet, addMillis_eq_ok.mpr ⟨rfl, drainFits⟩]
  | timeout held looks due => exact applyNew_timeout held looks due
  | intentExpired pending lapsed => simp [applyNew, tick, pending, lapsed]
  | @quiet now alive inTime =>
    have waits : s.pendingIntent.any (fun intent => decide (now ≥ intent.expiresAt)) = false := by
      cases pending : s.pendingIntent with
      | none => rfl
      | some intent => exact decide_eq_false (Nat.not_le.mpr (alive intent pending))
    simp [applyNew, tick, waits, timeoutIfDue_inTime inTime]
  | recovered free required =>
    have needed : (!(s.status == .dirty || s.status == .uncertain)) = false := by
      rcases required with dirty | uncertain <;> simp [*]
    simp [applyNew, markRecovered, free, needed]

/-- A transition writes the launch, lease and recovery fields and nothing else. -/
theorem Accepts.frame {command : CoordinatorCommand} {outcome : CoordinatorOutcome}
    (accepts : s.Accepts command outcome t) :
    t.tenantId = s.tenantId ∧ t.profileId = s.profileId ∧ t.config = s.config ∧
      t.receipts = s.receipts := by
  cases accepts <;> exact ⟨rfl, rfl, rfl, rfl⟩

/-- The same state with another receipt window. -/
def remembering (s : ProfileCoordinatorState) (receipts : List CommandReceipt) :
    ProfileCoordinatorState :=
  { s with receipts }

theorem Accepts.remembering {command : CoordinatorCommand} {outcome : CoordinatorOutcome}
    (accepts : s.Accepts command outcome t) (receipts : List CommandReceipt) :
    (s.remembering receipts).Accepts command outcome (t.remembering receipts) := by
  cases accepts with
  | issue future free idle noLive => exact .issue future free idle noLive
  | recover recoverable free noLive future => exact .recover recoverable free noLive future
  | claim idle free pending live epochFits idleFits hardFits =>
    exact .claim idle free pending live epochFits idleFits hardFits
  | keep form writing held ordered inTime idleFits =>
    exact .keep form writing held ordered inTime idleFits
  | release held inTime => exact .release held inTime
  | drain active held inTime drainFits =>
    exact .drain active held inTime drainFits
  | timeout held looks due =>
    refine .timeout held ?_ due
    cases command <;> exact looks
  | intentExpired pending lapsed => exact .intentExpired pending lapsed
  | quiet alive inTime => exact .quiet alive inTime
  | recovered free required => exact .recovered free required

end ProfileCoordinatorState

end ProfilePlatform.Session
