import ProfilePlatform.Foundation.Fallible
import ProfilePlatform.Session.Ledger

/-! The coordinator ingress: a client command becomes an envelope and is executed.

A port value is what the ports answer during one attempt, and the coordinator
behind it is the state they are asked about. The envelope is built anew on every
attempt, from the clock of the attempt and, for a Claim, a token made for it.
-/

set_option autoImplicit false

namespace ProfilePlatform.UseCases

open Foundation Session ProfileCoordinatorState

def minIntentTtlMs : Nat := 1000
def maxIntentTtlMs : Nat := 300000

inductive MembershipRole where
  | tenantOwner | member
  deriving DecidableEq, Repr

inductive CoordinatorIngressPortErrorClass where
  | notFound | invalidRequest | conflict | integrityFailure | internalFailure
  | dependencyUnavailable
  deriving DecidableEq, Repr

inductive CoordinatorIngressOperationError where
  | invalidRequest | notFound | conflict | integrityFailure | internalFailure
  | dependencyUnavailable
  deriving DecidableEq, Repr

def mapPortError : CoordinatorIngressPortErrorClass → CoordinatorIngressOperationError
  | .notFound => .notFound
  | .invalidRequest => .invalidRequest
  | .conflict => .conflict
  | .integrityFailure => .integrityFailure
  | .internalFailure => .internalFailure
  | .dependencyUnavailable => .dependencyUnavailable

inductive CoordinatorCommandInput where
  | issueLaunchIntent (launchIntentId : LaunchIntentId) (deviceId : DeviceId) (expiresInMs : Nat)
  | recoverAndIssueLaunchIntent (launchIntentId : LaunchIntentId) (deviceId : DeviceId)
      (expiresInMs : Nat)
  | claim (launchIntentId : LaunchIntentId) (deviceId : DeviceId) (sessionId : SessionId)
  | heartbeat (sessionId : SessionId) (epoch : Nat) (fencingToken : FencingToken)
  | renewLease (sessionId : SessionId) (epoch : Nat) (fencingToken : FencingToken)
  | release (sessionId : SessionId) (epoch : Nat) (fencingToken : FencingToken)
      (disposition : ReleaseDisposition)
  | beginDrain
  | markRecovered
  deriving DecidableEq

def CoordinatorCommandInput.isClaim : CoordinatorCommandInput → Bool
  | .claim .. => true
  | _ => false

structure ExecuteCoordinatorCommand where
  idempotencyKey : IdempotencyKey
  sequence : Nat
  expectedVersion : AggregateVersion
  command : CoordinatorCommandInput
  deriving DecidableEq

inductive CoordinatorIngressRequest where
  | snapshot
  | command (command : ExecuteCoordinatorCommand)
  deriving DecidableEq

structure CoordinatorIngressAccess where
  profileId : ProfileId
  deriving DecidableEq

inductive CoordinatorRuntimeOutcome where
  | snapshot | launchIntentIssued | leaseClaimed | heartbeatAccepted | released | drainStarted
  | timedOut | launchIntentExpired | recovered | noChange
  deriving DecidableEq, Repr

structure CoordinatorProjectionSnapshot where
  tenantId : TenantId
  profileId : ProfileId
  status : CoordinatorStatus
  version : AggregateVersion
  sequence : Nat
  nextEpoch : Nat
  activeSessionId : Option SessionId
  activeDeviceId : Option DeviceId
  activeEpoch : Option Nat
  idleExpiresAt : Option UnixMillis
  hardExpiresAt : Option UnixMillis
  drainDeadline : Option UnixMillis
  pendingLaunchIntentId : Option LaunchIntentId
  pendingIntentExpiresAt : Option UnixMillis
  deriving DecidableEq

structure CoordinatorRuntimeResult where
  outcome : CoordinatorRuntimeOutcome
  version : AggregateVersion
  sequence : Nat
  replayed : Bool
  fencingToken : Option FencingToken
  epoch : Option Nat
  projection : CoordinatorProjectionSnapshot
  deriving DecidableEq

/-- What the ports answer during one attempt against a world. -/
structure CoordinatorIngressPort (W : Type) where
  newFencingToken : Except CoordinatorIngressPortErrorClass FencingToken
  newOutboxEventId : Except CoordinatorIngressPortErrorClass OutboxEventId
  snapshot : W → TenantScope → ProfileId →
    Except CoordinatorIngressPortErrorClass CoordinatorRuntimeResult
  execute : W → TenantScope → ProfileId → CoordinatorCommandEnvelope →
    Except CoordinatorIngressPortErrorClass CoordinatorRuntimeResult × W
  project : TenantScope → ProfileId → CoordinatorRuntimeResult → OutboxEventId → UnixMillis →
    Except CoordinatorIngressPortErrorClass Unit

/-- The two readings an attempt takes: one for the command, one for the projection. -/
structure CoordinatorIngressClock where
  now : UnixMillis
  projectedAt : UnixMillis

/-- The deadline of an intent whose lifetime is admissible and fits the clock. -/
def intentExpiry (now : UnixMillis) (expiresInMs : Nat) :
    Except CoordinatorIngressOperationError UnixMillis :=
  if minIntentTtlMs ≤ expiresInMs ∧ expiresInMs ≤ maxIntentTtlMs then
    match checkedAdd now expiresInMs with
    | some expiresAt => .ok expiresAt
    | none => .error .invalidRequest
  else .error .invalidRequest

variable {W : Type}

def buildCommand (actor : ActorContext) (port : CoordinatorIngressPort W) (now : UnixMillis) :
    CoordinatorCommandInput → Except CoordinatorIngressOperationError CoordinatorCommand
  | .issueLaunchIntent launchIntentId deviceId expiresInMs => do
    let expiresAt ← intentExpiry now expiresInMs
    return .issueLaunchIntent launchIntentId actor.actorId deviceId now expiresAt
  | .recoverAndIssueLaunchIntent launchIntentId deviceId expiresInMs => do
    let expiresAt ← intentExpiry now expiresInMs
    return .recoverAndIssueLaunchIntent launchIntentId actor.actorId deviceId now expiresAt
  | .claim launchIntentId deviceId sessionId => do
    let fencingToken ← port.newFencingToken.mapError mapPortError
    return .claim launchIntentId actor.actorId deviceId sessionId fencingToken now
  | .heartbeat sessionId epoch fencingToken => return .heartbeat sessionId epoch fencingToken now
  | .renewLease sessionId epoch fencingToken => return .renewLease sessionId epoch fencingToken now
  | .release sessionId epoch fencingToken disposition =>
    return .release sessionId epoch fencingToken disposition now
  | .beginDrain => return .beginDrain now
  | .markRecovered => return .markRecovered now

def buildEnvelope (actor : ActorContext) (port : CoordinatorIngressPort W)
    (clock : CoordinatorIngressClock) (input : ExecuteCoordinatorCommand) :
    Except CoordinatorIngressOperationError CoordinatorCommandEnvelope := do
  let command ← buildCommand actor port clock.now input.command
  (CoordinatorCommandEnvelope.new input.idempotencyKey input.sequence input.expectedVersion
    command).mapError fun _ => .invalidRequest

/-- Only the owner of the tenant may declare a profile recovered. -/
def roleAdmits (role : MembershipRole) (input : CoordinatorCommandInput) : Bool :=
  !(input == .markRecovered && role != .tenantOwner)

def executePreparedCoordinatorIngress (actor : ActorContext) (role : MembershipRole)
    (access : CoordinatorIngressAccess) (port : CoordinatorIngressPort W)
    (clock : CoordinatorIngressClock) (request : CoordinatorIngressRequest) (world : W) :
    Except CoordinatorIngressOperationError CoordinatorRuntimeResult × W :=
  match request with
  | .snapshot =>
    -- a read observes the sequence and projects nothing
    ((port.snapshot world actor.tenantScope access.profileId).mapError mapPortError, world)
  | .command input =>
    if !roleAdmits role input.command then (.error .notFound, world)
    else match buildEnvelope actor port clock input with
    | .error why => (.error why, world)
    | .ok envelope =>
      match port.execute world actor.tenantScope access.profileId envelope with
      | (.error class_, after) => (.error (mapPortError class_), after)
      | (.ok result, after) =>
        -- the command has taken effect, and a failure from here on hides its result
        match port.newOutboxEventId with
        | .error class_ => (.error (mapPortError class_), after)
        | .ok outboxEventId =>
          match port.project actor.tenantScope access.profileId result outboxEventId
            clock.projectedAt with
          | .error class_ => (.error (mapPortError class_), after)
          | .ok () => (.ok result, after)

def runtimeOutcome : CoordinatorOutcome → CoordinatorRuntimeOutcome
  | .launchIntentIssued _ => .launchIntentIssued
  | .leaseClaimed _ => .leaseClaimed
  | .heartbeatAccepted _ => .heartbeatAccepted
  | .released _ => .released
  | .drainStarted _ => .drainStarted
  | .timedOut _ => .timedOut
  | .launchIntentExpired => .launchIntentExpired
  | .recovered => .recovered
  | .noChange => .noChange

def projectionSnapshot (state : ProfileCoordinatorState) : CoordinatorProjectionSnapshot where
  tenantId := state.tenantId
  profileId := state.profileId
  status := state.status
  version := state.version
  sequence := state.lastSequence
  nextEpoch := state.nextEpoch
  activeSessionId := state.activeLease.map fun lease => lease.sessionId
  activeDeviceId := state.activeLease.map fun lease => lease.deviceId
  activeEpoch := state.activeLease.map fun lease => lease.epoch
  idleExpiresAt := state.activeLease.map fun lease => lease.idleExpiresAt
  hardExpiresAt := state.activeLease.map fun lease => lease.hardExpiresAt
  drainDeadline := state.drainDeadline
  pendingLaunchIntentId := state.pendingIntent.map fun intent => intent.launchIntentId
  pendingIntentExpiresAt := state.pendingIntent.map fun intent => intent.expiresAt

/-- The answer of the coordinator object to an applied command, as the client reads it. -/
def runtimeResult (decision : CoordinatorDecision) (replayed : Bool)
    (after : ProfileCoordinatorState) : CoordinatorRuntimeResult where
  outcome := runtimeOutcome decision.outcome
  version := decision.version
  sequence := decision.sequence
  replayed := replayed
  fencingToken := match decision.outcome with
    | .leaseClaimed lease => some lease.fencingToken
    | _ => none
  epoch := match decision.outcome with
    | .leaseClaimed lease => some lease.epoch
    | _ => none
  projection := projectionSnapshot after

/-- The coordinator object behind the port: a request for another tenant or
profile fails as a dependency, a refused command as a conflict. -/
def executeOnCoordinator (state : ProfileCoordinatorState) (scope : TenantScope)
    (profileId : ProfileId) (envelope : CoordinatorCommandEnvelope) :
    Except CoordinatorIngressPortErrorClass CoordinatorRuntimeResult × ProfileCoordinatorState :=
  if state.tenantId ≠ scope.tenantId ∨ state.profileId ≠ profileId then
    (.error .dependencyUnavailable, state)
  else match state.apply envelope with
  | (.error _, after) => (.error .conflict, after)
  | (.ok decision, after) =>
    (.ok (runtimeResult decision (!decide (decision.sequence > state.lastSequence)) after), after)

/-- What lies outside the coordinator during one attempt. -/
structure IngressAttempt where
  newFencingToken : Except CoordinatorIngressPortErrorClass FencingToken
  newOutboxEventId : Except CoordinatorIngressPortErrorClass OutboxEventId
  project : TenantScope → ProfileId → CoordinatorRuntimeResult → OutboxEventId → UnixMillis →
    Except CoordinatorIngressPortErrorClass Unit
  clock : CoordinatorIngressClock

/-- The ports of an attempt with the coordinator behind them. -/
def IngressAttempt.port (attempt : IngressAttempt) :
    CoordinatorIngressPort ProfileCoordinatorState where
  newFencingToken := attempt.newFencingToken
  newOutboxEventId := attempt.newOutboxEventId
  snapshot state scope profileId :=
    if state.tenantId ≠ scope.tenantId ∨ state.profileId ≠ profileId then
      .error .dependencyUnavailable
    else
      .ok {
        outcome := .snapshot, version := state.version, sequence := state.lastSequence
        replayed := true, fencingToken := none
        epoch := state.activeLease.map fun lease => lease.epoch
        projection := projectionSnapshot state }
  execute := executeOnCoordinator
  project := attempt.project

def IngressAttempt.run (attempt : IngressAttempt) (actor : ActorContext) (role : MembershipRole)
    (access : CoordinatorIngressAccess) (input : ExecuteCoordinatorCommand)
    (state : ProfileCoordinatorState) :
    Except CoordinatorIngressOperationError CoordinatorRuntimeResult × ProfileCoordinatorState :=
  executePreparedCoordinatorIngress actor role access attempt.port attempt.clock (.command input)
    state

/-- The ports that write the outbox and the projection answer. -/
def IngressAttempt.Projects (attempt : IngressAttempt) : Prop :=
  (∃ outboxEventId, attempt.newOutboxEventId = .ok outboxEventId) ∧
    ∀ scope profileId result outboxEventId projectedAt,
      attempt.project scope profileId result outboxEventId projectedAt = .ok ()

/-- The attempt turned the input into a command that the coordinator accepted as new. -/
structure AcceptedBy (attempt : IngressAttempt) (actor : ActorContext) (role : MembershipRole)
    (access : CoordinatorIngressAccess) (input : ExecuteCoordinatorCommand)
    (s : ProfileCoordinatorState) (envelope : CoordinatorCommandEnvelope)
    (decision : CoordinatorDecision) (t : ProfileCoordinatorState) : Prop where
  built : buildEnvelope actor attempt.port attempt.clock input = .ok envelope
  ran : (attempt.run actor role access input s).2 = t
  applied : s.apply envelope = (.ok decision, t)
  advanced : t.lastSequence = s.lastSequence + 1

section Retry

variable {actor : ActorContext} {role : MembershipRole} {access : CoordinatorIngressAccess}
  {input : ExecuteCoordinatorCommand} {first second : IngressAttempt}
  {envelope : CoordinatorCommandEnvelope} {decision : CoordinatorDecision}
  {s t : ProfileCoordinatorState}

theorem buildEnvelope_eq_ok {port : CoordinatorIngressPort W} {clock : CoordinatorIngressClock} :
    buildEnvelope actor port clock input = .ok envelope ↔
      buildCommand actor port clock.now input.command = .ok envelope.command ∧
        envelope.idempotencyKey = input.idempotencyKey ∧ envelope.sequence = input.sequence ∧
        envelope.expectedVersion = input.expectedVersion := by
  constructor
  · intro built
    obtain ⟨command, made, wrapped⟩ := bind_eq_ok.mp built
    have wrapped := mapError_eq_ok.mp wrapped
    unfold CoordinatorCommandEnvelope.new at wrapped
    split at wrapped
    · cases wrapped
    · cases wrapped
      exact ⟨made, rfl, rfl, rfl⟩
  · rintro ⟨made, key, sequence, version⟩
    refine bind_eq_ok.mpr ⟨envelope.command, made, mapError_eq_ok.mpr ?_⟩
    rw [← key, ← sequence, ← version]
    exact dif_neg envelope.sequence_pos

/-- A command is the same one again exactly when the clock stands still and a
Claim is given the same token. -/
theorem buildCommand_again_iff {firstPort : CoordinatorIngressPort W}
    (secondPort : CoordinatorIngressPort W) {now later : UnixMillis}
    {form : CoordinatorCommandInput} {command : CoordinatorCommand}
    (built : buildCommand actor firstPort now form = .ok command) :
    buildCommand actor secondPort later form = .ok command ↔
      later = now ∧ (form.isClaim = true →
        secondPort.newFencingToken = firstPort.newFencingToken) := by
  cases form with
  | issueLaunchIntent launchIntentId deviceId expiresInMs
  | recoverAndIssueLaunchIntent launchIntentId deviceId expiresInMs =>
    obtain ⟨expiresAt, admitted, made⟩ := bind_eq_ok.mp built
    cases made
    constructor
    · intro again
      obtain ⟨otherExpiry, -, made⟩ := bind_eq_ok.mp again
      cases made
      exact ⟨rfl, fun impossible => nomatch impossible⟩
    · rintro ⟨rfl, -⟩
      exact built
  | claim launchIntentId deviceId sessionId =>
    -- a Claim carries the token the port made for it, besides the clock
    obtain ⟨token, fresh, made⟩ := bind_eq_ok.mp built
    have fresh := mapError_eq_ok.mp fresh
    cases made
    constructor
    · intro again
      obtain ⟨otherToken, otherFresh, made⟩ := bind_eq_ok.mp again
      have otherFresh := mapError_eq_ok.mp otherFresh
      cases made
      exact ⟨rfl, fun _ => otherFresh.trans fresh.symm⟩
    · rintro ⟨rfl, sameToken⟩
      refine bind_eq_ok.mpr ⟨token, mapError_eq_ok.mpr ?_, rfl⟩
      rw [sameToken rfl, fresh]
  | heartbeat | renewLease | release | beginDrain | markRecovered =>
    cases built
    constructor
    · intro again
      cases again
      exact ⟨rfl, fun impossible => nomatch impossible⟩
    · rintro ⟨rfl, -⟩
      rfl

namespace AcceptedBy

/-- An attempt that moved the coordinator passed the role check and asked the right one. -/
theorem admitted (accepted : AcceptedBy first actor role access input s envelope decision t) :
    roleAdmits role input.command = true ∧
      ¬(s.tenantId ≠ actor.tenantScope.tenantId ∨ s.profileId ≠ access.profileId) := by
  -- both refusals leave the coordinator where it was
  have moved : t ≠ s := by
    intro same
    have := accepted.advanced
    rw [same] at this
    omega
  have ran := accepted.ran
  unfold IngressAttempt.run executePreparedCoordinatorIngress at ran
  cases admits : roleAdmits role input.command with
  | false =>
    simp only [admits, Bool.not_false, if_true] at ran
    exact absurd ran.symm moved
  | true =>
    refine ⟨rfl, fun foreign => ?_⟩
    have refused : first.port.execute s actor.tenantScope access.profileId envelope =
        (.error .dependencyUnavailable, s) := if_pos foreign
    simp only [admits, Bool.not_true, Bool.false_eq_true, if_false, accepted.built, refused] at ran
    exact absurd ran.symm moved

theorem commits (accepted : AcceptedBy first actor role access input s envelope decision t) :
    s.Commits envelope decision t := by
  have advanced := accepted.advanced
  rcases s.apply_cases envelope with ⟨why, refused⟩ | ⟨receipt, -, -, -, replayed⟩ |
    ⟨other, after, commits, applied⟩
  · cases refused.symm.trans accepted.applied
  · cases replayed.symm.trans accepted.applied
    omega
  · cases applied.symm.trans accepted.applied
    exact commits

end AcceptedBy

/-- A coordinator that keeps the receipt replays the envelope it was made for and
refuses any other one under that key. -/
theorem executeOnCoordinator_again {u : ProfileCoordinatorState} {retry : CoordinatorCommandEnvelope}
    {scope : TenantScope} {profileId : ProfileId}
    (own : ¬(u.tenantId ≠ scope.tenantId ∨ u.profileId ≠ profileId))
    (found : u.receiptFor envelope.idempotencyKey = some (envelope.receipt decision))
    (old : ¬decision.sequence > u.lastSequence)
    (key : retry.idempotencyKey = envelope.idempotencyKey)
    (sequence : retry.sequence = envelope.sequence) :
    executeOnCoordinator u scope profileId retry =
      if envelope.command = retry.command then (.ok (runtimeResult decision true u), u)
      else (.error .conflict, u) := by
  have answered : u.apply retry = if envelope.command = retry.command then (.ok decision, u)
      else (.error .idempotencyConflict, u) := by
    unfold ProfileCoordinatorState.apply
    rw [key, found]
    by_cases same : envelope.command = retry.command
    · rw [if_pos same]
      exact if_pos ⟨sequence.symm, same⟩
    · rw [if_neg same]
      exact if_neg fun both => same both.2
  unfold executeOnCoordinator
  rw [if_neg own, answered]
  by_cases same : envelope.command = retry.command
  · simp [same, old]
  · simp [same]

/-- A retry is answered with the original decision exactly when it rebuilds the
original command, so when the clock reads the same and a Claim gets the same token. -/
theorem ingress_retry_iff {more : List CoordinatorCommandEnvelope}
    (accepted : AcceptedBy first actor role access input s envelope decision t)
    (retained : envelope.receipt decision ∈ (coordinator.final t more).receipts)
    (projects : second.Projects) :
    (second.run actor role access input (coordinator.final t more)).1 =
        .ok (runtimeResult decision true (coordinator.final t more)) ↔
      second.clock.now = first.clock.now ∧
        (input.command.isClaim = true → second.newFencingToken = first.newFencingToken) := by
  have commits := accepted.commits
  obtain ⟨admits, own⟩ := accepted.admitted
  obtain ⟨built, key, sequence, version⟩ := buildEnvelope_eq_ok.mp accepted.built
  obtain ⟨tenant, profile, -⟩ := commits.identity
  obtain ⟨laterTenant, laterProfile, -⟩ := reachable_identity t more
  have old : ¬decision.sequence > (coordinator.final t more).lastSequence := by
    have := lastSequence_monotone t more
    have := commits.advances.2.2.1
    have := commits.numbered
    have := commits.inSequence
    omega
  have found := receiptFor_of_keeps (keeps_run commits.keeps_new more) retained
  generalize coordinator.final t more = u at *
  have owned : ¬(u.tenantId ≠ actor.tenantScope.tenantId ∨ u.profileId ≠ access.profileId) := by
    rwa [laterTenant, laterProfile, tenant, profile]
  obtain ⟨⟨outboxEventId, minted⟩, projected⟩ := projects
  refine Iff.trans ?_ (buildCommand_again_iff second.port built)
  unfold IngressAttempt.run executePreparedCoordinatorIngress
  simp only [admits, Bool.not_true, Bool.false_eq_true, if_false]
  cases rebuilt : buildEnvelope actor second.port second.clock input with
  | error why =>
    -- the same command would have been wrapped in the same envelope
    refine ⟨fun impossible => (nomatch impossible), fun again => ?_⟩
    cases rebuilt.symm.trans (buildEnvelope_eq_ok.mpr ⟨again, key, sequence, version⟩)
  | ok retry =>
    obtain ⟨retryBuilt, retryKey, retrySequence, -⟩ := buildEnvelope_eq_ok.mp rebuilt
    have executed := executeOnCoordinator_again owned found old (retryKey.trans key.symm)
      (retrySequence.trans sequence.symm)
    rw [retryBuilt]
    by_cases same : envelope.command = retry.command
    · rw [if_pos same] at executed
      simp only [IngressAttempt.port, executed, minted, projected, same]
    · rw [if_neg same] at executed
      simp only [IngressAttempt.port, executed, reduceCtorEq, Except.ok.injEq, false_iff]
      exact fun equal => same equal.symm

end Retry

namespace LaunchRetry

def actor : ActorContext where
  tenantScope := ⟨⟨⟨"tenant-0002", by decide⟩⟩⟩
  actorId := ⟨⟨"actor-0001", by decide⟩⟩
  correlationId := ⟨⟨"correlation-0001", by decide⟩⟩

def access : CoordinatorIngressAccess := ⟨⟨⟨"profile-0002", by decide⟩⟩⟩

def timeouts : CoordinatorConfig :=
  ⟨20000, 600000, 45000, by decide, by decide, by decide, by decide⟩

def start : ProfileCoordinatorState := .new actor.tenantScope.tenantId access.profileId timeouts

/-- An attempt whose clock reads `now` and whose ports all answer. -/
def attempt (now : UnixMillis) : IngressAttempt where
  newFencingToken := .ok ⟨⟨"fencing-token-0001", by decide⟩⟩
  newOutboxEventId := .ok ⟨⟨"outbox-event-0001", by decide⟩⟩
  project := fun _ _ _ _ _ => .ok ()
  clock := ⟨now, now⟩

def intent : LaunchIntentId := ⟨⟨"intent-0001", by decide⟩⟩
def device : DeviceId := ⟨⟨"device-0001", by decide⟩⟩
def key : IdempotencyKey := ⟨⟨"command-0001", by decide⟩⟩

def input : ExecuteCoordinatorCommand :=
  ⟨key, 1, .initial, .issueLaunchIntent intent device 60000⟩

def envelope : CoordinatorCommandEnvelope :=
  ⟨key, 1, .initial, .issueLaunchIntent intent actor.actorId device 1000 61000,
    AggregateVersion.initial.positive⟩

def after : ProfileCoordinatorState := (start.apply envelope).2

def decision : CoordinatorDecision := ⟨after.version, 1, .launchIntentIssued intent⟩

theorem accepted :
    AcceptedBy (attempt 1000) actor .member access input start envelope decision after :=
  ⟨rfl, rfl, rfl, rfl⟩

theorem retained : envelope.receipt decision ∈ (coordinator.final after []).receipts := .head _

theorem projects (now : UnixMillis) : (attempt now).Projects :=
  ⟨⟨_, rfl⟩, fun _ _ _ _ _ => rfl⟩

theorem refused_later :
    ((attempt 1001).run actor .member access input (coordinator.final after [])).1 =
      .error .conflict := rfl

end LaunchRetry

open LaunchRetry in
theorem ingress_retry_at_once :
    ((attempt 1000).run actor .member access input (coordinator.final after [])).1 =
      .ok (runtimeResult decision true (coordinator.final after [])) :=
  (ingress_retry_iff accepted retained (projects 1000)).mpr ⟨rfl, fun _ => rfl⟩

/-- One millisecond later the retry of an accepted command is a conflict. -/
theorem ingress_retry_fails :
    ¬∀ (first second : IngressAttempt) (actor : ActorContext) (role : MembershipRole)
      (access : CoordinatorIngressAccess) (input : ExecuteCoordinatorCommand)
      (s t : ProfileCoordinatorState) (envelope : CoordinatorCommandEnvelope)
      (decision : CoordinatorDecision) (more : List CoordinatorCommandEnvelope),
      AcceptedBy first actor role access input s envelope decision t →
      envelope.receipt decision ∈ (coordinator.final t more).receipts →
      second.Projects → first.clock.now ≤ second.clock.now →
      ∃ result, (second.run actor role access input (coordinator.final t more)).1 = .ok result := by
  intro always
  obtain ⟨result, answered⟩ := always _ (LaunchRetry.attempt 1001) _ _ _ _ _ _ _ _ []
    LaunchRetry.accepted LaunchRetry.retained (LaunchRetry.projects 1001) (by decide)
  rw [LaunchRetry.refused_later] at answered
  cases answered

end ProfilePlatform.UseCases
