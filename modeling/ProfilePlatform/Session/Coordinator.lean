import ProfilePlatform.Primitives
import ProfilePlatform.Foundation.Window

/-! The profile coordinator aggregate: launch intents, one fenced lease, draining,
timeouts and explicit recovery.

A method of the source that takes a mutable receiver returns its result together
with the state it leaves behind, on its error exits too. What an error keeps of
the state is therefore a theorem about these definitions and not a convention.
-/

set_option autoImplicit false

namespace ProfilePlatform.Session

open Foundation

def receiptLimit : Nat := 32

inductive CoordinatorError where
  | invalidTimeoutConfig
  | invalidCheckpoint
  | invalidSequence
  | sequenceOverflow
  | expectedVersionMismatch
  | reorderedCommand
  | reorderedTime
  | idempotencyConflict
  | versionOverflow
  | timeOverflow
  | epochOverflow
  | invalidIntentExpiry
  | coordinatorUnavailable
  | pendingIntentExists
  | launchIntentMissing
  | launchIntentMismatch
  | launchIntentExpired
  | actorMismatch
  | deviceMismatch
  | noActiveLease
  | staleWriter
  | reorderedHeartbeat
  | recoveryNotRequired
  deriving DecidableEq, Repr

/-- Timeouts that `CoordinatorConfig.new` accepted. -/
@[ext] structure CoordinatorConfig where
  idleTimeoutMs : Nat
  hardTimeoutMs : Nat
  drainTimeoutMs : Nat
  idle_pos : idleTimeoutMs ≠ 0
  hard_pos : hardTimeoutMs ≠ 0
  drain_pos : drainTimeoutMs ≠ 0
  idle_le_hard : idleTimeoutMs ≤ hardTimeoutMs

instance : DecidableEq CoordinatorConfig := fun _ _ =>
  decidable_of_decidable_of_iff CoordinatorConfig.ext_iff.symm

def CoordinatorConfig.new (idleTimeoutMs hardTimeoutMs drainTimeoutMs : Nat) :
    Except CoordinatorError CoordinatorConfig :=
  if refused : idleTimeoutMs = 0 ∨ hardTimeoutMs = 0 ∨ drainTimeoutMs = 0 ∨
      hardTimeoutMs < idleTimeoutMs then
    .error .invalidTimeoutConfig
  else
    .ok {
      idleTimeoutMs, hardTimeoutMs, drainTimeoutMs
      idle_pos := fun zero => refused (.inl zero)
      hard_pos := fun zero => refused (.inr (.inl zero))
      drain_pos := fun zero => refused (.inr (.inr (.inl zero)))
      idle_le_hard := Nat.not_lt.mp fun less => refused (.inr (.inr (.inr less))) }

inductive CoordinatorStatus where
  | idle | active | draining | dirty | uncertain
  deriving DecidableEq, Repr

inductive ReleaseDisposition where
  | clean | dirty | uncertain
  deriving DecidableEq, Repr

inductive TimeoutKind where
  | idle | hard | drain
  deriving DecidableEq, Repr

structure PendingLaunchIntent where
  launchIntentId : LaunchIntentId
  actorId : ActorId
  deviceId : DeviceId
  expiresAt : UnixMillis
  deriving DecidableEq

structure CoordinatorLease where
  sessionId : SessionId
  deviceId : DeviceId
  epoch : Nat
  fencingToken : FencingToken
  claimedAt : UnixMillis
  lastHeartbeatAt : UnixMillis
  idleExpiresAt : UnixMillis
  hardExpiresAt : UnixMillis
  deriving DecidableEq

/-- Parsed checkpoint data cannot manufacture a valid writer state. -/
def CoordinatorLease.restored (sessionId : SessionId) (deviceId : DeviceId) (epoch : Nat)
    (fencingToken : FencingToken) (claimedAt lastHeartbeatAt idleExpiresAt hardExpiresAt : UnixMillis) :
    Except CoordinatorError CoordinatorLease :=
  if epoch = 0 ∨ lastHeartbeatAt < claimedAt ∨ idleExpiresAt < lastHeartbeatAt ∨
      hardExpiresAt < idleExpiresAt then
    .error .invalidCheckpoint
  else
    .ok { sessionId, deviceId, epoch, fencingToken, claimedAt, lastHeartbeatAt, idleExpiresAt,
          hardExpiresAt }

def CoordinatorLease.acceptsWriter (lease : CoordinatorLease) (sessionId : SessionId)
    (epoch : Nat) (fencingToken : FencingToken) : Bool :=
  lease.sessionId == sessionId && lease.epoch == epoch && lease.fencingToken == fencingToken

inductive CoordinatorCommand where
  | issueLaunchIntent (launchIntentId : LaunchIntentId) (actorId : ActorId) (deviceId : DeviceId)
      (now expiresAt : UnixMillis)
  | recoverAndIssueLaunchIntent (launchIntentId : LaunchIntentId) (actorId : ActorId)
      (deviceId : DeviceId) (now expiresAt : UnixMillis)
  | claim (launchIntentId : LaunchIntentId) (actorId : ActorId) (deviceId : DeviceId)
      (sessionId : SessionId) (fencingToken : FencingToken) (now : UnixMillis)
  | heartbeat (sessionId : SessionId) (epoch : Nat) (fencingToken : FencingToken) (now : UnixMillis)
  | renewLease (sessionId : SessionId) (epoch : Nat) (fencingToken : FencingToken) (now : UnixMillis)
  | release (sessionId : SessionId) (epoch : Nat) (fencingToken : FencingToken)
      (disposition : ReleaseDisposition) (now : UnixMillis)
  | beginDrain (now : UnixMillis)
  | tick (now : UnixMillis)
  | markRecovered (now : UnixMillis)
  deriving DecidableEq

def CoordinatorCommand.observedAt : CoordinatorCommand → UnixMillis
  | .issueLaunchIntent _ _ _ now _ => now
  | .recoverAndIssueLaunchIntent _ _ _ now _ => now
  | .claim _ _ _ _ _ now => now
  | .heartbeat _ _ _ now => now
  | .renewLease _ _ _ now => now
  | .release _ _ _ _ now => now
  | .beginDrain now => now
  | .tick now => now
  | .markRecovered now => now

@[ext] structure CoordinatorCommandEnvelope where
  idempotencyKey : IdempotencyKey
  sequence : Nat
  expectedVersion : AggregateVersion
  command : CoordinatorCommand
  sequence_pos : sequence ≠ 0

instance : DecidableEq CoordinatorCommandEnvelope := fun _ _ =>
  decidable_of_decidable_of_iff CoordinatorCommandEnvelope.ext_iff.symm

def CoordinatorCommandEnvelope.new (idempotencyKey : IdempotencyKey) (sequence : Nat)
    (expectedVersion : AggregateVersion) (command : CoordinatorCommand) :
    Except CoordinatorError CoordinatorCommandEnvelope :=
  if zero : sequence = 0 then .error .invalidSequence
  else .ok { idempotencyKey, sequence, expectedVersion, command, sequence_pos := zero }

inductive CoordinatorOutcome where
  | launchIntentIssued (launchIntentId : LaunchIntentId)
  | leaseClaimed (lease : CoordinatorLease)
  | heartbeatAccepted (idleExpiresAt : UnixMillis)
  | released (disposition : ReleaseDisposition)
  | drainStarted (deadline : UnixMillis)
  | timedOut (kind : TimeoutKind)
  | launchIntentExpired
  | recovered
  | noChange
  deriving DecidableEq

structure CoordinatorDecision where
  version : AggregateVersion
  sequence : Nat
  outcome : CoordinatorOutcome
  deriving DecidableEq

structure CommandReceipt where
  idempotencyKey : IdempotencyKey
  sequence : Nat
  command : CoordinatorCommand
  decision : CoordinatorDecision
  deriving DecidableEq

/-- Durable replay anchor for bounded journals; never an independent lease authority. -/
structure CoordinatorCheckpoint where
  version : AggregateVersion
  sequence : Nat
  observedAt : UnixMillis
  nextEpoch : Nat
  status : CoordinatorStatus
  pendingIntent : Option PendingLaunchIntent
  recoveryClaimPending : Bool
  activeLease : Option CoordinatorLease
  drainDeadline : Option UnixMillis
  deriving DecidableEq

structure ProfileCoordinatorState where
  tenantId : TenantId
  profileId : ProfileId
  config : CoordinatorConfig
  version : AggregateVersion
  lastSequence : Nat
  lastObservedAt : UnixMillis
  nextEpoch : Nat
  status : CoordinatorStatus
  pendingIntent : Option PendingLaunchIntent
  recoveryClaimPending : Bool
  activeLease : Option CoordinatorLease
  drainDeadline : Option UnixMillis
  receipts : List CommandReceipt
  deriving DecidableEq

/-- `value + delta` as a deadline, refused when it does not fit the clock's integer. -/
def addMillis (value : UnixMillis) (delta : Nat) : Except CoordinatorError UnixMillis :=
  match checkedAdd value delta with
  | some sum => .ok sum
  | none => .error .timeOverflow

namespace ProfileCoordinatorState

def new (tenantId : TenantId) (profileId : ProfileId) (config : CoordinatorConfig) :
    ProfileCoordinatorState where
  tenantId := tenantId
  profileId := profileId
  config := config
  version := .initial
  lastSequence := 0
  lastObservedAt := 0
  nextEpoch := 0
  status := .idle
  pendingIntent := none
  recoveryClaimPending := false
  activeLease := none
  drainDeadline := none
  receipts := []

def checkpoint (self : ProfileCoordinatorState) : CoordinatorCheckpoint where
  version := self.version
  sequence := self.lastSequence
  observedAt := self.lastObservedAt
  nextEpoch := self.nextEpoch
  status := self.status
  pendingIntent := self.pendingIntent
  recoveryClaimPending := self.recoveryClaimPending
  activeLease := self.activeLease
  drainDeadline := self.drainDeadline

/-- What `restoreCheckpoint` refuses once the successor of the stored sequence is known. -/
def checkpointRefused (snapshot : CoordinatorCheckpoint) (expectedVersion : Nat) : Bool :=
  let hasWriter := snapshot.activeLease.isSome
  let activeStatus := snapshot.status == .active || snapshot.status == .draining
  snapshot.version.value != expectedVersion
    || hasWriter != activeStatus
    || snapshot.activeLease.any (fun lease => decide (lease.epoch > snapshot.nextEpoch))
    || (snapshot.pendingIntent.isSome && (snapshot.status != .idle || hasWriter))
    || (snapshot.recoveryClaimPending && (snapshot.status != .idle || hasWriter))
    || (snapshot.drainDeadline.isSome != (snapshot.status == .draining))

/-- Restore only a validated, canonical replay checkpoint. The trailing bounded
command journal repopulates recent idempotency receipts. -/
def restoreCheckpoint (tenantId : TenantId) (profileId : ProfileId) (config : CoordinatorConfig)
    (snapshot : CoordinatorCheckpoint) : Except CoordinatorError ProfileCoordinatorState :=
  match checkedAdd snapshot.sequence 1 with
  | none => .error .invalidCheckpoint
  | some expectedVersion =>
    if checkpointRefused snapshot expectedVersion then .error .invalidCheckpoint
    else
      .ok {
        tenantId, profileId, config
        version := snapshot.version
        lastSequence := snapshot.sequence
        lastObservedAt := snapshot.observedAt
        nextEpoch := snapshot.nextEpoch
        status := snapshot.status
        pendingIntent := snapshot.pendingIntent
        recoveryClaimPending := snapshot.recoveryClaimPending
        activeLease := snapshot.activeLease
        drainDeadline := snapshot.drainDeadline
        receipts := [] }

/-- A live intent: one whose expiry lies after `now`. -/
def intentLive (self : ProfileCoordinatorState) (now : UnixMillis) : Bool :=
  self.pendingIntent.any fun intent => decide (intent.expiresAt > now)

def issueLaunchIntent (self : ProfileCoordinatorState) (launchIntentId : LaunchIntentId)
    (actorId : ActorId) (deviceId : DeviceId) (now expiresAt : UnixMillis) :
    Except CoordinatorError CoordinatorOutcome × ProfileCoordinatorState :=
  if expiresAt ≤ now then (.error .invalidIntentExpiry, self)
  else if self.activeLease.isSome || self.status != .idle then
    (.error .coordinatorUnavailable, self)
  else if self.intentLive now then (.error .pendingIntentExists, self)
  else
    (.ok (.launchIntentIssued launchIntentId),
      { self with pendingIntent := some { launchIntentId, actorId, deviceId, expiresAt } })

def claim (self : ProfileCoordinatorState) (launchIntentId : LaunchIntentId) (actorId : ActorId)
    (deviceId : DeviceId) (sessionId : SessionId) (fencingToken : FencingToken) (now : UnixMillis) :
    Except CoordinatorError CoordinatorOutcome × ProfileCoordinatorState :=
  if self.status != .idle || self.activeLease.isSome then (.error .coordinatorUnavailable, self)
  else match self.pendingIntent with
  | none => (.error .launchIntentMissing, self)
  | some intent =>
    if intent.launchIntentId ≠ launchIntentId then (.error .launchIntentMismatch, self)
    else if intent.actorId ≠ actorId then (.error .actorMismatch, self)
    else if intent.deviceId ≠ deviceId then (.error .deviceMismatch, self)
    else if now ≥ intent.expiresAt then (.error .launchIntentExpired, self)
    -- the epoch and both deadlines are computed before anything is written
    else match checkedAdd self.nextEpoch 1 with
    | none => (.error .epochOverflow, self)
    | some epoch =>
      match addMillis now self.config.idleTimeoutMs with
      | .error why => (.error why, self)
      | .ok idleExpiresAt =>
        match addMillis now self.config.hardTimeoutMs with
        | .error why => (.error why, self)
        | .ok hardExpiresAt =>
          let lease : CoordinatorLease :=
            { sessionId, deviceId, epoch, fencingToken, claimedAt := now, lastHeartbeatAt := now,
              idleExpiresAt, hardExpiresAt }
          (.ok (.leaseClaimed lease),
            { self with
              nextEpoch := epoch
              status := .active
              recoveryClaimPending := false
              pendingIntent := none
              activeLease := some lease
              drainDeadline := none })

def recoverAndIssueLaunchIntent (self : ProfileCoordinatorState) (launchIntentId : LaunchIntentId)
    (actorId : ActorId) (deviceId : DeviceId) (now expiresAt : UnixMillis) :
    Except CoordinatorError CoordinatorOutcome × ProfileCoordinatorState :=
  if !(self.status == .uncertain || (self.status == .idle && self.recoveryClaimPending))
      || self.activeLease.isSome || self.intentLive now then
    (.error .coordinatorUnavailable, self)
  else if expiresAt ≤ now then (.error .invalidIntentExpiry, self)
  else
    -- one transition; the adapter has checked the historical Claim before it gets here
    (.ok (.launchIntentIssued launchIntentId),
      { self with
        pendingIntent := some { launchIntentId, actorId, deviceId, expiresAt }
        status := .idle
        recoveryClaimPending := true
        drainDeadline := none })

/-- The deadline that has passed at `now`: drain before hard before idle. -/
def timeoutKind (self : ProfileCoordinatorState) (lease : CoordinatorLease) (now : UnixMillis) :
    Option TimeoutKind :=
  if self.status == .draining && self.drainDeadline.any (fun deadline => decide (now ≥ deadline)) then
    some .drain
  else if now ≥ lease.hardExpiresAt then some .hard
  else if now ≥ lease.idleExpiresAt then some .idle
  else none

def timeoutIfDue (self : ProfileCoordinatorState) (now : UnixMillis) :
    Option CoordinatorOutcome × ProfileCoordinatorState :=
  match self.activeLease with
  | none => (none, self)
  | some lease =>
    match self.timeoutKind lease now with
    | none => (none, self)
    | some kind =>
      (some (.timedOut kind),
        { self with
          activeLease := none
          pendingIntent := none
          drainDeadline := none
          status := .uncertain })

/-- `heartbeat` serves the historical Heartbeat and the RenewLease command; only
the latter moves the hard deadline. -/
def heartbeat (self : ProfileCoordinatorState) (sessionId : SessionId) (epoch : Nat)
    (fencingToken : FencingToken) (now : UnixMillis) (renewHard : Bool) :
    Except CoordinatorError CoordinatorOutcome × ProfileCoordinatorState :=
  if !(self.status == .active || self.status == .draining) then (.error .noActiveLease, self)
  else match self.activeLease with
  | none => (.error .noActiveLease, self)
  | some lease =>
    if !lease.acceptsWriter sessionId epoch fencingToken then (.error .staleWriter, self)
    else if now < lease.lastHeartbeatAt then (.error .reorderedHeartbeat, self)
    -- a lease that is over is not kept alive: the answer is the timeout, and not an error
    else match self.timeoutIfDue now with
    | (some outcome, expired) => (.ok outcome, expired)
    | (none, self) =>
      match addMillis now self.config.idleTimeoutMs with
      | .error why => (.error why, self)
      | .ok proposedIdle =>
        -- stored journals hold old heartbeats, which must replay with the hard deadline fixed
        match (if renewHard then (addMillis now self.config.hardTimeoutMs).map some else .ok none) with
        | .error why => (.error why, self)
        | .ok proposedHard =>
          match self.activeLease with
          | none => (.error .noActiveLease, self)
          | some lease =>
            let hardExpiresAt := proposedHard.getD lease.hardExpiresAt
            let idleExpiresAt := min proposedIdle hardExpiresAt
            (.ok (.heartbeatAccepted idleExpiresAt),
              { self with
                activeLease := some
                  { lease with lastHeartbeatAt := now, hardExpiresAt, idleExpiresAt } })

def statusAfter : ReleaseDisposition → CoordinatorStatus
  | .clean => .idle
  | .dirty => .dirty
  | .uncertain => .uncertain

def release (self : ProfileCoordinatorState) (sessionId : SessionId) (epoch : Nat)
    (fencingToken : FencingToken) (disposition : ReleaseDisposition) (now : UnixMillis) :
    Except CoordinatorError CoordinatorOutcome × ProfileCoordinatorState :=
  match self.activeLease with
  | none => (.error .noActiveLease, self)
  | some lease =>
    if !lease.acceptsWriter sessionId epoch fencingToken then (.error .staleWriter, self)
    else match self.timeoutIfDue now with
    | (some outcome, expired) => (.ok outcome, expired)
    | (none, self) =>
      (.ok (.released disposition),
        { self with
          activeLease := none
          pendingIntent := none
          drainDeadline := none
          status := statusAfter disposition })

def beginDrain (self : ProfileCoordinatorState) (now : UnixMillis) :
    Except CoordinatorError CoordinatorOutcome × ProfileCoordinatorState :=
  if self.status != .active || self.activeLease.isNone then (.error .noActiveLease, self)
  else match self.timeoutIfDue now with
  | (some outcome, expired) => (.ok outcome, expired)
  | (none, self) =>
    match addMillis now self.config.drainTimeoutMs with
    | .error why => (.error why, self)
    | .ok proposedDeadline =>
      match self.activeLease with
      | none => (.error .noActiveLease, self)
      | some lease =>
        let deadline := min proposedDeadline lease.hardExpiresAt
        (.ok (.drainStarted deadline),
          { self with status := .draining, drainDeadline := some deadline })

def tick (self : ProfileCoordinatorState) (now : UnixMillis) :
    Except CoordinatorError CoordinatorOutcome × ProfileCoordinatorState :=
  if self.pendingIntent.any (fun intent => decide (now ≥ intent.expiresAt)) then
    (.ok .launchIntentExpired, { self with pendingIntent := none })
  else match self.timeoutIfDue now with
  | (outcome, after) => (.ok (outcome.getD .noChange), after)

def markRecovered (self : ProfileCoordinatorState) (_now : UnixMillis) :
    Except CoordinatorError CoordinatorOutcome × ProfileCoordinatorState :=
  if self.activeLease.isSome then (.error .coordinatorUnavailable, self)
  else if !(self.status == .dirty || self.status == .uncertain) then
    (.error .recoveryNotRequired, self)
  else
    (.ok .recovered,
      { self with
        status := .idle
        recoveryClaimPending := false
        pendingIntent := none
        drainDeadline := none })

def applyNew (self : ProfileCoordinatorState) :
    CoordinatorCommand → Except CoordinatorError CoordinatorOutcome × ProfileCoordinatorState
  | .issueLaunchIntent launchIntentId actorId deviceId now expiresAt =>
    self.issueLaunchIntent launchIntentId actorId deviceId now expiresAt
  | .recoverAndIssueLaunchIntent launchIntentId actorId deviceId now expiresAt =>
    self.recoverAndIssueLaunchIntent launchIntentId actorId deviceId now expiresAt
  | .claim launchIntentId actorId deviceId sessionId fencingToken now =>
    self.claim launchIntentId actorId deviceId sessionId fencingToken now
  | .heartbeat sessionId epoch fencingToken now =>
    self.heartbeat sessionId epoch fencingToken now false
  | .renewLease sessionId epoch fencingToken now =>
    self.heartbeat sessionId epoch fencingToken now true
  | .release sessionId epoch fencingToken disposition now =>
    self.release sessionId epoch fencingToken disposition now
  | .beginDrain now => self.beginDrain now
  | .tick now => self.tick now
  | .markRecovered now => self.markRecovered now

/-- The receipt an idempotency key is remembered under, oldest first. -/
def receiptFor (self : ProfileCoordinatorState) (key : IdempotencyKey) : Option CommandReceipt :=
  self.receipts.find? fun receipt => receipt.idempotencyKey == key

def apply (self : ProfileCoordinatorState) (envelope : CoordinatorCommandEnvelope) :
    Except CoordinatorError CoordinatorDecision × ProfileCoordinatorState :=
  match self.receiptFor envelope.idempotencyKey with
  | some receipt =>
    -- a known key is settled by its receipt, before any counter is looked at
    if receipt.sequence = envelope.sequence ∧ receipt.command = envelope.command then
      (.ok receipt.decision, self)
    else (.error .idempotencyConflict, self)
  | none =>
    match checkedAdd self.lastSequence 1 with
    | none => (.error .sequenceOverflow, self)
    | some expectedSequence =>
      if envelope.sequence ≠ expectedSequence then (.error .reorderedCommand, self)
      else if envelope.expectedVersion ≠ self.version then (.error .expectedVersionMismatch, self)
      else if envelope.command.observedAt < self.lastObservedAt then (.error .reorderedTime, self)
      else match self.version.next with
      | none => (.error .versionOverflow, self)
      | some nextVersion =>
        match self.applyNew envelope.command with
        -- the error leaves whatever the method has written by then
        | (.error why, after) => (.error why, after)
        | (.ok outcome, after) =>
          let decision : CoordinatorDecision :=
            { version := nextVersion, sequence := envelope.sequence, outcome }
          let receipt : CommandReceipt :=
            { idempotencyKey := envelope.idempotencyKey, sequence := envelope.sequence,
              command := envelope.command, decision }
          (.ok decision,
            { after with
              version := nextVersion
              lastSequence := envelope.sequence
              lastObservedAt := envelope.command.observedAt
              receipts := pushBounded receiptLimit after.receipts receipt })

end ProfileCoordinatorState

end ProfilePlatform.Session
