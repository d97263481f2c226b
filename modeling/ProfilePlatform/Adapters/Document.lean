import ProfilePlatform.Session.Coordinator

/-! The durable coordinator document: a checkpoint and the journal since it.

The stored types carry plain strings and integers. Every read parses them again,
so each entry point can fail on what an earlier write left behind.
-/

set_option autoImplicit false

namespace ProfilePlatform.Adapters

open Session

/-- Twice the idempotency window of the domain: half of a full journal is kept. -/
def compactJournalAt : Nat := 64
def retainRecentCommands : Nat := 32

inductive CoordinatorAdapterError where
  | identifier (error : ParseOpaqueIdError)
  | zeroVersion (error : ZeroAggregateVersion)
  | domain (error : CoordinatorError)
  | tenantMismatch
  | profileMismatch
  | journalCapacityExceeded
  deriving DecidableEq

def parseId {kind : IdKind} (value : String) : Except CoordinatorAdapterError (TypedId kind) :=
  (TypedId.parse value).mapError .identifier

def parseVersion (value : Nat) : Except CoordinatorAdapterError AggregateVersion :=
  (AggregateVersion.new value).mapError .zeroVersion

inductive StoredCoordinatorStatus where
  | idle | active | draining | dirty | uncertain
  deriving DecidableEq, Repr

def StoredCoordinatorStatus.ofDomain : CoordinatorStatus → StoredCoordinatorStatus
  | .idle => .idle
  | .active => .active
  | .draining => .draining
  | .dirty => .dirty
  | .uncertain => .uncertain

def StoredCoordinatorStatus.toDomain : StoredCoordinatorStatus → CoordinatorStatus
  | .idle => .idle
  | .active => .active
  | .draining => .draining
  | .dirty => .dirty
  | .uncertain => .uncertain

structure StoredPendingIntent where
  launchIntentId : String
  actorId : String
  deviceId : String
  expiresAtMs : Nat
  deriving DecidableEq

structure StoredActiveLease where
  sessionId : String
  deviceId : String
  epoch : Nat
  fencingToken : String
  claimedAtMs : Nat
  lastHeartbeatAtMs : Nat
  idleExpiresAtMs : Nat
  hardExpiresAtMs : Nat
  deriving DecidableEq

structure StoredClaimIdentity where
  actorId : String
  deviceId : String
  sessionId : String
  deriving DecidableEq

structure StoredCoordinatorCheckpoint where
  version : Nat
  sequence : Nat
  observedAtMs : Nat
  nextEpoch : Nat
  status : StoredCoordinatorStatus
  pendingIntent : Option StoredPendingIntent
  recoveryClaimPending : Bool
  activeLease : Option StoredActiveLease
  drainDeadlineMs : Option Nat
  lastClaim : Option StoredClaimIdentity
  deriving DecidableEq

def StoredPendingIntent.ofDomain (intent : PendingLaunchIntent) : StoredPendingIntent where
  launchIntentId := intent.launchIntentId.asStr
  actorId := intent.actorId.asStr
  deviceId := intent.deviceId.asStr
  expiresAtMs := intent.expiresAt

def StoredPendingIntent.intoDomain (stored : StoredPendingIntent) :
    Except CoordinatorAdapterError PendingLaunchIntent := do
  let launchIntentId ← parseId stored.launchIntentId
  let actorId ← parseId stored.actorId
  let deviceId ← parseId stored.deviceId
  return { launchIntentId, actorId, deviceId, expiresAt := stored.expiresAtMs }

def StoredActiveLease.ofDomain (lease : CoordinatorLease) : StoredActiveLease where
  sessionId := lease.sessionId.asStr
  deviceId := lease.deviceId.asStr
  epoch := lease.epoch
  fencingToken := lease.fencingToken.asStr
  claimedAtMs := lease.claimedAt
  lastHeartbeatAtMs := lease.lastHeartbeatAt
  idleExpiresAtMs := lease.idleExpiresAt
  hardExpiresAtMs := lease.hardExpiresAt

def StoredActiveLease.intoDomain (stored : StoredActiveLease) :
    Except CoordinatorAdapterError CoordinatorLease := do
  let sessionId ← parseId stored.sessionId
  let deviceId ← parseId stored.deviceId
  let fencingToken ← parseId stored.fencingToken
  (CoordinatorLease.restored sessionId deviceId stored.epoch fencingToken stored.claimedAtMs
    stored.lastHeartbeatAtMs stored.idleExpiresAtMs stored.hardExpiresAtMs).mapError .domain

/-- `map` and `transpose` of the source in one: an absent value converts to an absent one. -/
def convertOptional {A B : Type} (convert : A → Except CoordinatorAdapterError B) :
    Option A → Except CoordinatorAdapterError (Option B)
  | none => .ok none
  | some value => (convert value).map some

namespace StoredCoordinatorCheckpoint

/-- The identity of the last Claim survives the lease it made: it is the
admission gate of a recovery. -/
def fromState (state : ProfileCoordinatorState) (lastClaim : Option StoredClaimIdentity) :
    StoredCoordinatorCheckpoint :=
  let value := state.checkpoint
  { version := value.version.value
    sequence := value.sequence
    observedAtMs := value.observedAt
    nextEpoch := value.nextEpoch
    status := .ofDomain value.status
    pendingIntent := value.pendingIntent.map .ofDomain
    recoveryClaimPending := value.recoveryClaimPending
    activeLease := value.activeLease.map .ofDomain
    drainDeadlineMs := value.drainDeadline
    lastClaim }

def intoDomain (stored : StoredCoordinatorCheckpoint) :
    Except CoordinatorAdapterError CoordinatorCheckpoint := do
  let pendingIntent ← convertOptional StoredPendingIntent.intoDomain stored.pendingIntent
  let activeLease ← convertOptional StoredActiveLease.intoDomain stored.activeLease
  let version ← parseVersion stored.version
  return {
    version
    sequence := stored.sequence
    observedAt := stored.observedAtMs
    nextEpoch := stored.nextEpoch
    status := stored.status.toDomain
    pendingIntent
    recoveryClaimPending := stored.recoveryClaimPending
    activeLease
    drainDeadline := stored.drainDeadlineMs }

end StoredCoordinatorCheckpoint

inductive StoredReleaseDisposition where
  | clean | dirty | uncertain
  deriving DecidableEq, Repr

def StoredReleaseDisposition.toDomain : StoredReleaseDisposition → ReleaseDisposition
  | .clean => .clean
  | .dirty => .dirty
  | .uncertain => .uncertain

def StoredReleaseDisposition.ofDomain : ReleaseDisposition → StoredReleaseDisposition
  | .clean => .clean
  | .dirty => .dirty
  | .uncertain => .uncertain

inductive StoredCoordinatorCommand where
  | issueLaunchIntent (launchIntentId actorId deviceId : String) (nowMs expiresAtMs : Nat)
  | recoverAndIssueLaunchIntent (launchIntentId actorId deviceId : String)
      (nowMs expiresAtMs : Nat)
  | claim (launchIntentId actorId deviceId sessionId fencingToken : String) (nowMs : Nat)
  | heartbeat (sessionId : String) (epoch : Nat) (fencingToken : String) (nowMs : Nat)
  | renewLease (sessionId : String) (epoch : Nat) (fencingToken : String) (nowMs : Nat)
  | release (sessionId : String) (epoch : Nat) (fencingToken : String)
      (disposition : StoredReleaseDisposition) (nowMs : Nat)
  | beginDrain (nowMs : Nat)
  | tick (nowMs : Nat)
  | markRecovered (nowMs : Nat)
  deriving DecidableEq

namespace StoredCoordinatorCommand

def toDomain : StoredCoordinatorCommand → Except CoordinatorAdapterError CoordinatorCommand
  | .issueLaunchIntent launchIntentId actorId deviceId nowMs expiresAtMs => do
    let launchIntentId ← parseId launchIntentId
    let actorId ← parseId actorId
    let deviceId ← parseId deviceId
    return .issueLaunchIntent launchIntentId actorId deviceId nowMs expiresAtMs
  | .recoverAndIssueLaunchIntent launchIntentId actorId deviceId nowMs expiresAtMs => do
    let launchIntentId ← parseId launchIntentId
    let actorId ← parseId actorId
    let deviceId ← parseId deviceId
    return .recoverAndIssueLaunchIntent launchIntentId actorId deviceId nowMs expiresAtMs
  | .claim launchIntentId actorId deviceId sessionId fencingToken nowMs => do
    let launchIntentId ← parseId launchIntentId
    let actorId ← parseId actorId
    let deviceId ← parseId deviceId
    let sessionId ← parseId sessionId
    let fencingToken ← parseId fencingToken
    return .claim launchIntentId actorId deviceId sessionId fencingToken nowMs
  | .heartbeat sessionId epoch fencingToken nowMs => do
    let sessionId ← parseId sessionId
    let fencingToken ← parseId fencingToken
    return .heartbeat sessionId epoch fencingToken nowMs
  | .renewLease sessionId epoch fencingToken nowMs => do
    let sessionId ← parseId sessionId
    let fencingToken ← parseId fencingToken
    return .renewLease sessionId epoch fencingToken nowMs
  | .release sessionId epoch fencingToken disposition nowMs => do
    let sessionId ← parseId sessionId
    let fencingToken ← parseId fencingToken
    return .release sessionId epoch fencingToken disposition.toDomain nowMs
  | .beginDrain nowMs => .ok (.beginDrain nowMs)
  | .tick nowMs => .ok (.tick nowMs)
  | .markRecovered nowMs => .ok (.markRecovered nowMs)

def claimIdentity : StoredCoordinatorCommand → Option StoredClaimIdentity
  | .claim _ actorId deviceId sessionId _ _ => some { actorId, deviceId, sessionId }
  | _ => none

end StoredCoordinatorCommand

structure StoredCoordinatorEnvelope where
  idempotencyKey : String
  sequence : Nat
  expectedVersion : Nat
  command : StoredCoordinatorCommand
  deriving DecidableEq

def StoredCoordinatorEnvelope.toDomain (envelope : StoredCoordinatorEnvelope) :
    Except CoordinatorAdapterError CoordinatorCommandEnvelope := do
  let idempotencyKey ← parseId envelope.idempotencyKey
  let expectedVersion ← parseVersion envelope.expectedVersion
  let command ← envelope.command.toDomain
  (CoordinatorCommandEnvelope.new idempotencyKey envelope.sequence expectedVersion
    command).mapError .domain

/-- The stored form in which the ingress adapter sends a domain command. -/
def storedCommand : CoordinatorCommand → StoredCoordinatorCommand
  | .issueLaunchIntent launchIntentId actorId deviceId now expiresAt =>
    .issueLaunchIntent launchIntentId.asStr actorId.asStr deviceId.asStr now expiresAt
  | .recoverAndIssueLaunchIntent launchIntentId actorId deviceId now expiresAt =>
    .recoverAndIssueLaunchIntent launchIntentId.asStr actorId.asStr deviceId.asStr now expiresAt
  | .claim launchIntentId actorId deviceId sessionId fencingToken now =>
    .claim launchIntentId.asStr actorId.asStr deviceId.asStr sessionId.asStr fencingToken.asStr now
  | .heartbeat sessionId epoch fencingToken now =>
    .heartbeat sessionId.asStr epoch fencingToken.asStr now
  | .renewLease sessionId epoch fencingToken now =>
    .renewLease sessionId.asStr epoch fencingToken.asStr now
  | .release sessionId epoch fencingToken disposition now =>
    .release sessionId.asStr epoch fencingToken.asStr (.ofDomain disposition) now
  | .beginDrain now => .beginDrain now
  | .tick now => .tick now
  | .markRecovered now => .markRecovered now

def storedEnvelope (envelope : CoordinatorCommandEnvelope) : StoredCoordinatorEnvelope where
  idempotencyKey := envelope.idempotencyKey.asStr
  sequence := envelope.sequence
  expectedVersion := envelope.expectedVersion.value
  command := storedCommand envelope.command

structure CoordinatorProjection where
  tenantId : String
  profileId : String
  status : String
  version : Nat
  sequence : Nat
  nextEpoch : Nat
  activeSessionId : Option String
  activeDeviceId : Option String
  activeEpoch : Option Nat
  idleExpiresAtMs : Option Nat
  hardExpiresAtMs : Option Nat
  drainDeadlineMs : Option Nat
  pendingLaunchIntentId : Option String
  pendingIntentExpiresAtMs : Option Nat
  deriving DecidableEq

def statusName : CoordinatorStatus → String
  | .idle => "idle"
  | .active => "active"
  | .draining => "draining"
  | .dirty => "dirty"
  | .uncertain => "uncertain"

def outcomeName : CoordinatorOutcome → String
  | .launchIntentIssued _ => "launch_intent_issued"
  | .leaseClaimed _ => "lease_claimed"
  | .heartbeatAccepted _ => "heartbeat_accepted"
  | .released _ => "released"
  | .drainStarted _ => "drain_started"
  | .timedOut _ => "timed_out"
  | .launchIntentExpired => "launch_intent_expired"
  | .recovered => "recovered"
  | .noChange => "no_change"

def CoordinatorProjection.fromState (state : ProfileCoordinatorState) : CoordinatorProjection where
  tenantId := state.tenantId.asStr
  profileId := state.profileId.asStr
  status := statusName state.status
  version := state.version.value
  sequence := state.lastSequence
  nextEpoch := state.nextEpoch
  activeSessionId := state.activeLease.map fun lease => lease.sessionId.asStr
  activeDeviceId := state.activeLease.map fun lease => lease.deviceId.asStr
  activeEpoch := state.activeLease.map fun lease => lease.epoch
  idleExpiresAtMs := state.activeLease.map fun lease => lease.idleExpiresAt
  hardExpiresAtMs := state.activeLease.map fun lease => lease.hardExpiresAt
  drainDeadlineMs := state.drainDeadline
  pendingLaunchIntentId := state.pendingIntent.map fun intent => intent.launchIntentId.asStr
  pendingIntentExpiresAtMs := state.pendingIntent.map fun intent => intent.expiresAt

/-- The earliest deadline of the pending intent and the active lease. -/
def nextAlarmAt (state : ProfileCoordinatorState) : Option UnixMillis :=
  let intentDeadline := state.pendingIntent.map fun intent => intent.expiresAt
  let leaseDeadline := state.activeLease.map fun lease =>
    let deadline :=
      if lease.hardExpiresAt < lease.idleExpiresAt then lease.hardExpiresAt else lease.idleExpiresAt
    match state.drainDeadline with
    | some drainDeadline => if drainDeadline < deadline then drainDeadline else deadline
    | none => deadline
  match intentDeadline, leaseDeadline with
  | some left, some right => some (if left < right then left else right)
  | some value, none => some value
  | none, some value => some value
  | none, none => none

structure CoordinatorApplied where
  projection : CoordinatorProjection
  decision : CoordinatorDecision
  appended : Bool
  nextAlarmAt : Option UnixMillis
  deriving DecidableEq

structure StoredCoordinatorDocument where
  tenantId : String
  profileId : String
  idleTimeoutMs : Nat
  hardTimeoutMs : Nat
  drainTimeoutMs : Nat
  checkpoint : Option StoredCoordinatorCheckpoint
  journal : List StoredCoordinatorEnvelope
  deriving DecidableEq

/-- The claim of the most recent Claim command of a journal. -/
def lastClaimIn (journal : List StoredCoordinatorEnvelope) : Option StoredClaimIdentity :=
  journal.reverse.findSome? fun envelope => envelope.command.claimIdentity

def StoredClaimIdentity.belongsTo (claim : StoredClaimIdentity) (actor : ActorId)
    (device : DeviceId) : Bool :=
  claim.actorId == actor.asStr && claim.deviceId == device.asStr

/-- Refuses a launch intent for anyone but the owner of the last Claim. The
identifiers are parsed only when the question is asked. -/
def ownedByLastClaim (lastClaimMatches : ActorId → DeviceId → Bool) (actorId deviceId : String) :
    Except CoordinatorAdapterError Unit := do
  let actor ← parseId actorId
  let device ← parseId deviceId
  if lastClaimMatches actor device then return () else throw (.domain .staleWriter)

/-- The recovery provenance guard at the head of `apply`: an expired recovery
intent remains a reservation for the original device, and a recovery is always
for it. -/
def recoveryGuard (lastClaimMatches : ActorId → DeviceId → Bool) (recoveryClaimPending : Bool) :
    StoredCoordinatorCommand → Except CoordinatorAdapterError Unit
  | .issueLaunchIntent _ actorId deviceId _ _ =>
    if recoveryClaimPending then ownedByLastClaim lastClaimMatches actorId deviceId else .ok ()
  | .recoverAndIssueLaunchIntent _ actorId deviceId _ _ =>
    ownedByLastClaim lastClaimMatches actorId deviceId
  | _ => .ok ()

/-- Replays envelopes onto a state; the first one that is refused ends it. -/
def applyAll (state : ProfileCoordinatorState) :
    List StoredCoordinatorEnvelope → Except CoordinatorAdapterError ProfileCoordinatorState
  | [] => .ok state
  | envelope :: rest => do
    let domain ← envelope.toDomain
    match state.apply domain with
    | (.error why, _) => throw (.domain why)
    | (.ok _, after) => applyAll after rest

namespace StoredCoordinatorDocument

def new (tenantId : TenantId) (profileId : ProfileId) (config : CoordinatorConfig) :
    StoredCoordinatorDocument where
  tenantId := tenantId.asStr
  profileId := profileId.asStr
  idleTimeoutMs := config.idleTimeoutMs
  hardTimeoutMs := config.hardTimeoutMs
  drainTimeoutMs := config.drainTimeoutMs
  checkpoint := none
  journal := []

def ensureIdentity (self : StoredCoordinatorDocument) (tenantId : TenantId)
    (profileId : ProfileId) : Except CoordinatorAdapterError Unit :=
  if self.tenantId ≠ tenantId.asStr then .error .tenantMismatch
  else if self.profileId ≠ profileId.asStr then .error .profileMismatch
  else .ok ()

def restoreBase (self : StoredCoordinatorDocument) :
    Except CoordinatorAdapterError ProfileCoordinatorState := do
  let tenant ← parseId self.tenantId
  let profile ← parseId self.profileId
  let config ← (CoordinatorConfig.new self.idleTimeoutMs self.hardTimeoutMs
    self.drainTimeoutMs).mapError .domain
  match self.checkpoint with
  | some stored =>
    let snapshot ← stored.intoDomain
    (ProfileCoordinatorState.restoreCheckpoint tenant profile config snapshot).mapError .domain
  | none => return .new tenant profile config

def replay (self : StoredCoordinatorDocument) :
    Except CoordinatorAdapterError ProfileCoordinatorState := do
  let base ← self.restoreBase
  applyAll base self.journal

/-- The claim identity the checkpoint carries over. -/
def checkpointClaim (self : StoredCoordinatorDocument) : Option StoredClaimIdentity :=
  self.checkpoint.bind fun checkpoint => checkpoint.lastClaim

def lastClaimMatches (self : StoredCoordinatorDocument) (actor : ActorId) (device : DeviceId) :
    Bool :=
  match lastClaimIn self.journal with
  | some claim => claim.belongsTo actor device
  | none => self.checkpointClaim.any fun claim => claim.belongsTo actor device

/-- Every failure lies before the document is written. -/
def compactJournal (self : StoredCoordinatorDocument) :
    Except CoordinatorAdapterError StoredCoordinatorDocument := do
  let count := self.journal.length - retainRecentCommands
  if count = 0 then return self
  let base ← self.restoreBase
  let anchor ← applyAll base (self.journal.take count)
  let lastClaim := (lastClaimIn (self.journal.take count)).or self.checkpointClaim
  let next := StoredCoordinatorCheckpoint.fromState anchor lastClaim
  -- full replay equality is verified before the stored journal changes
  let replayed ← self.replay
  let snapshot ← next.intoDomain
  let restored ← (ProfileCoordinatorState.restoreCheckpoint anchor.tenantId anchor.profileId
    anchor.config snapshot).mapError .domain
  let verified ← applyAll restored (self.journal.drop count)
  if verified.checkpoint ≠ replayed.checkpoint then throw (.domain .invalidCheckpoint)
  return { self with checkpoint := some next, journal := self.journal.drop count }

def push (self : StoredCoordinatorDocument) (envelope : StoredCoordinatorEnvelope) :
    StoredCoordinatorDocument :=
  { self with journal := self.journal ++ [envelope] }

/-- Appends an accepted envelope and compacts a full journal. -/
def append (self : StoredCoordinatorDocument) (envelope : StoredCoordinatorEnvelope) :
    Except CoordinatorAdapterError Unit × StoredCoordinatorDocument :=
  let pushed := self.push envelope
  if pushed.journal.length ≥ compactJournalAt then
    match pushed.compactJournal with
    -- the source pushes before it compacts, so a failure leaves the longer journal
    | .error why => (.error why, pushed)
    | .ok compacted => (.ok (), compacted)
  else (.ok (), pushed)

def apply (self : StoredCoordinatorDocument) (envelope : StoredCoordinatorEnvelope) :
    Except CoordinatorAdapterError CoordinatorApplied × StoredCoordinatorDocument :=
  match self.replay with
  | .error why => (.error why, self)
  | .ok state =>
    match recoveryGuard self.lastClaimMatches state.recoveryClaimPending envelope.command with
    | .error why => (.error why, self)
    | .ok () =>
      match envelope.toDomain with
      | .error why => (.error why, self)
      | .ok domain =>
        match state.apply domain with
        | (.error why, _) => (.error (.domain why), self)
        | (.ok decision, after) =>
          -- a replayed decision is no later than the sequence and is not appended
          let applied : CoordinatorApplied :=
            { projection := .fromState after
              decision
              appended := decide (decision.sequence > state.lastSequence)
              nextAlarmAt := nextAlarmAt after }
          if applied.appended then
            match self.append envelope with
            | (.error why, appended) => (.error why, appended)
            | (.ok (), appended) => (.ok applied, appended)
          else (.ok applied, self)

/-- Whether the live lease was created by exactly this actor, device and session. -/
def activeClaimMatches (self : StoredCoordinatorDocument) (actorId : ActorId) (deviceId : DeviceId)
    (sessionId : SessionId) : Except CoordinatorAdapterError Bool := do
  let state ← self.replay
  match state.activeLease with
  | none => return false
  | some active =>
    if active.deviceId ≠ deviceId ∨ active.sessionId ≠ sessionId then return false
    -- Claims of other sessions are passed over, whoever made them
    let ofSession (claim : StoredClaimIdentity) : Bool := claim.sessionId == sessionId.asStr
    let journaled := self.journal.reverse.findSome? fun envelope =>
      envelope.command.claimIdentity.filter ofSession
    match journaled with
    | some claim => return claim.belongsTo actorId deviceId
    | none => return self.checkpointClaim.any fun claim =>
        claim.belongsTo actorId deviceId && ofSession claim

def journalLen (self : StoredCoordinatorDocument) : Nat := self.journal.length

end StoredCoordinatorDocument

end ProfilePlatform.Adapters
