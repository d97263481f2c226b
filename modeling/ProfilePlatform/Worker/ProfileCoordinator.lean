import ProfilePlatform.Adapters.Compaction
import ProfilePlatform.Adapters.GenerationCommitRuntime

/-! The coordinator object: a stored document, a generation-commit gate, an alarm,
and the commits whose journal call has not answered yet.

A handler runs in one piece up to its call of the catalog journal and in one
piece after it. Between the two halves any other request may run, so the second
half is an event of its own.
-/

set_option autoImplicit false

namespace ProfilePlatform.Worker

open Foundation Session Ports Adapters

def gateAlarmRetryMs : Nat := 1000
def idleTimeoutMs : Nat := 30000
def hardTimeoutMs : Nat := 900000
def drainTimeoutMs : Nat := 60000

structure StoredGenerationCommitGate where
  authorityDigest : String
  generationId : String
  authorizedAtMs : UnixMillis
  deriving DecidableEq

def StoredGenerationCommitGate.matches (gate : StoredGenerationCommitGate)
    (authorityDigest generationId : String) : Bool :=
  gate.authorityDigest == authorityDigest && gate.generationId == generationId

/-- The lease is live for this writer at exactly this version and sequence. -/
def coordinatorGenerationAuthorityIsLive (coordinator : ProfileCoordinatorState)
    (deviceId : DeviceId) (sessionId : SessionId) (epoch : Nat) (fencingToken : FencingToken)
    (coordinatorVersion coordinatorSequence : Nat) (authorizedAt : UnixMillis) : Bool :=
  if !(coordinator.status == .active || coordinator.status == .draining) ||
      coordinator.version.value != coordinatorVersion ||
      coordinator.lastSequence != coordinatorSequence ||
      decide (authorizedAt < coordinator.lastObservedAt) then false
  else
    match coordinator.activeLease with
    | none => false
    | some lease =>
      if lease.deviceId != deviceId || !lease.acceptsWriter sessionId epoch fencingToken ||
          decide (authorizedAt ≥ lease.idleExpiresAt) ||
          decide (authorizedAt ≥ lease.hardExpiresAt) then false
      else if coordinator.status == .draining &&
          coordinator.drainDeadline.all fun deadline => decide (authorizedAt ≥ deadline) then false
      else true

def validateAuthority (coordinator : ProfileCoordinatorState) (deviceId : DeviceId)
    (witness : CoordinatorGenerationCommitWitness) (authorizedAt : UnixMillis) :
    Except DeviceGenerationCommitErrorClass Unit :=
  if coordinatorGenerationAuthorityIsLive coordinator deviceId witness.sessionId witness.epoch
      witness.fencingToken witness.coordinatorVersion witness.coordinatorSequence authorizedAt then
    .ok ()
  else .error .staleAuthority

def validateDeviceGenerationCommitAuthority (coordinator : ProfileCoordinatorState)
    (request : DeviceGenerationCommitRequest) (authorizedAt : UnixMillis) :
    Except DeviceGenerationCommitErrorClass Unit :=
  validateAuthority coordinator request.deviceId request.coordinator authorizedAt

def validateProfileSuccessorAuthority (coordinator : ProfileCoordinatorState)
    (request : ProfileGenerationSuccessorCommitRequest) (authorizedAt : UnixMillis) :
    Except ProfileGenerationSuccessorCommitErrorClass Unit :=
  validateAuthority coordinator request.deviceId request.coordinator authorizedAt

def releasesGate (why : DeviceGenerationCommitErrorClass) : Bool :=
  why == .staleAuthority || why == .versionConflict

def generationCommitFailureReleasesGate (why : DeviceGenerationCommitErrorClass) : Bool :=
  releasesGate why

def profileSuccessorFailureReleasesGate (why : ProfileGenerationSuccessorCommitErrorClass) : Bool :=
  releasesGate why

/-- A commit on its way to the catalog journal. -/
inductive GenerationCommit where
  | device (actor : ActorContext) (request : DeviceGenerationCommitRequest)
  | successor (actor : ActorContext) (request : ProfileGenerationSuccessorCommitRequest)

namespace GenerationCommit

def generationId : GenerationCommit → GenerationId
  | .device _ request => request.object.generationId
  | .successor _ request => request.object.generationId

def validate (coordinator : ProfileCoordinatorState) (authorizedAt : UnixMillis) :
    GenerationCommit → Except DeviceGenerationCommitErrorClass Unit
  | .device _ request => validateDeviceGenerationCommitAuthority coordinator request authorizedAt
  | .successor _ request => validateProfileSuccessorAuthority coordinator request authorizedAt

def failureReleasesGate (why : DeviceGenerationCommitErrorClass) : GenerationCommit → Bool
  | .device _ _ => generationCommitFailureReleasesGate why
  | .successor _ _ => profileSuccessorFailureReleasesGate why

end GenerationCommit

/-- A commit that passed authority validation and awaits the journal, with the
document and the coordinator it was authorized against. -/
structure AuthorizedCommit where
  commit : GenerationCommit
  document : StoredCoordinatorDocument
  coordinator : ProfileCoordinatorState
  authorizedAt : UnixMillis
  replayed : document.replay = .ok coordinator
  authorized : commit.validate coordinator authorizedAt = .ok ()

abbrev JournalOutcome :=
  Except DeviceGenerationCommitErrorClass ProfileGenerationSuccessorCommitOutcome

structure CoordinatorObjectResponse where
  outcome : String
  version : Nat
  sequence : Nat
  replayed : Bool
  fencingToken : Option String
  epoch : Option Nat
  projection : CoordinatorProjection
  deriving DecidableEq

def claimedLease : CoordinatorOutcome → Option CoordinatorLease
  | .leaseClaimed lease => some lease
  | _ => none

def CoordinatorObjectResponse.fromApplied (applied : CoordinatorApplied) :
    CoordinatorObjectResponse where
  outcome := outcomeName applied.decision.outcome
  version := applied.decision.version.value
  sequence := applied.decision.sequence
  replayed := !applied.appended
  fencingToken := (claimedLease applied.decision.outcome).map fun lease => lease.fencingToken.asStr
  epoch := (claimedLease applied.decision.outcome).map fun lease => lease.epoch
  projection := applied.projection

/-- The errors a handler answers with instead of a response of its own. -/
inductive ObjectFailure where
  | malformedBody
  | identifier (why : ParseOpaqueIdError)
  | adapter (why : CoordinatorAdapterError)
  | domain (why : CoordinatorError)
  | text (message : String)
  | journalUnbound
  deriving DecidableEq

inductive ObjectResponse where
  | coordinator (body : CoordinatorObjectResponse)
  | text (body : String)
  | coordinatorError (status : Nat) (code : String)
  | committed (outcome : ProfileGenerationSuccessorCommitOutcome)
  | commitError (status : Nat) (why : DeviceGenerationCommitErrorClass)
  | failed (why : ObjectFailure)
  /-- The handler has called the journal and has not answered yet. -/
  | awaitingJournal
  /-- No commit awaits the journal at this position. -/
  | nothingToAnswer
  deriving DecidableEq

def coordinatorBusy : ObjectResponse := .coordinatorError 409 "conflict"

def coordinatorConflict : CoordinatorAdapterError → ObjectResponse
  | .tenantMismatch => .coordinatorError 404 "not_found"
  | .profileMismatch => .coordinatorError 404 "not_found"
  | .identifier _ => .coordinatorError 400 "invalid_request"
  | .zeroVersion _ => .coordinatorError 400 "invalid_request"
  | .domain _ => .coordinatorError 409 "conflict"
  | .journalCapacityExceeded => .coordinatorError 409 "conflict"

def generationCommitError : DeviceGenerationCommitErrorClass → ObjectResponse
  | .staleAuthority => .commitError 409 .staleAuthority
  | .versionConflict => .commitError 409 .versionConflict
  | .integrityFailure => .commitError 500 .integrityFailure
  | .dependencyUnavailable => .commitError 503 .dependencyUnavailable

def profileSuccessorError : ProfileGenerationSuccessorCommitErrorClass → ObjectResponse :=
  generationCommitError

structure CoordinatorInternalCommandOwned where
  tenantId : String
  profileId : String
  envelope : StoredCoordinatorEnvelope

structure ProfileCoordinator where
  document : Option StoredCoordinatorDocument
  gate : Option StoredGenerationCommitGate
  alarm : Option UnixMillis
  inFlight : List AuthorizedCommit

namespace ProfileCoordinator

/-- An object no request has reached. -/
def untouched : ProfileCoordinator := ⟨none, none, none, []⟩

def loadDocument (self : ProfileCoordinator) (tenantId : TenantId) (profileId : ProfileId) :
    Except ObjectFailure StoredCoordinatorDocument :=
  match self.document with
  | some document => do
    (document.ensureIdentity tenantId profileId).mapError .adapter
    return document
  | none => do
    let config ← (CoordinatorConfig.new idleTimeoutMs hardTimeoutMs drainTimeoutMs).mapError .domain
    return .new tenantId profileId config

def clearGenerationCommitGate (self : ProfileCoordinator) : ProfileCoordinator :=
  { self with gate := none }

def scheduleAlarm (self : ProfileCoordinator) (deadline : Option UnixMillis) : ProfileCoordinator :=
  { self with alarm := deadline }

/-- Schedules the retry alarm and then answers, unless its time overflows. -/
def scheduleGateRetryAlarm (self : ProfileCoordinator) (now : UnixMillis)
    (response : ObjectResponse) : ObjectResponse × ProfileCoordinator :=
  match checkedAdd now gateAlarmRetryMs with
  | some retryAt => (response, self.scheduleAlarm (some retryAt))
  | none => (.failed (.text "generation commit alarm overflow"), self)

/-- Stores the document of an accepted command and answers it. -/
def storeApplied (self : ProfileCoordinator) (applied : CoordinatorApplied)
    (document : StoredCoordinatorDocument) : ObjectResponse × ProfileCoordinator :=
  let stored := if applied.appended then { self with document := some document } else self
  (.coordinator (.fromApplied applied), stored.scheduleAlarm applied.nextAlarmAt)

def alarmEnvelope (sequence version : Nat) (now : UnixMillis) : StoredCoordinatorEnvelope where
  idempotencyKey :=
    let digits := toString sequence
    "alarm_" ++ "".pushn '0' (20 - digits.length) ++ digits
  sequence := sequence
  expectedVersion := version
  command := .tick now

def onAlarm (self : ProfileCoordinator) (now : UnixMillis) : ObjectResponse × ProfileCoordinator :=
  if self.gate.isSome then
    self.scheduleGateRetryAlarm now (.text "generation commit reserved")
  else
    match self.document with
    | none => (.text "no coordinator state", self)
    | some document =>
      match document.replay with
      | .error why => (.failed (.adapter why), self)
      | .ok state =>
        match checkedAdd state.lastSequence 1 with
        | none => (.failed (.text "coordinator sequence overflow"), self)
        | some sequence =>
          match document.apply (alarmEnvelope sequence state.version.value now) with
          | (.error why, _) => (.failed (.adapter why), self)
          | (.ok applied, document) => self.storeApplied applied document

def command (self : ProfileCoordinator) (body : Option CoordinatorInternalCommandOwned) :
    ObjectResponse × ProfileCoordinator :=
  if self.gate.isSome then (coordinatorBusy, self)
  else
    match body with
    | none => (.failed .malformedBody, self)
    | some body =>
      match TenantId.parse body.tenantId, ProfileId.parse body.profileId with
      | .error why, _ => (.failed (.identifier why), self)
      | .ok _, .error why => (.failed (.identifier why), self)
      | .ok tenantId, .ok profileId =>
        match self.loadDocument tenantId profileId with
        | .error why => (.failed why, self)
        | .ok document =>
          match document.apply body.envelope with
          | (.error why, _) => (coordinatorConflict why, self)
          | (.ok applied, document) => self.storeApplied applied document

/-- Calls the journal; a missing binding is noticed only now. -/
def callJournal (self : ProfileCoordinator) (journalBound : Bool) (authorized : AuthorizedCommit) :
    ObjectResponse × ProfileCoordinator :=
  if journalBound then
    (.awaitingJournal, { self with inFlight := self.inFlight ++ [authorized] })
  else (.failed .journalUnbound, self)

/-- The part both commit handlers share: a commit joins the gate that matches
it, or puts a gate of its own, and then calls the journal. -/
def reserve (self : ProfileCoordinator) (authorityDigest : String) (commit : GenerationCommit)
    (document : StoredCoordinatorDocument) (coordinator : ProfileCoordinatorState)
    (replayed : document.replay = .ok coordinator) (observedAt : UnixMillis)
    (journalBound : Bool) : ObjectResponse × ProfileCoordinator :=
  match self.gate with
  | some gate =>
    -- a retry of the reserved commit goes on to the journal once more
    if !gate.matches authorityDigest commit.generationId.asStr then
      (generationCommitError .versionConflict, self)
    else
      match authorized : commit.validate coordinator gate.authorizedAtMs with
      | .error why => (generationCommitError why, self)
      | .ok () => self.callJournal journalBound ⟨commit, document, coordinator, _, replayed, authorized⟩
  | none =>
    match authorized : commit.validate coordinator observedAt with
    | .error why => (generationCommitError why, self)
    | .ok () =>
      -- the gate is stored before the journal is called, and also when no call follows
      let gated :=
        { self with gate := some ⟨authorityDigest, commit.generationId.asStr, observedAt⟩ }
      gated.callJournal journalBound ⟨commit, document, coordinator, _, replayed, authorized⟩

/-- A retry under a gate is dated by the gate, not by the clock. -/
def observedAt (self : ProfileCoordinator) (now : UnixMillis) : UnixMillis :=
  match self.gate with
  | some gate => gate.authorizedAtMs
  | none => now

variable (sha256 : List UInt8 → Block 32)

def generationCommit (self : ProfileCoordinator)
    (body : Option DeviceGenerationCommitInternalRequest) (now : UnixMillis) (journalBound : Bool) :
    ObjectResponse × ProfileCoordinator :=
  match body with
  | none => (generationCommitError .integrityFailure, self)
  | some internal =>
    match internal.intoDomain (self.observedAt now) with
    | .error why => (generationCommitError why, self)
    | .ok (actor, request) =>
      match self.loadDocument actor.tenantScope.tenantId request.profileId with
      | .error why => (.failed why, self)
      | .ok document =>
        match replayed : document.replay with
        | .error _ => (generationCommitError .integrityFailure, self)
        | .ok coordinator =>
          self.reserve (internal.authorityDigest sha256) (.device actor request) document coordinator
            replayed (self.observedAt now) journalBound

/-- An interactive writer also proves that the live lease is its own claim. -/
def profileGenerationSuccessor (self : ProfileCoordinator)
    (body : Option ProfileGenerationSuccessorInternalRequest) (now : UnixMillis)
    (journalBound : Bool) : ObjectResponse × ProfileCoordinator :=
  match body with
  | none => (profileSuccessorError .integrityFailure, self)
  | some internal =>
    match internal.intoDomain (self.observedAt now) with
    | .error why => (profileSuccessorError why, self)
    | .ok (actor, request) =>
      match self.loadDocument actor.tenantScope.tenantId request.profileId with
      | .error why => (.failed why, self)
      | .ok document =>
        match replayed : document.replay with
        | .error _ => (profileSuccessorError .integrityFailure, self)
        | .ok coordinator =>
          match document.activeClaimMatches actor.actorId request.deviceId
              request.coordinator.sessionId with
          | .error _ => (profileSuccessorError .integrityFailure, self)
          | .ok false => (profileSuccessorError .staleAuthority, self)
          | .ok true =>
            self.reserve (internal.authorityDigest sha256) (.successor actor request) document
              coordinator replayed (self.observedAt now) journalBound

def withdraw (self : ProfileCoordinator) (position : Nat) : ProfileCoordinator :=
  { self with inFlight := self.inFlight.eraseIdx position }

/-- The second half of a commit handler. Whoever ends a commit clears the gate,
and does not ask whose gate it is. -/
def journalAnswered (self : ProfileCoordinator) (position : Nat) (outcome : JournalOutcome)
    (now : UnixMillis) : ObjectResponse × ProfileCoordinator :=
  match self.inFlight[position]? with
  | none => (.nothingToAnswer, self)
  | some answered =>
    match outcome with
    | .ok outcome => (.committed outcome, (self.withdraw position).clearGenerationCommitGate)
    | .error why =>
      -- an uncertain failure keeps the gate: the journal may have applied the commit
      if answered.commit.failureReleasesGate why then
        (generationCommitError why, (self.withdraw position).clearGenerationCommitGate)
      else (self.withdraw position).scheduleGateRetryAlarm now (generationCommitError why)

end ProfileCoordinator

inductive ObjectEvent where
  | command (body : Option CoordinatorInternalCommandOwned)
  | alarm (now : UnixMillis)
  | generationCommit (body : Option DeviceGenerationCommitInternalRequest) (now : UnixMillis)
      (journalBound : Bool)
  | profileGenerationSuccessor (body : Option ProfileGenerationSuccessorInternalRequest)
      (now : UnixMillis) (journalBound : Bool)
  | journalAnswered (position : Nat) (outcome : JournalOutcome) (now : UnixMillis)

/-- The object under any interleaving of requests, alarms and journal answers. -/
def objects (sha256 : List UInt8 → Block 32) :
    Machine ProfileCoordinator ObjectEvent ObjectResponse where
  step self
    | .command body => self.command body
    -- an alarm that fires is no longer scheduled
    | .alarm now => (self.scheduleAlarm none).onAlarm now
    | .generationCommit body now bound => self.generationCommit sha256 body now bound
    | .profileGenerationSuccessor body now bound =>
      self.profileGenerationSuccessor sha256 body now bound
    | .journalAnswered position outcome now => self.journalAnswered position outcome now

end ProfilePlatform.Worker
