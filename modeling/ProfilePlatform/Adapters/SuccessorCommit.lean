import ProfilePlatform.Catalog.Retention
import ProfilePlatform.Foundation.Bytes
import ProfilePlatform.Ports.GenerationCommit

/-! The interactive successor commit, call by call of the database.

A commit looks for the journal row of its base, inserts one if there is none, and
looks again. Between two of these calls anything can happen: other commits, and
changes of the rows around the catalog. An answer of the database can be lost,
before the statement ran or after it.
-/

set_option autoImplicit false

namespace ProfilePlatform.Adapters

open Foundation Ports Catalog

/-- A journal row with the profile and the generation it joins, where these exist. -/
structure SuccessorRow where
  command : SuccessorCommandRow
  profile : Option ProfileRow
  generation : Option GenerationRow

/-- `LOAD_SUCCESSOR`. -/
def loadSuccessor (database : Database) (base : GenerationKey) : Option SuccessorRow :=
  (Rows.first (fun command => command.base = base) database.successorCommands).map fun command =>
    { command
      profile := Rows.first (fun profile => profile.key = command.profile) database.profiles
      generation := Rows.first (fun generation => generation.key = command.candidate)
        database.generations }

section Requests

variable (actor : ActorContext) (request : ProfileGenerationSuccessorCommitRequest)

def requestProfile : ProfileKey := ⟨actor.tenantScope.tenantId, request.profileId⟩

def validateRequest : Except ProfileGenerationSuccessorCommitErrorClass Unit :=
  match checkedAdd request.coordinator.coordinatorSequence 1 with
  | none => .error .integrityFailure
  | some expectedCoordinatorVersion =>
    let candidate : GenerationKey := ⟨requestProfile actor request, request.object.generationId⟩
    refuseIf (request.object.profileId ≠ request.profileId ∨
      request.object.generationId = request.baseGenerationId ∨
      request.object.objectKey ≠ candidate.canonicalObjectKey ∨
      request.object.containerBytes = 0 ∨
      ¬isSha256Hex request.object.metadataDigest ∨ ¬isSha256Hex request.object.containerDigest ∨
      checkedAdd request.expectedProfileVersion.value 1 = none ∨
      request.coordinator.epoch = 0 ∨ request.coordinator.coordinatorSequence = 0 ∨
      request.coordinator.coordinatorVersion ≠ expectedCoordinatorVersion) .integrityFailure

def fencingTokenDigest (sha256 : List UInt8 → Block 32) (token : FencingToken) : String :=
  hexDigest (sha256 (utf8Bytes "profile-generation-successor-fencing-token-v1\n" ++
    utf8Bytes token.asStr)).val

def u64ToI64 (value : Nat) : Except ProfileGenerationSuccessorCommitErrorClass Nat :=
  if value < sqliteLimit then .ok value else .error .integrityFailure

/-- The row `INSERT_INTERACTIVE_SUCCESSOR` binds. -/
def interactiveRow (tokenDigest : String) : SuccessorCommandRow where
  commandActorId := actor.actorId
  deviceId := request.deviceId
  profile := requestProfile actor request
  baseGenerationId := request.baseGenerationId
  generationId := request.object.generationId
  objectKey := request.object.objectKey
  metadataDigest := request.object.metadataDigest
  containerDigest := request.object.containerDigest
  containerBytes := request.object.containerBytes
  expectedProfileVersion := request.expectedProfileVersion.value
  coordinatorSessionId := request.coordinator.sessionId
  coordinatorFencingTokenDigest := tokenDigest
  coordinatorEpoch := request.coordinator.epoch
  coordinatorVersion := request.coordinator.coordinatorVersion
  coordinatorSequence := request.coordinator.coordinatorSequence
  executedAtMs := request.observedAt
  authorityKind := .interactiveLaunch

/-- The numbers of the row have to fit the columns. -/
def bindRow (tokenDigest : String) :
    Except ProfileGenerationSuccessorCommitErrorClass SuccessorCommandRow := do
  let containerBytes ← u64ToI64 request.object.containerBytes
  let expectedProfileVersion ← u64ToI64 request.expectedProfileVersion.value
  let coordinatorEpoch ← u64ToI64 request.coordinator.epoch
  let coordinatorVersion ← u64ToI64 request.coordinator.coordinatorVersion
  let coordinatorSequence ← u64ToI64 request.coordinator.coordinatorSequence
  let executedAtMs ← u64ToI64 request.observedAt
  return { interactiveRow actor request tokenDigest with
    containerBytes, expectedProfileVersion, coordinatorEpoch, coordinatorVersion,
    coordinatorSequence, executedAtMs }

/-- Every column is the one the request would have inserted. The tenant is not compared: the row
was looked up under it. -/
def exactRow (row : SuccessorCommandRow) (tokenDigest : String) : Bool :=
  row.authorityKind = .interactiveLaunch && row.commandActorId = actor.actorId &&
    row.deviceId = request.deviceId && row.profile.profileId = request.profileId &&
    row.baseGenerationId = request.baseGenerationId &&
    row.generationId = request.object.generationId && row.objectKey = request.object.objectKey &&
    row.metadataDigest = request.object.metadataDigest &&
    row.containerDigest = request.object.containerDigest &&
    row.containerBytes = request.object.containerBytes &&
    row.expectedProfileVersion = request.expectedProfileVersion.value &&
    row.coordinatorSessionId = request.coordinator.sessionId &&
    row.coordinatorFencingTokenDigest = tokenDigest &&
    row.coordinatorEpoch = request.coordinator.epoch &&
    row.coordinatorVersion = request.coordinator.coordinatorVersion &&
    row.coordinatorSequence = request.coordinator.coordinatorSequence &&
    row.executedAtMs = request.observedAt

end Requests

/-- The successor is verified as the journal says it, and it is what the ready profile selects. -/
def committedStateIsExact (row : SuccessorRow) : Bool :=
  match checkedAdd row.command.expectedProfileVersion 1 with
  | none => false
  | some expectedProfileVersion =>
    row.profile.bind ProfileRow.activeGenerationId = some row.command.generationId &&
      row.profile.map ProfileRow.status = some .ready &&
      row.profile.map ProfileRow.version = some expectedProfileVersion &&
      row.generation.map GenerationRow.status = some .verified &&
      row.generation.map GenerationRow.version = some 2 &&
      row.generation.map GenerationRow.objectKey = some row.command.objectKey &&
      row.generation.map GenerationRow.metadataDigest = some row.command.metadataDigest &&
      row.generation.map GenerationRow.containerDigest = some row.command.containerDigest &&
      row.generation.bind GenerationRow.verificationReference = some row.command.reference

def classifyExisting (actor : ActorContext) (request : ProfileGenerationSuccessorCommitRequest)
    (row : SuccessorRow) (tokenDigest : String) :
    Except ProfileGenerationSuccessorCommitErrorClass ProfileGenerationSuccessorCommitOutcome :=
  if !exactRow actor request row.command tokenDigest || !committedStateIsExact row then
    .error .versionConflict
  else .ok .alreadyActive

/-- Why an insertion failed, as far as its caller can tell. -/
inductive InsertFailure where
  | refused (why : Refusal)
  | unavailable
  deriving DecidableEq

def classifyInsertFailure : InsertFailure → ProfileGenerationSuccessorCommitErrorClass
  | .refused (.abort message) =>
    if message ∈ ["profile_generation_successor_actor_inactive",
        "profile_generation_successor_profile_access_denied",
        "profile_generation_successor_device_binding_mismatch",
        "profile_generation_successor_device_authorization_stale",
        "profile_generation_successor_coordinator_stale"] then .staleAuthority
    else if message ∈ ["profile_generation_successor_base_generation_stale",
        "profile_generation_successor_candidate_exists"] then .versionConflict
    else if message ∈ ["profile_generation_successor_device_job_authority_missing",
        "profile_generation_insert_not_governed", "profile_generation_transition_not_governed",
        "profile_generation_activation_not_governed",
        "profile_generation_successor_verify_incomplete",
        "profile_generation_successor_activate_incomplete"] then .integrityFailure
    else .dependencyUnavailable
  | .refused .unique => .versionConflict
  | .refused .check => .integrityFailure
  | .refused .foreignKey => .integrityFailure
  | .unavailable => .dependencyUnavailable

/-- Where `apply_interactive` waits for the database, or how it ended. -/
inductive CommitProgress where
  | loading
  | inserting (row : SuccessorCommandRow)
  | reloading
  | rereading (failure : InsertFailure)
  | answered
      (answer : Except ProfileGenerationSuccessorCommitErrorClass ProfileGenerationSuccessorCommitOutcome)
  deriving DecidableEq

structure CommitCall where
  actor : ActorContext
  request : ProfileGenerationSuccessorCommitRequest
  progress : CommitProgress

/-- What becomes of a call to the database. -/
inductive Delivery where
  | answered
  | lostBefore
  | lostAfter
  deriving DecidableEq

namespace CommitCall

variable (sha256 : List UInt8 → Block 32)

def start (actor : ActorContext) (request : ProfileGenerationSuccessorCommitRequest) : CommitCall :=
  match validateRequest actor request with
  | .error why => ⟨actor, request, .answered (.error why)⟩
  | .ok () => ⟨actor, request, .loading⟩

def base (self : CommitCall) : GenerationKey :=
  ⟨requestProfile self.actor self.request, self.request.baseGenerationId⟩

def tokenDigest (self : CommitCall) : String :=
  fencingTokenDigest sha256 self.request.coordinator.fencingToken

/-- The journal row of the call's own commit. -/
def row (self : CommitCall) : SuccessorCommandRow :=
  interactiveRow self.actor self.request (self.tokenDigest sha256)

def classify (self : CommitCall) (row : SuccessorRow) :
    Except ProfileGenerationSuccessorCommitErrorClass ProfileGenerationSuccessorCommitOutcome :=
  classifyExisting self.actor self.request row (self.tokenDigest sha256)

/-- The first look at the journal. -/
def afterLoad (self : CommitCall) (database : Database) : CommitProgress :=
  match loadSuccessor database self.base with
  | some row => .answered (self.classify sha256 row)
  | none =>
    match bindRow self.actor self.request (self.tokenDigest sha256) with
    | .error why => .answered (.error why)
    | .ok row => .inserting row

/-- The look at the journal after an insertion that was answered. -/
def afterReload (self : CommitCall) (database : Database) : CommitProgress :=
  match loadSuccessor database self.base with
  | none => .answered (.error .integrityFailure)
  | some row =>
    if exactRow self.actor self.request row.command (self.tokenDigest sha256) &&
        committedStateIsExact row then .answered (.ok .activated)
    else .answered (.error .integrityFailure)

/-- The look at the journal after an insertion that failed. -/
def afterReread (self : CommitCall) (database : Database) (failure : InsertFailure) :
    CommitProgress :=
  match loadSuccessor database self.base with
  | some row => .answered (self.classify sha256 row)
  | none => .answered (.error (classifyInsertFailure failure))

/-- The insertion. -/
def insert (row : SuccessorCommandRow) (database : Database) (delivery : Delivery) :
    CommitProgress × Database :=
  match delivery, database.insertSuccessorCommand row with
  | .lostBefore, _ => (.rereading .unavailable, database)
  | .answered, .ok after => (.reloading, after)
  | .answered, .error why => (.rereading (.refused why), database)
  | .lostAfter, .ok after => (.rereading .unavailable, after)
  | .lostAfter, .error _ => (.rereading .unavailable, database)

/-- The call goes on to its next call of the database. A look that gets no answer ends it. -/
def advance (self : CommitCall) (database : Database) (delivery : Delivery) :
    CommitProgress × Database :=
  match self.progress, delivery with
  | .loading, .answered => (self.afterLoad sha256 database, database)
  | .reloading, .answered => (self.afterReload sha256 database, database)
  | .rereading failure, .answered => (self.afterReread sha256 database failure, database)
  | .inserting row, delivery => insert row database delivery
  | .answered answer, _ => (.answered answer, database)
  | _, _ => (.answered (.error .dependencyUnavailable), database)

end CommitCall

/-- The database with all commits that were ever called. -/
structure CommitJournal where
  database : Database
  calls : List CommitCall

inductive CommitEvent where
  | request (actor : ActorContext) (request : ProfileGenerationSuccessorCommitRequest)
  | advance (position : Nat) (delivery : Delivery)
  /-- Another component writes rows that are not the catalog's own. -/
  | meanwhile (statement : Statement)

/-- Commits under events. -/
def commitJournals (sha256 : List UInt8 → Block 32) : Machine CommitJournal CommitEvent Unit where
  step journal
    | .request actor request =>
      ((), { journal with calls := journal.calls ++ [.start actor request] })
    | .advance position delivery =>
      match journal.calls[position]? with
      | none => ((), journal)
      | some call =>
        let moved := call.advance sha256 journal.database delivery
        ((), ⟨moved.2, journal.calls.set position { call with progress := moved.1 }⟩)
    | .meanwhile statement =>
      if statement.isAside then
        ((), { journal with database := (databases.step journal.database statement).2 })
      else ((), journal)

end ProfilePlatform.Adapters
