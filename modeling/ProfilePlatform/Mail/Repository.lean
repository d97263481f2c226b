import ProfilePlatform.Mail.IntentStore

/-! The repository of outbound mail intents: reserve, claim, complete, mark ambiguous.

Each call reads the database, runs at most one batch of statements and answers. A
batch that fails stores nothing; the removal of an expired idempotency row before
it stays.
-/

set_option autoImplicit false

namespace ProfilePlatform.Mail

open Foundation Ports

def outboundCommand : String := "mail.outbound_send"

/-- The actor and the evidence every call of one command carries. -/
structure CommandContext where
  actor : ActorContext
  evidence : CommandExecutionEvidence
  deriving DecidableEq

def CommandContext.command (self : CommandContext) : CommandKey :=
  ⟨self.actor.tenantScope.tenantId, self.actor.actorId, self.evidence.idempotencyKey⟩

abbrev StoreError : Type := OutboundMailIntentPortErrorClass

abbrev StoreResult (A : Type) : Type := Except StoreError A

def sqliteInteger (value : Nat) : StoreResult Nat :=
  if value < sqliteLimit then .ok value else .error .internalFailure

def u8Limit : Nat := 256

def receiptFromRow (row : IntentRow) : OutboundMailIntentReceipt :=
  ⟨row.intentId, row.state, row.attemptCount, row.providerMessageReference⟩

def providerOutcomeFields :
    OutboundMailProviderOutcome → OutboundMailIntentState × Option ProviderMessageReference
  | .sent providerMessageReference => (.sent, providerMessageReference)
  | .retryableNotSent => (.retryable, none)
  | .rejected => (.rejected, none)
  | .ambiguous => (.ambiguous, none)

namespace Database

/-- The rows an expired command of the retired boundary leaves behind go first. -/
def decideIdempotency (self : Database) (context : CommandContext) :
    StoreResult IdempotencyDecision × Database :=
  let evidence := context.evidence
  if sqliteLimit ≤ evidence.now then (.error .dependencyUnavailable, self)
  else
    let idempotency := self.idempotency.filter fun row => ¬(row.command = context.command ∧
      row.payloadFingerprint = none ∧ row.expiresAtMs ≤ evidence.now)
    let decision :=
      match Rows.first (fun row => row.command = context.command) idempotency with
      | none => .miss
      | some row => decideRow row outboundCommand evidence.payloadFingerprint evidence.now
    (.ok decision, { self with idempotency })

def loadIntent (self : Database) (context : CommandContext) : Option IntentRow :=
  Rows.first (fun row => row.command = context.command ∧
    row.payloadFingerprint = some context.evidence.payloadFingerprint) self.intents

/-- Loads the receipt, or fails when there is no row to load. -/
def requireReceipt (self : Database) (context : CommandContext) (missing : StoreError) :
    StoreResult OutboundMailIntentReceipt :=
  match self.loadIntent context with
  | some row => .ok (receiptFromRow row)
  | none => .error missing

def replay (self : Database) (context : CommandContext) :
    StoreResult OutboundMailReserveDecision :=
  (self.requireReceipt context .integrityFailure).map .existing

def replayAfterReservationRace (self : Database) (context : CommandContext) :
    StoreResult OutboundMailReserveDecision × Database :=
  match self.decideIdempotency context with
  | (.error why, after) => (.error why, after)
  | (.ok .conflict, after) => (.ok .conflict, after)
  | (.ok .miss, after) => (.error .conflict, after)
  | (.ok (.replay ..), after) => (after.replay context, after)

def newIntent (context : CommandContext) (intent : OutboundMailIntent) (now : Nat) : IntentRow where
  tenantId := context.actor.tenantScope.tenantId
  intentId := context.evidence.outboxEventId
  commandActorId := context.actor.actorId
  idempotencyKey := context.evidence.idempotencyKey
  payloadFingerprint := some context.evidence.payloadFingerprint
  clientId := intent.clientId
  bindingId := intent.bindingId
  operation := intent.operation.kindCode
  state := .pending
  attemptCount := 0
  providerMessageReference := none
  createdAtMs := now
  updatedAtMs := now

/-- The batch that reserves an intent: all four rows or none. -/
def reserveRows (self : Database) (granted : Bool) (context : CommandContext)
    (intent : OutboundMailIntent) (now expiresAt : Nat) : Except WriteError Database := do
  let tenantId := context.actor.tenantScope.tenantId
  let evidence := context.evidence
  let withIntent ← self.insertIntent granted (newIntent context intent now)
  let withIdempotency ← withIntent.insertIdempotency
    { command := context.command, commandName := outboundCommand
      payloadFingerprint := some evidence.payloadFingerprint, resultCode := "reserved"
      resultReference := some evidence.outboxEventId.asStr
      createdAtMs := now, expiresAtMs := expiresAt }
  let withAudit ← withIdempotency.insertAuditEvent (tenantId, evidence.auditEventId)
  withAudit.insertOutboxEvent (tenantId, evidence.outboxEventId)

def reserveNew (self : Database) (granted : Bool) (context : CommandContext)
    (intent : OutboundMailIntent) : StoreResult OutboundMailReserveDecision × Database :=
  match sqliteInteger context.evidence.now, sqliteInteger context.evidence.idempotencyExpiresAt with
  | .error why, _ | _, .error why => (.error why, self)
  | .ok now, .ok expiresAt =>
    match self.reserveRows granted context intent now expiresAt with
    | .ok after => (.ok .reserved, after)
    | .error why =>
      if why.isUniqueConflict then self.replayAfterReservationRace context
      else (.error why.mapWriteError, self)

def reserveIntent (self : Database) (granted : Bool) (context : CommandContext)
    (intent : OutboundMailIntent) : StoreResult OutboundMailReserveDecision × Database :=
  match self.decideIdempotency context with
  | (.error why, after) => (.error why, after)
  | (.ok .miss, after) => after.reserveNew granted context intent
  | (.ok .conflict, after) => (.ok .conflict, after)
  | (.ok (.replay ..), after) => (after.replay context, after)

/-- What a write leaves: the stored receipt, or the error unless it is a lost race. -/
def settle (self : Database) (context : CommandContext) (isRace : WriteError → Bool) :
    Except WriteError Database → StoreResult OutboundMailIntentReceipt × Database
  | .ok after => (after.requireReceipt context .integrityFailure, after)
  | .error why =>
    if isRace why then (self.requireReceipt context .integrityFailure, self)
    else (.error why.mapWriteError, self)

/-- The update chooses by state, so it may choose nothing. -/
def rejectExhausted (self : Database) (context : CommandContext)
    (receipt : OutboundMailIntentReceipt) : StoreResult OutboundMailIntentReceipt × Database :=
  match sqliteInteger context.evidence.now with
  | .error why => (.error why, self)
  | .ok now =>
    let chosen (row : IntentRow) : Prop :=
      row.key = (context.actor.tenantScope.tenantId, receipt.intentId) ∧
        row.state ∈ [OutboundMailIntentState.pending, .retryable]
    let change (row : IntentRow) : IntentRow := { row with state := .rejected, updatedAtMs := now }
    self.settle context (fun _ => false) <|
      if ∀ row ∈ self.intents, chosen row → (change row).Checked then
        .ok { self with intents := Rows.amend chosen change self.intents }
      else .error .checkConstraint

def claimDispatch (self : Database) (granted : Bool) (context : CommandContext)
    (maxAttempts : Nat) : StoreResult OutboundMailClaimDecision × Database :=
  match self.requireReceipt context .notFound with
  | .error why => (.error why, self)
  | .ok receipt =>
    if receipt.state ∉ [OutboundMailIntentState.pending, .retryable] then
      (.ok (.existing receipt), self)
    else if maxAttempts ≤ receipt.attemptCount then
      (self.rejectExhausted context receipt).map (·.map .existing) id
    else if u8Limit ≤ receipt.attemptCount + 1 then (.error .internalFailure, self)
    else match sqliteInteger context.evidence.now with
    | .error why => (.error why, self)
    | .ok claimedAt =>
      let attempt := receipt.attemptCount + 1
      let key := ((context.actor.tenantScope.tenantId, receipt.intentId), attempt)
      match self.insertClaim granted ⟨key, claimedAt⟩ with
      | .ok after => (.ok (.claimed attempt), after)
      | .error why =>
        if why.isClaimRace then ((self.requireReceipt context .integrityFailure).map .existing, self)
        else (.error why.mapWriteError, self)

def completeDispatch (self : Database) (context : CommandContext)
    (outcome : OutboundMailProviderOutcome) : StoreResult OutboundMailIntentReceipt × Database :=
  match self.requireReceipt context .notFound with
  | .error why => (.error why, self)
  | .ok receipt =>
    if receipt.state ∉ [OutboundMailIntentState.dispatching, .ambiguous] then (.ok receipt, self)
    else match sqliteInteger context.evidence.now with
    | .error why => (.error why, self)
    | .ok completedAt =>
      let (outcomeCode, providerReference) := providerOutcomeFields outcome
      let key := ((context.actor.tenantScope.tenantId, receipt.intentId), receipt.attemptCount)
      self.settle context WriteError.isCompletionRace <|
        self.insertCompletion ⟨key, outcomeCode, providerReference, completedAt⟩

def markAmbiguous (self : Database) (context : CommandContext) :
    StoreResult OutboundMailIntentReceipt × Database :=
  match self.requireReceipt context .notFound with
  | .error why => (.error why, self)
  | .ok receipt =>
    if receipt.state ≠ .dispatching then (.ok receipt, self)
    else match sqliteInteger context.evidence.now with
    | .error why => (.error why, self)
    | .ok markedAt =>
      let key := ((context.actor.tenantScope.tenantId, receipt.intentId), receipt.attemptCount)
      self.settle context WriteError.isAmbiguityRace <| self.insertMark ⟨key, markedAt⟩

end Database

end ProfilePlatform.Mail
