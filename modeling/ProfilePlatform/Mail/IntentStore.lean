import ProfilePlatform.Foundation.Rows
import ProfilePlatform.Ports.OutboundMail

/-! The stored outbound mail intents, with the triggers that move them.

A statement is checked by the triggers before it, then by the constraints of its
table, and then the triggers after it amend the intent. A refused statement leaves
the database as it was. Who may use which mailbox is kept in tables of other
components, so it is an answer given to the statement.
-/

set_option autoImplicit false

namespace ProfilePlatform.Mail

open Foundation Ports

structure CommandKey where
  tenantId : TenantId
  actorId : ActorId
  idempotencyKey : IdempotencyKey
  deriving DecidableEq

structure IdempotencyRow where
  command : CommandKey
  commandName : String
  /-- None in the rows of a retired trust boundary. -/
  payloadFingerprint : Option PayloadFingerprint
  resultCode : String
  resultReference : Option String
  createdAtMs : Nat
  expiresAtMs : Nat
  deriving DecidableEq

inductive IdempotencyDecision where
  | miss
  | replay (resultCode : String) (resultReference : Option String)
  | conflict
  deriving DecidableEq

def decideRow (row : IdempotencyRow) (commandName : String)
    (payloadFingerprint : PayloadFingerprint) (now : UnixMillis) : IdempotencyDecision :=
  match row.payloadFingerprint with
  | none => .conflict
  | some stored =>
    if row.commandName ≠ commandName ∨ stored ≠ payloadFingerprint ∨ row.expiresAtMs ≤ now then
      .conflict
    else .replay row.resultCode row.resultReference

structure IntentRow where
  tenantId : TenantId
  intentId : OutboxEventId
  commandActorId : ActorId
  idempotencyKey : IdempotencyKey
  payloadFingerprint : Option PayloadFingerprint
  clientId : ClientId
  bindingId : MailboxBindingId
  operation : String
  state : OutboundMailIntentState
  attemptCount : Nat
  providerMessageReference : Option ProviderMessageReference
  createdAtMs : Nat
  updatedAtMs : Nat
  deriving DecidableEq

abbrev IntentKey : Type := TenantId × OutboxEventId

abbrev AttemptKey : Type := IntentKey × Nat

def IntentRow.key (row : IntentRow) : IntentKey := (row.tenantId, row.intentId)

def IntentRow.command (row : IntentRow) : CommandKey :=
  ⟨row.tenantId, row.commandActorId, row.idempotencyKey⟩

/-- The table's checks on the columns that updates touch. -/
def IntentRow.Checked (row : IntentRow) : Prop :=
  row.attemptCount ≤ 10 ∧ row.createdAtMs ≤ row.updatedAtMs

instance (row : IntentRow) : Decidable row.Checked := inferInstanceAs (Decidable (_ ∧ _))

structure ClaimRow where
  key : AttemptKey
  claimedAtMs : Nat
  deriving DecidableEq

structure CompletionRow where
  key : AttemptKey
  outcome : OutboundMailIntentState
  providerMessageReference : Option ProviderMessageReference
  completedAtMs : Nat
  deriving DecidableEq

structure MarkRow where
  key : AttemptKey
  markedAtMs : Nat
  deriving DecidableEq

structure Database where
  idempotency : List IdempotencyRow
  intents : List IntentRow
  claims : List ClaimRow
  completions : List CompletionRow
  marks : List MarkRow
  auditEvents : List (TenantId × AuditEventId)
  outboxEvents : List (TenantId × OutboxEventId)

inductive WriteError where
  | accessDenied
  | claimStateInvalid | completionStateInvalid | ambiguityStateInvalid
  | uniqueConstraint | checkConstraint | foreignKeyConstraint
  deriving DecidableEq, Repr

namespace WriteError

def isUniqueConflict (why : WriteError) : Bool := why = .uniqueConstraint

def isClaimRace (why : WriteError) : Bool := why = .uniqueConstraint || why = .claimStateInvalid

def isCompletionRace (why : WriteError) : Bool :=
  why = .uniqueConstraint || why = .completionStateInvalid

def isAmbiguityRace (why : WriteError) : Bool :=
  why = .uniqueConstraint || why = .ambiguityStateInvalid

def mapWriteError : WriteError → OutboundMailIntentPortErrorClass
  | .accessDenied => .notFound
  | .uniqueConstraint | .claimStateInvalid | .completionStateInvalid | .ambiguityStateInvalid =>
    .conflict
  | .checkConstraint | .foreignKeyConstraint => .integrityFailure

end WriteError

namespace Database

/-- Amends the intent an attempt belongs to. -/
def amendIntent (self : Database) (key : IntentKey) (change : IntentRow → IntentRow) :
    Except WriteError Database :=
  if ∀ row ∈ self.intents, row.key = key → (change row).Checked then
    .ok { self with intents := Rows.amend (fun row => row.key = key) change self.intents }
  else .error .checkConstraint

/-- An attempt number the three attempt tables accept. -/
def attemptAccepted (attempt : Nat) : Prop := 1 ≤ attempt ∧ attempt ≤ 10

instance (attempt : Nat) : Decidable (attemptAccepted attempt) := inferInstanceAs (Decidable (_ ∧ _))

/-- Some intent has the key and is in one of the states with that many attempts. -/
def HasIntent (self : Database) (key : IntentKey) (attemptCount : Nat)
    (states : List OutboundMailIntentState) : Prop :=
  ∃ row ∈ self.intents, row.key = key ∧ row.attemptCount = attemptCount ∧ row.state ∈ states

instance (self : Database) (key : IntentKey) (attemptCount : Nat)
    (states : List OutboundMailIntentState) : Decidable (self.HasIntent key attemptCount states) :=
  inferInstanceAs (Decidable (∃ row ∈ self.intents, _))

def insertIntent (self : Database) (granted : Bool) (row : IntentRow) :
    Except WriteError Database :=
  if granted = false then .error .accessDenied
  else if ¬row.Checked then .error .checkConstraint
  else if ∃ old ∈ self.intents, old.key = row.key ∨ old.command = row.command then
    .error .uniqueConstraint
  else .ok { self with intents := self.intents ++ [row] }

def insertIdempotency (self : Database) (row : IdempotencyRow) : Except WriteError Database :=
  if row.expiresAtMs < row.createdAtMs then .error .checkConstraint
  else if ∃ old ∈ self.idempotency, old.command = row.command then .error .uniqueConstraint
  else .ok { self with idempotency := self.idempotency ++ [row] }

def insertAuditEvent (self : Database) (key : TenantId × AuditEventId) :
    Except WriteError Database :=
  if key ∈ self.auditEvents then .error .uniqueConstraint
  else .ok { self with auditEvents := self.auditEvents ++ [key] }

def insertOutboxEvent (self : Database) (key : TenantId × OutboxEventId) :
    Except WriteError Database :=
  if key ∈ self.outboxEvents then .error .uniqueConstraint
  else .ok { self with outboxEvents := self.outboxEvents ++ [key] }

/-- `outbound_mail_dispatch_claim_validate` and `_apply` around the insertion. -/
def insertClaim (self : Database) (granted : Bool) (row : ClaimRow) : Except WriteError Database :=
  if ¬∃ intent ∈ self.intents, intent.key = row.key.1 ∧
      intent.state ∈ [OutboundMailIntentState.pending, .retryable] ∧
      intent.attemptCount + 1 = row.key.2 then
    .error .claimStateInvalid
  else if granted = false then .error .accessDenied
  else if ¬attemptAccepted row.key.2 then .error .checkConstraint
  else if ∃ old ∈ self.claims, old.key = row.key then .error .uniqueConstraint
  else { self with claims := self.claims ++ [row] }.amendIntent row.key.1 fun intent =>
    { intent with
      state := .dispatching, attemptCount := row.key.2, updatedAtMs := row.claimedAtMs }

/-- `outbound_mail_dispatch_completion_validate` and `_apply` around the insertion. -/
def insertCompletion (self : Database) (row : CompletionRow) : Except WriteError Database :=
  if ¬self.HasIntent row.key.1 row.key.2 [.dispatching, .ambiguous] then
    .error .completionStateInvalid
  else if ¬attemptAccepted row.key.2 ∨
      row.outcome ∉ [OutboundMailIntentState.sent, .retryable, .rejected, .ambiguous] ∨
      (row.outcome ≠ .sent ∧ row.providerMessageReference ≠ none) then .error .checkConstraint
  else if ∃ old ∈ self.completions, old.key = row.key then .error .uniqueConstraint
  else if ¬∃ claim ∈ self.claims, claim.key = row.key then .error .foreignKeyConstraint
  else { self with completions := self.completions ++ [row] }.amendIntent row.key.1 fun intent =>
    { intent with
      state := row.outcome
      providerMessageReference :=
        if row.outcome = OutboundMailIntentState.sent then row.providerMessageReference else none
      updatedAtMs := row.completedAtMs }

/-- `outbound_mail_ambiguity_mark_validate` and `_apply` around the insertion. -/
def insertMark (self : Database) (row : MarkRow) : Except WriteError Database :=
  if ¬self.HasIntent row.key.1 row.key.2 [.dispatching] then .error .ambiguityStateInvalid
  else if ¬attemptAccepted row.key.2 then .error .checkConstraint
  else if ∃ old ∈ self.marks, old.key = row.key then .error .uniqueConstraint
  else if ¬∃ claim ∈ self.claims, claim.key = row.key then .error .foreignKeyConstraint
  else { self with marks := self.marks ++ [row] }.amendIntent row.key.1 fun intent =>
    { intent with state := .ambiguous, updatedAtMs := row.markedAtMs }

end Database

end ProfilePlatform.Mail
