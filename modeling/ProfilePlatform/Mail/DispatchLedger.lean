import ProfilePlatform.Foundation.Fallible
import ProfilePlatform.Mail.OutboundMail

/-! What the intent store keeps about attempts.

An intent moves in four ways: a dispatch is claimed, an exhausted intent is
rejected, a running one is marked ambiguous, an attempt is completed. A claim needs
an intent that is pending or retryable, and only a completion that says RETRYABLE
makes an intent retryable, so every claimed attempt but the last one was retryable.
-/

set_option autoImplicit false

namespace ProfilePlatform.Mail

open Foundation Ports

/-- An intent a dispatch can be claimed on. -/
def IntentRow.Claimable (row : IntentRow) : Prop :=
  row.state ∈ [OutboundMailIntentState.pending, .retryable]

/-- An intent whose last attempt may still be completed. -/
def IntentRow.Running (row : IntentRow) : Prop :=
  row.state ∈ [OutboundMailIntentState.dispatching, .ambiguous]

instance (row : IntentRow) : Decidable row.Claimable := inferInstanceAs (Decidable (_ ∈ _))

instance (row : IntentRow) : Decidable row.Running := inferInstanceAs (Decidable (_ ∈ _))

def IntentRow.Terminal (row : IntentRow) : Prop :=
  row.state = .sent ∨ row.state = .rejected

theorem IntentRow.Running.not_claimable {row : IntentRow} (running : row.Running) :
    ¬row.Claimable := by
  unfold IntentRow.Running IntentRow.Claimable at *
  cases state : row.state <;> simp [state] at running ⊢

/-- The attempt the intent is at. -/
def IntentRow.attemptKey (row : IntentRow) : AttemptKey := (row.key, row.attemptCount)

def IntentRow.claimedAt (row : IntentRow) (now : Nat) : IntentRow :=
  { row with state := .dispatching, attemptCount := row.attemptCount + 1, updatedAtMs := now }

def IntentRow.rejectedAt (row : IntentRow) (now : Nat) : IntentRow :=
  { row with state := .rejected, updatedAtMs := now }

def IntentRow.markedAt (row : IntentRow) (now : Nat) : IntentRow :=
  { row with state := .ambiguous, updatedAtMs := now }

def completionOf (row : IntentRow) (outcome : OutboundMailProviderOutcome) (now : Nat) :
    CompletionRow :=
  ⟨row.attemptKey, (providerOutcomeFields outcome).1, (providerOutcomeFields outcome).2, now⟩

def IntentRow.completedAt (row : IntentRow) (outcome : OutboundMailProviderOutcome) (now : Nat) :
    IntentRow :=
  { row with
    state := (providerOutcomeFields outcome).1
    providerMessageReference :=
      if (providerOutcomeFields outcome).1 = .sent then (providerOutcomeFields outcome).2 else none
    updatedAtMs := now }

/-- The later version of an intent, with the claims and completions stored along with it. -/
inductive Move (row : IntentRow) : Option OutboundMailProviderOutcome → IntentRow →
    List ClaimRow → List CompletionRow → Prop where
  | claimed (claimable : row.Claimable) (now : Nat) :
      Move row none (row.claimedAt now) [⟨(row.key, row.attemptCount + 1), now⟩] []
  | rejected (claimable : row.Claimable) (now : Nat) : Move row none (row.rejectedAt now) [] []
  | marked (running : row.Running) (now : Nat) : Move row none (row.markedAt now) [] []
  | completed (running : row.Running) (outcome : OutboundMailProviderOutcome) (now : Nat) :
      Move row (some outcome) (row.completedAt outcome now) [] [completionOf row outcome now]

/-- What one repository call can make of the database; only the completion of an
attempt brings an outcome with it. -/
inductive Change (context : CommandContext) (database : Database) :
    Option OutboundMailProviderOutcome → Database → Prop where
  | kept (outcome : Option OutboundMailProviderOutcome) (idempotency : List IdempotencyRow) :
      Change context database outcome { database with idempotency }
  | reserved {row : IntentRow} {after : Database} (initial : row.state = .pending)
      (unclaimed : row.attemptCount = 0)
      (fresh : ∀ old ∈ database.intents, old.key ≠ row.key ∧ old.command ≠ row.command)
      (intents : after.intents = database.intents ++ [row])
      (claims : after.claims = database.claims)
      (completions : after.completions = database.completions) :
      Change context database none after
  | moved {row later : IntentRow} {outcome : Option OutboundMailProviderOutcome}
      {claims : List ClaimRow} {completions : List CompletionRow} {after : Database}
      (loaded : database.loadIntent context = some row)
      (move : Move row outcome later claims completions)
      (intents : Rows.Replaced IntentRow.key row later database.intents after.intents)
      (claimsAfter : after.claims = database.claims ++ claims)
      (completionsAfter : after.completions = database.completions ++ completions)
      (fresh : ∀ completion ∈ completions, ∀ old ∈ database.completions, old.key ≠ completion.key)
      (claimed : ∀ completion ∈ completions, ∃ claim ∈ database.claims, claim.key = completion.key) :
      Change context database outcome after

section Loading

variable {database : Database} {context : CommandContext} {row : IntentRow}

theorem mem_of_loadIntent (loaded : database.loadIntent context = some row) :
    row ∈ database.intents ∧ row.command = context.command ∧
      row.payloadFingerprint = some context.evidence.payloadFingerprint :=
  Rows.first_eq_some loaded

theorem key_of_loadIntent (loaded : database.loadIntent context = some row) :
    (context.actor.tenantScope.tenantId, row.intentId) = row.key := by
  obtain ⟨-, named, -⟩ := mem_of_loadIntent loaded
  exact congrArg (·, row.intentId) (congrArg CommandKey.tenantId named).symm

theorem requireReceipt_eq_ok {missing : StoreError} {receipt : OutboundMailIntentReceipt} :
    database.requireReceipt context missing = .ok receipt ↔
      ∃ row, database.loadIntent context = some row ∧ receiptFromRow row = receipt := by
  unfold Database.requireReceipt
  cases database.loadIntent context with
  | none => simp
  | some row => simp

end Loading

section Statements

variable {database after : Database} {context : CommandContext} {row : IntentRow} {granted : Bool}

theorem amendIntent_eq_ok {key : IntentKey} {change : IntentRow → IntentRow} :
    database.amendIntent key change = .ok after →
      { database with
        intents := Rows.amend (fun row => row.key = key) change database.intents } = after := by
  unfold Database.amendIntent
  split
  · rintro ⟨⟩
    rfl
  · rintro ⟨⟩

theorem insertMark_change (unique : Rows.Unique IntentRow.key database.intents)
    (loaded : database.loadIntent context = some row) (running : row.Running) {now : Nat}
    (stored : database.insertMark ⟨row.attemptKey, now⟩ = .ok after) :
    Change context database none after := by
  unfold Database.insertMark at stored
  iterate 4 (split at stored; · cases stored)
  cases amendIntent_eq_ok stored
  exact .moved loaded (.marked running now)
    (Rows.replaced_amend unique (mem_of_loadIntent loaded).1 _) (List.append_nil _).symm
    (List.append_nil _).symm (fun _ impossible => nomatch impossible)
    (fun _ impossible => nomatch impossible)

theorem insertCompletion_change (unique : Rows.Unique IntentRow.key database.intents)
    (loaded : database.loadIntent context = some row) (running : row.Running)
    {outcome : OutboundMailProviderOutcome} {now : Nat}
    (stored : database.insertCompletion (completionOf row outcome now) = .ok after) :
    Change context database (some outcome) after := by
  unfold Database.insertCompletion at stored
  iterate 2 (split at stored; · cases stored)
  split at stored
  · cases stored
  next fresh =>
    split at stored
    · cases stored
    next claimed =>
      cases amendIntent_eq_ok stored
      refine .moved loaded (.completed running outcome now)
        (Rows.replaced_amend unique (mem_of_loadIntent loaded).1 _) (List.append_nil _).symm rfl ?_ ?_
      · intro completion added old known same
        cases List.mem_singleton.mp added
        exact fresh ⟨old, known, same⟩
      · intro completion added
        cases List.mem_singleton.mp added
        exact Decidable.not_not.mp claimed

theorem reserveRows_change {intent : OutboundMailIntent} {now expiresAt : Nat}
    (stored : database.reserveRows granted context intent now expiresAt = .ok after) :
    Change context database none after := by
  obtain ⟨withIntent, inserted, stored⟩ := bind_eq_ok.mp stored
  obtain ⟨withIdempotency, recorded, stored⟩ := bind_eq_ok.mp stored
  obtain ⟨withAudit, audited, published⟩ := bind_eq_ok.mp stored
  unfold Database.insertIntent at inserted
  iterate 2 (split at inserted; · cases inserted)
  split at inserted
  · cases inserted
  next fresh =>
    unfold Database.insertIdempotency at recorded
    iterate 2 (split at recorded; · cases recorded)
    unfold Database.insertAuditEvent at audited
    split at audited
    · cases audited
    unfold Database.insertOutboxEvent at published
    split at published
    · cases published
    cases inserted; cases recorded; cases audited; cases published
    refine .reserved rfl rfl ?_ rfl rfl rfl
    intro old known
    exact ⟨fun same => fresh ⟨old, known, .inl same⟩, fun same => fresh ⟨old, known, .inr same⟩⟩

end Statements

section Calls

variable {database : Database} {context : CommandContext} {granted : Bool}

theorem Change.same {outcome : Option OutboundMailProviderOutcome} :
    Change context database outcome database :=
  .kept outcome database.idempotency

theorem Change.after_kept {idempotency : List IdempotencyRow} {after : Database}
    {outcome : Option OutboundMailProviderOutcome}
    (change : Change context { database with idempotency } outcome after) :
    Change context database outcome after := by
  cases change with
  | kept _ idempotency => exact .kept _ idempotency
  | reserved initial unclaimed fresh intents claims completions =>
    exact .reserved initial unclaimed fresh intents claims completions
  | moved loaded move intents claims completions fresh claimed =>
    exact .moved loaded move intents claims completions fresh claimed

theorem settle_change {isRace : WriteError → Bool} {stored : Except WriteError Database}
    {outcome : Option OutboundMailProviderOutcome}
    (change : ∀ after, stored = .ok after → Change context database outcome after) :
    Change context database outcome (database.settle context isRace stored).2 := by
  cases stored with
  | ok after => exact change after rfl
  | error why =>
    simp only [Database.settle]
    split
    · exact .same
    · exact .same

theorem pass_change {A : Type} {called : StoreResult A × Database}
    {outcome : Option OutboundMailProviderOutcome}
    (change : Change context database outcome called.2) (delivery : Delivery) :
    Change context database outcome (delivery.pass database called).2 := by
  cases delivery with
  | delivered | lost => exact change
  | failed => exact .same

theorem decideIdempotency_kept (database : Database) (context : CommandContext) : ∃ idempotency,
    (database.decideIdempotency context).2 = { database with idempotency } := by
  simp only [Database.decideIdempotency]
  split
  · exact ⟨database.idempotency, rfl⟩
  · exact ⟨_, rfl⟩

theorem replayAfterReservationRace_change :
    Change context database none (database.replayAfterReservationRace context).2 := by
  obtain ⟨idempotency, kept⟩ := decideIdempotency_kept database context
  unfold Database.replayAfterReservationRace
  split
  all_goals
    next decided =>
      rw [decided] at kept
      cases kept
      exact .kept _ idempotency

theorem reserveNew_change {intent : OutboundMailIntent} :
    Change context database none (database.reserveNew granted context intent).2 := by
  unfold Database.reserveNew
  split
  · exact .same
  · exact .same
  · split
    next stored => exact reserveRows_change stored
    next why _ =>
      split
      · exact replayAfterReservationRace_change
      · exact .same

theorem reserveIntent_change {intent : OutboundMailIntent} :
    Change context database none (database.reserveIntent granted context intent).2 := by
  obtain ⟨idempotency, kept⟩ := decideIdempotency_kept database context
  unfold Database.reserveIntent
  split
  all_goals
    next decided =>
      rw [decided] at kept
      cases kept
      first
        | exact .kept _ idempotency
        | exact .after_kept reserveNew_change

variable {row : IntentRow}

theorem rejectExhausted_change (unique : Rows.Unique IntentRow.key database.intents)
    (loaded : database.loadIntent context = some row) (claimable : row.Claimable) :
    Change context database none (database.rejectExhausted context (receiptFromRow row)).2 := by
  simp only [Database.rejectExhausted, receiptFromRow, key_of_loadIntent loaded]
  split
  · exact .same
  next now _ =>
    refine settle_change fun after stored => ?_
    split at stored
    · cases stored
      -- under the key there is only the row that was loaded, and its state qualifies
      have same : ∀ old ∈ database.intents,
          (old.key = row.key ∧ old.state ∈ [OutboundMailIntentState.pending, .retryable]) ↔
            old.key = row.key := by
        intro old known
        refine ⟨And.left, fun named => ⟨named, ?_⟩⟩
        rw [unique old known row (mem_of_loadIntent loaded).1 named]
        exact claimable
      refine .moved loaded (.rejected claimable now) ?_ (List.append_nil _).symm
        (List.append_nil _).symm (fun _ impossible => by cases impossible)
        (fun _ impossible => by cases impossible)
      simp only [Rows.amend_congr same]
      exact Rows.replaced_amend unique (mem_of_loadIntent loaded).1 _
    · cases stored

/-- A claim call either claims the next attempt of the loaded intent or answers something else. -/
inductive Claiming (context : CommandContext) (database : Database) :
    StoreResult OutboundMailClaimDecision × Database → Prop where
  | claimed {row : IntentRow} {after : Database} {now : Nat}
      (loaded : database.loadIntent context = some row) (claimable : row.Claimable)
      (intents : Rows.Replaced IntentRow.key row (row.claimedAt now) database.intents after.intents)
      (claims : after.claims = database.claims ++ [⟨(row.key, row.attemptCount + 1), now⟩])
      (completions : after.completions = database.completions) :
      Claiming context database (.ok (.claimed (row.attemptCount + 1)), after)
  | unclaimed {answer : StoreResult OutboundMailClaimDecision} {after : Database}
      (other : ∀ attempt, answer ≠ .ok (.claimed attempt))
      (change : Change context database none after) : Claiming context database (answer, after)

theorem Claiming.change {result : StoreResult OutboundMailClaimDecision × Database}
    (claiming : Claiming context database result) : Change context database none result.2 := by
  cases claiming with
  | claimed loaded claimable intents claims completions =>
    exact .moved loaded (.claimed claimable _) intents claims
      (completions.trans (List.append_nil _).symm) (fun _ impossible => nomatch impossible)
      (fun _ impossible => nomatch impossible)
  | unclaimed other change => exact change

theorem existing_ne_claimed {answer : StoreResult OutboundMailIntentReceipt} (attempt : Nat) :
    answer.map OutboundMailClaimDecision.existing ≠ .ok (.claimed attempt) := by
  intro claimed
  cases answer with
  | error why => cases claimed
  | ok receipt => cases claimed

theorem claimDispatch_claiming (unique : Rows.Unique IntentRow.key database.intents)
    {maxAttempts : Nat} :
    Claiming context database (database.claimDispatch granted context maxAttempts) := by
  unfold Database.claimDispatch
  split
  next => exact .unclaimed (fun _ impossible => nomatch impossible) .same
  next receipt found =>
    obtain ⟨row, loaded, rfl⟩ := requireReceipt_eq_ok.mp found
    split
    · exact .unclaimed (fun _ impossible => nomatch impossible) .same
    next claimable =>
      have claimable : row.Claimable := Decidable.not_not.mp claimable
      split
      · exact .unclaimed existing_ne_claimed (rejectExhausted_change unique loaded claimable)
      · split
        · exact .unclaimed (fun _ impossible => nomatch impossible) .same
        · split
          next => exact .unclaimed (fun _ impossible => nomatch impossible) .same
          next now _ =>
            simp only [receiptFromRow, key_of_loadIntent loaded]
            split
            next after stored =>
              unfold Database.insertClaim at stored
              iterate 4 (split at stored; · cases stored)
              cases amendIntent_eq_ok stored
              exact .claimed loaded claimable
                (Rows.replaced_amend unique (mem_of_loadIntent loaded).1 _) rfl rfl
            next =>
              split
              · exact .unclaimed existing_ne_claimed .same
              · exact .unclaimed (fun _ impossible => nomatch impossible) .same

theorem completeDispatch_change (unique : Rows.Unique IntentRow.key database.intents)
    {outcome : OutboundMailProviderOutcome} :
    Change context database (some outcome) (database.completeDispatch context outcome).2 := by
  unfold Database.completeDispatch
  split
  next => exact .same
  next receipt found =>
    obtain ⟨row, loaded, rfl⟩ := requireReceipt_eq_ok.mp found
    split
    · exact .same
    next running =>
      split
      next => exact .same
      next now _ =>
        simp only [receiptFromRow, key_of_loadIntent loaded]
        exact settle_change fun after stored =>
          insertCompletion_change unique loaded (Decidable.not_not.mp running) stored

theorem markAmbiguous_change (unique : Rows.Unique IntentRow.key database.intents) :
    Change context database none (database.markAmbiguous context).2 := by
  unfold Database.markAmbiguous
  split
  next => exact .same
  next receipt found =>
    obtain ⟨row, loaded, rfl⟩ := requireReceipt_eq_ok.mp found
    split
    · exact .same
    next dispatching =>
      have running : row.Running := by
        rw [IntentRow.Running, show row.state = .dispatching from Decidable.not_not.mp dispatching]
        exact List.mem_cons_self
      split
      next => exact .same
      next now _ =>
        simp only [receiptFromRow, key_of_loadIntent loaded]
        exact settle_change fun after stored => insertMark_change unique loaded running stored

end Calls

end ProfilePlatform.Mail
