import ProfilePlatform.Mail.DispatchLedger

/-! The invariant of the attempts, and what every change keeps of it. -/

set_option autoImplicit false

namespace ProfilePlatform.Mail

open Foundation Ports

namespace Move

variable {row later : IntentRow} {outcome : Option OutboundMailProviderOutcome}
  {claims : List ClaimRow} {completions : List CompletionRow}

theorem key_eq (move : Move row outcome later claims completions) : later.key = row.key := by
  cases move <;> rfl

theorem command_eq (move : Move row outcome later claims completions) :
    later.command = row.command := by
  cases move <;> rfl

theorem attemptCount_le (move : Move row outcome later claims completions) :
    row.attemptCount ≤ later.attemptCount := by
  cases move with
  | claimed => exact Nat.le_succ _
  | rejected | marked | completed => exact Nat.le_refl _

theorem not_terminal (move : Move row outcome later claims completions) : ¬row.Terminal := by
  rintro (state | state) <;> cases move with
  | claimed live | rejected live | marked live | completed live =>
    simp [IntentRow.Claimable, IntentRow.Running, state] at live

theorem claim_eq (move : Move row outcome later claims completions) {claim : ClaimRow}
    (added : claim ∈ claims) : claim.key = later.attemptKey ∧ row.Claimable ∧
      later.attemptCount = row.attemptCount + 1 ∧ later.state = .dispatching := by
  cases move with
  | claimed claimable now =>
    cases List.mem_singleton.mp added
    exact ⟨rfl, claimable, rfl, rfl⟩
  | rejected | marked | completed => cases added

theorem completion_eq (move : Move row outcome later claims completions)
    {completion : CompletionRow} (added : completion ∈ completions) :
    completion.key = row.attemptKey ∧ later.attemptCount = row.attemptCount ∧
      ∃ sent, outcome = some sent ∧ completion.outcome = (providerOutcomeFields sent).1 := by
  cases move with
  | completed running sent now =>
    cases List.mem_singleton.mp added
    exact ⟨rfl, rfl, sent, rfl, rfl⟩
  | claimed | rejected | marked => cases added

theorem completions_unique (move : Move row outcome later claims completions) :
    Rows.Unique CompletionRow.key completions := by
  cases move with
  | completed => exact Rows.unique_singleton _ _
  | claimed | rejected | marked => exact Rows.unique_nil _

end Move

/-- A completion of the attempt that lets another one follow. -/
def Database.Retryable (database : Database) (key : AttemptKey) : Prop :=
  ∃ completion ∈ database.completions, completion.key = key ∧ completion.outcome = .retryable

/-- The claims of one intent: numbered up to its count, and all but a running one retryable. -/
structure IntentRow.Accounted (row : IntentRow) (database : Database) : Prop where
  bounded : ∀ claim ∈ database.claims, claim.key.1 = row.key → claim.key.2 ≤ row.attemptCount
  settled : ∀ claim ∈ database.claims, claim.key.1 = row.key →
    claim.key.2 < row.attemptCount ∨ row.Claimable → database.Retryable claim.key

structure Database.Sound (database : Database) : Prop where
  keys : Rows.Unique IntentRow.key database.intents
  commands : Rows.Unique IntentRow.command database.intents
  completionKeys : Rows.Unique CompletionRow.key database.completions
  referenced : ∀ claim ∈ database.claims, ∃ row ∈ database.intents, row.key = claim.key.1
  claimed : ∀ completion ∈ database.completions, ∃ claim ∈ database.claims,
    claim.key = completion.key
  accounted : ∀ row ∈ database.intents, row.Accounted database

theorem Database.Fresh.sound {database : Database} (fresh : database.Fresh) : database.Sound := by
  obtain ⟨intents, claims, completions, -⟩ := fresh
  constructor <;> simp only [intents, claims, completions, List.not_mem_nil, false_implies,
    implies_true, Rows.unique_nil]

section Kept

variable {database after : Database} {context : CommandContext}
  {outcome : Option OutboundMailProviderOutcome} {row : IntentRow}

/-- The claims and the completions of other intents do not matter to an intent. -/
theorem IntentRow.Accounted.unaffected (accounted : row.Accounted database)
    (claims : ∀ claim ∈ after.claims, claim.key.1 = row.key → claim ∈ database.claims)
    (completions : ∀ completion ∈ database.completions, completion ∈ after.completions) :
    row.Accounted after where
  bounded := fun claim known same => accounted.bounded claim (claims claim known same) same
  settled := fun claim known same past => by
    obtain ⟨completion, stored, rest⟩ :=
      accounted.settled claim (claims claim known same) same past
    exact ⟨completion, completions completion stored, rest⟩

namespace Change

theorem completions_kept (change : Change context database outcome after)
    {completion : CompletionRow} (stored : completion ∈ database.completions) :
    completion ∈ after.completions := by
  cases change with
  | kept => exact stored
  | reserved _ _ _ _ _ completions => exact completions ▸ stored
  | moved _ _ _ _ completionsAfter =>
    rw [completionsAfter]
    exact List.mem_append_left _ stored

theorem claims_kept (change : Change context database outcome after) {claim : ClaimRow}
    (stored : claim ∈ database.claims) : claim ∈ after.claims := by
  cases change with
  | kept => exact stored
  | reserved _ _ _ _ claims _ => exact claims ▸ stored
  | moved _ _ _ claimsAfter _ =>
    rw [claimsAfter]
    exact List.mem_append_left _ stored

theorem terminal_kept (change : Change context database outcome after) (sound : database.Sound)
    (stored : row ∈ database.intents) (terminal : row.Terminal) : row ∈ after.intents := by
  cases change with
  | kept => exact stored
  | reserved _ _ _ intents _ _ =>
    rw [intents]
    exact List.mem_append_left _ stored
  | moved loaded move intents _ _ _ _ =>
    refine intents.kept stored fun same => ?_
    cases sound.keys row stored _ (mem_of_loadIntent loaded).1 same
    exact move.not_terminal terminal

theorem intent_kept (change : Change context database outcome after) (sound : database.Sound)
    (stored : row ∈ database.intents) : ∃ later ∈ after.intents, later.key = row.key ∧
      later.command = row.command ∧ row.attemptCount ≤ later.attemptCount := by
  cases change with
  | kept => exact ⟨row, stored, rfl, rfl, Nat.le_refl _⟩
  | reserved _ _ _ intents _ _ =>
    rw [intents]
    exact ⟨row, List.mem_append_left _ stored, rfl, rfl, Nat.le_refl _⟩
  | @moved moving later _ _ _ _ loaded move intents _ _ _ _ =>
    by_cases same : row.key = moving.key
    · cases sound.keys row stored moving (mem_of_loadIntent loaded).1 same
      exact ⟨later, intents.installed, move.key_eq, move.command_eq, move.attemptCount_le⟩
    · exact ⟨row, intents.kept stored same, rfl, rfl, Nat.le_refl _⟩

theorem completion_new (change : Change context database outcome after)
    {completion : CompletionRow} (stored : completion ∈ after.completions) :
    completion ∈ database.completions ∨ ∃ row sent, database.loadIntent context = some row ∧
      outcome = some sent ∧ completion.key = row.attemptKey ∧
      completion.outcome = (providerOutcomeFields sent).1 := by
  cases change with
  | kept => exact .inl stored
  | reserved _ _ _ _ _ completions => exact .inl (completions ▸ stored)
  | moved loaded move _ _ completionsAfter _ _ =>
    rw [completionsAfter] at stored
    rcases List.mem_append.mp stored with old | added
    · exact .inl old
    · obtain ⟨key, -, sent, finished, code⟩ := move.completion_eq added
      exact .inr ⟨_, sent, loaded, finished, key, code⟩

theorem accounted_later {later : IntentRow} {claims : List ClaimRow}
    {completions : List CompletionRow} (accounted : row.Accounted database)
    (move : Move row outcome later claims completions)
    (claimsAfter : after.claims = database.claims ++ claims)
    (completionsAfter : after.completions = database.completions ++ completions) :
    later.Accounted after := by
  have kept {key : AttemptKey} : database.Retryable key → after.Retryable key := by
    rintro ⟨completion, stored, rest⟩
    exact ⟨completion, completionsAfter ▸ List.mem_append_left _ stored, rest⟩
  constructor
  · intro claim known same
    rcases List.mem_append.mp (claimsAfter ▸ known) with old | added
    · exact Nat.le_trans (accounted.bounded claim old (same.trans move.key_eq))
        move.attemptCount_le
    · exact Nat.le_of_eq (congrArg Prod.snd (move.claim_eq added).1)
  · intro claim known same past
    rcases List.mem_append.mp (claimsAfter ▸ known) with old | added
    · have bounded := accounted.bounded claim old (same.trans move.key_eq)
      have settled := accounted.settled claim old (same.trans move.key_eq)
      cases move with
      | claimed claimable now => exact kept (settled (.inr claimable))
      | rejected claimable now => exact kept (settled (.inr claimable))
      | marked running now =>
        rcases past with earlier | claimable
        · exact kept (settled (.inl earlier))
        · simp [IntentRow.Claimable, IntentRow.markedAt] at claimable
      | completed running sent now =>
        rcases Nat.lt_or_eq_of_le bounded with earlier | current
        · exact kept (settled (.inl earlier))
        · -- the attempt just completed: its intent can be claimed again only if it was retryable
          rcases past with earlier | claimable
          · exact absurd current (Nat.ne_of_lt earlier)
          · refine ⟨completionOf row sent now, ?_, ?_, ?_⟩
            · rw [completionsAfter]
              exact List.mem_append_right _ List.mem_cons_self
            · exact Prod.ext same.symm current.symm
            · cases sent <;> simp [IntentRow.Claimable, IntentRow.completedAt, completionOf,
                providerOutcomeFields] at claimable ⊢
    · obtain ⟨key, -, -, dispatching⟩ := move.claim_eq added
      rcases past with earlier | claimable
      · rw [key] at earlier
        exact absurd earlier (Nat.lt_irrefl _)
      · simp [IntentRow.Claimable, dispatching] at claimable

theorem sound (change : Change context database outcome after) (sound : database.Sound) :
    after.Sound := by
  cases change with
  | kept outcome idempotency =>
    exact ⟨sound.keys, sound.commands, sound.completionKeys, sound.referenced, sound.claimed,
      fun row stored => (sound.accounted row stored).unaffected (fun _ known _ => known)
        (fun _ known => known)⟩
  | @reserved new _ initial unclaimed fresh intents claims completions =>
    constructor
    · rw [intents]
      exact Rows.unique_insert sound.keys fun old known => (fresh old known).1
    · rw [intents]
      exact Rows.unique_insert sound.commands fun old known => (fresh old known).2
    · rw [completions]
      exact sound.completionKeys
    · intro claim known
      obtain ⟨row, stored, same⟩ := sound.referenced claim (claims ▸ known)
      exact ⟨row, intents ▸ List.mem_append_left _ stored, same⟩
    · rw [completions, claims]
      exact sound.claimed
    · intro row stored
      rw [intents] at stored
      rcases List.mem_append.mp stored with old | added
      · exact (sound.accounted row old).unaffected (fun _ known _ => claims ▸ known)
          (fun _ known => completions ▸ known)
      · -- no claim can name an intent that was not there
        have none (claim : ClaimRow) (known : claim ∈ after.claims) : claim.key.1 ≠ row.key := by
          intro same
          obtain ⟨old, found, key⟩ := sound.referenced claim (claims ▸ known)
          cases List.mem_singleton.mp added
          exact (fresh old found).1 (key.trans same)
        exact ⟨fun claim known same => absurd same (none claim known),
          fun claim known same => absurd same (none claim known)⟩
  | @moved moving later _ newClaims newCompletions _ loaded move intents claimsAfter
      completionsAfter fresh claimed =>
    have changed : Change context database outcome after :=
      .moved loaded move intents claimsAfter completionsAfter fresh claimed
    have member := (mem_of_loadIntent loaded).1
    constructor
    · exact intents.unique sound.keys member move.key_eq
    · exact intents.unique sound.commands member move.command_eq
    · rw [completionsAfter]
      exact Rows.unique_append sound.completionKeys move.completions_unique fresh
    · intro claim known
      rcases List.mem_append.mp (claimsAfter ▸ known) with old | added
      · obtain ⟨row, stored, same⟩ := sound.referenced claim old
        obtain ⟨kept, stays, key, -⟩ := changed.intent_kept sound stored
        exact ⟨kept, stays, key.trans same⟩
      · exact ⟨later, intents.installed, (congrArg Prod.fst (move.claim_eq added).1).symm⟩
    · intro completion known
      have known' : ∃ claim ∈ database.claims, claim.key = completion.key := by
        rcases List.mem_append.mp (completionsAfter ▸ known) with old | added
        · exact sound.claimed completion old
        · exact claimed completion added
      obtain ⟨claim, stored, same⟩ := known'
      exact ⟨claim, changed.claims_kept stored, same⟩
    · intro row stored
      rcases (intents row).mp stored with ⟨old, differs⟩ | rfl
      · refine (sound.accounted row old).unaffected (fun claim known same => ?_)
          (fun _ known => changed.completions_kept known)
        rcases List.mem_append.mp (claimsAfter ▸ known) with old' | added
        · exact old'
        · rw [(move.claim_eq added).1] at same
          exact absurd (same.symm.trans move.key_eq) differs
      · exact accounted_later (sound.accounted _ member) move claimsAfter completionsAfter

end Change

end Kept

end ProfilePlatform.Mail
