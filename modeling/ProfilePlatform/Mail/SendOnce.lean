import ProfilePlatform.Mail.Attempts

/-! No attempt is sent twice, and nothing is sent after an attempt that may have arrived.

A call that has claimed an attempt holds it until it asks for its completion. Two
calls of one command never hold attempts at the same time: a claim leaves the intent
running, and a running intent cannot be claimed.
-/

set_option autoImplicit false

namespace ProfilePlatform.Mail

open Foundation Ports

abbrev DispatchEntry := Entry Dispatcher DispatchEvent (Option Send)

def sends (past : List DispatchEntry) : List Send := past.filterMap Entry.output

@[simp] theorem sends_concat (past : List DispatchEntry) (entry : DispatchEntry) :
    sends (past ++ [entry]) = sends past ++ entry.output.toList := by
  unfold sends
  rw [List.filterMap_append]
  cases output : entry.output <;> simp [output]

/-- The attempt a call has claimed and not yet asked to complete. -/
def Phase.attempt : Phase → Option Nat
  | .sending attempt _ | .completing attempt _ _ => some attempt
  | _ => none

/-- The attempt is the last one of the command's intent, claimed and without a completion. -/
def Database.Held (database : Database) (command : CommandKey) (attempt : Nat) : Prop :=
  ∃ row ∈ database.intents, row.command = command ∧ row.attemptCount = attempt ∧ row.Running ∧
    (∃ claim ∈ database.claims, claim.key = row.attemptKey) ∧
    ∀ completion ∈ database.completions, completion.key ≠ row.attemptKey

/-- A send belongs to a claimed attempt, and a completion of that attempt tells its outcome. -/
def Database.Recorded (database : Database) (send : Send) : Prop :=
  ∃ row ∈ database.intents, row.command = send.command ∧ send.attempt ≤ row.attemptCount ∧
    (∃ claim ∈ database.claims, claim.key = (row.key, send.attempt)) ∧
    ∀ completion ∈ database.completions, completion.key = (row.key, send.attempt) →
      completion.outcome = (providerOutcomeFields (providerOutcome send.outcome)).1

section Phases

theorem resumeOrReplay_free (receipt : OutboundMailIntentReceipt) :
    (Phase.resumeOrReplay receipt).attempt = none := by
  unfold Phase.resumeOrReplay
  split <;> rfl

theorem afterAccess_free (intent : OutboundMailIntent)
    (answer : Except ClientMailboxAccessPortErrorClass Bool) :
    (Phase.afterAccess intent answer).attempt = none := by
  unfold Phase.afterAccess
  split
  · rfl
  · rfl
  · split <;> rfl

theorem afterReserve_free (answer : StoreResult OutboundMailReserveDecision) :
    (Phase.afterReserve answer).attempt = none := by
  unfold Phase.afterReserve
  split
  · rfl
  · rfl
  · rfl
  · exact resumeOrReplay_free _

theorem afterComplete_free (replayed : Bool) (answer : StoreResult OutboundMailIntentReceipt) :
    (Phase.afterComplete replayed answer).attempt = none := by
  cases answer <;> rfl

theorem afterMark_free (replayed : Bool) (answer : StoreResult OutboundMailIntentReceipt) :
    (Phase.afterMark replayed answer).attempt = none := by
  cases answer <;> rfl

theorem afterClaim_free {replayed : Bool} {answer : StoreResult OutboundMailClaimDecision}
    (other : ∀ attempt, answer ≠ .ok (.claimed attempt)) :
    (Phase.afterClaim replayed answer).attempt = none := by
  unfold Phase.afterClaim
  split
  · rfl
  next attempt => exact absurd rfl (other attempt)
  · split <;> rfl

end Phases

/-- What one await of a call can do. -/
inductive Advanced (call : Call) (database : Database) : Option Send × Phase × Database → Prop where
  | idle {phase : Phase} {after : Database} (holding : call.phase.attempt = none)
      (free : phase.attempt = none) (change : Change call.context database none after) :
      Advanced call database (none, phase, after)
  | claimed {attempt : Nat} {replayed : Bool} {after : Database}
      (holding : call.phase.attempt = none)
      (claiming : Claiming call.context database (.ok (.claimed attempt), after)) :
      Advanced call database (none, .sending attempt replayed, after)
  | sent {attempt : Nat} {replayed : Bool} (phase : call.phase = .sending attempt replayed)
      (outcome : Except OutboundMailProviderPortErrorClass OutboundMailProviderOutcome) :
      Advanced call database (some ⟨call.context.command, attempt, outcome⟩,
        .completing attempt (providerOutcome outcome) replayed, database)
  | completed {attempt : Nat} {outcome : OutboundMailProviderOutcome} {replayed : Bool}
      {phase : Phase} {after : Database} (waiting : call.phase = .completing attempt outcome replayed)
      (free : phase.attempt = none) (change : Change call.context database (some outcome) after) :
      Advanced call database (none, phase, after)

theorem advanced {database : Database} (unique : Rows.Unique IntentRow.key database.intents)
    (call : Call) (world : World) : Advanced call database (call.advance database world) := by
  unfold Call.advance
  split
  next phase => exact .idle (congrArg Phase.attempt phase) (afterAccess_free _ _) .same
  next phase =>
    exact .idle (congrArg Phase.attempt phase) (afterReserve_free _)
      (pass_change reserveIntent_change _)
  next replayed phase =>
    have claiming : Claiming call.context database
        (database.claimDispatch world.granted call.context maxOutboundMailDispatchAttempts) :=
      claimDispatch_claiming unique
    have holding := congrArg Phase.attempt phase
    cases world.delivery with
    | delivered =>
      simp only [Delivery.pass]
      generalize database.claimDispatch _ _ _ = result at claiming
      cases claiming with
      | claimed loaded claimable intents claims completions =>
        exact .claimed holding (.claimed loaded claimable intents claims completions)
      | unclaimed other change => exact .idle holding (afterClaim_free other) change
    | failed why => exact .idle holding rfl .same
    | lost why => exact .idle holding rfl claiming.change
  next attempt replayed phase => exact .sent phase world.provider
  next attempt outcome replayed phase =>
    exact .completed phase (afterComplete_free _ _) (pass_change (completeDispatch_change unique) _)
  next replayed phase =>
    exact .idle (congrArg Phase.attempt phase) (afterMark_free _ _)
      (pass_change (markAmbiguous_change unique) _)
  next result phase => exact .idle (congrArg Phase.attempt phase) rfl .same

section Kept

variable {database after : Database} {context : CommandContext}
  {outcome : Option OutboundMailProviderOutcome} {command : CommandKey} {attempt : Nat}

/-- A held attempt stays held, whatever the calls that do not complete it do. -/
theorem Change.held_kept (change : Change context database outcome after)
    (sound : database.Sound) (held : database.Held command attempt)
    (untouched : outcome = none ∨ context.command ≠ command) : after.Held command attempt := by
  obtain ⟨row, stored, named, count, running, ⟨claim, claimed, key⟩, open_⟩ := held
  cases change with
  | kept => exact ⟨row, stored, named, count, running, ⟨claim, claimed, key⟩, open_⟩
  | reserved _ _ _ intents claims completions =>
    exact ⟨row, intents ▸ List.mem_append_left _ stored, named, count, running,
      ⟨claim, claims ▸ claimed, key⟩, completions ▸ open_⟩
  | @moved moving later _ _ _ _ loaded move intents claimsAfter completionsAfter _ _ =>
    obtain ⟨member, namedMoving, -⟩ := mem_of_loadIntent loaded
    have claimedAfter : claim ∈ after.claims := by
      rw [claimsAfter]
      exact List.mem_append_left _ claimed
    by_cases same : row.key = moving.key
    · cases sound.keys row stored moving member same
      cases move with
      | claimed claimable | rejected claimable => exact absurd claimable running.not_claimable
      | marked _ now =>
        refine ⟨_, intents.installed, named, count, List.mem_cons_of_mem _ List.mem_cons_self,
          ⟨claim, claimedAfter, key⟩, ?_⟩
        rw [completionsAfter, List.append_nil]
        exact open_
      | completed _ _ now =>
        rcases untouched with impossible | other
        · cases impossible
        · exact absurd (namedMoving.symm.trans named) other
    · refine ⟨row, intents.kept stored same, named, count, running, ⟨claim, claimedAfter, key⟩, ?_⟩
      intro completion known equal
      rcases List.mem_append.mp (completionsAfter ▸ known) with old | added
      · exact open_ completion old equal
      · rw [(move.completion_eq added).1] at equal
        exact same (congrArg Prod.fst equal).symm

theorem Change.recorded_kept (change : Change context database outcome after)
    (sound : database.Sound) {send : Send} (recorded : database.Recorded send)
    (agrees : ∀ row sent, database.loadIntent context = some row → outcome = some sent →
      row.command = send.command → row.attemptCount = send.attempt →
        providerOutcome send.outcome = sent) : after.Recorded send := by
  obtain ⟨row, stored, named, bounded, ⟨claim, claimed, key⟩, told⟩ := recorded
  obtain ⟨later, stays, sameKey, sameCommand, counted⟩ := change.intent_kept sound stored
  refine ⟨later, stays, sameCommand.trans named, Nat.le_trans bounded counted,
    ⟨claim, change.claims_kept claimed, key.trans (congrArg (·, send.attempt) sameKey.symm)⟩, ?_⟩
  intro completion known completes
  rw [sameKey] at completes
  rcases change.completion_new known with old | ⟨moving, sent, loaded, finished, ofMoving, code⟩
  · exact told completion old completes
  · have equal := ofMoving.symm.trans completes
    cases sound.keys moving (mem_of_loadIntent loaded).1 row stored (congrArg Prod.fst equal)
    rw [code, agrees row sent loaded finished named (congrArg Prod.snd equal)]

theorem Claiming.held
    (claiming : Claiming context database (.ok (.claimed attempt), after))
    (sound : database.Sound) : after.Held context.command attempt := by
  generalize answered : (Except.ok (.claimed attempt) : StoreResult OutboundMailClaimDecision) =
    answer at claiming
  cases claiming with
  | unclaimed other change => exact absurd answered.symm (other attempt)
  | @claimed row _ now loaded claimable intents claims completions =>
    cases answered
    obtain ⟨member, named, -⟩ := mem_of_loadIntent loaded
    refine ⟨_, intents.installed, named, rfl, List.mem_cons_self,
      ⟨_, claims ▸ List.mem_append_right _ List.mem_cons_self, rfl⟩, ?_⟩
    intro completion known equal
    obtain ⟨claim, stored, same⟩ := sound.claimed completion (completions ▸ known)
    have bounded := (sound.accounted row member).bounded claim stored
      (congrArg Prod.fst (same.trans equal))
    rw [same, equal] at bounded
    exact absurd bounded (Nat.not_succ_le_self _)

end Kept

/-- A call about to send has not sent that attempt, and one about to complete carries
the outcome of its send. -/
def Call.Consistent (call : Call) (past : List Send) : Prop :=
  match call.phase with
  | .sending attempt _ =>
    ∀ send ∈ past, send.command = call.context.command → send.attempt ≠ attempt
  | .completing attempt outcome _ =>
    ∀ send ∈ past, send.command = call.context.command → send.attempt = attempt →
      providerOutcome send.outcome = outcome
  | _ => True

theorem Call.consistent_of_free {call : Call} {past : List Send}
    (free : call.phase.attempt = none) : call.Consistent past := by
  unfold Call.Consistent
  cases phase : call.phase with
  | sending | completing =>
    rw [phase] at free
    cases free
  | checkingAccess | reserving | claiming | marking | finished => trivial

theorem Call.Consistent.append {call : Call} {past : List Send} {last : Send}
    (consistent : call.Consistent past)
    (other : call.phase.attempt ≠ none → last.command ≠ call.context.command) :
    call.Consistent (past ++ [last]) := by
  unfold Call.Consistent at *
  cases phase : call.phase with
  | sending | completing =>
    simp only [phase] at consistent other ⊢
    intro send known same
    rcases List.mem_append.mp known with old | new
    · exact consistent send old same
    · cases List.mem_singleton.mp new
      exact absurd same (other (Option.some_ne_none _))
  | checkingAccess | reserving | claiming | marking | finished => trivial

structure Dispatcher.Sound (dispatcher : Dispatcher) (past : List Send) : Prop where
  database : dispatcher.database.Sound
  recorded : ∀ send ∈ past, dispatcher.database.Recorded send
  held : ∀ index call, dispatcher.calls index = some call → ∀ attempt,
    call.phase.attempt = some attempt → dispatcher.database.Held call.context.command attempt
  exclusive : ∀ index call, dispatcher.calls index = some call → ∀ other rival,
    dispatcher.calls other = some rival → call.phase.attempt ≠ none → rival.phase.attempt ≠ none →
      call.context.command = rival.context.command → index = other
  consistent : ∀ index call, dispatcher.calls index = some call → call.Consistent past

namespace Dispatcher.Sound

variable {dispatcher : Dispatcher} {past : List Send}

theorem arrives (sound : dispatcher.Sound past) (index : Nat) (context : CommandContext)
    (intent : OutboundMailIntent) :
    (dispatcher.step (.arrives index context intent)).2.Sound past := by
  have known : ∀ other call,
      dispatcher.calls.insertIfAbsent index ⟨context, intent, .checkingAccess⟩ other = some call →
        dispatcher.calls other = some call ∨ call.phase.attempt = none := by
    intro other call found
    rcases Table.of_insertIfAbsent found with old | ⟨-, rfl⟩
    · exact .inl old
    · exact .inr rfl
  constructor
  · exact sound.database
  · exact sound.recorded
  · intro other call found attempt holds
    rcases known other call found with old | free
    · exact sound.held other call old attempt holds
    · rw [free] at holds
      cases holds
  · intro other call found rivalIndex rival foundRival holds rivalHolds
    rcases known other call found with old | free
    · rcases known rivalIndex rival foundRival with oldRival | free
      · exact sound.exclusive other call old rivalIndex rival oldRival holds rivalHolds
      · exact absurd free rivalHolds
    · exact absurd free holds
  · intro other call found
    rcases known other call found with old | free
    · exact sound.consistent other call old
    · exact Call.consistent_of_free free

variable {index : Nat} {call : Call}

theorem update {updated : Call} {after : Database} {later : List Send}
    (sound : dispatcher.Sound past) (database : after.Sound)
    (recorded : ∀ send ∈ later, after.Recorded send)
    (heldNow : ∀ attempt, updated.phase.attempt = some attempt →
      after.Held updated.context.command attempt)
    (heldOthers : ∀ other rival, other ≠ index → dispatcher.calls other = some rival →
      ∀ attempt, rival.phase.attempt = some attempt → after.Held rival.context.command attempt)
    (alone : updated.phase.attempt ≠ none → ∀ other rival, other ≠ index →
      dispatcher.calls other = some rival → rival.phase.attempt ≠ none →
        updated.context.command ≠ rival.context.command)
    (consistentNow : updated.Consistent later)
    (consistentOthers : ∀ other rival, other ≠ index → dispatcher.calls other = some rival →
      rival.Consistent later) :
    Dispatcher.Sound ⟨after, dispatcher.calls.insert index updated⟩ later where
  database := database
  recorded := recorded
  held := fun other holder found attempt holds => by
    rcases Table.insert_eq_some.mp found with ⟨-, rfl⟩ | ⟨differs, old⟩
    · exact heldNow attempt holds
    · exact heldOthers other holder differs old attempt holds
  exclusive := fun first holder found second rival foundRival holds rivalHolds same => by
    rcases Table.insert_eq_some.mp found with ⟨rfl, rfl⟩ | ⟨differs, old⟩ <;>
      rcases Table.insert_eq_some.mp foundRival with ⟨rfl, rfl⟩ | ⟨differs', old'⟩
    · rfl
    · exact absurd same (alone holds second rival differs' old' rivalHolds)
    · exact absurd same.symm (alone rivalHolds first holder differs old holds)
    · exact sound.exclusive first holder old second rival old' holds rivalHolds same
  consistent := fun other holder found => by
    rcases Table.insert_eq_some.mp found with ⟨-, rfl⟩ | ⟨differs, old⟩
    · exact consistentNow
    · exact consistentOthers other holder differs old

theorem row_eq (sound : dispatcher.Sound past) {row other : IntentRow}
    (stored : row ∈ dispatcher.database.intents) (present : other ∈ dispatcher.database.intents)
    {command : CommandKey} (named : row.command = command) (named' : other.command = command) :
    row = other :=
  sound.database.commands row stored other present (named.trans named'.symm)

theorem advances (sound : dispatcher.Sound past) (found : dispatcher.calls index = some call)
    {send : Option Send} {phase : Phase} {after : Database}
    (advanced : Advanced call dispatcher.database (send, phase, after)) :
    Dispatcher.Sound ⟨after, dispatcher.calls.insert index { call with phase }⟩
      (past ++ send.toList) := by
  have apart (holds : call.phase.attempt ≠ none) (other : Nat) (rival : Call) (differs : other ≠ index)
      (known : dispatcher.calls other = some rival) (rivalHolds : rival.phase.attempt ≠ none) :
      call.context.command ≠ rival.context.command := fun same =>
    differs (sound.exclusive index call found other rival known holds rivalHolds same).symm
  cases advanced with
  | idle holding free change =>
    rw [Option.toList_none, List.append_nil]
    refine sound.update (change.sound sound.database) ?_ ?_ ?_ ?_ (Call.consistent_of_free free) ?_
    · intro send known
      exact change.recorded_kept sound.database (sound.recorded send known)
        fun _ _ _ impossible => nomatch impossible
    · intro attempt holds
      cases free.symm.trans holds
    · intro other rival _ known attempt holds
      exact change.held_kept sound.database (sound.held other rival known attempt holds) (.inl rfl)
    · intro holds
      exact absurd free holds
    · intro other rival _ known
      exact sound.consistent other rival known
  | @claimed attempt replayed _ holding claiming =>
    have change : Change call.context dispatcher.database none after := claiming.change
    have held : after.Held call.context.command attempt := claiming.held sound.database
    rw [Option.toList_none, List.append_nil]
    generalize answered : (Except.ok (.claimed attempt) : StoreResult OutboundMailClaimDecision) =
      answer at claiming
    cases claiming with
    | unclaimed other _ => exact absurd answered.symm (other attempt)
    | @claimed row _ now loaded claimable _ _ _ =>
      cases answered
      obtain ⟨member, named, -⟩ := mem_of_loadIntent loaded
      refine sound.update (change.sound sound.database) ?_ ?_ ?_ ?_ ?_ ?_
      · intro send known
        exact change.recorded_kept sound.database (sound.recorded send known)
          fun _ _ _ impossible => nomatch impossible
      · intro other holds
        cases holds
        exact held
      · intro other rival _ known attempt holds
        exact change.held_kept sound.database (sound.held other rival known attempt holds) (.inl rfl)
      · -- another holder of the command would have left the intent running
        intro _ other rival _ known rivalHolds same
        obtain ⟨attempt, holds⟩ := Option.ne_none_iff_exists'.mp rivalHolds
        obtain ⟨holder, stored, namedHolder, -, running, -⟩ :=
          sound.held other rival known attempt holds
        cases sound.row_eq member stored named (namedHolder.trans same.symm)
        exact running.not_claimable claimable
      · intro send known same
        obtain ⟨intent, stored, namedIntent, bounded, -⟩ := sound.recorded send known
        cases sound.row_eq member stored named (namedIntent.trans same)
        exact Nat.ne_of_lt (Nat.lt_succ_of_le bounded)
      · intro other rival _ known
        exact sound.consistent other rival known
  | @sent attempt replayed sending outcome =>
    have holds : call.phase.attempt = some attempt := congrArg Phase.attempt sending
    have busy : call.phase.attempt ≠ none := holds ▸ Option.some_ne_none attempt
    have held := sound.held index call found attempt holds
    have unsent := sound.consistent index call found
    simp only [Call.Consistent, sending] at unsent
    refine sound.update sound.database ?_ ?_ ?_ ?_ ?_ ?_
    · intro send known
      rcases List.mem_append.mp known with old | new
      · exact sound.recorded send old
      · cases List.mem_singleton.mp new
        obtain ⟨row, stored, named, rfl, -, claimed, open_⟩ := held
        exact ⟨row, stored, named, Nat.le_refl _, claimed,
          fun completion known completes => absurd completes (open_ completion known)⟩
    · intro other same
      cases same
      exact held
    · intro other rival _ known
      exact sound.held other rival known
    · exact fun _ => apart busy
    · intro send known same number
      rcases List.mem_append.mp known with old | new
      · exact absurd number (unsent send old same)
      · cases List.mem_singleton.mp new
        rfl
    · intro other rival differs known
      exact (sound.consistent other rival known).append (apart busy other rival differs known)
  | @completed attempt outcome replayed _ _ waiting free change =>
    have holds : call.phase.attempt = some attempt := congrArg Phase.attempt waiting
    have busy : call.phase.attempt ≠ none := holds ▸ Option.some_ne_none attempt
    have answered := sound.consistent index call found
    simp only [Call.Consistent, waiting] at answered
    rw [Option.toList_none, List.append_nil]
    refine sound.update (change.sound sound.database) ?_ ?_ ?_ ?_ (Call.consistent_of_free free) ?_
    · intro send known
      refine change.recorded_kept sound.database (sound.recorded send known) ?_
      intro row carried loaded same named count
      cases same
      obtain ⟨member, namedCall, -⟩ := mem_of_loadIntent loaded
      obtain ⟨holder, stored, namedHolder, number, -⟩ := sound.held index call found attempt holds
      cases sound.row_eq member stored namedCall namedHolder
      exact answered send known (named.symm.trans namedCall) (count.symm.trans number)
    · intro attempt holding
      cases free.symm.trans holding
    · intro other rival differs known attempt holding
      refine change.held_kept sound.database (sound.held other rival known attempt holding) (.inr ?_)
      exact apart busy other rival differs known (holding ▸ Option.some_ne_none attempt)
    · intro holding
      exact absurd free holding
    · intro other rival _ known
      exact sound.consistent other rival known

theorem step (sound : dispatcher.Sound past) (event : DispatchEvent) :
    (dispatcher.step event).2.Sound (past ++ (dispatcher.step event).1.toList) := by
  cases event with
  | arrives index context intent =>
    simpa only [Dispatcher.step, Option.toList_none, List.append_nil] using
      sound.arrives index context intent
  | advances index world =>
    simp only [Dispatcher.step]
    cases found : dispatcher.calls index with
    | none =>
      rw [Option.toList_none, List.append_nil]
      exact sound
    | some call => exact sound.advances found (advanced sound.database.keys call world)

end Dispatcher.Sound

theorem Dispatcher.sound_of_fresh {database : Database} (fresh : database.Fresh) :
    Dispatcher.Sound ⟨database, .empty⟩ [] where
  database := fresh.sound
  recorded := fun _ known => nomatch known
  held := fun _ _ found => nomatch found
  exclusive := fun _ _ found => nomatch found
  consistent := fun _ _ found => nomatch found

/-- The outcome the store has for an attempt. -/
def Database.storedOutcome (database : Database) (key : AttemptKey) :
    Option OutboundMailIntentState :=
  (Rows.first (fun completion => completion.key = key) database.completions).map (·.outcome)

theorem Database.Sound.storedOutcome_of_retryable {database : Database} (sound : database.Sound)
    {key : AttemptKey} (retryable : database.Retryable key) :
    database.storedOutcome key = some .retryable := by
  obtain ⟨completion, stored, rfl, outcome⟩ := retryable
  have found : Rows.first (fun other => other.key = completion.key) database.completions =
      some completion :=
    Rows.first_of_unique sound.completionKeys stored rfl fun _ same => same
  rw [storedOutcome, found, Option.map_some, outcome]

theorem retryable_code
    {answer : Except OutboundMailProviderPortErrorClass OutboundMailProviderOutcome}
    (code : (providerOutcomeFields (providerOutcome answer)).1 = .retryable) :
    answer = .ok .retryableNotSent := by
  cases answer with
  | error why => cases code
  | ok outcome =>
    cases outcome with
    | retryableNotSent => rfl
    | sent | rejected | ambiguous => cases code

/-- What has to be true when the provider is invoked. -/
structure SendSafe (past : List DispatchEntry) (database : Database) (send : Send) : Prop where
  /-- Every earlier send of the command was of an earlier attempt, and reached nobody. -/
  earlier : ∀ other ∈ sends past, other.command = send.command →
    other.attempt < send.attempt ∧ other.outcome = .ok .retryableNotSent
  /-- The attempt is claimed and not completed, and every other claimed attempt of the
  intent has its stored completion, which says RETRYABLE. -/
  claimed : ∃ intent ∈ database.intents, intent.command = send.command ∧
    (∃ claim ∈ database.claims, claim.key = (intent.key, send.attempt)) ∧
    database.storedOutcome (intent.key, send.attempt) = none ∧
    ∀ claim ∈ database.claims, claim.key.1 = intent.key → claim.key.2 ≠ send.attempt →
      claim.key.2 < send.attempt ∧ database.storedOutcome claim.key = some .retryable

theorem Dispatcher.Sound.sendSafe {dispatcher : Dispatcher} {past : List DispatchEntry}
    (sound : dispatcher.Sound (sends past)) {event : DispatchEvent} {send : Send}
    (sent : (dispatcher.step event).1 = some send) :
    SendSafe past dispatcher.database send := by
  cases event with
  | arrives index context intent => cases sent
  | advances index world =>
    simp only [Dispatcher.step] at sent
    cases found : dispatcher.calls index with
    | none =>
      rw [found] at sent
      cases sent
    | some call =>
      simp only [found] at sent
      have moved := advanced sound.database.keys call world
      generalize call.advance dispatcher.database world = result at moved sent
      cases moved with
      | idle | claimed | completed => cases sent
      | @sent attempt replayed sending outcome =>
        cases sent
        obtain ⟨row, stored, named, rfl, -, claimed, open_⟩ :=
          sound.held index call found attempt (congrArg Phase.attempt sending)
        have unsent := sound.consistent index call found
        simp only [Call.Consistent, sending] at unsent
        have accounted := sound.database.accounted row stored
        constructor
        · intro other known same
          obtain ⟨intent, present, namedIntent, bounded, ⟨claim, claimedEarlier, key⟩, told⟩ :=
            sound.recorded other known
          cases sound.row_eq stored present named (namedIntent.trans same)
          have before : other.attempt < row.attemptCount :=
            Nat.lt_of_le_of_ne bounded (unsent other known same)
          obtain ⟨completion, completed, completes, outcome⟩ := accounted.settled claim claimedEarlier
            (congrArg Prod.fst key) (.inl (by rw [key]; exact before))
          have code := told completion completed (completes.trans key)
          exact ⟨before, retryable_code (code.symm.trans outcome)⟩
        · refine ⟨row, stored, named, claimed, ?_, ?_⟩
          · rw [Database.storedOutcome, Option.map_eq_none_iff, Rows.first_eq_none]
            exact open_
          · intro claim known same other
            have before : claim.key.2 < row.attemptCount :=
              Nat.lt_of_le_of_ne (accounted.bounded claim known same) other
            exact ⟨before, sound.database.storedOutcome_of_retryable
              (accounted.settled claim known same (.inl before))⟩

theorem Dispatcher.Sound.terminal_kept {dispatcher : Dispatcher} {past : List Send}
    (sound : dispatcher.Sound past) (event : DispatchEvent) {row : IntentRow}
    (stored : row ∈ dispatcher.database.intents) (terminal : row.Terminal) :
    row ∈ (dispatcher.step event).2.database.intents := by
  cases event with
  | arrives index context intent => exact stored
  | advances index world =>
    simp only [Dispatcher.step]
    cases found : dispatcher.calls index with
    | none => exact stored
    | some call =>
      have moved := advanced sound.database.keys call world
      simp only
      generalize call.advance dispatcher.database world = result at moved
      cases moved with
      | idle _ _ change => exact change.terminal_kept sound.database stored terminal
      | claimed _ claiming => exact claiming.change.terminal_kept sound.database stored terminal
      | sent => exact stored
      | completed _ _ change => exact change.terminal_kept sound.database stored terminal

theorem dispatchers_sound {database : Database} (fresh : database.Fresh)
    (events : List DispatchEvent) :
    (dispatchers.final ⟨database, .empty⟩ events).Sound
      (sends (dispatchers.history ⟨database, .empty⟩ events)) := by
  refine dispatchers.history_invariant (fun past dispatcher => dispatcher.Sound (sends past))
    (Dispatcher.sound_of_fresh fresh) (fun past dispatcher event sound => ?_) events
  rw [sends_concat]
  exact sound.step event

/-- The intent is in the database, and it is all there is under its key. -/
def IntentRow.StandsIn (intent : IntentRow) (database : Database) : Prop :=
  intent ∈ database.intents ∧ ∀ row ∈ database.intents, row.key = intent.key → row = intent

/-- Whatever calls run and however their steps interleave, fail or lose their answers:
the provider is asked once for an attempt at most, and never after an attempt that was
sent, rejected, ambiguous or left without a completion; and an intent that is sent or
rejected stays as it is. -/
theorem sends_once (database : Database) (fresh : database.Fresh) (events : List DispatchEvent) :
    Justified (fun past entry => ∀ send, entry.output = some send →
        SendSafe past entry.before.database send)
      (dispatchers.history ⟨database, .empty⟩ events) ∧
    ∀ first rest, events = first ++ rest →
      ∀ intent ∈ (dispatchers.final ⟨database, .empty⟩ first).database.intents, intent.Terminal →
        intent.StandsIn (dispatchers.final ⟨database, .empty⟩ events).database := by
  constructor
  · have run := dispatchers.history_invariant
      (fun past dispatcher => dispatcher.Sound (sends past) ∧
        Justified (fun past entry => ∀ send, entry.output = some send →
          SendSafe past entry.before.database send) past)
      ⟨Dispatcher.sound_of_fresh fresh, justified_nil _⟩
      (fun past dispatcher event ⟨sound, safe⟩ => ?_) events
    · exact run.2
    · refine ⟨?_, justified_concat safe fun send sent => sound.sendSafe sent⟩
      rw [sends_concat]
      exact sound.step event
  · rintro first rest rfl intent stored terminal
    have kept : intent ∈ (dispatchers.final ⟨database, .empty⟩ (first ++ rest)).database.intents := by
      rw [dispatchers.final_append]
      refine (dispatchers.invariant
        (fun dispatcher => (∃ past, dispatcher.Sound past) ∧ intent ∈ dispatcher.database.intents)
        ?_ ⟨⟨_, dispatchers_sound fresh first⟩, stored⟩ rest).2
      rintro dispatcher event ⟨⟨past, sound⟩, present⟩
      exact ⟨⟨_, sound.step event⟩, sound.terminal_kept event present terminal⟩
    exact ⟨kept, fun row present =>
      (dispatchers_sound fresh (first ++ rest)).database.keys row present intent kept⟩

namespace TwoCallers

def context : CommandContext where
  actor := ⟨⟨⟨"tenant_outbound", by decide⟩⟩, ⟨⟨"actor_outbound", by decide⟩⟩,
    ⟨⟨"correlation_outbound", by decide⟩⟩⟩
  evidence := {
    idempotencyKey := ⟨⟨"idempotency_outbound", by decide⟩⟩
    payloadFingerprint :=
      ⟨"0123456789abcdef0123456789abcdef0123456789abcdef0123456789abcdef", by decide⟩
    auditEventId := ⟨"audit_outbound", by decide⟩
    outboxEventId := ⟨⟨"event_outbound", by decide⟩⟩
    now := 10
    idempotencyExpiresAt := 1000 }

def intent : OutboundMailIntent :=
  ⟨⟨"client_outbound", by decide⟩, ⟨"binding_outbound", by decide⟩, .new⟩

def database : Database := ⟨[], [], [], [], [], [], []⟩

def world : World := ⟨.ok true, true, .delivered, .ok .retryableNotSent⟩

/-- The second caller marks the first one's attempt ambiguous before it is completed, the
answer to the completion is lost, and a third caller makes the second attempt. -/
def events : List DispatchEvent :=
  [.arrives 0 context intent, .arrives 1 context intent, .advances 0 world, .advances 1 world,
    .advances 0 world, .advances 1 world, .advances 0 world, .advances 1 world, .advances 0 world,
    .advances 1 world, .advances 0 { world with delivery := .lost .dependencyUnavailable },
    .advances 0 world, .arrives 2 context intent, .advances 2 world, .advances 2 world,
    .advances 2 world, .advances 2 { world with provider := .ok (.sent none) }, .advances 2 world]

end TwoCallers

open TwoCallers in
theorem sends_once_twoCallers :
    sends (dispatchers.history ⟨database, .empty⟩ events) =
      [⟨context.command, 1, .ok .retryableNotSent⟩, ⟨context.command, 2, .ok (.sent none)⟩] ∧
    Justified (fun past entry => ∀ send, entry.output = some send →
        SendSafe past entry.before.database send)
      (dispatchers.history ⟨database, .empty⟩ events) ∧
    ∀ first rest, events = first ++ rest →
      ∀ intent ∈ (dispatchers.final ⟨database, .empty⟩ first).database.intents, intent.Terminal →
        intent.StandsIn (dispatchers.final ⟨database, .empty⟩ events).database :=
  ⟨by decide +kernel, sends_once database ⟨rfl, rfl, rfl, rfl⟩ events⟩

end ProfilePlatform.Mail
