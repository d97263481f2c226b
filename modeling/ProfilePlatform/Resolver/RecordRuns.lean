import ProfilePlatform.Resolver.EncryptedRecords

/-! Runs of the record store: what its log tells of every row. -/

set_option autoImplicit false

namespace ProfilePlatform.Resolver

open Foundation

section Logs

/-- The row that the event leaves under a key, if it changes it. -/
def RecordEvent.leaves (event : RecordEvent) (key : RecordKey) : Option EncryptedRecord :=
  (event.touched.find? fun touched => touched.after.key = key).map Touched.after

/-- The row as the log has left it. -/
def latest (log : List RecordEvent) (key : RecordKey) : Option EncryptedRecord :=
  log.foldl (fun found event => (event.leaves key).or found) none

/-- The statement took effect on the row. -/
def RecordEvent.affects (event : RecordEvent) (key : RecordKey) : Prop :=
  (event.leaves key).isSome

/-- What a request makes of the row that stands there. -/
def RecordRequest.Makes (request : RecordRequest) (before : Option EncryptedRecord)
    (after : EncryptedRecord) : Prop :=
  match request with
  | .upsert insertion => after.key = insertion.key ∧
    after = (before.map (·.overwritten insertion)).getD insertion.row
  | .update key statement =>
    ∃ row, before = some row ∧ row.key = key ∧ statement.holds row ∧ after = statement.sets row
  | _ => False

/-- An event changes at most one row, from what it was, and answers with rows as they are then. -/
structure Lawful (past : List RecordEvent) (event : RecordEvent) : Prop where
  touched : event.touched = [] ∨ ∃ touched, event.touched = [touched] ∧
    touched.before = latest past touched.after.key ∧
    event.request.Makes touched.before touched.after
  answered : ∀ rows, event.answer = some rows → ∀ row ∈ rows,
    latest (past ++ [event]) row.key = some row

/-- The table is what the log has left. -/
structure Ledger (database : RecordDatabase) : Prop where
  keyed : (database.rows.map EncryptedRecord.key).Nodup
  lawful : Justified Lawful database.log
  current : ∀ key, Rows.first (fun row => row.key = key) database.rows = latest database.log key

theorem latest_concat (log : List RecordEvent) (event : RecordEvent) (key : RecordKey) :
    latest (log ++ [event]) key = (event.leaves key).or (latest log key) := by
  simp [latest]

theorem leaves_of_quiet {event : RecordEvent} (quiet : event.touched = []) (key : RecordKey) :
    event.leaves key = none := by
  simp [RecordEvent.leaves, quiet]

theorem leaves_of_touched {event : RecordEvent} {touched : Touched}
    (single : event.touched = [touched]) (key : RecordKey) :
    event.leaves key = if touched.after.key = key then some touched.after else none := by
  by_cases same : touched.after.key = key <;> simp [RecordEvent.leaves, single, same]

end Logs

section Tables

variable {rows : List EncryptedRecord} {key : RecordKey} {row : EncryptedRecord}

@[simp] theorem key_sets (statement : RecordStatement) (row : EncryptedRecord) :
    (statement.sets row).key = row.key := by
  cases statement <;> rfl

@[simp] theorem key_overwritten (row : EncryptedRecord) (insertion : RecordInsertion) :
    (row.overwritten insertion).key = row.key := rfl

theorem first_eq_some_iff (keyed : (rows.map EncryptedRecord.key).Nodup) :
    Rows.first (fun row => row.key = key) rows = some row ↔ row ∈ rows ∧ row.key = key := by
  constructor
  · exact Rows.first_eq_some
  · intro standing
    cases found : Rows.first (fun row => row.key = key) rows with
    | none => exact absurd standing.2 (Rows.first_eq_none.mp found row standing.1)
    | some other =>
      have there := Rows.first_eq_some found
      rw [List.inj_on_of_nodup_map keyed there.1 standing.1 (there.2.trans standing.2.symm)]

theorem key_of_first (found : Rows.first (fun row => row.key = key) rows = some row) :
    row.key = key :=
  (Rows.first_eq_some found).2

theorem filter_key (keyed : (rows.map EncryptedRecord.key).Nodup) (key : RecordKey)
    (holds : EncryptedRecord → Bool) :
    rows.filter (fun row => decide (row.key = key) && holds row) =
      ((Rows.first (fun row => row.key = key) rows).filter holds).toList := by
  induction rows with
  | nil => rfl
  | cons head rest ih =>
    rw [List.map_cons, List.nodup_cons] at keyed
    rw [List.filter_cons]
    by_cases same : head.key = key
    · have others : rest.filter (fun row => decide (row.key = key) && holds row) = [] := by
        apply List.filter_eq_nil_iff.mpr
        intro other member chosen
        simp only [Bool.and_eq_true, decide_eq_true_eq] at chosen
        exact keyed.1 (List.mem_map.mpr ⟨other, member, chosen.1.trans same.symm⟩)
      by_cases chosen : holds head = true <;>
        simp [Rows.first, same, chosen, others, Option.filter]
    · have skipped : Rows.first (fun row => row.key = key) (head :: rest) =
          Rows.first (fun row => row.key = key) rest := by
        simp [Rows.first, same]
      rw [skipped, ← ih keyed.2]
      simp [same]

theorem touches_cases (keyed : (rows.map EncryptedRecord.key).Nodup) (request : RecordRequest) :
    request.touches rows = [] ∨ ∃ touched, request.touches rows = [touched] ∧
      touched.before = Rows.first (fun row => row.key = touched.after.key) rows ∧
      request.Makes touched.before touched.after := by
  cases request with
  | candidates | select | refreshState | stale | remaining => exact .inl rfl
  | upsert insertion =>
    right
    have taken := filter_key keyed insertion.key fun _ => true
    simp only [Bool.and_true] at taken
    cases found : Rows.first (fun row => row.key = insertion.key) rows with
    | none =>
      refine ⟨⟨none, insertion.row⟩, ?_, found.symm, rfl, rfl⟩
      simp [RecordRequest.touches, taken, found]
    | some row =>
      have same := key_of_first found
      refine ⟨⟨some row, row.overwritten insertion⟩, ?_, ?_, same, rfl⟩
      · simp [RecordRequest.touches, taken, found, Option.filter]
      · rw [key_overwritten, same, found]
  | update key statement =>
    have chosen := filter_key keyed key fun row => decide (statement.holds row)
    cases found : Rows.first (fun row => row.key = key) rows with
    | none =>
      left
      simp [RecordRequest.touches, chosen, found, Bool.decide_and]
    | some row =>
      have same := key_of_first found
      by_cases holds : statement.holds row
      · right
        refine ⟨⟨some row, statement.sets row⟩, ?_, ?_, row, rfl, same, holds, rfl⟩
        · simp [RecordRequest.touches, chosen, found, holds, Option.filter, Bool.decide_and]
        · rw [key_sets, same, found]
      · left
        simp [RecordRequest.touches, chosen, found, holds, Option.filter, Bool.decide_and]

theorem map_key_amend {after : EncryptedRecord} :
    (Rows.amend (fun row => row.key = after.key) (fun _ => after) rows).map EncryptedRecord.key =
      rows.map EncryptedRecord.key := by
  unfold Rows.amend
  rw [List.map_map]
  apply List.map_congr_left
  intro row _
  simp only [Function.comp]
  split
  next same => exact same.symm
  next => rfl

theorem first_amend (keyed : (rows.map EncryptedRecord.key).Nodup) {before after : EncryptedRecord}
    (found : Rows.first (fun row => row.key = after.key) rows = some before) (key : RecordKey) :
    Rows.first (fun row => row.key = key)
        (Rows.amend (fun row => row.key = after.key) (fun _ => after) rows) =
      if after.key = key then some after else Rows.first (fun row => row.key = key) rows := by
  obtain ⟨standing, named⟩ := Rows.first_eq_some found
  have kept : ((Rows.amend (fun row => row.key = after.key) (fun _ => after) rows).map
      EncryptedRecord.key).Nodup := by
    rwa [map_key_amend]
  by_cases same : after.key = key
  · rw [if_pos same, first_eq_some_iff kept]
    exact ⟨Rows.mem_amend_of_chosen standing named, same⟩
  · rw [if_neg same]
    ext row
    rw [first_eq_some_iff kept, first_eq_some_iff keyed, Rows.mem_amend]
    constructor
    · rintro ⟨⟨old, present, rfl⟩, named⟩
      split at named
      next => exact absurd named same
      next other => exact ⟨by rwa [if_neg other], by rwa [if_neg other]⟩
    · rintro ⟨present, rfl⟩
      exact ⟨⟨row, present, (if_neg (Ne.symm same)).symm⟩, rfl⟩

theorem store_touched (keyed : (rows.map EncryptedRecord.key).Nodup) {touched : Touched}
    (before : touched.before = Rows.first (fun row => row.key = touched.after.key) rows) :
    ((store rows [touched]).map EncryptedRecord.key).Nodup ∧
      ∀ key, Rows.first (fun row => row.key = key) (store rows [touched]) =
        if touched.after.key = key then some touched.after
        else Rows.first (fun row => row.key = key) rows := by
  obtain ⟨before?, after⟩ := touched
  cases before? with
  | none =>
    have absent := Rows.first_eq_none.mp before.symm
    constructor
    · show ((rows ++ [after]).map EncryptedRecord.key).Nodup
      rw [List.map_append, List.map_singleton]
      apply List.Nodup.append keyed (List.nodup_singleton _)
      intro other member same
      obtain ⟨row, known, rfl⟩ := List.mem_map.mp member
      exact absent row known (List.mem_singleton.mp same)
    · intro key
      show Rows.first (fun row => row.key = key) (rows ++ [after]) = _
      by_cases same : after.key = key
      · have free : rows.find? (fun row => decide (row.key = key)) = none := same ▸ before.symm
        simp [Rows.first, List.find?_append, free, same]
      · simp [Rows.first, List.find?_append, same]
  | some row =>
    refine ⟨?_, first_amend keyed before.symm⟩
    show ((Rows.amend _ _ rows).map EncryptedRecord.key).Nodup
    rwa [map_key_amend]

end Tables

section Serving

variable {database : RecordDatabase} {request : RecordRequest}

theorem mem_of_finds (rows : List EncryptedRecord) {row : EncryptedRecord}
    (found : row ∈ request.finds rows) :
    row ∈ rows ∧ request.touches rows = [] ∨ ∃ touched ∈ request.touches rows, touched.after = row := by
  cases request with
  | candidates | select | refreshState | remaining => exact .inl ⟨(List.mem_filter.mp found).1, rfl⟩
  | stale =>
    have among := List.mem_of_mem_take found
    rw [List.mem_insertionSort] at among
    exact .inl ⟨(List.mem_filter.mp among).1, rfl⟩
  | upsert => cases found
  | update key statement =>
    right
    obtain ⟨old, chosen, rfl⟩ := List.mem_map.mp found
    exact ⟨_, List.mem_map.mpr ⟨old, chosen, rfl⟩, rfl⟩

theorem Ledger.quiet (ledger : Ledger database) (fate : StatementFate)
    (answer : Option (List EncryptedRecord))
    (told : ∀ rows, answer = some rows → ∀ row ∈ rows, row ∈ database.rows) :
    Ledger ⟨database.rows, fate, database.log ++ [⟨request, answer, []⟩]⟩ := by
  have same : ∀ key, latest (database.log ++ [⟨request, answer, []⟩]) key = latest database.log key :=
    fun key => by rw [latest_concat, leaves_of_quiet rfl, Option.none_or]
  refine ⟨ledger.keyed, justified_concat ledger.lawful ⟨.inl rfl, ?_⟩, fun key => ?_⟩
  · intro rows answered row member
    rw [same, ← ledger.current]
    exact (first_eq_some_iff ledger.keyed).mpr ⟨told rows answered row member, rfl⟩
  · rw [same]
    exact ledger.current key

theorem Ledger.touched (ledger : Ledger database) (answer : Option (List EncryptedRecord))
    (told : ∀ rows, answer = some rows → rows = request.finds database.rows) :
    Ledger ⟨store database.rows (request.touches database.rows), .answered,
      database.log ++ [⟨request, answer, request.touches database.rows⟩]⟩ := by
  rcases touches_cases ledger.keyed request with quiet | ⟨touched, single, before, makes⟩
  · rw [quiet]
    apply ledger.quiet
    intro rows answered row member
    rw [told rows answered] at member
    rcases mem_of_finds database.rows member with there | ⟨touched, among, -⟩
    · exact there.1
    · rw [quiet] at among
      cases among
  · rw [single]
    obtain ⟨keyed, current⟩ := store_touched ledger.keyed before
    have follows : ∀ key,
        latest (database.log ++ [⟨request, answer, [touched]⟩]) key =
          if touched.after.key = key then some touched.after else latest database.log key := by
      intro key
      rw [latest_concat, leaves_of_touched rfl]
      split <;> rfl
    refine ⟨keyed, justified_concat ledger.lawful ⟨.inr ⟨touched, rfl, ?_, makes⟩, ?_⟩, ?_⟩
    · rw [before, ledger.current]
    · intro rows answered row member
      rw [told rows answered] at member
      rcases mem_of_finds database.rows member with impossible | ⟨other, among, rfl⟩
      · rw [single] at impossible
        cases impossible.2
      · rw [single] at among
        rw [List.mem_singleton.mp among, follows, if_pos rfl]
    · intro key
      rw [follows, current, ledger.current]

theorem Ledger.serve (ledger : Ledger database) (request : RecordRequest) :
    Ledger (database.serve request).2 := by
  unfold RecordDatabase.serve
  have silent : ∀ rows, (none : Option (List EncryptedRecord)) = some rows →
      ∀ row ∈ rows, row ∈ database.rows := fun _ impossible => by cases impossible
  split
  · split
    · exact ledger.touched _ fun rows told => (Option.some.inj told).symm
    · exact ledger.touched _ fun rows told => by cases told
    · exact ledger.quiet _ _ silent
  · exact ledger.quiet _ _ silent

theorem ledger_empty : Ledger .empty :=
  ⟨List.nodup_nil, justified_nil _, fun _ => rfl⟩

variable (cipher : RecordCipher) (handleHmac : Nat → String → String → String)
  (fleet : Nat → ResolverCrypto)

/-- The record store before anybody has called it. -/
def freshStore : Pool RecordDatabase RecordRequest RecordAnswer RecordCall
    (Except RefreshAcquireError RecordOutcome) := ⟨.empty, [], []⟩

/-- However the operations of all workers are interleaved, the log tells of every row. -/
theorem ledger_of_runs (inputs : List (PoolInput RecordCall StatementFate)) :
    Ledger ((recordStore cipher handleHmac fleet).pool.final freshStore inputs).server := by
  apply (recordStore cipher handleHmac fleet).pool.invariant (fun pool => Ledger pool.server)
  · intro pool input ledger
    cases input with
    | start call => exact ledger
    | turn thread =>
      show Ledger (Service.turn _ pool thread).server
      unfold Service.turn
      split
      · exact ledger.serve _
      · exact ledger
    | outside fate => exact ⟨ledger.keyed, ledger.lawful, ledger.current⟩
  · exact ledger_empty

end Serving

section Effects

variable {past log : List RecordEvent} {event : RecordEvent} {key : RecordKey}
  {before after row : EncryptedRecord} {request : RecordRequest}

theorem Lawful.makes (lawful : Lawful past event) (left : event.leaves key = some after) :
    event.request.Makes (latest past key) after ∧ after.key = key := by
  rcases lawful.touched with quiet | ⟨touched, single, before, makes⟩
  · rw [leaves_of_quiet quiet] at left
    cases left
  · rw [leaves_of_touched single] at left
    split at left
    next same =>
      cases left
      rw [before, same] at makes
      exact ⟨makes, same⟩
    next => cases left

/-- An event of a lawful log that affects a row makes it from what a lawful log had left. -/
theorem makes_of_affects {future : List RecordEvent} (lawful : Justified Lawful log)
    (split : log = past ++ event :: future) (affected : event.affects key) :
    Justified Lawful past ∧ ∃ after, event.request.Makes (latest past key) after := by
  constructor
  · rw [split] at lawful
    exact justified_of_append lawful
  · obtain ⟨after, left⟩ := Option.isSome_iff_exists.mp affected
    exact ⟨after, ((lawful past event future split).makes left).1⟩

/-- The statement begins or ends a lease where it takes effect. -/
def RecordRequest.movesLease : RecordRequest → Bool
  | .upsert _ => true
  | .update _ (.consume ..) | .update _ (.reencrypt ..) => false
  | .update _ _ => true
  | _ => false

/-- The statement writes the row anew, and counts as a mutation of it. -/
def RecordRequest.mutates : RecordRequest → Bool
  | .upsert _ | .update _ (.commit ..) | .update _ (.markReauth ..) => true
  | _ => false

end Effects

section Leases

variable {log past : List RecordEvent} {event : RecordEvent} {key : RecordKey}
  {row : EncryptedRecord} {generation expires : Nat} {owner : LookupDigest}

/-- The lease was acquired, and nothing since has begun or ended one on the row. -/
def Leased (log : List RecordEvent) (key : RecordKey) (generation : Nat) (owner : LookupDigest)
    (expires : Nat) : Prop :=
  ∃ earlier acquired between provider now, log = earlier ++ acquired :: between ∧
    acquired.affects key ∧
    acquired.request = .update key (.acquire provider generation owner now expires) ∧
    ∀ event ∈ between, event.affects key → event.request.movesLease = false

theorem Leased.later (leased : Leased log key generation owner expires)
    (keeps : event.affects key → event.request.movesLease = false) :
    Leased (log ++ [event]) key generation owner expires := by
  obtain ⟨earlier, acquired, between, provider, now, rfl, affects, request, kept⟩ := leased
  refine ⟨earlier, acquired, between ++ [event], provider, now, by simp, affects, request, ?_⟩
  intro other member
  rcases List.mem_append.mp member with before | last
  · exact kept other before
  · rw [List.mem_singleton.mp last]
    exact keeps

theorem affects_of_leaves (left : event.leaves key = some row) : event.affects key := by
  simp [RecordEvent.affects, left]

theorem Lawful.named {statement : RecordStatement} {named : RecordKey} (lawful : Lawful past event)
    (request : event.request = .update named statement) (left : event.leaves key = some row) :
    named = key := by
  obtain ⟨makes, keyed⟩ := lawful.makes left
  rw [request] at makes
  obtain ⟨old, -, same, -, rfl⟩ := makes
  rw [← same, ← keyed, key_sets]

/-- What the leases on the row say about a statement that takes effect on it. -/
def Fenced (past : List RecordEvent) (key : RecordKey) : RecordRequest → Prop
  | .update _ (.commit _ _ generation owner now) | .update _ (.markReauth _ generation owner now) =>
    ∃ expires, now < expires ∧ Leased past key generation owner expires
  | .update _ (.release _ generation owner _) =>
    ∃ expires, Leased past key generation owner expires
  | .update _ (.acquire _ _ _ now _) =>
    ∀ generation owner expires, Leased past key generation owner expires → expires ≤ now
  | _ => True

end Leases

section Generations

variable {log past : List RecordEvent} {key : RecordKey} {after row : EncryptedRecord}
  {request : RecordRequest} {standing : Option EncryptedRecord}

/-- How often the row was written anew. -/
def mutations (log : List RecordEvent) (key : RecordKey) : Nat :=
  log.countP fun event => event.request.mutates && (event.leaves key).isSome

/-- The generation that a row has to have for the statement to take effect. -/
def RecordRequest.expects : RecordRequest → Option Nat
  | .update _ (.acquire _ generation ..) | .update _ (.commit _ _ generation ..)
  | .update _ (.release _ generation ..) | .update _ (.markReauth _ generation ..) =>
    some generation
  | _ => none

theorem generation_of_makes (makes : request.Makes standing after) :
    after.mutationGeneration = (standing.map EncryptedRecord.mutationGeneration).getD 0 +
      if request.mutates then 1 else 0 := by
  cases request with
  | candidates | select | refreshState | stale | remaining => exact absurd makes id
  | upsert insertion =>
    obtain ⟨-, rfl⟩ := makes
    cases standing <;> rfl
  | update key statement =>
    obtain ⟨row, rfl, -, holds, rfl⟩ := makes
    cases statement with
    | commit =>
      obtain ⟨-, ⟨same, -⟩, -⟩ := holds
      simp [RecordStatement.sets, RecordRequest.mutates, same]
    | markReauth =>
      obtain ⟨-, ⟨same, -⟩, -⟩ := holds
      simp [RecordStatement.sets, RecordRequest.mutates, same]
    | acquire | release | discard | consume | reencrypt => rfl

theorem expects_of_makes {generation : Nat} (makes : request.Makes standing after)
    (expects : request.expects = some generation) :
    ∃ row, standing = some row ∧ row.mutationGeneration = generation := by
  cases request with
  | candidates | select | refreshState | stale | remaining | upsert => cases expects
  | update key statement =>
    obtain ⟨row, rfl, -, holds, -⟩ := makes
    cases statement with
    | acquire => cases expects; exact ⟨row, rfl, holds.2.1⟩
    | commit | markReauth => cases expects; exact ⟨row, rfl, holds.2.1.1⟩
    | release => cases expects; exact ⟨row, rfl, holds.2.1⟩
    | discard | consume | reencrypt => cases expects

theorem mutations_append (first second : List RecordEvent) (key : RecordKey) :
    mutations (first ++ second) key = mutations first key + mutations second key :=
  List.countP_append

theorem generation_eq (lawful : Justified Lawful log) (key : RecordKey) :
    ((latest log key).map EncryptedRecord.mutationGeneration).getD 0 = mutations log key := by
  induction log using List.reverseRecOn with
  | nil => rfl
  | append_singleton past event ih =>
    have before := ih (justified_of_append lawful)
    rw [mutations_append, ← before, latest_concat]
    cases left : event.leaves key with
    | none => simp [mutations, left]
    | some after =>
      have makes := ((lawful past event [] rfl).makes left).1
      simp [mutations, left, generation_of_makes makes]

/-- Nothing has written the row anew between a read of it and a statement that took effect and that
asked for the generation that was read. -/
def Unmissed (past : List RecordEvent) (event : RecordEvent) : Prop :=
  ∀ key generation, event.affects key → event.request.expects = some generation →
    ∀ earlier read between rows row, past = earlier ++ read :: between →
      read.answer = some rows → row ∈ rows → row.key = key → row.mutationGeneration = generation →
        ∀ other ∈ between, other.affects key → other.request.mutates = false

theorem unmissed_of_lawful (lawful : Justified Lawful log) : Justified Unmissed log := by
  intro past event future split key generation affected expects earlier read between rows row place
    answered member named same other among affects
  obtain ⟨before, after, makes⟩ := makes_of_affects lawful split affected
  obtain ⟨old, standing, agrees⟩ := expects_of_makes makes expects
  have now : generation = mutations past key := by
    rw [← generation_eq before, standing]
    exact agrees.symm
  have place : past = (earlier ++ [read]) ++ between := by simpa using place
  rw [place] at before
  have then_ : generation = mutations (earlier ++ [read]) key := by
    have found := (before earlier read between (by simp)).answered rows answered row member
    rw [← generation_eq (justified_of_append before), ← named, found]
    exact same.symm
  -- The count has not moved, so nothing between is counted.
  have quiet : mutations between key = 0 := by
    rw [place, mutations_append] at now
    omega
  have uncounted := List.countP_eq_zero.mp quiet other among
  have changed : (other.leaves key).isSome = true := affects
  simpa [changed] using uncounted

end Generations

section Closing

variable {log past : List RecordEvent} {key : RecordKey} {after row : EncryptedRecord}
  {request : RecordRequest} {statement : RecordStatement}

/-- The first statement keeps the second from taking effect. -/
def RecordStatement.closes : RecordStatement → RecordStatement → Bool
  | .discard _, .acquire .. | .discard _, .commit .. | .discard _, .markReauth ..
  | .discard _, .consume .. | .discard _, .reencrypt .. => true
  | .markReauth .., .acquire .. | .markReauth .., .commit .. | .markReauth .., .markReauth .. => true
  | .consume .., .consume .. => true
  | _, _ => false

/-- What the first statement leaves in the row, and every update keeps. -/
def RecordStatement.seals (statement : RecordStatement) (row : EncryptedRecord) : Prop :=
  match statement with
  | .discard _ => row.discardedAtMs.isSome
  | .markReauth .. => row.credentialState = .reauthRequired
  | .consume .. => row.consumedAtMs.isSome
  | _ => False

theorem seals_sets {other : RecordStatement} (closes : statement.closes other = true) :
    statement.seals (statement.sets row) := by
  cases statement <;> cases other <;> first | rfl | cases closes

theorem seals_kept {closing : RecordStatement} (sealed : closing.seals row) :
    closing.seals (statement.sets row) := by
  cases closing with
  | acquire | commit | release | reencrypt => exact sealed
  | discard =>
    cases statement with
    | discard => rfl
    | acquire | commit | release | markReauth | consume | reencrypt => exact sealed
  | markReauth =>
    cases statement with
    | markReauth => rfl
    | acquire | commit | release | discard | consume | reencrypt => exact sealed
  | consume =>
    cases statement with
    | consume => rfl
    | acquire | commit | release | markReauth | discard | reencrypt => exact sealed

theorem not_holds_of_seals {closing : RecordStatement} (closes : closing.closes statement = true)
    (sealed : closing.seals row) : ¬statement.holds row := by
  intro holds
  cases closing with
  | discard =>
    have gone : row.discardedAtMs ≠ none := Option.isSome_iff_ne_none.mp sealed
    cases statement with
    | acquire => exact gone holds.2.2.2.1
    | commit => exact gone holds.2.2.2.2.1
    | markReauth => exact gone holds.2.2.2.2
    | consume => exact gone holds.2.2.1
    | reencrypt => exact gone holds.2
    | release | discard => cases closes
  | markReauth =>
    have lapsed : row.credentialState ≠ .active := by
      rw [show row.credentialState = .reauthRequired from sealed]
      decide
    cases statement with
    | acquire => exact lapsed holds.2.2.1
    | commit => exact lapsed holds.2.2.1
    | markReauth => exact lapsed holds.2.2.1
    | release | discard | consume | reencrypt => cases closes
  | consume =>
    have used : row.consumedAtMs ≠ none := Option.isSome_iff_ne_none.mp sealed
    cases statement with
    | consume => exact used holds.2.1
    | acquire | commit | release | markReauth | discard | reencrypt => cases closes
  | acquire | commit | release | reencrypt => cases closes

theorem seals_between {closing : RecordStatement} (lawful : Justified Lawful log)
    {earlier between : List RecordEvent} {closed : RecordEvent}
    (place : log = earlier ++ closed :: between) (request : closed.request = .update key closing)
    (affected : closed.affects key) {other : RecordStatement} (closes : closing.closes other = true)
    (unstored : ∀ event ∈ between, event.affects key →
      ∀ insertion, event.request ≠ .upsert insertion) :
    ∃ row, latest log key = some row ∧ closing.seals row := by
  subst place
  induction between using List.reverseRecOn with
  | nil =>
    have last := lawful earlier closed [] rfl
    rw [latest_concat]
    cases left : closed.leaves key with
    | none => simp [RecordEvent.affects, left] at affected
    | some after =>
      obtain ⟨makes, -⟩ := last.makes left
      rw [request] at makes
      obtain ⟨row, -, -, -, rfl⟩ := makes
      exact ⟨_, rfl, seals_sets closes⟩
  | append_singleton between event ih =>
    rw [← List.cons_append, ← List.append_assoc] at lawful ⊢
    obtain ⟨row, standing, sealed⟩ := ih (fun other member =>
      unstored other (List.mem_append_left _ member)) (justified_of_append lawful)
    have last := lawful _ event [] rfl
    rw [latest_concat]
    cases left : event.leaves key with
    | none => exact ⟨row, standing, sealed⟩
    | some after =>
      obtain ⟨makes, -⟩ := last.makes left
      have fresh := unstored event (List.mem_append_right _ List.mem_cons_self)
        (affects_of_leaves left)
      generalize event.request = next at makes fresh
      cases next with
      | candidates | select | refreshState | stale | remaining => exact absurd makes id
      | upsert insertion => exact absurd rfl (fresh insertion)
      | update named statement =>
        obtain ⟨old, found, -, -, rfl⟩ := makes
        cases standing.symm.trans found
        exact ⟨_, rfl, seals_kept sealed⟩

/-- Between a statement that closes the row and one that it keeps from taking effect, the row was
stored again. -/
def Reopened (past : List RecordEvent) (event : RecordEvent) : Prop :=
  ∀ key statement closing, event.request = .update key statement → event.affects key →
    closing.closes statement = true → ∀ earlier closed between, past = earlier ++ closed :: between →
      closed.request = .update key closing → closed.affects key →
        ∃ stored ∈ between, stored.affects key ∧ ∃ insertion, stored.request = .upsert insertion

theorem reopened_of_lawful (lawful : Justified Lawful log) : Justified Reopened log := by
  intro past event future split key statement closing request affected closes earlier closed between
    place closedBy closedIt
  by_contra never
  obtain ⟨before, after, makes⟩ := makes_of_affects lawful split affected
  have unstored : ∀ other ∈ between, other.affects key →
      ∀ insertion, other.request ≠ .upsert insertion := by
    intro other member affects insertion same
    exact never ⟨other, member, affects, insertion, same⟩
  obtain ⟨row, standing, sealed⟩ :=
    seals_between before place closedBy closedIt closes unstored
  rw [request] at makes
  obtain ⟨old, found, -, holds, -⟩ := makes
  cases standing.symm.trans found
  exact not_holds_of_seals closes sealed holds

end Closing

section Fencing

variable (cipher : RecordCipher) (handleHmac : Nat → String → String → String)
  (fleet : Nat → ResolverCrypto)

/-- The generation of a row counts how often it was stored, committed or given up, so that whoever
asks for the generation he has read misses none of these. -/
theorem generations_count (inputs : List (PoolInput RecordCall StatementFate)) :
    (∀ row ∈ ((recordStore cipher handleHmac fleet).pool.final freshStore inputs).server.rows,
      row.mutationGeneration = mutations
        ((recordStore cipher handleHmac fleet).pool.final freshStore inputs).server.log row.key) ∧
    Justified Unmissed
      ((recordStore cipher handleHmac fleet).pool.final freshStore inputs).server.log := by
  have ledger := ledger_of_runs cipher handleHmac fleet inputs
  refine ⟨fun row member => ?_, unmissed_of_lawful ledger.lawful⟩
  have standing := (first_eq_some_iff ledger.keyed).mpr ⟨member, rfl⟩
  rw [← generation_eq ledger.lawful, ← ledger.current, standing]
  rfl

/-- A record that is discarded, consumed or given up stays so until it is stored again. -/
theorem closed_until_stored (inputs : List (PoolInput RecordCall StatementFate)) :
    Justified Reopened
      ((recordStore cipher handleHmac fleet).pool.final freshStore inputs).server.log :=
  reopened_of_lawful (ledger_of_runs cipher handleHmac fleet inputs).lawful

end Fencing

end ProfilePlatform.Resolver
