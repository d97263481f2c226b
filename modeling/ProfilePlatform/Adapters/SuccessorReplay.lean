import ProfilePlatform.Adapters.SuccessorCommit
import ProfilePlatform.Catalog.Pointer

/-! A successor commit can be repeated, and the successors of a profile form a line.

A row that a commit put into the journal stays the only one of its base, and what it
stored stays verified as it was. So a repeated commit is told apart by where the
pointer stands, and a commit that contradicts the row finds its place taken.
-/

set_option autoImplicit false

namespace ProfilePlatform.Adapters

open Foundation Ports Catalog Catalog.Database

variable {before after database : Database} {command row : SuccessorCommandRow}

section Committed

/-- What a commit stored is there as it stored it, and while the pointer names it the profile is
as the commit left it. -/
structure Committed (database : Database) (command : SuccessorCommandRow) : Prop where
  fits : command.expectedProfileVersion < sqliteLimit
  stored : ∃ generation ∈ database.generations, command.Stored generation ∧
    generation.verificationReference = some command.reference
  selected : ∀ profile ∈ database.profiles, profile.key = command.profile →
    profile.activeGenerationId = some command.generationId →
    profile.status = .ready ∧ profile.version = command.expectedProfileVersion + 1

theorem committed_of_succeeded (succeeded : Succeeded row.toSuccessorColumns before after)
    (keyed : Keyed before) (fits : row.expectedProfileVersion < sqliteLimit) :
    Committed after row := by
  obtain ⟨registered, verified, inserted, updated, -, moved, single⟩ := succeeded.writes
  refine ⟨fits, ?_, ?_⟩
  · have member : row.toSuccessorColumns.registered ∈ registered.generations := by
      rw [inserted.result]
      exact List.mem_append_right _ (List.mem_singleton.mpr rfl)
    have changed := updated.mem.mpr ⟨_, member, rfl⟩
    rw [if_pos (by simp [SuccessorColumns.verification, SuccessorColumns.registered])] at changed
    rw [moved.result]
    exact ⟨_, changed, ⟨rfl, rfl, rfl, rfl, rfl, rfl⟩, rfl⟩
  · intro profile member same names
    obtain ⟨old, chosenOld⟩ := List.length_eq_one_iff.mp single
    have present : old ∈ verified.profiles.filter (row.activation verified.generations).chosen := by
      rw [chosenOld]
      exact List.mem_singleton.mpr rfl
    obtain ⟨known, chosen⟩ := List.mem_filter.mp present
    have keyedAfter := moved.keepsKeys (updated.keepsKeys (inserted.keepsKeys keyed))
    have changed : (row.activation verified.generations).change old ∈ after.profiles := by
      rw [moved.result]
      exact Rows.mem_amend_of_chosen known chosen
    simp only [SuccessorColumns.activation, Bool.and_eq_true, decide_eq_true_eq] at chosen
    obtain ⟨⟨⟨⟨sameOld, version⟩, -⟩, -⟩, -⟩ := chosen
    cases keyedAfter.profiles profile member _ changed (same.trans sameOld.symm)
    exact ⟨rfl, congrArg (· + 1) version⟩

theorem Committed.kept {columns : SuccessorColumns} (committed : Committed before command)
    (succeeded : Succeeded columns before after) : Committed after command := by
  obtain ⟨registered, verified, inserted, updated, -, moved, -⟩ := succeeded.writes
  obtain ⟨generation, member, stored, reference⟩ := committed.stored
  have other : columns.candidate ≠ command.candidate := fun same =>
    inserted.fresh generation member (.inl (stored.1.trans same.symm))
  refine ⟨committed.fits, ⟨generation, ?_, stored, reference⟩, fun profile present same names => ?_⟩
  · rw [moved.result]
    refine updated.mem.mpr ⟨generation, ?_, ?_⟩
    · rw [inserted.result]
      exact List.mem_append_left _ member
    · rw [if_neg (by simp [SuccessorColumns.verification, stored.2.2.2.2.1])]
  · rw [moved.result, updated.result, inserted.result] at present
    obtain ⟨old, known, rfl⟩ := Rows.mem_amend.mp present
    split at same
    next chosen =>
      rw [if_pos chosen] at names
      simp only [SuccessorColumns.activation, Bool.and_eq_true, decide_eq_true_eq] at chosen
      have profile' : columns.profile = command.profile := chosen.1.1.1.1.symm.trans same
      have generation' : columns.generationId = command.generationId := Option.some.inj names
      exact absurd (by simp only [SuccessorColumns.candidate, profile', generation']) other
    next skipped =>
      rw [if_neg skipped] at names ⊢
      exact committed.selected old known same names

theorem Committed.of_same (committed : Committed before command)
    (profiles : after.profiles = before.profiles)
    (generations : after.generations = before.generations) : Committed after command :=
  ⟨committed.fits, generations ▸ committed.stored, profiles ▸ committed.selected⟩

end Committed

section Load

variable {call : CommitCall} {loaded : SuccessorRow} {sha256 : List UInt8 → Block 32}

theorem mem_of_loadSuccessor {base : GenerationKey} (found : loadSuccessor database base = some loaded) :
    loaded.command ∈ database.successorCommands ∧ loaded.command.base = base := by
  obtain ⟨command, first, rfl⟩ := Option.map_eq_some_iff.mp found
  exact Rows.first_eq_some first

theorem loadSuccessor_of_mem (keyed : Keyed database)
    (journaled : command ∈ database.successorCommands) :
    ∃ loaded, loadSuccessor database command.base = some loaded ∧ loaded.command = command := by
  have first : Rows.first (fun row : SuccessorCommandRow => row.base = command.base)
      database.successorCommands = some command :=
    Rows.first_of_unique keyed.bases journaled rfl fun _ same => same
  exact ⟨_, by rw [loadSuccessor, first]; rfl, rfl⟩

/-- A row under the tenant of the call is the call's own row, or differs from it in a column. -/
theorem exactRow_iff (tenant : row.profile.tenantId = call.actor.tenantScope.tenantId) :
    exactRow call.actor call.request row (call.tokenDigest sha256) = true ↔ row = call.row sha256 := by
  constructor
  · intro exact'
    simp only [exactRow, Bool.and_eq_true, decide_eq_true_eq] at exact'
    obtain ⟨⟨_, _, ⟨_, _⟩⟩, _⟩ := row
    simp_all [CommitCall.row, interactiveRow, requestProfile]
  · rintro rfl
    simp [exactRow, CommitCall.row, interactiveRow, requestProfile]

theorem committedStateIsExact_iff (keyed : Keyed database) (committed : Committed database command)
    (found : loadSuccessor database command.base = some loaded) (same : loaded.command = command) :
    committedStateIsExact loaded = true ↔ database.Selects command.candidate := by
  obtain ⟨own, -, rfl⟩ := Option.map_eq_some_iff.mp found
  obtain rfl : command = own := same.symm
  obtain ⟨generation, member, ⟨key, objectKey, metadata, container, verified, version⟩, reference⟩ :=
    committed.stored
  have stored : Rows.first (fun generation => generation.key = command.candidate)
      database.generations = some generation :=
    Rows.first_of_unique keyed.generations member key fun _ same => same.trans key.symm
  have next : checkedAdd command.expectedProfileVersion 1 =
      some (command.expectedProfileVersion + 1) := by
    have fits := committed.fits
    simp only [checkedAdd, u64Limit, sqliteLimit] at fits ⊢
    exact if_pos (by omega)
  simp only [committedStateIsExact, next, stored, Option.map_some, Option.bind_some, verified,
    version, objectKey, metadata, container, reference, decide_true, Bool.and_true,
    Bool.and_eq_true, decide_eq_true_eq]
  constructor
  · rintro ⟨⟨names, -⟩, -⟩
    obtain ⟨profile, first, names⟩ := Option.bind_eq_some_iff.mp names
    obtain ⟨known, same⟩ := Rows.first_eq_some first
    exact ⟨profile, known, same, names⟩
  · rintro ⟨profile, known, same, names⟩
    have first : Rows.first (fun profile => profile.key = command.profile) database.profiles =
        some profile :=
      Rows.first_of_unique keyed.profiles known same fun _ equal => equal.trans same.symm
    obtain ⟨ready, version⟩ := committed.selected profile known same names
    simp only [first, Option.bind_some, Option.map_some, ready, version, and_true]
    exact names

end Load

section Advance

variable {call : CommitCall} {loaded : SuccessorRow} {sha256 : List UInt8 → Block 32}
  {delivery : Delivery}

theorem u64ToI64_eq_ok {value stored : Nat} (converted : u64ToI64 value = .ok stored) :
    stored = value ∧ value < sqliteLimit := by
  unfold u64ToI64 at converted
  split at converted
  next fits =>
    cases converted
    exact ⟨rfl, fits⟩
  next => cases converted

theorem bindRow_eq_ok {tokenDigest : String}
    (bound : bindRow call.actor call.request tokenDigest = .ok row) :
    row = interactiveRow call.actor call.request tokenDigest ∧
      row.expectedProfileVersion < sqliteLimit := by
  obtain ⟨_, bytes, bound⟩ := bind_eq_ok.mp bound
  obtain ⟨_, version, bound⟩ := bind_eq_ok.mp bound
  obtain ⟨_, epoch, bound⟩ := bind_eq_ok.mp bound
  obtain ⟨_, coordinator, bound⟩ := bind_eq_ok.mp bound
  obtain ⟨_, sequence, bound⟩ := bind_eq_ok.mp bound
  obtain ⟨_, executed, bound⟩ := bind_eq_ok.mp bound
  cases (u64ToI64_eq_ok bytes).1
  cases (u64ToI64_eq_ok version).1
  cases (u64ToI64_eq_ok epoch).1
  cases (u64ToI64_eq_ok coordinator).1
  cases (u64ToI64_eq_ok sequence).1
  cases (u64ToI64_eq_ok executed).1
  cases bound
  exact ⟨rfl, (u64ToI64_eq_ok version).2⟩

theorem exactRow_of_found (found : loadSuccessor database call.base = some loaded)
    (exact' : exactRow call.actor call.request loaded.command (call.tokenDigest sha256) = true) :
    call.row sha256 ∈ database.successorCommands := by
  obtain ⟨journaled, base⟩ := mem_of_loadSuccessor found
  have tenant : loaded.command.profile.tenantId = call.actor.tenantScope.tenantId :=
    congrArg (fun key : GenerationKey => key.profile.tenantId) base
  rwa [(exactRow_iff tenant).mp exact'] at journaled

theorem mem_of_classify_eq_ok {outcome : ProfileGenerationSuccessorCommitOutcome}
    (found : loadSuccessor database call.base = some loaded)
    (classified : call.classify sha256 loaded = .ok outcome) :
    call.row sha256 ∈ database.successorCommands := by
  unfold CommitCall.classify classifyExisting at classified
  split at classified
  next => cases classified
  next exact' =>
    simp only [Bool.or_eq_true, Bool.not_eq_true', not_or, Bool.not_eq_false] at exact'
    exact exactRow_of_found found exact'.1

/-- A look at the journal. It answers with success only where the call's own row is found. -/
structure Looked (sha256 : List UInt8 → Block 32) (call : CommitCall) (database : Database)
    (progress : CommitProgress) : Prop where
  failed : (∃ why, call.progress = .answered (.error why)) → progress = call.progress
  succeeded : ∀ outcome, progress = .answered (.ok outcome) →
    call.progress = progress ∨ call.row sha256 ∈ database.successorCommands
  inserting : ∀ row, progress = .inserting row →
    bindRow call.actor call.request (call.tokenDigest sha256) = .ok row

theorem looked_error (why : ProfileGenerationSuccessorCommitErrorClass)
    (waits : ∀ why, call.progress ≠ .answered (.error why)) :
    Looked sha256 call database (.answered (.error why)) where
  failed := fun ⟨other, same⟩ => absurd same (waits other)
  succeeded _ impossible := nomatch impossible
  inserting _ impossible := nomatch impossible

theorem looked_classify (found : loadSuccessor database call.base = some loaded)
    (waits : ∀ why, call.progress ≠ .answered (.error why)) :
    Looked sha256 call database (.answered (call.classify sha256 loaded)) where
  failed := fun ⟨other, same⟩ => absurd same (waits other)
  succeeded _ same := .inr (mem_of_classify_eq_ok found (CommitProgress.answered.inj same))
  inserting _ impossible := nomatch impossible

theorem looked_afterLoad (waits : ∀ why, call.progress ≠ .answered (.error why)) :
    Looked sha256 call database (call.afterLoad sha256 database) := by
  unfold CommitCall.afterLoad
  split
  next loaded found => exact looked_classify found waits
  next =>
    split
    next why _ => exact looked_error why waits
    next row bound =>
      refine ⟨fun ⟨other, same⟩ => absurd same (waits other), nofun, fun other same => ?_⟩
      cases same
      exact bound

theorem looked_afterReload (waits : ∀ why, call.progress ≠ .answered (.error why)) :
    Looked sha256 call database (call.afterReload sha256 database) := by
  unfold CommitCall.afterReload
  split
  next => exact looked_error _ waits
  next loaded found =>
    split
    next exact' =>
      refine ⟨fun ⟨other, same⟩ => absurd same (waits other), fun outcome _ => .inr ?_, nofun⟩
      exact exactRow_of_found found (Bool.and_eq_true_iff.mp exact').1
    next => exact looked_error _ waits

theorem looked_afterReread {failure : InsertFailure}
    (waits : ∀ why, call.progress ≠ .answered (.error why)) :
    Looked sha256 call database (call.afterReread sha256 database failure) := by
  unfold CommitCall.afterReread
  split
  next loaded found => exact looked_classify found waits
  next => exact looked_error _ waits

/-- A call goes on with an insertion that is accepted, or leaves the database as it is. -/
inductive Advanced (sha256 : List UInt8 → Block 32) (call : CommitCall) (database : Database) :
    CommitProgress × Database → Prop where
  | inserted {row : SuccessorCommandRow} {after : Database} {progress : CommitProgress}
      (inserting : call.progress = .inserting row)
      (executed : database.insertSuccessorCommand row = .ok after)
      (next : progress = .reloading ∨ progress = .rereading .unavailable) :
      Advanced sha256 call database (progress, after)
  | looked {progress : CommitProgress} (looked : Looked sha256 call database progress) :
      Advanced sha256 call database (progress, database)

theorem looked_rereading {failure : InsertFailure} (inserting : call.progress = .inserting row) :
    Looked sha256 call database (.rereading failure) where
  failed := fun ⟨_, same⟩ => nomatch inserting.symm.trans same
  succeeded _ impossible := nomatch impossible
  inserting _ impossible := nomatch impossible

theorem advanced_insert (inserting : call.progress = .inserting row) :
    Advanced sha256 call database (CommitCall.insert row database delivery) := by
  unfold CommitCall.insert
  split
  next => exact .looked (looked_rereading inserting)
  next after executed => exact .inserted inserting executed (.inl rfl)
  next => exact .looked (looked_rereading inserting)
  next after executed => exact .inserted inserting executed (.inr rfl)
  next => exact .looked (looked_rereading inserting)

theorem advanced : Advanced sha256 call database (call.advance sha256 database delivery) := by
  unfold CommitCall.advance
  cases progress : call.progress with
  | loading =>
    cases delivery with
    | answered => exact .looked (looked_afterLoad (by rw [progress]; exact nofun))
    | lostBefore => exact .looked (looked_error _ (by rw [progress]; exact nofun))
    | lostAfter => exact .looked (looked_error _ (by rw [progress]; exact nofun))
  | inserting row => exact advanced_insert progress
  | reloading =>
    cases delivery with
    | answered => exact .looked (looked_afterReload (by rw [progress]; exact nofun))
    | lostBefore => exact .looked (looked_error _ (by rw [progress]; exact nofun))
    | lostAfter => exact .looked (looked_error _ (by rw [progress]; exact nofun))
  | rereading failure =>
    cases delivery with
    | answered => exact .looked (looked_afterReread (by rw [progress]; exact nofun))
    | lostBefore => exact .looked (looked_error _ (by rw [progress]; exact nofun))
    | lostAfter => exact .looked (looked_error _ (by rw [progress]; exact nofun))
  | answered answer => exact .looked ⟨fun _ => progress.symm, fun _ _ => .inl progress, nofun⟩

/-- A commit is asking whether its base has a successor. -/
def CommitCall.IsLooking (self : CommitCall) : Prop :=
  self.progress = .loading ∨ ∃ failure, self.progress = .rereading failure

/-- What a commit is told when its base has a successor. -/
def replayAnswer (database : Database) (own row : SuccessorCommandRow) :
    Except ProfileGenerationSuccessorCommitErrorClass ProfileGenerationSuccessorCommitOutcome :=
  if own = row ∧ database.Selects row.candidate then .ok .alreadyActive else .error .versionConflict

theorem classify_eq_replayAnswer (keyed : Keyed database)
    (committed : call.row sha256 = row → Committed database row)
    (found : loadSuccessor database row.base = some loaded) (same : loaded.command = row)
    (base : row.base = call.base) :
    call.classify sha256 loaded = replayAnswer database (call.row sha256) row := by
  have tenant : row.profile.tenantId = call.actor.tenantScope.tenantId :=
    congrArg (fun key : GenerationKey => key.profile.tenantId) base
  have exact' : exactRow call.actor call.request row (call.tokenDigest sha256) = true ↔
      row = call.row sha256 := exactRow_iff tenant
  have selected : (exactRow call.actor call.request row (call.tokenDigest sha256) = true ∧
      committedStateIsExact loaded = true) ↔
        call.row sha256 = row ∧ database.Selects row.candidate := by
    rw [exact', eq_comm]
    exact and_congr_right fun own => committedStateIsExact_iff keyed (committed own) found same
  simp only [CommitCall.classify, classifyExisting, replayAnswer, same, ← selected]
  split
  next failed => rw [if_neg (by simpa [imp_iff_not_or] using failed)]
  next passed => rw [if_pos (by simpa [not_or] using passed)]

/-- A look at a base that has a successor is answered from the row, and changes nothing. -/
theorem advance_of_looking (keyed : Keyed database)
    (committed : call.row sha256 = row → Committed database row)
    (journaled : row ∈ database.successorCommands) (base : row.base = call.base)
    (looking : call.IsLooking) :
    call.advance sha256 database .answered =
      (.answered (replayAnswer database (call.row sha256) row), database) := by
  obtain ⟨loaded, found, same⟩ := loadSuccessor_of_mem keyed journaled
  rw [← classify_eq_replayAnswer keyed committed found same base]
  rw [base] at found
  rcases looking with loading | ⟨failure, rereading⟩
  · simp only [CommitCall.advance, loading, CommitCall.afterLoad, found]
  · simp only [CommitCall.advance, rereading, CommitCall.afterReread, found]

end Advance

section Runs

variable {sha256 : List UInt8 → Block 32} {opening : Database} {journal : CommitJournal}
  {call : CommitCall}

abbrev CommitEntry := Entry CommitJournal CommitEvent Unit

/-- The request passes the checks that need no database. -/
def CommitCall.IsValid (self : CommitCall) : Prop :=
  validateRequest self.actor self.request = .ok ()

/-- A call has passed the checks unless it failed, would insert its own row, and has succeeded only
with its row in the journal. -/
structure CommitCall.Fits (sha256 : List UInt8 → Block 32) (call : CommitCall)
    (database : Database) : Prop where
  valid : call.IsValid ∨ ∃ why, call.progress = .answered (.error why)
  inserting : ∀ row, call.progress = .inserting row →
    bindRow call.actor call.request (call.tokenDigest sha256) = .ok row
  succeeded : ∀ outcome, call.progress = .answered (.ok outcome) →
    call.row sha256 ∈ database.successorCommands

theorem CommitCall.Fits.mono {after : Database} (fits : call.Fits sha256 database)
    (successors : database.successorCommands ⊆ after.successorCommands) :
    call.Fits sha256 after :=
  ⟨fits.valid, fits.inserting, fun outcome same => successors (fits.succeeded outcome same)⟩

theorem fits_start (actor : ActorContext) (request : ProfileGenerationSuccessorCommitRequest) :
    (CommitCall.start actor request).Fits sha256 database := by
  unfold CommitCall.start
  split
  next why _ => exact ⟨.inr ⟨why, rfl⟩, nofun, nofun⟩
  next valid => exact ⟨.inl valid, nofun, nofun⟩

/-- What is in the journal since the opening was asked for by a valid call and is as it was
committed. -/
structure Serves (sha256 : List UInt8 → Block 32) (opening : Database) (journal : CommitJournal) :
    Prop where
  keyed : Keyed journal.database
  committed : ∀ row ∈ journal.database.successorCommands, row ∉ opening.successorCommands →
    Committed journal.database row
  won : ∀ row ∈ journal.database.successorCommands, row ∉ opening.successorCommands →
    ∃ winner ∈ journal.calls, winner.IsValid ∧ winner.row sha256 = row
  fits : ∀ call ∈ journal.calls, call.Fits sha256 journal.database

theorem serves_opening (keyed : Keyed opening) : Serves sha256 opening ⟨opening, []⟩ :=
  ⟨keyed, fun _ journaled fresh => absurd journaled fresh,
    fun _ journaled fresh => absurd journaled fresh, nofun⟩

theorem Serves.request (serves : Serves sha256 opening journal) (actor : ActorContext)
    (request : ProfileGenerationSuccessorCommitRequest) :
    Serves sha256 opening { journal with calls := journal.calls ++ [.start actor request] } where
  keyed := serves.keyed
  committed := serves.committed
  won row journaled fresh := by
    obtain ⟨winner, called, won⟩ := serves.won row journaled fresh
    exact ⟨winner, List.mem_append_left _ called, won⟩
  fits call member := by
    rcases List.mem_append.mp member with old | new
    · exact serves.fits call old
    · cases List.mem_singleton.mp new
      exact fits_start actor request

theorem aside_step (database : Database) {statement : Statement}
    (aside : statement.isAside = true) :
    (databases.step database statement).2.profiles = database.profiles ∧
      (databases.step database statement).2.generations = database.generations ∧
      (databases.step database statement).2.successorCommands = database.successorCommands := by
  rcases databases_step database statement with ⟨after, writes, step⟩ | ⟨why, step⟩
  · rw [step]
    cases writes with
    | aside _ profiles generations successors _ => exact ⟨profiles, generations, successors⟩
    | _ => cases aside
  · rw [step]
    exact ⟨rfl, rfl, rfl⟩

theorem Serves.meanwhile (serves : Serves sha256 opening journal) {statement : Statement}
    (aside : statement.isAside = true) : Serves sha256 opening
      { journal with database := (databases.step journal.database statement).2 } := by
  obtain ⟨profiles, generations, successors⟩ := aside_step journal.database aside
  refine ⟨serves.keyed.of_same profiles generations successors, fun row journaled fresh => ?_,
    fun row journaled fresh => ?_, fun call member => ?_⟩
  · rw [successors] at journaled
    exact (serves.committed row journaled fresh).of_same profiles generations
  · rw [successors] at journaled
    exact serves.won row journaled fresh
  · exact (serves.fits call member).mono fun _ journaled => successors ▸ journaled

theorem winner_set {position : Nat} {progress : CommitProgress} {calls : List CommitCall}
    (called : calls[position]? = some call)
    (won : ∃ winner ∈ calls, winner.IsValid ∧ winner.row sha256 = row) :
    ∃ winner ∈ calls.set position { call with progress }, winner.IsValid ∧
      winner.row sha256 = row := by
  obtain ⟨winner, member, valid, same⟩ := won
  obtain ⟨place, stands⟩ := List.mem_iff_getElem?.mp member
  by_cases moved : place = position
  · subst moved
    cases stands.symm.trans called
    have inside := (List.getElem?_eq_some_iff.mp called).1
    exact ⟨_, List.mem_iff_getElem?.mpr ⟨place, List.getElem?_set_self inside⟩, valid, same⟩
  · refine ⟨winner, List.mem_iff_getElem?.mpr ⟨place, ?_⟩, valid, same⟩
    rw [List.getElem?_set_ne (Ne.symm moved), stands]

theorem Looked.fits {progress : CommitProgress} (looked : Looked sha256 call database progress)
    (fits : call.Fits sha256 database) : { call with progress }.Fits sha256 database where
  valid := by
    refine fits.valid.imp_right fun failed => ?_
    obtain ⟨why, same⟩ := failed
    exact ⟨why, (looked.failed ⟨why, same⟩).trans same⟩
  inserting := looked.inserting
  succeeded outcome same := by
    rcases looked.succeeded outcome same with stood | journaled
    · exact fits.succeeded outcome (stood.trans same)
    · exact journaled

/-- The other rows of the journal stay committed when one is inserted, and so is the new one. -/
theorem committed_insert {after : Database} (keyed : Keyed database)
    (committed : ∀ row ∈ database.successorCommands, row ∉ opening.successorCommands →
      Committed database row)
    (executed : database.insertSuccessorCommand row = .ok after)
    (fits : row.expectedProfileVersion < sqliteLimit) :
    after.successorCommands = database.successorCommands ++ [row] ∧ Keyed after ∧
      ∀ stored ∈ after.successorCommands, stored ∉ opening.successorCommands →
        Committed after stored := by
  obtain ⟨fresh, succeeded⟩ := succeeds executed
  have keyed' : Keyed { database with
      successorCommands := database.successorCommands ++ [row] } :=
    keyed.journaled fresh rfl rfl rfl
  have journal : after.successorCommands = database.successorCommands ++ [row] := by
    obtain ⟨registered, verified, inserted, updated, -, moved, -⟩ := succeeded.writes
    rw [moved.result, updated.result, inserted.result]
  refine ⟨journal, succeeded.keepsKeys keyed', fun stored member new => ?_⟩
  rw [journal] at member
  rcases List.mem_append.mp member with old | own
  · have stands : Committed { database with
        successorCommands := database.successorCommands ++ [row] } stored :=
      (committed stored old new).of_same rfl rfl
    exact stands.kept succeeded
  · cases List.mem_singleton.mp own
    exact committed_of_succeeded succeeded keyed' fits

theorem fits_inserted {after : Database} {progress : CommitProgress}
    (fits : call.Fits sha256 database) (inserting : call.progress = .inserting row)
    (next : progress = .reloading ∨ progress = .rereading .unavailable) :
    { call with progress }.Fits sha256 after := by
  have valid : call.IsValid := fits.valid.resolve_right fun ⟨why, same⟩ =>
    nomatch inserting.symm.trans same
  rcases next with rfl | rfl
  · exact ⟨.inl valid, nofun, nofun⟩
  · exact ⟨.inl valid, nofun, nofun⟩

theorem Serves.advance (serves : Serves sha256 opening journal) {position : Nat}
    (called : journal.calls[position]? = some call) {progress : CommitProgress} {after : Database}
    (advanced : Advanced sha256 call journal.database (progress, after)) :
    Serves sha256 opening ⟨after, journal.calls.set position { call with progress }⟩ := by
  have member := List.mem_of_getElem? called
  have own := serves.fits call member
  cases advanced with
  | @inserted row _ _ inserting executed next =>
    obtain ⟨same, fits⟩ := bindRow_eq_ok (own.inserting row inserting)
    obtain ⟨successors, keyed, committed⟩ :=
      committed_insert serves.keyed serves.committed executed fits
    refine ⟨keyed, committed, fun stored journaled fresh => ?_, fun other stands => ?_⟩
    · simp only [successors] at journaled
      refine winner_set called ?_
      rcases List.mem_append.mp journaled with old | new
      · exact serves.won stored old fresh
      · cases List.mem_singleton.mp new
        have valid : call.IsValid := own.valid.resolve_right fun ⟨why, failed⟩ =>
          nomatch inserting.symm.trans failed
        exact ⟨call, member, valid, same.symm⟩
    · rcases List.mem_or_eq_of_mem_set stands with old | rfl
      · exact (serves.fits other old).mono (by rw [successors]; exact List.subset_append_left _ _)
      · exact fits_inserted own inserting next
  | looked looked =>
    refine ⟨serves.keyed, serves.committed, fun stored journaled fresh =>
      winner_set called (serves.won stored journaled fresh), fun other stands => ?_⟩
    rcases List.mem_or_eq_of_mem_set stands with old | rfl
    · exact serves.fits other old
    · exact looked.fits own

theorem serves_step (serves : Serves sha256 opening journal) (event : CommitEvent) :
    Serves sha256 opening ((commitJournals sha256).step journal event).2 := by
  cases event with
  | request actor request => exact serves.request actor request
  | advance position delivery =>
    simp only [commitJournals]
    split
    next => exact serves
    next call called => exact serves.advance called advanced
  | meanwhile statement =>
    simp only [commitJournals]
    split
    next aside => exact serves.meanwhile aside
    next => exact serves

/-- The journal gives a base at most one successor and keeps what it has, and a generation that is
new is the candidate of a row that is new. -/
structure Line (before after : Database) : Prop where
  single : ∀ first ∈ after.successorCommands, ∀ second ∈ after.successorCommands,
    first.base = second.base → first = second
  kept : before.successorCommands ⊆ after.successorCommands
  registered : ∀ generation ∈ after.generations,
    (∃ old ∈ before.generations, old.key = generation.key) ∨
      ∃ row ∈ after.successorCommands, row ∉ before.successorCommands ∧
        row.candidate = generation.key

/-- What a call that moves on does when its base or its candidate is in a row of the journal. -/
structure Meets (sha256 : List UInt8 → Block 32) (opening : Database) (call : CommitCall)
    (delivery : Delivery) (database : Database) (row : SuccessorCommandRow)
    (progress : CommitProgress) (after : Database) : Prop where
  unchanged : row.Clashes (call.row sha256) → after = database
  refused : row.Clashes (call.row sha256) → row ≠ call.row sha256 →
    ∀ outcome, progress ≠ .answered (.ok outcome)
  answered : delivery = .answered → call.IsLooking → row.base = call.base →
    (call.row sha256 = row → row ∉ opening.successorCommands) →
    progress = .answered (replayAnswer database (call.row sha256) row)

/-- The successors form a line, and every row is what the calls meet at its place. -/
structure ReplayLaw (sha256 : List UInt8 → Block 32) (opening : Database) (entry : CommitEntry) :
    Prop where
  line : Line entry.before.database entry.after.database
  met : ∀ position delivery call, entry.input = .advance position delivery →
    entry.before.calls[position]? = some call →
    ∃ progress, entry.after.calls = entry.before.calls.set position { call with progress } ∧
      ∀ row ∈ entry.before.database.successorCommands,
        Meets sha256 opening call delivery entry.before.database row progress entry.after.database

theorem line_of_same {after : Database} (keyed : Keyed database)
    (generations : after.generations = database.generations)
    (successors : after.successorCommands = database.successorCommands) : Line database after := by
  refine ⟨fun first member second stored same => ?_, fun row journaled => successors ▸ journaled,
    fun generation member => .inl ⟨generation, generations ▸ member, rfl⟩⟩
  rw [successors] at member stored
  exact keyed.bases first member second stored same

theorem line_insert {after : Database} (keyed : Keyed after)
    (executed : database.insertSuccessorCommand row = .ok after) : Line database after := by
  obtain ⟨fresh, succeeded⟩ := succeeds executed
  obtain ⟨registered, verified, inserted, updated, -, moved, -⟩ := succeeded.writes
  have journal : after.successorCommands = database.successorCommands ++ [row] := by
    rw [moved.result, updated.result, inserted.result]
  refine ⟨fun first member second stored same => keyed.bases first member second stored same,
    by rw [journal]; exact List.subset_append_left _ _, fun generation member => ?_⟩
  rw [moved.result] at member
  obtain ⟨old, known, same⟩ := updated.mem.mp member
  have key : old.key = generation.key := by
    rw [same]
    split
    next chosen => exact (updated.guarded old known chosen).key.symm
    next => rfl
  rw [inserted.result] at known
  rcases List.mem_append.mp known with stored | new
  · exact .inl ⟨old, stored, key⟩
  · cases List.mem_singleton.mp new
    refine .inr ⟨row, by rw [journal]; simp, fun journaled => ?_, key⟩
    exact fresh row journaled (.inl rfl)

theorem eq_of_clashes {other : SuccessorCommandRow} (keyed : Keyed database)
    (journaled : row ∈ database.successorCommands) (stored : other ∈ database.successorCommands)
    (clash : row.Clashes other) : row = other := by
  rcases clash with base | candidate
  · exact keyed.bases row journaled other stored base
  · exact keyed.candidates row journaled other stored candidate

theorem Serves.met (serves : Serves sha256 opening journal) {position : Nat} {delivery : Delivery}
    (called : journal.calls[position]? = some call)
    (journaled : row ∈ journal.database.successorCommands) :
    Meets sha256 opening call delivery journal.database row
      (call.advance sha256 journal.database delivery).1
      (call.advance sha256 journal.database delivery).2 := by
  have own := serves.fits call (List.mem_of_getElem? called)
  have moves : Advanced sha256 call journal.database
      (call.advance sha256 journal.database delivery) := advanced
  refine ⟨fun clash => ?_, fun clash differs outcome same => ?_, fun reply looking base fresh => ?_⟩
  · generalize call.advance sha256 journal.database delivery = moved at moves
    cases moves with
    | @inserted inserted _ _ inserting executed _ =>
      have bound := (bindRow_eq_ok (own.inserting inserted inserting)).1
      subst bound
      exact absurd clash ((succeeds executed).1 row journaled)
    | looked _ => rfl
  · generalize call.advance sha256 journal.database delivery = moved at moves same
    cases moves with
    | inserted _ _ next =>
      rcases next with rfl | rfl
      · cases same
      · cases same
    | looked looked =>
      have stored : call.row sha256 ∈ journal.database.successorCommands := by
        rcases looked.succeeded outcome same with stood | found
        · exact own.succeeded outcome (stood.trans same)
        · exact found
      exact differs (eq_of_clashes serves.keyed journaled stored clash)
  · subst reply
    rw [advance_of_looking serves.keyed (fun same => serves.committed row journaled (fresh same))
      journaled base looking]

theorem Serves.law (serves : Serves sha256 opening journal) (event : CommitEvent) :
    ReplayLaw sha256 opening ((commitJournals sha256).entry journal event) := by
  have keyed := (serves_step serves event).keyed
  simp only [Machine.entry]
  constructor
  · cases event with
    | request actor request => exact line_of_same serves.keyed rfl rfl
    | advance position delivery =>
      simp only [commitJournals] at keyed ⊢
      split
      next => exact line_of_same serves.keyed rfl rfl
      next call called =>
        simp only [called] at keyed
        have moves : Advanced sha256 call journal.database
          (call.advance sha256 journal.database delivery) := advanced
        generalize call.advance sha256 journal.database delivery = moved at moves keyed
        cases moves with
        | inserted _ executed _ => exact line_insert keyed executed
        | looked _ => exact line_of_same serves.keyed rfl rfl
    | meanwhile statement =>
      simp only [commitJournals]
      split
      next aside =>
        obtain ⟨-, generations, successors⟩ := aside_step journal.database aside
        exact line_of_same serves.keyed generations successors
      next => exact line_of_same serves.keyed rfl rfl
  · intro position delivery call same called
    subst same
    simp only [commitJournals, called]
    exact ⟨_, rfl, fun row journaled => serves.met called journaled⟩

theorem serves_run (keyed : Keyed opening) (events : List CommitEvent) :
    Serves sha256 opening ((commitJournals sha256).final ⟨opening, []⟩ events) :=
  (commitJournals sha256).invariant (Serves sha256 opening) (fun _ event serves =>
    serves_step serves event) (serves_opening keyed) events

theorem laws_run (keyed : Keyed opening) (events : List CommitEvent) :
    ∀ entry ∈ (commitJournals sha256).history ⟨opening, []⟩ events,
      ReplayLaw sha256 opening entry := by
  refine (((commitJournals sha256).history_invariant (fun past journal =>
    Serves sha256 opening journal ∧ ∀ entry ∈ past, ReplayLaw sha256 opening entry)
    ⟨serves_opening keyed, fun _ listed => absurd listed List.not_mem_nil⟩
    fun past journal event soFar => ?_) events).2
  obtain ⟨serves, laws⟩ := soFar
  refine ⟨serves_step serves event, fun entry member => ?_⟩
  rcases List.mem_append.mp member with old | new
  · exact laws entry old
  · cases List.mem_singleton.mp new
    exact serves.law event

/-- The request is sent once more and gets its first look at the journal. -/
def sentAgain (sha256 : List UInt8 → Block 32) (journal : CommitJournal) (call : CommitCall) :
    CommitJournal :=
  (commitJournals sha256).final journal
    [.request call.actor call.request, .advance journal.calls.length .answered]

/-- Rows that are new were asked for. A valid request that is sent again finds its row, or another
row in its place, and changes nothing. -/
structure Replayable (sha256 : List UInt8 → Block 32) (opening : Database)
    (journal : CommitJournal) : Prop where
  won : ∀ row ∈ journal.database.successorCommands, row ∉ opening.successorCommands →
    ∃ winner ∈ journal.calls, winner.IsValid ∧ winner.row sha256 = row
  repeated : ∀ call : CommitCall, call.IsValid →
    call.row sha256 ∈ journal.database.successorCommands →
    call.row sha256 ∉ opening.successorCommands →
    sentAgain sha256 journal call = ⟨journal.database, journal.calls ++ [{ call with
      progress := .answered (if journal.database.Selects (call.row sha256).candidate
        then .ok .alreadyActive else .error .versionConflict) }]⟩
  contradicted : ∀ call : CommitCall, call.IsValid →
    ∀ row ∈ journal.database.successorCommands, row.base = call.base → row ≠ call.row sha256 →
    sentAgain sha256 journal call = ⟨journal.database, journal.calls ++ [{ call with
      progress := .answered (.error .versionConflict) }]⟩

theorem sentAgain_of_found (keyed : Keyed journal.database) (valid : call.IsValid)
    (committed : call.row sha256 = row → Committed journal.database row)
    (journaled : row ∈ journal.database.successorCommands) (base : row.base = call.base) :
    sentAgain sha256 journal call = ⟨journal.database, journal.calls ++ [{ call with
      progress := .answered (replayAnswer journal.database (call.row sha256) row) }]⟩ := by
  have started : CommitCall.start call.actor call.request = { call with progress := .loading } := by
    simp only [CommitCall.start]
    rw [show validateRequest call.actor call.request = .ok () from valid]
  have answer : { call with progress := .loading }.advance sha256 journal.database .answered =
      (.answered (replayAnswer journal.database (call.row sha256) row), journal.database) :=
    advance_of_looking keyed committed journaled base (.inl rfl)
  simp only [sentAgain, Machine.final, commitJournals, started]
  simp [answer, CommitCall.row, CommitCall.tokenDigest]

theorem Serves.replayable (serves : Serves sha256 opening journal) :
    Replayable sha256 opening journal := by
  refine ⟨serves.won, fun call valid journaled fresh => ?_,
    fun call valid row journaled base differs => ?_⟩
  · rw [sentAgain_of_found serves.keyed valid (fun _ => serves.committed _ journaled fresh)
      journaled rfl]
    simp [replayAnswer]
  · rw [sentAgain_of_found serves.keyed valid (fun same => absurd same.symm differs)
      journaled base]
    simp [replayAnswer, differs.symm]

/-- Whatever a catalog went through before, its commits can be repeated and make one line. -/
theorem replayable_and_linear (sha256 : List UInt8 → Block 32) (prior : List Statement)
    (events : List CommitEvent) :
    (∀ entry ∈ (commitJournals sha256).history ⟨databases.final .empty prior, []⟩ events,
      ReplayLaw sha256 (databases.final .empty prior) entry) ∧
    Replayable sha256 (databases.final .empty prior)
      ((commitJournals sha256).final ⟨databases.final .empty prior, []⟩ events) :=
  have keyed := (soundSoFar_run prior).1
  ⟨laws_run keyed events, (serves_run keyed events).replayable⟩

end Runs

end ProfilePlatform.Adapters
