import ProfilePlatform.Catalog.Writes

/-! The catalog over whole runs: what identifies a generation, and where the pointer stands.

The guards keep the identity of every stored generation and the keys of the tables
whatever is written. They also keep the pointer on proven generations, unless a
direct update uses one of three columns no guard watches.
-/

set_option autoImplicit false

namespace ProfilePlatform.Catalog

open Foundation Database

variable {before after database : Database} {statement : Statement}

section Identity

/-- Stored generations keep their identity, and the journal of successors keeps its rows. -/
structure Keeps (before after : Database) : Prop where
  generations : ∀ row ∈ before.generations, ∃ later ∈ after.generations,
    later.identity = row.identity
  successors : before.successorCommands ⊆ after.successorCommands

theorem keeps_of_same (generations : after.generations = before.generations)
    (successors : before.successorCommands ⊆ after.successorCommands) : Keeps before after :=
  ⟨fun row member => ⟨row, generations ▸ member, rfl⟩, successors⟩

theorem Keeps.trans {middle : Database} (first : Keeps before middle) (second : Keeps middle after) :
    Keeps before after := by
  refine ⟨fun row member => ?_, fun command member => second.successors (first.successors member)⟩
  obtain ⟨later, kept, same⟩ := first.generations row member
  obtain ⟨last, stored, equal⟩ := second.generations later kept
  exact ⟨last, stored, equal.trans same⟩

theorem Keeps.since {earlier : Database} (keeps : Keeps before after)
    (generations : before.generations = earlier.generations)
    (successors : earlier.successorCommands ⊆ before.successorCommands) : Keeps earlier after :=
  (keeps_of_same generations successors).trans keeps

theorem Database.GenerationsUpdated.keeps {update : GenerationUpdate}
    (updated : GenerationsUpdated update before after) : Keeps before after := by
  constructor
  · intro row member
    by_cases chosen : update.chosen row
    · exact ⟨update.change row, updated.mem.mpr ⟨row, member, (if_pos chosen).symm⟩,
        (updated.guarded row member chosen).identity⟩
    · exact ⟨row, updated.mem.mpr ⟨row, member, (if_neg chosen).symm⟩, rfl⟩
  · rw [updated.result]
    exact List.Subset.refl _

theorem Database.GenerationInserted.keeps {row : GenerationRow}
    (inserted : GenerationInserted row before after) : Keeps before after := by
  rw [inserted.result]
  exact ⟨fun old member => ⟨old, List.mem_append_left _ member, rfl⟩, List.Subset.refl _⟩

theorem Database.ProfilesUpdated.keeps {update : ProfileUpdate}
    (updated : ProfilesUpdated update before after) : Keeps before after := by
  rw [updated.result]
  exact keeps_of_same rfl (List.Subset.refl _)

theorem Database.Succeeded.keeps {columns : SuccessorColumns}
    (succeeded : Succeeded columns before after) : Keeps before after := by
  obtain ⟨registered, verified, inserted, updated, -, moved, -⟩ := succeeded.writes
  exact (inserted.keeps.trans updated.keeps).trans moved.keeps

theorem Writes.keeps (writes : Writes before statement after) : Keeps before after := by
  cases writes with
  | aside _ _ generations successors _ => exact keeps_of_same generations (by rw [successors]; simp)
  | register inserted => exact inserted.keeps.since rfl (List.Subset.refl _)
  | verify updated => exact updated.keeps.since rfl (List.Subset.refl _)
  | quarantine _ _ updated => exact updated.keeps.since rfl (List.Subset.refl _)
  | activate updated => exact updated.keeps.since rfl (List.Subset.refl _)
  | deactivate updated => exact updated.keeps.since rfl (List.Subset.refl _)
  | succeed _ succeeded =>
    exact succeeded.keeps.since rfl (List.subset_append_left _ _)
  | commitDevice _ succeeded terminated =>
    obtain ⟨deviceJobs, rfl⟩ := (jobsUpdated terminated).1
    have committed : Keeps before _ := succeeded.keeps.since rfl (List.subset_append_left _ _)
    exact committed.trans (keeps_of_same rfl (List.Subset.refl _))
  | createProfile _ _ result =>
    rw [result]
    exact keeps_of_same rfl (List.Subset.refl _)
  | updateProfiles updated => exact updated.keeps
  | updateGenerations updated => exact updated.keeps

/-- The keys of the catalog: no two rows share one. -/
structure Keyed (database : Database) : Prop where
  profiles : Rows.Unique ProfileRow.key database.profiles
  generations : Rows.Unique GenerationRow.key database.generations
  bases : Rows.Unique (fun row : SuccessorCommandRow => row.base) database.successorCommands
  candidates : Rows.Unique (fun row : SuccessorCommandRow => row.candidate)
    database.successorCommands

theorem keyed_empty : Keyed .empty :=
  ⟨Rows.unique_nil _, Rows.unique_nil _, Rows.unique_nil _, Rows.unique_nil _⟩

theorem Keyed.of_same (keyed : Keyed before) (profiles : after.profiles = before.profiles)
    (generations : after.generations = before.generations)
    (successors : after.successorCommands = before.successorCommands) : Keyed after :=
  ⟨profiles ▸ keyed.profiles, generations ▸ keyed.generations, successors ▸ keyed.bases,
    successors ▸ keyed.candidates⟩

theorem Keyed.journaled (keyed : Keyed before) {row : SuccessorCommandRow}
    (fresh : ∀ old ∈ before.successorCommands, ¬old.Clashes row)
    (profiles : after.profiles = before.profiles)
    (generations : after.generations = before.generations)
    (successors : after.successorCommands = before.successorCommands ++ [row]) : Keyed after :=
  ⟨profiles ▸ keyed.profiles, generations ▸ keyed.generations,
    successors ▸ Rows.unique_insert keyed.bases fun old member same => fresh old member (.inl same),
    successors ▸ Rows.unique_insert keyed.candidates fun old member same =>
      fresh old member (.inr same)⟩

theorem Database.GenerationsUpdated.keepsKeys {update : GenerationUpdate}
    (updated : GenerationsUpdated update before after) (keyed : Keyed before) : Keyed after := by
  have generations := updated.keyed keyed.generations
  rw [updated.result] at generations ⊢
  exact { keyed with generations }

theorem Database.ProfilesUpdated.keepsKeys {update : ProfileUpdate}
    (updated : ProfilesUpdated update before after) (keyed : Keyed before) : Keyed after := by
  have profiles := updated.keyed keyed.profiles
  rw [updated.result] at profiles ⊢
  exact { keyed with profiles }

theorem Database.GenerationInserted.keepsKeys {row : GenerationRow}
    (inserted : GenerationInserted row before after) (keyed : Keyed before) : Keyed after := by
  rw [inserted.result]
  exact { keyed with
    generations := Rows.unique_insert keyed.generations fun old member same =>
      inserted.fresh old member (.inl same) }

theorem Database.Succeeded.keepsKeys {columns : SuccessorColumns}
    (succeeded : Succeeded columns before after) (keyed : Keyed before) : Keyed after := by
  obtain ⟨registered, verified, inserted, updated, -, moved, -⟩ := succeeded.writes
  exact moved.keepsKeys (updated.keepsKeys (inserted.keepsKeys keyed))

theorem Writes.keepsKeys (writes : Writes before statement after) (keyed : Keyed before) :
    Keyed after := by
  cases writes with
  | aside _ profiles generations successors _ => exact keyed.of_same profiles generations successors
  | register inserted => exact inserted.keepsKeys (keyed.of_same rfl rfl rfl)
  | verify updated => exact updated.keepsKeys (keyed.of_same rfl rfl rfl)
  | quarantine _ _ updated => exact updated.keepsKeys (keyed.of_same rfl rfl rfl)
  | activate updated => exact updated.keepsKeys (keyed.of_same rfl rfl rfl)
  | deactivate updated => exact updated.keepsKeys (keyed.of_same rfl rfl rfl)
  | succeed fresh succeeded => exact succeeded.keepsKeys (keyed.journaled fresh rfl rfl rfl)
  | commitDevice fresh succeeded terminated =>
    obtain ⟨deviceJobs, rfl⟩ := (jobsUpdated terminated).1
    exact (succeeded.keepsKeys (keyed.journaled fresh rfl rfl rfl)).of_same rfl rfl rfl
  | createProfile _ fresh result =>
    rw [result]
    exact { keyed with profiles := Rows.unique_insert keyed.profiles fresh }
  | updateProfiles updated => exact updated.keepsKeys keyed
  | updateGenerations updated => exact updated.keepsKeys keyed

end Identity

section Pointer

/-- A pointer that changes goes where a command of the journals says, at the version the command
expects, and the version advances by one. -/
def Moves (journals : Database) (old new : ProfileRow) : Prop :=
  new.activeGenerationId ≠ old.activeGenerationId → new.version = old.version + 1 ∧
    match new.activeGenerationId with
    | some generationId => journals.Activates old new generationId
    | none => journals.Deactivates old new

/-- Profiles keep their place in the table, so the place tells which row became which. -/
def RowsMove (before after : Database) : Prop :=
  ∀ (place : Nat) old new, before.profiles[place]? = some old → after.profiles[place]? = some new →
    Moves after old new

theorem rowsMove_of_prefix {added : List ProfileRow}
    (profiles : after.profiles = before.profiles ++ added) : RowsMove before after := by
  intro place old new stood stands changed
  have inside : place < before.profiles.length := (List.getElem?_eq_some_iff.mp stood).1
  rw [profiles, List.getElem?_append_left inside, stood] at stands
  cases stands
  exact absurd rfl changed

/-- The update advances the version of every profile whose pointer it clears. -/
def ProfileUpdate.AdvancesCleared (update : ProfileUpdate) (database : Database) : Prop :=
  ∀ row ∈ database.profiles, update.chosen row → row.activeGenerationId ≠ none →
    (update.change row).activeGenerationId = none →
    (update.change row).version = row.version + 1

theorem Database.ProfilesUpdated.moves {update : ProfileUpdate}
    (updated : ProfilesUpdated update before after) (advances : update.AdvancesCleared before) :
    RowsMove before after := by
  intro place old new stood stands changed
  rw [updated.result] at stands ⊢
  simp only [Rows.amend, List.getElem?_map, stood, Option.map_some, Option.some.injEq] at stands
  have member : old ∈ before.profiles := List.mem_of_getElem? stood
  split at stands
  next chosen =>
    cases stands
    have sets : update.setsActiveGenerationId = true := by
      by_contra unset
      exact changed (update.keepsActiveGenerationId (by simpa using unset) old)
    have guarded := updated.guarded old member chosen sets
    cases names : (update.change old).activeGenerationId with
    | some generationId =>
      have activates := guarded.activated generationId names fun same =>
        changed (names.trans same.symm)
      constructor
      · rcases activates with ⟨_, -, -, -, -, -, next⟩ | ⟨_, -, -, -, -, -, -, next⟩
        · exact next
        · exact next
      · exact activates
    | none =>
      have selected : old.activeGenerationId ≠ none := fun same => changed (names.trans same.symm)
      constructor
      · exact advances old member chosen selected names
      · exact guarded.deactivated names selected
  next => exact absurd (congrArg ProfileRow.activeGenerationId stands.symm) changed

theorem Database.Succeeded.moves {columns : SuccessorColumns}
    (succeeded : Succeeded columns before after) : RowsMove before after := by
  obtain ⟨registered, verified, inserted, updated, -, moved, -⟩ := succeeded.writes
  have moves := moved.moves fun _ _ _ _ _ => rfl
  rw [updated.result, inserted.result] at moves
  exact moves

/-- The pointers after the statement move by commands, as far as a direct update lets them. -/
theorem Writes.moves (writes : Writes before statement after)
    (advances : ∀ update, statement = .updateProfiles update → update.AdvancesCleared before) :
    RowsMove before after := by
  cases writes with
  | aside _ profiles _ _ _ => exact rowsMove_of_prefix (by rw [profiles, List.append_nil])
  | register inserted =>
    rw [inserted.result]
    exact rowsMove_of_prefix (List.append_nil _).symm
  | verify updated =>
    rw [updated.result]
    exact rowsMove_of_prefix (List.append_nil _).symm
  | quarantine _ _ updated =>
    rw [updated.result]
    exact rowsMove_of_prefix (List.append_nil _).symm
  | activate updated => exact updated.moves fun _ _ _ _ _ => rfl
  | deactivate updated => exact updated.moves fun _ _ _ _ _ => rfl
  | succeed _ succeeded => exact succeeded.moves
  | commitDevice _ succeeded terminated =>
    obtain ⟨deviceJobs, rfl⟩ := (jobsUpdated terminated).1
    exact succeeded.moves
  | createProfile _ _ result =>
    rw [result]
    exact rowsMove_of_prefix rfl
  | updateProfiles updated => exact updated.moves (advances _ rfl)
  | updateGenerations updated =>
    rw [updated.result]
    exact rowsMove_of_prefix (List.append_nil _).symm

end Pointer

section Soundness

/-- Pointers name verified generations, verified generations have their reference, and what a
command quarantined stays so. -/
structure Sound (database : Database) : Prop where
  referenced : ∀ row ∈ database.generations, row.status = .verified →
    row.verificationReference.isSome
  pointed : ∀ row ∈ database.profiles, ∀ generationId, row.activeGenerationId = some generationId →
    database.HasGeneration ⟨row.key, generationId⟩ .verified
  quarantined : ∀ command ∈ database.quarantineCommands,
    database.HasGeneration command.key .quarantined

theorem sound_empty : Sound .empty :=
  ⟨nofun, nofun, nofun⟩

/-- The update leaves a verified generation its reference. -/
def GenerationUpdate.KeepsReferences (update : GenerationUpdate) (database : Database) : Prop :=
  ∀ row ∈ database.generations, update.chosen row → row.status = .verified →
    row.verificationReference.isSome → (update.change row).status = .verified →
    (update.change row).verificationReference.isSome

/-- An update that does not set the pointer leaves a profile that has one its key. -/
def ProfileUpdate.KeepsPointedKeys (update : ProfileUpdate) (database : Database) : Prop :=
  ∀ row ∈ database.profiles, update.chosen row → row.activeGenerationId ≠ none →
    update.setsActiveGenerationId = false → (update.change row).key = row.key

section Generations

variable {update : GenerationUpdate} {key : GenerationKey}

/-- A verified generation stays verified, unless a quarantine command names it. -/
theorem Database.GenerationsUpdated.verified (updated : GenerationsUpdated update before after)
    (has : before.HasGeneration key .verified)
    (free : ∀ command ∈ before.quarantineCommands, command.key ≠ key) :
    after.HasGeneration key .verified := by
  obtain ⟨row, member, rfl, verified⟩ := has
  by_cases chosen : update.chosen row
  · have guarded := updated.guarded row member chosen
    refine ⟨update.change row, updated.mem.mpr ⟨row, member, (if_pos chosen).symm⟩,
      guarded.key, ?_⟩
    by_contra differs
    rcases guarded.governed (fun same => differs (same.trans verified)) with
      ⟨_, -, -, -, -, -, -, registered, -⟩ | ⟨command, stored, names, -⟩ |
      ⟨_, -, -, -, -, -, registered, -⟩
    · exact nomatch registered.symm.trans verified
    · exact free command stored names
    · exact nomatch registered.symm.trans verified
  · exact ⟨row, updated.mem.mpr ⟨row, member, (if_neg chosen).symm⟩, rfl, verified⟩

theorem Database.GenerationsUpdated.quarantined (updated : GenerationsUpdated update before after)
    (has : before.HasGeneration key .quarantined) : after.HasGeneration key .quarantined := by
  obtain ⟨row, member, rfl, quarantined⟩ := has
  by_cases chosen : update.chosen row
  · have guarded := updated.guarded row member chosen
    refine ⟨update.change row, updated.mem.mpr ⟨row, member, (if_pos chosen).symm⟩,
      guarded.key, ?_⟩
    by_contra differs
    rcases guarded.governed (fun same => differs (same.trans quarantined)) with
      ⟨_, -, -, -, -, -, -, registered, -⟩ | ⟨_, -, -, -, -, -, live, -⟩ |
      ⟨_, -, -, -, -, -, registered, -⟩
    · exact nomatch registered.symm.trans quarantined
    · rw [quarantined] at live
      exact nomatch live
    · exact nomatch registered.symm.trans quarantined
  · exact ⟨row, updated.mem.mpr ⟨row, member, (if_neg chosen).symm⟩, rfl, quarantined⟩

theorem Database.GenerationsUpdated.referenced (updated : GenerationsUpdated update before after)
    (keeps : update.KeepsReferences before)
    (referenced : ∀ row ∈ before.generations, row.status = .verified →
      row.verificationReference.isSome) :
    ∀ row ∈ after.generations, row.status = .verified → row.verificationReference.isSome := by
  intro later member verified
  obtain ⟨row, known, rfl⟩ := updated.mem.mp member
  by_cases chosen : update.chosen row
  · rw [if_pos chosen] at verified ⊢
    by_cases was : row.status = .verified
    · exact keeps row known chosen was (referenced row known was) verified
    · rcases (updated.guarded row known chosen).governed (fun same => was (same.symm.trans verified))
        with ⟨_, -, -, -, reference, -⟩ | ⟨_, -, -, -, -, -, -, quarantined, -⟩ |
        ⟨_, -, -, -, reference, -⟩
      · rw [← reference]
        rfl
      · exact nomatch quarantined.symm.trans verified
      · rw [reference]
        rfl
  · rw [if_neg chosen] at verified ⊢
    exact referenced row known verified

end Generations

/-- A generation that a quarantine command names is no longer verified, so no pointer names it. -/
theorem Sound.unselected (sound : Sound database) (keyed : Keyed database)
    {command : QuarantineCommandRow} (stored : command ∈ database.quarantineCommands) :
    ¬database.Selects command.key := by
  rintro ⟨profile, member, same, names⟩
  obtain ⟨row, known, key, quarantined⟩ := sound.quarantined command stored
  obtain ⟨other, present, equal, verified⟩ := sound.pointed profile member _ names
  have sameKey : other.key = row.key := by rw [equal, key, same]
  cases keyed.generations other present row known sameKey
  exact nomatch quarantined.symm.trans verified

theorem Database.HasGeneration.mono {key : GenerationKey} {status : GenerationStatus}
    (more : before.generations ⊆ after.generations) (has : before.HasGeneration key status) :
    after.HasGeneration key status := by
  obtain ⟨row, member, known⟩ := has
  exact ⟨row, more member, known⟩

/-- What the quarantine journal keeps out of the pointers stays sound under a guarded update. -/
theorem Database.GenerationsUpdated.keepsPointed {update : GenerationUpdate}
    (updated : GenerationsUpdated update before after)
    (pointed : ∀ row ∈ before.profiles, ∀ generationId,
      row.activeGenerationId = some generationId →
        before.HasGeneration ⟨row.key, generationId⟩ .verified)
    (unselected : ∀ command ∈ before.quarantineCommands, ¬before.Selects command.key) :
    ∀ row ∈ after.profiles, ∀ generationId, row.activeGenerationId = some generationId →
      after.HasGeneration ⟨row.key, generationId⟩ .verified := by
  intro row member generationId names
  have stored : row ∈ before.profiles := by
    rw [updated.result] at member
    exact member
  exact updated.verified (pointed row stored generationId names) fun command journaled same =>
    unselected command journaled ⟨row, stored, by rw [same], by rw [same, names]⟩

theorem Database.GenerationsUpdated.sound {update : GenerationUpdate}
    (updated : GenerationsUpdated update before after) (keeps : update.KeepsReferences before)
    (keyed : Keyed before) (sound : Sound before) : Sound after where
  referenced := updated.referenced keeps sound.referenced
  pointed := updated.keepsPointed sound.pointed fun _ stored => sound.unselected keyed stored
  quarantined command stored := by
    have journaled : command ∈ before.quarantineCommands := by
      rw [updated.result] at stored
      exact stored
    exact updated.quarantined (sound.quarantined command journaled)

theorem Database.ProfilesUpdated.sound {update : ProfileUpdate}
    (updated : ProfilesUpdated update before after) (keeps : update.KeepsPointedKeys before)
    (sound : Sound before) : Sound after := by
  rw [updated.result]
  refine ⟨sound.referenced, fun row member generationId names => ?_, sound.quarantined⟩
  obtain ⟨old, stored, rfl⟩ := Rows.mem_amend.mp member
  by_cases chosen : update.chosen old
  · rw [if_pos chosen] at names ⊢
    cases sets : update.setsActiveGenerationId with
    | true => exact (updated.guarded old stored chosen sets).verified generationId names
    | false =>
      have kept := update.keepsActiveGenerationId sets old
      have pointed := sound.pointed old stored generationId (kept.symm.trans names)
      rwa [← keeps old stored chosen (by simp [← kept, names]) sets] at pointed
  · rw [if_neg chosen] at names ⊢
    exact sound.pointed old stored generationId names

theorem Database.GenerationInserted.sound {row : GenerationRow}
    (inserted : GenerationInserted row before after) (registered : row.status = .registered)
    (sound : Sound before) : Sound after := by
  rw [inserted.result]
  have more : before.generations ⊆ before.generations ++ [row] := List.subset_append_left _ _
  refine ⟨fun other member verified => ?_, fun profile stored generationId names =>
    (sound.pointed profile stored generationId names).mono more, fun command stored =>
    (sound.quarantined command stored).mono more⟩
  rcases List.mem_append.mp member with old | new
  · exact sound.referenced other old verified
  · cases List.mem_singleton.mp new
    exact nomatch registered.symm.trans verified

/-- Soundness only looks at the two tables and at the quarantine commands. -/
theorem Sound.of_same (sound : Sound before) (profiles : after.profiles = before.profiles)
    (generations : after.generations = before.generations)
    (quarantines : after.quarantineCommands = before.quarantineCommands) : Sound after where
  referenced row member := sound.referenced row (generations ▸ member)
  pointed row member generationId names := by
    have has := sound.pointed row (profiles ▸ member) generationId names
    exact has.mono (by rw [generations]; exact List.Subset.refl _)
  quarantined command stored := by
    have has := sound.quarantined command (quarantines ▸ stored)
    exact has.mono (by rw [generations]; exact List.Subset.refl _)

theorem Database.Succeeded.sound {columns : SuccessorColumns}
    (succeeded : Succeeded columns before after) (keyed : Keyed before) (sound : Sound before) :
    Sound after := by
  obtain ⟨registered, verified, inserted, updated, -, moved, -⟩ := succeeded.writes
  have soundRegistered := inserted.sound rfl sound
  have soundVerified := updated.sound (fun _ _ _ _ _ _ => rfl) (inserted.keepsKeys keyed)
    soundRegistered
  exact moved.sound (fun _ _ _ _ unset => nomatch unset) soundVerified

/-- A generation that is quarantined was not selected, and is quarantined from then on. -/
theorem sound_quarantine {row : QuarantineCommandRow} (keyed : Keyed before) (sound : Sound before)
    (stored : ∃ generation ∈ before.generations, generation.key = row.key)
    (unselected : ¬before.Selects row.key)
    (updated : GenerationsUpdated row.quarantine
      { before with quarantineCommands := before.quarantineCommands ++ [row] } after) :
    Sound after where
  referenced := updated.referenced (fun _ _ _ _ _ verified => nomatch verified) sound.referenced
  pointed := updated.keepsPointed sound.pointed fun command journaled => by
    rcases List.mem_append.mp journaled with old | new
    · exact sound.unselected keyed old
    · cases List.mem_singleton.mp new
      exact unselected
  quarantined command journaled := by
    rw [updated.result] at journaled
    rcases List.mem_append.mp journaled with old | new
    · exact updated.quarantined (sound.quarantined command old)
    · cases List.mem_singleton.mp new
      obtain ⟨generation, member, same⟩ := stored
      exact ⟨row.quarantine.change generation, updated.mem.mpr ⟨generation, member,
        (if_pos (decide_eq_true same)).symm⟩, same, rfl⟩

/-- A direct update is careful if it leaves a verified generation its reference, advances the
version of a profile it takes the pointer from, and leaves a profile with a pointer its key unless
it sets the pointer. No other statement has to be. -/
def Statement.Careful (statement : Statement) (database : Database) : Prop :=
  match statement with
  | .updateProfiles update => update.AdvancesCleared database ∧ update.KeepsPointedKeys database
  | .updateGenerations update => update.KeepsReferences database
  | _ => True

theorem Writes.sound (writes : Writes before statement after)
    (careful : statement.Careful before) (keyed : Keyed before) (sound : Sound before) :
    Sound after := by
  cases writes with
  | aside _ profiles generations _ quarantines => exact sound.of_same profiles generations quarantines
  | register inserted => exact inserted.sound rfl (sound.of_same rfl rfl rfl)
  | verify updated =>
    exact updated.sound (fun _ _ _ _ _ _ => rfl) (keyed.of_same rfl rfl rfl)
      (sound.of_same rfl rfl rfl)
  | quarantine stored unselected updated =>
    exact sound_quarantine keyed sound stored unselected updated
  | activate updated =>
    exact updated.sound (fun _ _ _ _ unset => nomatch unset) (sound.of_same rfl rfl rfl)
  | deactivate updated =>
    exact updated.sound (fun _ _ _ _ unset => nomatch unset) (sound.of_same rfl rfl rfl)
  | succeed fresh succeeded =>
    exact succeeded.sound (keyed.journaled fresh rfl rfl rfl) (sound.of_same rfl rfl rfl)
  | commitDevice fresh succeeded terminated =>
    obtain ⟨deviceJobs, rfl⟩ := (jobsUpdated terminated).1
    have committed := succeeded.sound (keyed.journaled fresh rfl rfl rfl) (sound.of_same rfl rfl rfl)
    exact committed.of_same rfl rfl rfl
  | createProfile draft _ result =>
    rw [result]
    refine ⟨sound.referenced, fun row member generationId names => ?_, sound.quarantined⟩
    rcases List.mem_append.mp member with old | new
    · exact sound.pointed row old generationId names
    · cases List.mem_singleton.mp new
      exact nomatch draft.symm.trans names
  | updateProfiles updated => exact updated.sound careful.2 sound
  | updateGenerations updated => exact updated.sound careful keyed sound

end Soundness

section Runs

/-- Every pointer names a generation of its own profile that is verified and has its reference. -/
def Database.PointerSafe (database : Database) : Prop :=
  ∀ profile ∈ database.profiles, ∀ generationId, profile.activeGenerationId = some generationId →
    ∃ generation ∈ database.generations,
      generation.key = ⟨profile.key, generationId⟩ ∧ generation.Proven

theorem Sound.pointerSafe (sound : Sound database) : database.PointerSafe := by
  intro profile member generationId names
  obtain ⟨row, known, key, verified⟩ := sound.pointed profile member generationId names
  exact ⟨row, known, key, verified, sound.referenced row known verified⟩

/-- A stored generation is still there, as the object it was, and with the base it had. -/
structure SameGenerations (before after : Database) : Prop where
  generations : ∀ row ∈ before.generations, (∃ later ∈ after.generations, later.key = row.key) ∧
    ∀ later ∈ after.generations, later.key = row.key → later.identity = row.identity
  successors : ∀ command ∈ before.successorCommands, command ∈ after.successorCommands ∧
    ∀ later ∈ after.successorCommands, later.candidate = command.candidate → later = command

theorem Keeps.sameGenerations (keeps : Keeps before after) (keyed : Keyed after) :
    SameGenerations before after where
  generations row member := by
    obtain ⟨later, kept, same⟩ := keeps.generations row member
    have key : later.key = row.key := congrArg Prod.fst same
    refine ⟨⟨later, kept, key⟩, fun other stored equal => ?_⟩
    cases keyed.generations other stored later kept (equal.trans key.symm)
    exact same
  successors command journaled := by
    have kept := keeps.successors journaled
    exact ⟨kept, fun later stored same => keyed.candidates later stored command kept same⟩

/-- A step either executes its statement or leaves the database as it was. -/
theorem databases_step (database : Database) (statement : Statement) :
    (∃ after, Writes database statement after ∧
      databases.step database statement = (.ok (), after)) ∨
    ∃ why, databases.step database statement = (.error why, database) := by
  cases executed : database.execute statement with
  | ok after => exact .inl ⟨after, writes executed, by simp only [databases, executed]⟩
  | error why => exact .inr ⟨why, by simp only [databases, executed]⟩

theorem keyed_step (statement : Statement) (keyed : Keyed database) :
    Keyed (databases.step database statement).2 := by
  rcases databases_step database statement with ⟨after, writes, step⟩ | ⟨why, step⟩
  · rw [step]
    exact writes.keepsKeys keyed
  · rw [step]
    exact keyed

theorem keeps_run (database : Database) (statements : List Statement) :
    Keeps database (databases.final database statements) := by
  refine databases.monotone Keeps (fun database => keeps_of_same rfl (List.Subset.refl _))
    (fun _ _ _ first second => first.trans second) (fun database statement => ?_) database statements
  rcases databases_step database statement with ⟨after, writes, step⟩ | ⟨why, step⟩
  · rw [step]
    exact writes.keeps
  · rw [step]
    exact keeps_of_same rfl (List.Subset.refl _)

/-- The pointers are safe after the statement and moved by commands, and a refused statement left
every row as it was. -/
structure PointerLaw (entry : StatementEntry) : Prop where
  safe : entry.after.PointerSafe
  moves : RowsMove entry.before entry.after
  refused : ∀ why, entry.output = .error why → entry.after = entry.before

/-- Every direct update that was accepted was careful. -/
def CarefulRun (history : List StatementEntry) : Prop :=
  ∀ entry ∈ history, entry.output = .ok () → entry.input.Careful entry.before

theorem sound_step (statement : Statement) (keyed : Keyed database) (sound : Sound database)
    (careful : (databases.entry database statement).output = .ok () →
      statement.Careful database) :
    Sound (databases.step database statement).2 ∧
      PointerLaw (databases.entry database statement) := by
  simp only [Machine.entry] at careful ⊢
  rcases databases_step database statement with ⟨after, writes, step⟩ | ⟨why, step⟩
  · rw [step] at careful ⊢
    have passes := careful rfl
    have soundAfter := writes.sound passes keyed sound
    refine ⟨soundAfter, soundAfter.pointerSafe, writes.moves ?_, fun _ impossible => nomatch impossible⟩
    rintro update rfl
    exact passes.1
  · rw [step]
    exact ⟨sound, sound.pointerSafe, rowsMove_of_prefix (List.append_nil _).symm, fun _ _ => rfl⟩

/-- What a careful run has shown so far. -/
def SoundSoFar (past : List StatementEntry) (database : Database) : Prop :=
  Keyed database ∧ (CarefulRun past → Sound database ∧ ∀ entry ∈ past, PointerLaw entry)

theorem soundSoFar_empty : SoundSoFar [] .empty := by
  refine ⟨keyed_empty, fun _ => ⟨sound_empty, fun entry member => ?_⟩⟩
  cases member

theorem soundSoFar_step (past : List StatementEntry) (database : Database) (statement : Statement)
    (soFar : SoundSoFar past database) :
    SoundSoFar (past ++ [databases.entry database statement])
      (databases.step database statement).2 := by
  obtain ⟨keyed, laws⟩ := soFar
  refine ⟨keyed_step statement keyed, fun careful => ?_⟩
  obtain ⟨sound, before⟩ := laws fun entry member => careful entry (List.mem_append_left _ member)
  obtain ⟨next, law⟩ := sound_step statement keyed sound
    (careful _ (List.mem_append_right _ (List.mem_singleton.mpr rfl)))
  refine ⟨next, fun entry member => ?_⟩
  rcases List.mem_append.mp member with old | new
  · exact before entry old
  · cases List.mem_singleton.mp new
    exact law

theorem soundSoFar_run (statements : List Statement) :
    SoundSoFar (databases.history .empty statements) (databases.final .empty statements) :=
  databases.history_invariant SoundSoFar soundSoFar_empty soundSoFar_step statements

/-- Along every run whose direct updates are careful, pointers are safe and move by commands. Along
every run stored generations stay what they were. -/
theorem pointers_stay_safe (statements : List Statement)
    (careful : CarefulRun (databases.history .empty statements)) :
    (∀ entry ∈ databases.history .empty statements, PointerLaw entry) ∧
      ∀ first second, statements = first ++ second →
        SameGenerations (databases.final .empty first) (databases.final .empty statements) := by
  refine ⟨((soundSoFar_run statements).2 careful).2, ?_⟩
  rintro first second rfl
  have keeps := keeps_run (databases.final .empty first) second
  rw [← Machine.final_append] at keeps
  exact keeps.sameGenerations (soundSoFar_run _).1

end Runs

namespace SampleCatalog

def profile : ProfileKey := ⟨⟨⟨"tenant-catalog", by decide⟩⟩, ⟨⟨"profile-catalog", by decide⟩⟩⟩
def spare : ProfileKey := ⟨⟨⟨"tenant-catalog", by decide⟩⟩, ⟨⟨"profile-spare", by decide⟩⟩⟩
def moved : ProfileKey := ⟨⟨⟨"tenant-catalog", by decide⟩⟩, ⟨⟨"profile-moved", by decide⟩⟩⟩
def owner : ActorId := ⟨⟨"actor-catalog", by decide⟩⟩
def device : DeviceId := ⟨⟨"device-catalog", by decide⟩⟩
def session : SessionId := ⟨⟨"session-catalog", by decide⟩⟩
def first : GenerationId := ⟨⟨"generation-first", by decide⟩⟩

def digest : String := "aaaaaaaaaaaaaaaaaaaaaaaaaaaaaaaaaaaaaaaaaaaaaaaaaaaaaaaaaaaaaaaa"

def ofProfile (generation : GenerationId) : GenerationKey := ⟨profile, generation⟩

/-- One owner with one device, whose session the coordinator has projected. -/
def surroundings : Surroundings where
  memberships := [⟨profile.tenantId, owner, .tenantOwner, .active⟩]
  deviceActorBindings := [⟨profile.tenantId, owner, device, .active⟩]
  profileGrants := []
  coordinatorProjections := [⟨profile, .active, 3, 2, some session, some device, some 1,
    some 1000, some 1000, none, 1⟩]

def register : RegisterCommandRow :=
  ⟨"register", owner, ofProfile first, (ofProfile first).canonicalObjectKey, digest, digest, 10,
    none, none⟩

/-- The first generation is registered, verified and made active; the version is then two. -/
def activated : List Statement :=
  [.elsewhere surroundings, .createProfile profile owner 1, .createProfile spare owner 1,
    .register register, .verify ⟨"verify", owner, ofProfile first, 1, "r2sha256:aa", 11⟩,
    .activate ⟨"activate", owner, ofProfile first, 1, 12⟩]

/-- Clears the reference of the generation and nothing else. -/
def clearReference : GenerationUpdate where
  chosen row := row.key = ofProfile first
  change row := { row with verificationReference := none }

/-- Gives the profile's key to the spare profile, and the profile a key of its own. -/
def moveKeys : ProfileUpdate where
  chosen _ := true
  setsStatus := false
  setsActiveGenerationId := false
  change row := { row with key := if row.key = profile then moved else profile }
  keepsStatus _ _ := rfl
  keepsActiveGenerationId _ _ := rfl

def setVersion (version : Nat) : ProfileUpdate where
  chosen row := row.key = profile
  setsStatus := false
  setsActiveGenerationId := false
  change row := { row with version }
  keepsStatus _ _ := rfl
  keepsActiveGenerationId _ _ := rfl

/-- Clears the pointer under the evidence of the deactivation below, and keeps the version. -/
def clearPointer : ProfileUpdate where
  chosen row := row.key = profile
  setsStatus := true
  setsActiveGenerationId := true
  change row := { row with
    status := .suspended, activeGenerationId := none, updatedByActorId := owner, updatedAtMs := 13 }
  keepsStatus unset := nomatch unset
  keepsActiveGenerationId unset := nomatch unset

/-- The pointer is cleared by a command and set again; then the version goes back to the one that
command expected, and the pointer is cleared once more. -/
def replayed : List Statement :=
  activated ++ [.deactivate ⟨"deactivate", owner, ofProfile first, 2, 13⟩,
    .activate ⟨"again", owner, ofProfile first, 3, 14⟩, .updateProfiles (setVersion 2),
    .updateProfiles clearPointer]

end SampleCatalog

instance (database : Database) : Decidable database.PointerSafe :=
  decidable_of_iff (∀ profile ∈ database.profiles, profile.activeGenerationId.all fun generationId =>
      decide (∃ generation ∈ database.generations,
        generation.key = ⟨profile.key, generationId⟩ ∧ generation.Proven)) (by
    simp only [Option.all_eq_true, decide_eq_true_eq]
    rfl)

theorem RowsMove.version {old new : ProfileRow} (moves : RowsMove before after)
    (paired : (old, new) ∈ before.profiles.zip after.profiles)
    (changed : new.activeGenerationId ≠ old.activeGenerationId) : new.version = old.version + 1 := by
  obtain ⟨place, found⟩ := List.mem_iff_getElem?.mp paired
  obtain ⟨stood, stands⟩ := List.getElem?_zip_eq_some.mp found
  exact (moves place old new stood stands changed).1

open SampleCatalog in
/-- A direct update of a column that no guard watches: the reference of the active generation, the
key of a profile with a pointer, and the version from which a pointer is cleared. -/
theorem unwatched_columns :
    ¬(databases.final .empty (activated ++ [.updateGenerations clearReference])).PointerSafe ∧
      ¬(databases.final .empty (activated ++ [.updateProfiles moveKeys])).PointerSafe ∧
      ¬∀ entry ∈ databases.history .empty replayed, RowsMove entry.before entry.after := by
  refine ⟨by decide +kernel, by decide +kernel, fun moves => ?_⟩
  have versions : ∀ entry ∈ databases.history .empty replayed,
      ∀ pair ∈ entry.before.profiles.zip entry.after.profiles,
        pair.2.activeGenerationId ≠ pair.1.activeGenerationId →
          pair.2.version = pair.1.version + 1 :=
    fun entry member _ paired => (moves entry member).version paired
  revert versions
  decide +kernel

open SampleCatalog in
theorem pointers_stay_safe_activated :
    (∀ entry ∈ databases.history .empty (activated ++ [.updateProfiles (setVersion 7)]),
        PointerLaw entry) ∧
      ∀ first second, activated ++ [.updateProfiles (setVersion 7)] = first ++ second →
        SameGenerations (databases.final .empty first)
          (databases.final .empty (activated ++ [.updateProfiles (setVersion 7)])) := by
  refine pointers_stay_safe _ fun entry member _ => ?_
  have input := Machine.input_mem_of_mem_history _ member
  simp only [activated, List.cons_append, List.nil_append, List.mem_cons, List.not_mem_nil,
    or_false] at input
  rcases input with input | input | input | input | input | input | input <;> rw [input]
  on_goal 7 =>
    exact ⟨fun row _ _ pointed cleared => absurd cleared pointed, fun _ _ _ _ _ => rfl⟩
  all_goals trivial

end ProfilePlatform.Catalog
