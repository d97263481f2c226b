import ProfilePlatform.Catalog.Retention

/-! What a write of a catalog table has shown and done, once it is not refused.

Each lemma takes one write apart: the rows it leaves, and what its guards let pass.
The laws of the statements are read off these lemmas alone.
-/

set_option autoImplicit false

namespace ProfilePlatform.Catalog

open Foundation

variable {before after : Database}

namespace Database

/-- What the guards of the pointer let pass. -/
structure PointerGuarded (database : Database) (old new : ProfileRow) : Prop where
  verified : ∀ generationId, new.activeGenerationId = some generationId →
    database.HasGeneration ⟨new.key, generationId⟩ .verified
  activated : ∀ generationId, new.activeGenerationId = some generationId →
    old.activeGenerationId ≠ some generationId → database.Activates old new generationId
  kept : ∀ generationId, new.activeGenerationId = some generationId →
    ¬database.Retired ⟨new.key, generationId⟩
  deactivated : new.activeGenerationId = none → old.activeGenerationId ≠ none →
    database.Deactivates old new

theorem pointerGuarded {old new : ProfileRow} (passed : before.guardPointer old new = .ok ()) :
    before.PointerGuarded old new := by
  unfold guardPointer at passed
  split at passed
  next cleared =>
    refine ⟨fun _ set => ?_, fun _ set => ?_, fun _ set => ?_, fun _ set => ?_⟩
    · exact nomatch cleared.symm.trans set
    · exact nomatch cleared.symm.trans set
    · exact nomatch cleared.symm.trans set
    · exact Decidable.not_not.mp fun missing => refuseIf_eq_ok.mp passed ⟨set, missing⟩
  next generationId names =>
    obtain ⟨_, verified, passed⟩ := bind_eq_ok.mp passed
    obtain ⟨_, activated, passed⟩ := bind_eq_ok.mp passed
    have same {other : GenerationId} (set : new.activeGenerationId = some other) :
        other = generationId := Option.some.inj (set.symm.trans names)
    refine ⟨fun _ set => ?_, fun _ set differs => ?_, fun _ set => ?_, fun set => ?_⟩
    · exact same set ▸ Decidable.not_not.mp (refuseIf_eq_ok.mp verified)
    · cases same set
      exact Decidable.not_not.mp fun missing => refuseIf_eq_ok.mp activated ⟨differs, missing⟩
    · exact same set ▸ refuseIf_eq_ok.mp passed
    · exact nomatch set.symm.trans names

/-- Each row that the update chose has passed the guards of the columns it sets. -/
structure ProfilesUpdated (update : ProfileUpdate) (before after : Database) : Prop where
  result : after = { before with
    profiles := Rows.amend (fun row => update.chosen row) update.change before.profiles }
  guarded : ∀ row ∈ before.profiles, update.chosen row → update.setsActiveGenerationId →
    before.PointerGuarded row (update.change row)
  keyed : Rows.Unique ProfileRow.key before.profiles → Rows.Unique ProfileRow.key after.profiles

theorem profilesUpdated {update : ProfileUpdate}
    (updated : before.updateProfiles update = .ok after) :
    ProfilesUpdated update before after := by
  obtain ⟨profiles, written, checked⟩ := bind_eq_ok.mp updated
  obtain ⟨_, -, same⟩ := bind_eq_ok.mp checked
  cases same
  obtain ⟨amended, guarded⟩ := Rows.update_eq_ok written
  refine ⟨by rw [amended]; rfl, fun row member chosen sets => ?_, fun unique =>
    Rows.unique_update (fun _ _ same => same) written unique⟩
  obtain ⟨_, -, passed⟩ := bind_eq_ok.mp (guarded row member chosen)
  rw [if_pos sets] at passed
  obtain ⟨_, passed, -⟩ := bind_eq_ok.mp passed
  exact pointerGuarded passed

/-- What the guards of a generation let pass. -/
structure GenerationGuarded (database : Database) (old new : GenerationRow) : Prop where
  identity : new.identity = old.identity
  governed : new.status ≠ old.status → database.Transitions old new

theorem generationGuarded {old new : GenerationRow}
    (passed : before.guardGeneration old new = .ok ()) : before.GenerationGuarded old new := by
  obtain ⟨_, identity, passed⟩ := bind_eq_ok.mp passed
  obtain ⟨_, -, passed⟩ := bind_eq_ok.mp passed
  obtain ⟨_, governed, -⟩ := bind_eq_ok.mp passed
  exact ⟨Decidable.not_not.mp (refuseIf_eq_ok.mp identity), fun differs =>
    Decidable.not_not.mp fun missing => refuseIf_eq_ok.mp governed ⟨differs, missing⟩⟩

theorem GenerationGuarded.key {old new : GenerationRow} (guarded : before.GenerationGuarded old new) :
    new.key = old.key := congrArg Prod.fst guarded.identity

/-- Each row that the update chose has passed the guards. -/
structure GenerationsUpdated (update : GenerationUpdate) (before after : Database) : Prop where
  result : after = { before with
    generations := Rows.amend (fun row => update.chosen row) update.change before.generations }
  guarded : ∀ row ∈ before.generations, update.chosen row →
    before.GenerationGuarded row (update.change row)
  keyed : Rows.Unique GenerationRow.key before.generations →
    Rows.Unique GenerationRow.key after.generations

theorem generationsUpdated {update : GenerationUpdate}
    (updated : before.updateGenerations update = .ok after) :
    GenerationsUpdated update before after := by
  obtain ⟨generations, written, same⟩ := bind_eq_ok.mp updated
  cases same
  obtain ⟨amended, guarded⟩ := Rows.update_eq_ok written
  exact ⟨by rw [amended]; rfl, fun row member chosen =>
    generationGuarded (guarded row member chosen), fun unique =>
    Rows.unique_update (fun _ _ same => .inl same) written unique⟩

theorem GenerationsUpdated.mem {update : GenerationUpdate}
    (updated : GenerationsUpdated update before after) {row : GenerationRow} :
    row ∈ after.generations ↔
      ∃ old ∈ before.generations, row = if update.chosen old then update.change old else old := by
  rw [updated.result]
  exact Rows.mem_amend

/-- A registered row joins the catalog, and no stored one clashes with it. -/
structure GenerationInserted (row : GenerationRow) (before after : Database) : Prop where
  result : after = { before with generations := before.generations ++ [row] }
  fresh : ∀ old ∈ before.generations, ¬old.Clashes row

theorem generationInserted {row : GenerationRow}
    (inserted : before.insertGeneration row = .ok after) :
    GenerationInserted row before after := by
  obtain ⟨_, -, inserted⟩ := bind_eq_ok.mp inserted
  obtain ⟨_, -, inserted⟩ := bind_eq_ok.mp inserted
  obtain ⟨_, -, inserted⟩ := bind_eq_ok.mp inserted
  obtain ⟨_, fresh, inserted⟩ := bind_eq_ok.mp inserted
  obtain ⟨_, -, same⟩ := bind_eq_ok.mp inserted
  cases same
  exact ⟨rfl, fun old member clash => refuseIf_eq_ok.mp fresh ⟨old, member, clash⟩⟩

theorem jobsUpdated {update : DeviceJobUpdate}
    (updated : before.updateDeviceJobs update = .ok after) :
    (∃ deviceJobs, after = { before with deviceJobs }) ∧ ∀ job ∈ after.deviceJobs,
      ∃ old ∈ before.deviceJobs, old.key = job.key ∧ old.generation = job.generation := by
  obtain ⟨deviceJobs, written, same⟩ := bind_eq_ok.mp updated
  cases same
  refine ⟨⟨deviceJobs, rfl⟩, fun job member => ?_⟩
  have amended := (Rows.update_eq_ok written).1
  rw [List.nil_append] at amended
  simp only [amended] at member
  obtain ⟨old, known, rfl⟩ := Rows.mem_amend.mp member
  refine ⟨old, known, ?_⟩
  split
  · have generation := update.keepsGeneration old
    exact ⟨by simp only [DeviceJobRow.key, generation, update.keepsJob], generation.symm⟩
  · exact ⟨rfl, rfl⟩

/-- The three writes of a successor command, and that each update was about one row. -/
structure Succeeded (columns : SuccessorColumns) (before after : Database) : Prop where
  writes : ∃ registered verified, GenerationInserted columns.registered before registered ∧
    GenerationsUpdated columns.verification registered verified ∧
    changes columns.verification.chosen registered.generations = 1 ∧
    ProfilesUpdated (columns.activation verified.generations) verified after ∧
    changes (columns.activation verified.generations).chosen verified.profiles = 1

theorem succeeded {columns : SuccessorColumns} (applied : before.applySuccessor columns = .ok after) :
    Succeeded columns before after := by
  obtain ⟨registered, inserted, applied⟩ := bind_eq_ok.mp applied
  obtain ⟨verified, updated, applied⟩ := bind_eq_ok.mp applied
  obtain ⟨_, one, applied⟩ := bind_eq_ok.mp applied
  obtain ⟨activated, moved, applied⟩ := bind_eq_ok.mp applied
  obtain ⟨_, single, same⟩ := bind_eq_ok.mp applied
  cases same
  exact ⟨registered, verified, generationInserted inserted, generationsUpdated updated,
    Decidable.not_not.mp (refuseIf_eq_ok.mp one), profilesUpdated moved,
    Decidable.not_not.mp (refuseIf_eq_ok.mp single)⟩

end Database

open Database

/-- What an accepted statement does to the catalog. The commands write through the guards, with
their own row already in the journal. -/
inductive Writes (before : Database) : Statement → Database → Prop where
  | aside {statement : Statement} {after : Database} (apart : statement.isAside = true)
      (profiles : after.profiles = before.profiles)
      (generations : after.generations = before.generations)
      (successors : after.successorCommands = before.successorCommands)
      (quarantines : after.quarantineCommands = before.quarantineCommands) :
      Writes before statement after
  | register {row : RegisterCommandRow} {after : Database}
      (inserted : GenerationInserted row.registered
        { before with registerCommands := before.registerCommands ++ [row] } after) :
      Writes before (.register row) after
  | verify {row : VerifyCommandRow} {after : Database}
      (updated : GenerationsUpdated row.verification
        { before with verifyCommands := before.verifyCommands ++ [row] } after) :
      Writes before (.verify row) after
  | quarantine {row : QuarantineCommandRow} {after : Database}
      (stored : ∃ generation ∈ before.generations, generation.key = row.key)
      (unselected : ¬before.Selects row.key)
      (updated : GenerationsUpdated row.quarantine
        { before with quarantineCommands := before.quarantineCommands ++ [row] } after) :
      Writes before (.quarantine row) after
  | activate {row : PointerCommandRow} {after : Database}
      (updated : ProfilesUpdated row.activation
        { before with activateCommands := before.activateCommands ++ [row] } after) :
      Writes before (.activate row) after
  | deactivate {row : PointerCommandRow} {after : Database}
      (updated : ProfilesUpdated row.deactivation
        { before with deactivateCommands := before.deactivateCommands ++ [row] } after) :
      Writes before (.deactivate row) after
  | succeed {row : SuccessorCommandRow} {after : Database}
      (fresh : ∀ old ∈ before.successorCommands, ¬old.Clashes row)
      (succeeded : Succeeded row.toSuccessorColumns
        { before with successorCommands := before.successorCommands ++ [row] } after) :
      Writes before (.succeed row) after
  | commitDevice {row : DeviceCommitCommandRow} {committed after : Database}
      (fresh : ∀ old ∈ before.successorCommands, ¬old.Clashes row.successor)
      (succeeded : Succeeded row.toSuccessorColumns
        { before with
          deviceCommitCommands := before.deviceCommitCommands ++ [row]
          successorCommands := before.successorCommands ++ [row.successor] } committed)
      (terminated : committed.updateDeviceJobs row.termination = .ok after) :
      Writes before (.commitDevice row) after
  | createProfile {key : ProfileKey} {commandActorId : ActorId} {executedAtMs : Nat}
      {row : ProfileRow} {after : Database} (draft : row.activeGenerationId = none)
      (fresh : ∀ old ∈ before.profiles, old.key ≠ row.key)
      (result : after = { before with profiles := before.profiles ++ [row] }) :
      Writes before (.createProfile key commandActorId executedAtMs) after
  | updateProfiles {update : ProfileUpdate} {after : Database}
      (updated : ProfilesUpdated update before after) : Writes before (.updateProfiles update) after
  | updateGenerations {update : GenerationUpdate} {after : Database}
      (updated : GenerationsUpdated update before after) :
      Writes before (.updateGenerations update) after

theorem succeeds {row : SuccessorCommandRow} (executed : before.insertSuccessorCommand row = .ok after) :
    (∀ old ∈ before.successorCommands, ¬old.Clashes row) ∧ Succeeded row.toSuccessorColumns
      { before with successorCommands := before.successorCommands ++ [row] } after := by
  obtain ⟨_, -, executed⟩ := bind_eq_ok.mp executed
  obtain ⟨_, -, executed⟩ := bind_eq_ok.mp executed
  obtain ⟨_, fresh, executed⟩ := bind_eq_ok.mp executed
  exact ⟨fun old member clash => refuseIf_eq_ok.mp fresh ⟨old, member, clash⟩, succeeded executed⟩

theorem quarantines {row : QuarantineCommandRow}
    (executed : before.insertQuarantineCommand row = .ok after) :
    Writes before (.quarantine row) after := by
  obtain ⟨_, valid, executed⟩ := bind_eq_ok.mp executed
  obtain ⟨_, -, executed⟩ := bind_eq_ok.mp executed
  obtain ⟨_, -, executed⟩ := bind_eq_ok.mp executed
  obtain ⟨_, -, valid⟩ := bind_eq_ok.mp valid
  obtain ⟨_, -, valid⟩ := bind_eq_ok.mp valid
  obtain ⟨_, stored, valid⟩ := bind_eq_ok.mp valid
  obtain ⟨generation, member, same, -⟩ := Decidable.not_not.mp (refuseIf_eq_ok.mp stored)
  exact .quarantine ⟨generation, member, same⟩ (refuseIf_eq_ok.mp valid)
    (generationsUpdated executed)

theorem commits {row : DeviceCommitCommandRow}
    (executed : before.insertDeviceCommitCommand row = .ok after) :
    Writes before (.commitDevice row) after := by
  obtain ⟨_, -, executed⟩ := bind_eq_ok.mp executed
  obtain ⟨_, -, executed⟩ := bind_eq_ok.mp executed
  obtain ⟨_, -, executed⟩ := bind_eq_ok.mp executed
  obtain ⟨committed, inserted, executed⟩ := bind_eq_ok.mp executed
  obtain ⟨terminated, updated, executed⟩ := bind_eq_ok.mp executed
  obtain ⟨_, -, same⟩ := bind_eq_ok.mp executed
  cases same
  obtain ⟨fresh, succeeded⟩ := succeeds inserted
  exact .commitDevice fresh succeeded updated

theorem writes {statement : Statement} (executed : before.execute statement = .ok after) :
    Writes before statement after := by
  cases statement with
  | register row =>
    obtain ⟨_, -, executed⟩ := bind_eq_ok.mp executed
    obtain ⟨_, -, executed⟩ := bind_eq_ok.mp executed
    obtain ⟨_, -, executed⟩ := bind_eq_ok.mp executed
    exact .register (generationInserted executed)
  | verify row =>
    obtain ⟨_, -, executed⟩ := bind_eq_ok.mp executed
    obtain ⟨_, -, executed⟩ := bind_eq_ok.mp executed
    obtain ⟨_, -, executed⟩ := bind_eq_ok.mp executed
    exact .verify (generationsUpdated executed)
  | activate row =>
    obtain ⟨_, -, executed⟩ := bind_eq_ok.mp executed
    obtain ⟨_, -, executed⟩ := bind_eq_ok.mp executed
    obtain ⟨_, -, executed⟩ := bind_eq_ok.mp executed
    exact .activate (profilesUpdated executed)
  | quarantine row => exact quarantines executed
  | deactivate row =>
    obtain ⟨_, -, executed⟩ := bind_eq_ok.mp executed
    obtain ⟨_, -, executed⟩ := bind_eq_ok.mp executed
    obtain ⟨_, -, executed⟩ := bind_eq_ok.mp executed
    obtain ⟨_, -, executed⟩ := bind_eq_ok.mp executed
    exact .deactivate (profilesUpdated executed)
  | succeed row =>
    obtain ⟨fresh, succeeded⟩ := succeeds executed
    exact .succeed fresh succeeded
  | commitDevice row => exact commits executed
  | prove row =>
    obtain ⟨_, -, executed⟩ := bind_eq_ok.mp executed
    obtain ⟨_, -, executed⟩ := bind_eq_ok.mp executed
    obtain ⟨_, -, same⟩ := bind_eq_ok.mp executed
    cases same
    exact .aside rfl rfl rfl rfl rfl
  | retire row =>
    obtain ⟨_, -, executed⟩ := bind_eq_ok.mp executed
    obtain ⟨_, -, executed⟩ := bind_eq_ok.mp executed
    obtain ⟨_, -, same⟩ := bind_eq_ok.mp executed
    cases same
    exact .aside rfl rfl rfl rfl rfl
  | markDeleted key deletedAtMs =>
    obtain ⟨_, -, same⟩ := bind_eq_ok.mp executed
    cases same
    exact .aside rfl rfl rfl rfl rfl
  | createProfile key commandActorId executedAtMs =>
    obtain ⟨_, -, executed⟩ := bind_eq_ok.mp executed
    obtain ⟨_, fresh, same⟩ := bind_eq_ok.mp executed
    cases same
    exact .createProfile rfl (fun old member same => refuseIf_eq_ok.mp fresh ⟨old, member, same⟩) rfl
  | updateProfiles update => exact .updateProfiles (profilesUpdated executed)
  | updateGenerations update => exact .updateGenerations (generationsUpdated executed)
  | authorize row =>
    obtain ⟨_, -, executed⟩ := bind_eq_ok.mp executed
    obtain ⟨_, -, executed⟩ := bind_eq_ok.mp executed
    obtain ⟨_, -, executed⟩ := bind_eq_ok.mp executed
    obtain ⟨_, -, same⟩ := bind_eq_ok.mp executed
    cases same
    exact .aside rfl rfl rfl rfl rfl
  | updateAuthorizations update =>
    obtain ⟨_, -, same⟩ := bind_eq_ok.mp executed
    cases same
    exact .aside rfl rfl rfl rfl rfl
  | addJob row =>
    obtain ⟨_, -, executed⟩ := bind_eq_ok.mp executed
    obtain ⟨_, -, executed⟩ := bind_eq_ok.mp executed
    obtain ⟨_, -, executed⟩ := bind_eq_ok.mp executed
    obtain ⟨_, -, same⟩ := bind_eq_ok.mp executed
    cases same
    exact .aside rfl rfl rfl rfl rfl
  | updateJobs update =>
    obtain ⟨_, -, same⟩ := bind_eq_ok.mp executed
    cases same
    exact .aside rfl rfl rfl rfl rfl
  | elsewhere surroundings =>
    cases executed
    exact .aside rfl rfl rfl rfl rfl

end ProfilePlatform.Catalog
