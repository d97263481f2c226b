import ProfilePlatform.Catalog.Pointer

/-! Retired generations, and the proven generation that stays behind.

An intent keeps its generation out of the pointers, the proofs, the grants and the
jobs from then on. What its admission does not ask is whether the generation it
retains is retired already; where that never happens, the last intent of a profile
always leaves a verified generation with an exact proof.
-/

set_option autoImplicit false

namespace ProfilePlatform.Catalog

open Foundation Database

variable {before after database : Database} {statement : Statement} {key : GenerationKey}

section Frame

/-- The rows of retention stay what they are; a job may end, but stays the job it is. -/
structure KeepsRetention (before after : Database) : Prop where
  intents : after.retirementIntents = before.retirementIntents
  proofs : after.workingProofs = before.workingProofs
  grants : after.deviceAuthorizations = before.deviceAuthorizations
  jobs : ∀ job ∈ after.deviceJobs, ∃ old ∈ before.deviceJobs,
    old.key = job.key ∧ old.generation = job.generation

theorem keepsRetention_of_same (intents : after.retirementIntents = before.retirementIntents)
    (proofs : after.workingProofs = before.workingProofs)
    (grants : after.deviceAuthorizations = before.deviceAuthorizations)
    (jobs : after.deviceJobs = before.deviceJobs) : KeepsRetention before after :=
  ⟨intents, proofs, grants, fun job member => ⟨job, jobs ▸ member, rfl, rfl⟩⟩

theorem Database.Succeeded.keepsRetention {columns : SuccessorColumns}
    (succeeded : Succeeded columns before after) : KeepsRetention before after := by
  obtain ⟨registered, verified, inserted, updated, -, moved, -⟩ := succeeded.writes
  rw [moved.result, updated.result, inserted.result]
  exact keepsRetention_of_same rfl rfl rfl rfl

/-- What an accepted statement does to the rows of retention. -/
inductive Retention (before : Database) : Statement → Database → Prop where
  | aside {statement : Statement} {after : Database} (keeps : KeepsRetention before after)
      (admits : ∀ row, statement ≠ .retire row) : Retention before statement after
  | prove {row : WorkingProofRow} {after : Database} (live : ¬before.Retired row.key)
      (result : after = { before with workingProofs := before.workingProofs ++ [row] }) :
      Retention before (.prove row) after
  | retire {row : RetirementIntentRow} {after : Database}
      (valid : before.validateRetirementIntent row = .ok ()) (checked : row.checked)
      (result : after = { before with retirementIntents := before.retirementIntents ++ [row] }) :
      Retention before (.retire row) after
  | markDeleted {key : GenerationKey} {deletedAtMs : Nat} {after : Database}
      (result : after = { before with
        retirementIntents := Rows.amend (fun row => row.key = key)
          (fun row => { row with deletedAtMs := some deletedAtMs }) before.retirementIntents }) :
      Retention before (.markDeleted key deletedAtMs) after
  | authorize {row : AuthorizationRow} {after : Database} (live : ¬before.Retired row.generation)
      (result : after = { before with
        deviceAuthorizations := before.deviceAuthorizations ++ [row] }) :
      Retention before (.authorize row) after
  | updateAuthorizations {update : AuthorizationUpdate} {after : Database}
      (guarded : ∀ row ∈ before.deviceAuthorizations, update.chosen row → update.setsStatus →
        (update.change row).status = .active → ¬before.Retired (update.change row).generation)
      (result : after = { before with
        deviceAuthorizations := Rows.amend (fun row => update.chosen row) update.change
          before.deviceAuthorizations }) :
      Retention before (.updateAuthorizations update) after
  | addJob {row : DeviceJobRow} {after : Database} (live : ¬before.Retired row.generation)
      (result : after = { before with deviceJobs := before.deviceJobs ++ [row] }) :
      Retention before (.addJob row) after

/-- The commands of the catalog and its direct updates leave retention alone. -/
theorem Writes.keepsRetention (writes : Writes before statement after)
    (catalog : statement.isAside = false) : KeepsRetention before after := by
  cases writes with
  | aside apart _ _ _ _ =>
    rw [apart] at catalog
    cases catalog
  | register inserted =>
    rw [inserted.result]
    exact keepsRetention_of_same rfl rfl rfl rfl
  | verify updated =>
    rw [updated.result]
    exact keepsRetention_of_same rfl rfl rfl rfl
  | quarantine _ _ updated =>
    rw [updated.result]
    exact keepsRetention_of_same rfl rfl rfl rfl
  | activate updated =>
    rw [updated.result]
    exact keepsRetention_of_same rfl rfl rfl rfl
  | deactivate updated =>
    rw [updated.result]
    exact keepsRetention_of_same rfl rfl rfl rfl
  | succeed _ succeeded => exact { succeeded.keepsRetention with }
  | commitDevice _ succeeded terminated =>
    have committed := succeeded.keepsRetention
    obtain ⟨⟨deviceJobs, result⟩, jobs⟩ := jobsUpdated terminated
    refine ⟨?_, ?_, ?_, fun job member => ?_⟩
    · rw [result]
      exact committed.intents
    · rw [result]
      exact committed.proofs
    · rw [result]
      exact committed.grants
    · obtain ⟨middle, known, sameKey, sameGeneration⟩ := jobs job member
      obtain ⟨old, stored, key, generation⟩ := committed.jobs middle known
      exact ⟨old, stored, key.trans sameKey, generation.trans sameGeneration⟩
  | createProfile _ _ result =>
    rw [result]
    exact keepsRetention_of_same rfl rfl rfl rfl
  | updateProfiles updated =>
    rw [updated.result]
    exact keepsRetention_of_same rfl rfl rfl rfl
  | updateGenerations updated =>
    rw [updated.result]
    exact keepsRetention_of_same rfl rfl rfl rfl

theorem retention (executed : before.execute statement = .ok after) :
    Retention before statement after := by
  have kept := fun catalog => (writes executed).keepsRetention catalog
  cases statement with
  | prove row =>
    obtain ⟨_, valid, executed⟩ := bind_eq_ok.mp executed
    obtain ⟨_, -, executed⟩ := bind_eq_ok.mp executed
    obtain ⟨_, -, same⟩ := bind_eq_ok.mp executed
    obtain ⟨_, live, -⟩ := bind_eq_ok.mp valid
    cases same
    exact .prove (refuseIf_eq_ok.mp live) rfl
  | retire row =>
    obtain ⟨_, valid, executed⟩ := bind_eq_ok.mp executed
    obtain ⟨_, checked, executed⟩ := bind_eq_ok.mp executed
    obtain ⟨_, -, same⟩ := bind_eq_ok.mp executed
    cases same
    exact .retire valid (Decidable.not_not.mp (refuseIf_eq_ok.mp checked)) rfl
  | markDeleted key deletedAtMs =>
    obtain ⟨_, written, same⟩ := bind_eq_ok.mp executed
    cases same
    refine .markDeleted ?_
    rw [(Rows.update_eq_ok written).1]
    rfl
  | authorize row =>
    obtain ⟨_, live, executed⟩ := bind_eq_ok.mp executed
    obtain ⟨_, -, executed⟩ := bind_eq_ok.mp executed
    obtain ⟨_, -, executed⟩ := bind_eq_ok.mp executed
    obtain ⟨_, -, same⟩ := bind_eq_ok.mp executed
    cases same
    exact .authorize (refuseIf_eq_ok.mp live) rfl
  | updateAuthorizations update =>
    obtain ⟨_, written, same⟩ := bind_eq_ok.mp executed
    cases same
    obtain ⟨amended, guarded⟩ := Rows.update_eq_ok written
    refine .updateAuthorizations (fun row member chosen sets active retired => ?_)
      (by rw [amended]; rfl)
    obtain ⟨_, passed, -⟩ := bind_eq_ok.mp (guarded row member chosen)
    exact refuseIf_eq_ok.mp passed ⟨sets, active, retired⟩
  | addJob row =>
    obtain ⟨_, live, executed⟩ := bind_eq_ok.mp executed
    obtain ⟨_, -, executed⟩ := bind_eq_ok.mp executed
    obtain ⟨_, -, executed⟩ := bind_eq_ok.mp executed
    obtain ⟨_, -, same⟩ := bind_eq_ok.mp executed
    cases same
    exact .addJob (refuseIf_eq_ok.mp live) rfl
  | updateJobs update =>
    obtain ⟨⟨deviceJobs, result⟩, jobs⟩ := jobsUpdated executed
    cases result
    exact .aside ⟨rfl, rfl, rfl, jobs⟩ nofun
  | elsewhere surroundings =>
    cases executed
    exact .aside (keepsRetention_of_same rfl rfl rfl rfl) nofun
  | _ => exact .aside (kept rfl) nofun

end Frame

section Governed

/-- The statements under which retirement has to keep its promise: every command and every row of
retention, but no quarantine and no direct update of the catalog. -/
def Statement.governed : Statement → Bool
  | .quarantine _ | .updateProfiles _ | .updateGenerations _ => false
  | _ => true

theorem Writes.quarantines (writes : Writes before statement after)
    (governed : statement.governed = true) : after.quarantineCommands = before.quarantineCommands := by
  cases writes with
  | aside _ _ _ _ quarantines => exact quarantines
  | register inserted => rw [inserted.result]
  | verify updated => rw [updated.result]
  | quarantine => exact nomatch governed
  | activate updated => rw [updated.result]
  | deactivate updated => rw [updated.result]
  | succeed _ succeeded =>
    obtain ⟨registered, verified, inserted, updated, -, moved, -⟩ := succeeded.writes
    rw [moved.result, updated.result, inserted.result]
  | commitDevice _ succeeded terminated =>
    obtain ⟨registered, verified, inserted, updated, -, moved, -⟩ := succeeded.writes
    obtain ⟨⟨deviceJobs, result⟩, -⟩ := jobsUpdated terminated
    rw [result, moved.result, updated.result, inserted.result]
  | createProfile _ _ result => rw [result]
  | updateProfiles => exact nomatch governed
  | updateGenerations => exact nomatch governed

theorem Database.ProfilesUpdated.selects {update : ProfileUpdate}
    (updated : ProfilesUpdated update before after) (sets : update.setsActiveGenerationId = true)
    (selects : after.Selects key) : before.Selects key ∨ ¬before.Retired key := by
  obtain ⟨row, member, same, names⟩ := selects
  rw [updated.result] at member
  obtain ⟨old, known, rfl⟩ := Rows.mem_amend.mp member
  by_cases chosen : update.chosen old
  · rw [if_pos chosen] at same names
    have kept := (updated.guarded old known chosen sets).kept key.generationId names
    rw [same] at kept
    exact .inr kept
  · rw [if_neg chosen] at same names
    exact .inl ⟨old, known, same, names⟩

theorem Database.Succeeded.selects {columns : SuccessorColumns}
    (succeeded : Succeeded columns before after) (selects : after.Selects key) :
    before.Selects key ∨ ¬before.Retired key := by
  obtain ⟨registered, verified, inserted, updated, -, moved, -⟩ := succeeded.writes
  have came := moved.selects rfl selects
  rw [updated.result, inserted.result] at came
  exact came

theorem Writes.selects (writes : Writes before statement after)
    (governed : statement.governed = true) (selects : after.Selects key) :
    before.Selects key ∨ ¬before.Retired key := by
  have stayed (profiles : after.profiles = before.profiles) : before.Selects key := by
    obtain ⟨row, member, names⟩ := selects
    exact ⟨row, profiles ▸ member, names⟩
  cases writes with
  | aside _ profiles _ _ _ => exact .inl (stayed profiles)
  | register inserted => exact .inl (stayed (by rw [inserted.result]))
  | verify updated => exact .inl (stayed (by rw [updated.result]))
  | quarantine => exact nomatch governed
  | activate updated => exact updated.selects rfl selects
  | deactivate updated => exact updated.selects rfl selects
  | succeed _ succeeded => exact succeeded.selects selects
  | commitDevice _ succeeded terminated =>
    obtain ⟨⟨deviceJobs, result⟩, -⟩ := jobsUpdated terminated
    rw [result] at selects
    exact succeeded.selects selects
  | createProfile draft _ result =>
    obtain ⟨row, member, same, names⟩ := selects
    rw [result] at member
    rcases List.mem_append.mp member with old | new
    · exact .inl ⟨row, old, same, names⟩
    · cases List.mem_singleton.mp new
      exact nomatch draft.symm.trans names
  | updateProfiles => exact nomatch governed
  | updateGenerations => exact nomatch governed

theorem Database.GenerationInserted.verified {row : GenerationRow}
    (inserted : GenerationInserted row before after) (has : before.HasGeneration key .verified) :
    after.HasGeneration key .verified := by
  refine has.mono ?_
  rw [inserted.result]
  exact List.subset_append_left _ _

theorem Database.Succeeded.verified {columns : SuccessorColumns}
    (succeeded : Succeeded columns before after) (none : before.quarantineCommands = [])
    (has : before.HasGeneration key .verified) : after.HasGeneration key .verified := by
  obtain ⟨registered, verified, inserted, updated, -, moved, -⟩ := succeeded.writes
  have stands := updated.verified (inserted.verified has) (by
    rw [inserted.result, none]
    exact nofun)
  rw [moved.result]
  exact stands

theorem Writes.verified (writes : Writes before statement after)
    (governed : statement.governed = true) (none : before.quarantineCommands = [])
    (has : before.HasGeneration key .verified) : after.HasGeneration key .verified := by
  cases writes with
  | aside _ _ generations _ _ =>
    exact has.mono (by rw [generations]; exact List.Subset.refl _)
  | register inserted => exact inserted.verified has
  | verify updated => exact updated.verified has (by rw [none]; exact nofun)
  | quarantine => exact nomatch governed
  | activate updated =>
    rw [updated.result]
    exact has
  | deactivate updated =>
    rw [updated.result]
    exact has
  | succeed _ succeeded => exact succeeded.verified none has
  | commitDevice _ succeeded terminated =>
    obtain ⟨⟨deviceJobs, result⟩, -⟩ := jobsUpdated terminated
    rw [result]
    exact succeeded.verified none has
  | createProfile _ _ result =>
    rw [result]
    exact has
  | updateProfiles => exact nomatch governed
  | updateGenerations => exact nomatch governed

end Governed

section Admission

variable {row : RetirementIntentRow}

theorem RetirementIntentRow.distinct_of_checked (checked : row.checked) :
    row.key ≠ row.current ∧ row.key ≠ row.retained ∧ row.current ≠ row.retained := by
  simp only [RetirementIntentRow.checked, Bool.and_eq_true, decide_eq_true_eq] at checked
  exact ⟨checked.1.1.2, checked.1.2, checked.2⟩

/-- What the two triggers before an intent let pass. -/
structure Admitted (database : Database) (row : RetirementIntentRow) : Prop where
  observed : database.IsObserved row
  disposable : database.IsDisposable row
  working : database.IsWorking row
  native : ∃ proof ∈ database.workingProofs, proof.key = row.retained ∧ proof.ExactlyNative

theorem admitted (valid : database.validateRetirementIntent row = .ok ()) :
    Admitted database row := by
  obtain ⟨_, exact', valid⟩ := bind_eq_ok.mp valid
  obtain ⟨observed, disposable, working, -⟩ := Decidable.not_not.mp (refuseIf_eq_ok.mp exact')
  exact ⟨observed, disposable, working, Decidable.not_not.mp (refuseIf_eq_ok.mp valid)⟩

theorem Admitted.unselected (admitted : Admitted database row) (checked : row.checked)
    (keyed : Keyed database) : ¬database.Selects row.key := by
  rintro ⟨profile, member, same, names⟩
  obtain ⟨-, other, present, equal, -, observed, -⟩ := admitted.observed
  cases keyed.profiles profile member other present (same.trans equal.symm)
  have current : row.key.generationId = row.observedCurrentGenerationId :=
    Option.some.inj (names.symm.trans observed)
  refine (RetirementIntentRow.distinct_of_checked checked).1 ?_
  simp only [RetirementIntentRow.current, ← current]

theorem Admitted.verified (admitted : Admitted database row) :
    database.HasGeneration row.retained .verified := by
  obtain ⟨-, -, -, -, -, generation, member, same, proven, -⟩ := admitted.working
  exact ⟨generation, member, same, proven.1⟩

end Admission

section Reserve

/-- The generation an intent retires, and the one it retains. -/
def RetirementIntentRow.naming (row : RetirementIntentRow) : GenerationKey × GenerationKey :=
  (row.key, row.retained)

/-- Retired generations are out of use, and what an intent retains was proven and, when the intent
came, retired by none. -/
structure Retains (database : Database) : Prop where
  unquarantined : database.quarantineCommands = []
  unselected : ∀ key, database.Retired key → ¬database.Selects key
  ungranted : ∀ key, database.Retired key → ∀ grant ∈ database.deviceAuthorizations,
    grant.generation = key → grant.status ≠ .active
  working : ∀ row ∈ database.retirementIntents, database.HasGeneration row.retained .verified ∧
    (∃ proof ∈ database.workingProofs, proof.key = row.retained ∧ proof.ExactlyNative) ∧
    row.retained ≠ row.current
  spared : Justified (fun past naming => ∀ other ∈ past ++ [naming], other.1 ≠ naming.2)
    (database.retirementIntents.map RetirementIntentRow.naming)

theorem not_retired_empty : ¬Database.empty.Retired key := by
  rintro ⟨row, member, -⟩
  cases member

theorem retains_empty : Retains .empty :=
  ⟨rfl, fun _ retired => absurd retired not_retired_empty, fun _ retired =>
    absurd retired not_retired_empty, nofun, justified_nil _⟩

theorem Retains.aside (retains : Retains before) (writes : Writes before statement after)
    (governed : statement.governed = true) (keeps : KeepsRetention before after) :
    Retains after where
  unquarantined := (writes.quarantines governed).trans retains.unquarantined
  unselected key retired selects := by
    have was : before.Retired key := by
      obtain ⟨row, member, same⟩ := retired
      exact ⟨row, keeps.intents ▸ member, same⟩
    rcases writes.selects governed selects with selected | live
    · exact retains.unselected key was selected
    · exact live was
  ungranted key retired grant member := by
    obtain ⟨row, stored, same⟩ := retired
    exact retains.ungranted key ⟨row, keeps.intents ▸ stored, same⟩ grant (keeps.grants ▸ member)
  working row member := by
    obtain ⟨verified, ⟨proof, stored, proves⟩, apart⟩ :=
      retains.working row (keeps.intents ▸ member)
    exact ⟨writes.verified governed retains.unquarantined verified,
      ⟨proof, keeps.proofs ▸ stored, proves⟩, apart⟩
  spared := keeps.intents ▸ retains.spared

theorem Retains.retire (retains : Retains before) (keyed : Keyed before) {row : RetirementIntentRow}
    (valid : before.validateRetirementIntent row = .ok ()) (checked : row.checked)
    (spares : ¬before.Retired row.retained) :
    Retains { before with retirementIntents := before.retirementIntents ++ [row] } := by
  have admits := admitted valid
  obtain ⟨-, unretained, uncurrent⟩ := RetirementIntentRow.distinct_of_checked checked
  have known {key : GenerationKey} (retired : Database.Retired
      { before with retirementIntents := before.retirementIntents ++ [row] } key) :
      before.Retired key ∨ key = row.key := by
    obtain ⟨other, member, same⟩ := retired
    rcases List.mem_append.mp member with old | new
    · exact .inl ⟨other, old, same⟩
    · cases List.mem_singleton.mp new
      exact .inr same.symm
  refine ⟨retains.unquarantined, fun key retired => ?_, fun key retired grant stored names => ?_,
    fun other member => ?_, ?_⟩
  · rcases known retired with was | rfl
    · exact retains.unselected key was
    · exact admits.unselected checked keyed
  · rcases known retired with was | rfl
    · exact retains.ungranted key was grant stored names
    · exact admits.disposable.2.1 grant stored names
  · rcases List.mem_append.mp member with old | new
    · exact retains.working other old
    · cases List.mem_singleton.mp new
      exact ⟨admits.verified, admits.native, uncurrent.symm⟩
  · rw [List.map_append]
    refine justified_concat retains.spared fun other member => ?_
    rcases List.mem_append.mp member with old | new
    · obtain ⟨earlier, stored, rfl⟩ := List.mem_map.mp old
      exact fun same => spares ⟨earlier, stored, same⟩
    · cases List.mem_singleton.mp new
      exact unretained

theorem naming_markDeleted (key : GenerationKey) (deletedAtMs : Nat)
    (rows : List RetirementIntentRow) :
    (Rows.amend (fun row => row.key = key)
      (fun row => { row with deletedAtMs := some deletedAtMs }) rows).map RetirementIntentRow.naming =
      rows.map RetirementIntentRow.naming := by
  simp only [Rows.amend, List.map_map]
  refine List.map_congr_left fun row _ => ?_
  simp only [Function.comp_apply]
  split
  · rfl
  · rfl

theorem mem_markDeleted {key : GenerationKey} {deletedAtMs : Nat} {rows : List RetirementIntentRow}
    {row : RetirementIntentRow} (member : row ∈ Rows.amend (fun row => row.key = key)
      (fun row => { row with deletedAtMs := some deletedAtMs }) rows) :
    ∃ old ∈ rows, old.key = row.key ∧ old.retained = row.retained ∧ old.current = row.current := by
  obtain ⟨old, known, rfl⟩ := Rows.mem_amend.mp member
  refine ⟨old, known, ?_⟩
  split
  · exact ⟨rfl, rfl, rfl⟩
  · exact ⟨rfl, rfl, rfl⟩

theorem Retains.markDeleted (retains : Retains before) (key : GenerationKey) (deletedAtMs : Nat) :
    Retains { before with
      retirementIntents := Rows.amend (fun row => row.key = key)
        (fun row => { row with deletedAtMs := some deletedAtMs }) before.retirementIntents } := by
  refine ⟨retains.unquarantined, ?_, ?_, ?_, ?_⟩
  · rintro _ ⟨row, member, rfl⟩
    obtain ⟨old, known, same, -⟩ := mem_markDeleted member
    exact retains.unselected _ ⟨old, known, same⟩
  · rintro _ ⟨row, member, rfl⟩
    obtain ⟨old, known, same, -⟩ := mem_markDeleted member
    exact retains.ungranted _ ⟨old, known, same⟩
  · intro row member
    obtain ⟨old, known, -, retained, current⟩ := mem_markDeleted member
    rw [← retained, ← current]
    exact retains.working old known
  · rw [naming_markDeleted]
    exact retains.spared

theorem Retains.updateAuthorizations (retains : Retains before) {update : AuthorizationUpdate}
    (guarded : ∀ row ∈ before.deviceAuthorizations, update.chosen row → update.setsStatus →
      (update.change row).status = .active → ¬before.Retired (update.change row).generation) :
    Retains { before with
      deviceAuthorizations := Rows.amend (fun row => update.chosen row) update.change
        before.deviceAuthorizations } := by
  refine { retains with ungranted := fun key retired grant member names active => ?_ }
  obtain ⟨row, known, rfl⟩ := Rows.mem_amend.mp member
  by_cases chosen : update.chosen row
  · rw [if_pos chosen] at names active
    cases sets : update.setsStatus with
    | true => exact guarded row known chosen sets active (names ▸ retired)
    | false =>
      have generation : (update.change row).generation = row.generation :=
        congrArg Prod.snd (update.keepsKey row)
      exact retains.ungranted key retired row known (generation.symm.trans names)
        ((update.keepsStatus sets row).symm.trans active)
  · rw [if_neg chosen] at names active
    exact retains.ungranted key retired row known names active

/-- An intent of the statement retains a generation that is not retired. -/
def Statement.Spares (statement : Statement) (database : Database) : Prop :=
  ∀ row, statement = .retire row → ¬database.Retired row.retained

theorem Retains.execute (retains : Retains before) (keyed : Keyed before)
    (governed : statement.governed = true) (spares : statement.Spares before)
    (executed : before.execute statement = .ok after) : Retains after := by
  have wrote := writes executed
  cases retention executed with
  | aside keeps _ => exact retains.aside wrote governed keeps
  | prove live result =>
    rw [result]
    refine { retains with working := fun row member => ?_ }
    obtain ⟨verified, ⟨proof, stored, proves⟩, apart⟩ := retains.working row member
    exact ⟨verified, ⟨proof, List.mem_append_left _ stored, proves⟩, apart⟩
  | retire valid checked result =>
    rw [result]
    exact retains.retire keyed valid checked (spares _ rfl)
  | markDeleted result =>
    rw [result]
    exact retains.markDeleted _ _
  | authorize live result =>
    rw [result]
    refine { retains with ungranted := fun key retired grant member names => ?_ }
    rcases List.mem_append.mp member with old | new
    · exact retains.ungranted key retired grant old names
    · cases List.mem_singleton.mp new
      exact absurd (names ▸ retired) live
  | updateAuthorizations guarded result =>
    rw [result]
    exact retains.updateAuthorizations guarded
  | addJob live result =>
    rw [result]
    exact { retains with }

end Reserve

section Runs

/-- What was retired stays retired, and has no proof, grant or job it did not have. -/
structure StaysOut (before after : Database) : Prop where
  retired : ∀ key, before.Retired key → after.Retired key
  proofs : ∀ key, before.Retired key → ∀ proof ∈ after.workingProofs, proof.key = key →
    proof ∈ before.workingProofs
  grants : ∀ key, before.Retired key → ∀ grant ∈ after.deviceAuthorizations,
    grant.generation = key → ∃ old ∈ before.deviceAuthorizations, old.key = grant.key
  jobs : ∀ key, before.Retired key → ∀ job ∈ after.deviceJobs, job.generation = key →
    ∃ old ∈ before.deviceJobs, old.key = job.key ∧ old.generation = job.generation

theorem KeepsRetention.staysOut (keeps : KeepsRetention before after) : StaysOut before after where
  retired key := by
    rintro ⟨row, member, same⟩
    exact ⟨row, keeps.intents ▸ member, same⟩
  proofs _ _ proof member _ := keeps.proofs ▸ member
  grants _ _ grant member _ := ⟨grant, keeps.grants ▸ member, rfl⟩
  jobs _ _ job member _ := keeps.jobs job member

theorem staysOut_refl (database : Database) : StaysOut database database :=
  (keepsRetention_of_same rfl rfl rfl rfl).staysOut

theorem Retention.staysOut (retention : Retention before statement after) :
    StaysOut before after := by
  cases retention with
  | aside keeps _ => exact keeps.staysOut
  | prove live result =>
    rw [result]
    refine { staysOut_refl before with proofs := fun key retired proof member names => ?_ }
    rcases List.mem_append.mp member with old | new
    · exact old
    · cases List.mem_singleton.mp new
      exact absurd (names ▸ retired) live
  | retire valid checked result =>
    rw [result]
    refine { staysOut_refl before with retired := fun key => ?_ }
    rintro ⟨row, member, same⟩
    exact ⟨row, List.mem_append_left _ member, same⟩
  | markDeleted result =>
    rw [result]
    refine { staysOut_refl before with retired := fun key => ?_ }
    rintro ⟨row, member, rfl⟩
    refine ⟨_, Rows.mem_amend.mpr ⟨row, member, rfl⟩, ?_⟩
    split
    · rfl
    · rfl
  | authorize live result =>
    rw [result]
    refine { staysOut_refl before with grants := fun key retired grant member names => ?_ }
    rcases List.mem_append.mp member with old | new
    · exact ⟨grant, old, rfl⟩
    · cases List.mem_singleton.mp new
      exact absurd (names ▸ retired) live
  | updateAuthorizations guarded result =>
    rw [result]
    refine { staysOut_refl before with grants := fun key retired grant member names => ?_ }
    obtain ⟨row, known, rfl⟩ := Rows.mem_amend.mp member
    refine ⟨row, known, ?_⟩
    split
    · exact (AuthorizationUpdate.keepsKey _ row).symm
    · rfl
  | addJob live result =>
    rw [result]
    refine { staysOut_refl before with jobs := fun key retired job member names => ?_ }
    rcases List.mem_append.mp member with old | new
    · exact ⟨job, old, rfl, rfl⟩
    · cases List.mem_singleton.mp new
      exact absurd (names ▸ retired) live

/-- The intent that last retired a generation of the profile. -/
def Database.lastIntent (database : Database) (profile : ProfileKey) : Option RetirementIntentRow :=
  (database.retirementIntents.filter fun row => row.key.profile = profile).getLast?

/-- A profile with an intent has, besides the generation that was current at its last one, a
verified generation with an exact proof that no intent retires. -/
def Database.ReserveKept (database : Database) : Prop :=
  ∀ profile row, database.lastIntent profile = some row →
    ∃ generation ∈ database.generations, ∃ proof ∈ database.workingProofs,
      generation.key.profile = profile ∧ generation.status = .verified ∧
      proof.key = generation.key ∧ proof.ExactlyNative ∧ ¬database.Retired generation.key ∧
      generation.key ≠ row.current

theorem last_of_filter {R : Type} {chosen : R → Bool} {rows : List R} {row : R}
    (last : (rows.filter chosen).getLast? = some row) :
    ∃ past future, rows = past ++ row :: future ∧ chosen row ∧
      ∀ other ∈ future, chosen other = false := by
  obtain ⟨earlier, split⟩ := List.getLast?_eq_some_iff.mp last
  obtain ⟨front, back, rfl, -, tail⟩ := List.filter_eq_append_iff.mp split
  obtain ⟨skipped, future, rfl, -, holds, none⟩ := List.filter_eq_cons_iff.mp tail
  refine ⟨front ++ skipped, future, by simp, holds, fun other member => ?_⟩
  simpa using List.filter_eq_nil_iff.mp none other member

theorem Retains.reserveKept (retains : Retains database) : database.ReserveKept := by
  intro profile row last
  obtain ⟨past, future, split, same, others⟩ := last_of_filter last
  have same : row.key.profile = profile := by simpa using same
  obtain ⟨⟨generation, member, names, verified⟩, ⟨proof, stored, proves, native⟩, apart⟩ :=
    retains.working row (by rw [split]; simp)
  refine ⟨generation, member, proof, stored, by rw [names]; exact same, verified,
    proves.trans names.symm, native, ?_, names ▸ apart⟩
  rintro ⟨other, retired, names'⟩
  rw [names] at names'
  have spared := retains.spared (past.map RetirementIntentRow.naming) row.naming
    (future.map RetirementIntentRow.naming) (by rw [split]; simp)
  rw [split] at retired
  rcases List.mem_append.mp retired with before | later
  · exact spared _ (List.mem_append_left _ (List.mem_map_of_mem before)) names'
  · rcases List.mem_cons.mp later with rfl | after
    · exact spared _ (List.mem_append_right _ (List.mem_singleton.mpr rfl)) names'
    · have foreign : other.key.profile ≠ profile := by simpa using others other after
      exact foreign (by rw [names']; exact same)

/-- What each step of a run owes the retired generations and the ones left. -/
structure RetirementLaw (entry : StatementEntry) : Prop where
  inactive : ∀ key, entry.after.Retired key → ¬entry.after.Selects key
  ungranted : ∀ key, entry.after.Retired key → ∀ grant ∈ entry.after.deviceAuthorizations,
    grant.generation = key → grant.status ≠ .active
  staysOut : StaysOut entry.before entry.after
  admits : ∀ row, entry.input = .retire row → entry.output = .ok () →
    ¬entry.before.Selects row.key ∧ ¬entry.before.Retired row.retained
  reserve : entry.after.ReserveKept

/-- Every accepted intent retains a generation that is not retired. -/
def SparingRun (history : List StatementEntry) : Prop :=
  ∀ entry ∈ history, entry.output = .ok () → entry.input.Spares entry.before

/-- What a sparing run has shown so far. -/
def RetainedSoFar (past : List StatementEntry) (database : Database) : Prop :=
  Keyed database ∧ ((∀ entry ∈ past, entry.input.governed = true) → SparingRun past →
    Retains database ∧ ∀ entry ∈ past, RetirementLaw entry)

theorem retainedSoFar_empty : RetainedSoFar [] .empty := by
  refine ⟨keyed_empty, fun _ _ => ⟨retains_empty, fun entry member => ?_⟩⟩
  cases member

theorem retirementLaw_step (statement : Statement) (keyed : Keyed database)
    (retains : Retains database) (governed : statement.governed = true)
    (spares : (databases.entry database statement).output = .ok () → statement.Spares database) :
    Retains (databases.step database statement).2 ∧
      RetirementLaw (databases.entry database statement) := by
  simp only [Machine.entry] at spares ⊢
  cases executed : database.execute statement with
  | ok after =>
    have step : databases.step database statement = (.ok (), after) := by
      simp only [databases, executed]
    rw [step] at spares ⊢
    have next := retains.execute keyed governed (spares rfl) executed
    refine ⟨next, next.unselected, next.ungranted, (retention executed).staysOut, ?_,
      next.reserveKept⟩
    rintro row rfl -
    cases retention executed with
    | aside _ admits => exact absurd rfl (admits row)
    | retire valid checked _ =>
      exact ⟨(admitted valid).unselected checked keyed, spares rfl row rfl⟩
  | error why =>
    have step : databases.step database statement = (.error why, database) := by
      simp only [databases, executed]
    rw [step]
    refine ⟨retains, retains.unselected, retains.ungranted, staysOut_refl _, ?_,
      retains.reserveKept⟩
    rintro row rfl impossible
    cases impossible

theorem retainedSoFar_step (past : List StatementEntry) (database : Database)
    (statement : Statement) (soFar : RetainedSoFar past database) :
    RetainedSoFar (past ++ [databases.entry database statement])
      (databases.step database statement).2 := by
  obtain ⟨keyed, laws⟩ := soFar
  refine ⟨keyed_step statement keyed, fun governed sparing => ?_⟩
  obtain ⟨retains, before⟩ := laws (fun entry member => governed entry (List.mem_append_left _ member))
    fun entry member => sparing entry (List.mem_append_left _ member)
  have last : databases.entry database statement ∈ past ++ [databases.entry database statement] :=
    List.mem_append_right _ (List.mem_singleton.mpr rfl)
  obtain ⟨next, law⟩ := retirementLaw_step statement keyed retains (governed _ last) (sparing _ last)
  refine ⟨next, fun entry member => ?_⟩
  rcases List.mem_append.mp member with old | new
  · exact before entry old
  · cases List.mem_singleton.mp new
    exact law

theorem retainedSoFar_run (statements : List Statement) :
    RetainedSoFar (databases.history .empty statements) (databases.final .empty statements) :=
  databases.history_invariant RetainedSoFar retainedSoFar_empty retainedSoFar_step statements

/-- Where every admitted intent retains a generation that is not retired, retirement never gives up
the last proven generation of a profile. -/
theorem last_proof_kept (statements : List Statement)
    (governed : ∀ statement ∈ statements, statement.governed = true)
    (sparing : SparingRun (databases.history .empty statements)) :
    ∀ entry ∈ databases.history .empty statements, RetirementLaw entry := by
  have runs := (retainedSoFar_run statements).2 (fun entry member =>
    governed _ (Machine.input_mem_of_mem_history _ member)) sparing
  exact runs.2

end Runs

namespace SampleCatalog

def second : GenerationId := ⟨⟨"generation-second", by decide⟩⟩
def third : GenerationId := ⟨⟨"generation-third", by decide⟩⟩

def successor (base generation : GenerationId) (version now : Nat) : SuccessorCommandRow :=
  { commandActorId := owner, deviceId := device, profile, baseGenerationId := base
    generationId := generation, objectKey := (ofProfile generation).canonicalObjectKey
    metadataDigest := digest, containerDigest := digest, containerBytes := 4096
    expectedProfileVersion := version, coordinatorSessionId := session
    coordinatorFencingTokenDigest := digest, coordinatorEpoch := 1, coordinatorVersion := 3
    coordinatorSequence := 2, executedAtMs := now, authorityKind := .interactiveLaunch }

def grant (generation : GenerationId) (now : Nat) : AuthorizationRow :=
  ⟨device, ofProfile generation, 1, .active, "evidence-0001", owner, owner, now, now, none⟩

def proof (generation current : GenerationId) (now : Nat) : WorkingProofRow :=
  ⟨ofProfile generation, current, digest, digest, "rootkey-0001", digest, owner, device, session, 1,
    now, some digest, some digest⟩

def intent (generation current retained : GenerationId) (now : Nat) : RetirementIntentRow :=
  ⟨ofProfile generation, current, retained, 4, (ofProfile generation).canonicalObjectKey, digest,
    digest, digest, owner, device, session, 1, now, none⟩

/-- Releases the grants on all generations but one. -/
def release (current : GenerationId) (now : Nat) : AuthorizationUpdate where
  chosen row := row.generation ≠ ofProfile current
  setsStatus := true
  change row := { row with
    status := .revoked, version := row.version + 1, updatedAtMs := now, revokedAtMs := some now }
  keepsKey _ := rfl
  keepsStatus unset := nomatch unset

/-- Two successors follow the first generation, each base is proven under its successor, and the
first generation is retired in favour of the second. -/
def retired : List Statement :=
  activated ++ [.authorize (grant first 13), .succeed (successor first second 2 14),
    .prove (proof first second 15), .authorize (grant second 16),
    .succeed (successor second third 3 17), .prove (proof second third 18),
    .authorize (grant third 19), .updateAuthorizations (release third 20),
    .retire (intent first third second 21)]

/-- Then the second is retired in favour of the first, which is retired itself. -/
def exchanged : List Statement := retired ++ [.retire (intent second third first 22)]

end SampleCatalog

open SampleCatalog in
/-- Both proven generations of a profile are retired, each in favour of the other. -/
theorem reserve_exchanged :
    (∀ statement ∈ exchanged, statement.governed = true) ∧
      (∀ entry ∈ databases.history .empty exchanged, entry.output = .ok ()) ∧
      ¬(databases.final .empty exchanged).ReserveKept := by
  refine ⟨by decide +kernel, by decide +kernel, fun kept => ?_⟩
  obtain ⟨generation, member, proof, stored, -, -, proves, -, live, -⟩ :=
    kept profile (intent second third first 22) (by decide +kernel)
  have retired : ∀ generation ∈ (databases.final .empty exchanged).generations,
      ∀ proof ∈ (databases.final .empty exchanged).workingProofs, proof.key = generation.key →
        (databases.final .empty exchanged).Retired generation.key := by decide +kernel
  exact live (retired generation member proof stored proves)

instance (statement : Statement) (database : Database) : Decidable (statement.Spares database) :=
  match statement with
  | .retire row => decidable_of_iff (¬database.Retired row.retained)
      ⟨fun live _ same => (Statement.retire.inj same) ▸ live, fun spares => spares row rfl⟩
  | .register _ | .verify _ | .activate _ | .quarantine _ | .deactivate _ | .succeed _
  | .commitDevice _ | .prove _ | .markDeleted .. | .createProfile .. | .updateProfiles _
  | .updateGenerations _ | .authorize _ | .updateAuthorizations _ | .addJob _ | .updateJobs _
  | .elsewhere _ => isTrue nofun

open SampleCatalog in
theorem last_proof_kept_retired :
    (∀ statement ∈ retired, statement.governed = true) ∧
      ∀ entry ∈ databases.history .empty retired, RetirementLaw entry :=
  ⟨by decide +kernel,
    last_proof_kept retired (by decide +kernel) (by unfold SparingRun; decide +kernel)⟩

end ProfilePlatform.Catalog
