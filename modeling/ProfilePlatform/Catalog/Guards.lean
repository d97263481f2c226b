import ProfilePlatform.Catalog.Database

/-! Device authorizations and device jobs, as far as retired generations guard them.

Updates never move a row to another device, job or generation: the components that
own the two tables amend the other columns only.
-/

set_option autoImplicit false

namespace ProfilePlatform.Catalog

open Foundation

structure AuthorizationUpdate where
  chosen : AuthorizationRow → Bool
  setsStatus : Bool
  change : AuthorizationRow → AuthorizationRow
  keepsKey : ∀ row, (change row).key = row.key
  keepsStatus : setsStatus = false → ∀ row, (change row).status = row.status

structure DeviceJobUpdate where
  chosen : DeviceJobRow → Bool
  change : DeviceJobRow → DeviceJobRow
  keepsJob : ∀ row, (change row).jobId = row.jobId
  keepsGeneration : ∀ row, (change row).generation = row.generation

namespace Database

/-- `profile_generation_retired_device_grant_forbidden` before the row is there. -/
def insertAuthorization (self : Database) (row : AuthorizationRow) : Except Refusal Database := do
  refuseIf (self.Retired row.generation) (.abort "retired_generation_cannot_be_authorized")
  refuseIf (¬row.checked) .check
  refuseIf (∃ old ∈ self.deviceAuthorizations, old.key = row.key) .unique
  refuseIf (¬∃ generation ∈ self.generations, generation.key = row.generation) .foreignKey
  return { self with deviceAuthorizations := self.deviceAuthorizations ++ [row] }

/-- `profile_generation_retired_device_regrant_forbidden` and the checks. -/
def guardAuthorization (self : Database) (update : AuthorizationUpdate)
    (_old new : AuthorizationRow) : Except Refusal Unit := do
  refuseIf (update.setsStatus ∧ new.status = .active ∧ self.Retired new.generation)
    (.abort "retired_generation_cannot_be_authorized")
  refuseIf (¬new.checked) .check

def updateAuthorizations (self : Database) (update : AuthorizationUpdate) :
    Except Refusal Database := do
  let deviceAuthorizations ← Rows.update (fun row => update.chosen row) update.change
    (self.guardAuthorization update) (fun other new => other.key = new.key) .unique []
    self.deviceAuthorizations
  return { self with deviceAuthorizations }

/-- `profile_generation_retired_device_job_forbidden` before the row is there. -/
def insertDeviceJob (self : Database) (row : DeviceJobRow) : Except Refusal Database := do
  refuseIf (self.Retired row.generation) (.abort "retired_generation_cannot_be_job_target")
  refuseIf (¬row.checked) .check
  refuseIf (∃ old ∈ self.deviceJobs, old.key = row.key) .unique
  refuseIf (¬∃ grant ∈ self.deviceAuthorizations, grant.key = (row.deviceId, row.generation))
    .foreignKey
  return { self with deviceJobs := self.deviceJobs ++ [row] }

def updateDeviceJobs (self : Database) (update : DeviceJobUpdate) : Except Refusal Database := do
  let deviceJobs ← Rows.update (fun row => update.chosen row) update.change
    (fun _ new => refuseIf (¬new.checked) .check) (fun other new => other.key = new.key) .unique []
    self.deviceJobs
  return { self with deviceJobs }

end Database

/-! The guards of the two catalog tables: what a write of a profile or of a generation has to show.

The triggers are those in force after the last migration. Every write goes through
them, the ones of the governed commands as well as a direct update. A guard of an
update only fires when the statement sets the column it watches.
-/

/-- An update of `browser_profiles`: the rows it is about, the two watched columns it sets, and
the values it gives. -/
structure ProfileUpdate where
  chosen : ProfileRow → Bool
  setsStatus : Bool
  setsActiveGenerationId : Bool
  change : ProfileRow → ProfileRow
  keepsStatus : setsStatus = false → ∀ row, (change row).status = row.status
  keepsActiveGenerationId : setsActiveGenerationId = false →
    ∀ row, (change row).activeGenerationId = row.activeGenerationId

/-- An update of `profile_generations`. -/
structure GenerationUpdate where
  chosen : GenerationRow → Bool
  change : GenerationRow → GenerationRow

namespace Database

section Profiles

/-- Some command of the journal moves the profile to the new row's pointer. -/
def Activates (self : Database) (old new : ProfileRow) (generationId : GenerationId) : Prop :=
  (∃ command ∈ self.activateCommands, command.key = ⟨new.key, generationId⟩ ∧
    command.expectedProfileVersion = old.version ∧
    command.commandActorId = new.updatedByActorId ∧ command.executedAtMs = new.updatedAtMs ∧
    new.version = old.version + 1) ∨
  ∃ command ∈ self.successorCommands, command.candidate = ⟨new.key, generationId⟩ ∧
    some command.baseGenerationId = old.activeGenerationId ∧
    command.expectedProfileVersion = old.version ∧
    command.commandActorId = new.updatedByActorId ∧ command.executedAtMs = new.updatedAtMs ∧
    new.version = old.version + 1

/-- Some command deactivates the generation the old row names. It says nothing of the version the
new row has. -/
def Deactivates (self : Database) (old new : ProfileRow) : Prop :=
  ∃ command ∈ self.deactivateCommands, command.key.profile = old.key ∧
    some command.key.generationId = old.activeGenerationId ∧
    command.expectedProfileVersion = old.version ∧
    command.commandActorId = new.updatedByActorId ∧ command.executedAtMs = new.updatedAtMs

instance (self : Database) (old new : ProfileRow) (generationId : GenerationId) :
    Decidable (self.Activates old new generationId) := inferInstanceAs (Decidable (_ ∨ _))

instance (self : Database) (old new : ProfileRow) : Decidable (self.Deactivates old new) :=
  inferInstanceAs (Decidable (∃ _ ∈ _, _))

/-- `profile_generation_deactivation_requires_command`, and for a pointer that names a generation
`profile_active_generation_update_must_be_verified`, `profile_generation_activation_requires_command`
and `profile_generation_retired_current_pointer_forbidden`. -/
def guardPointer (self : Database) (old new : ProfileRow) : Except Refusal Unit :=
  match new.activeGenerationId with
  | none =>
    refuseIf (old.activeGenerationId ≠ none ∧ ¬self.Deactivates old new)
      (.abort "profile_generation_deactivation_not_governed")
  | some generationId => do
    refuseIf (¬self.HasGeneration ⟨new.key, generationId⟩ .verified)
      (.abort "active_profile_generation_not_verified")
    refuseIf (old.activeGenerationId ≠ some generationId ∧ ¬self.Activates old new generationId)
      (.abort "profile_generation_activation_not_governed")
    refuseIf (self.Retired ⟨new.key, generationId⟩) (.abort "retired_generation_cannot_be_current")

/-- `live_profile_update_requires_active_generation`, the guards of the pointer, and the checks. -/
def guardProfile (self : Database) (update : ProfileUpdate) (old new : ProfileRow) :
    Except Refusal Unit := do
  refuseIf ((update.setsStatus || update.setsActiveGenerationId) ∧ new.status.isLive ∧
    new.activeGenerationId = none) (.abort "live_profile_requires_active_generation")
  if update.setsActiveGenerationId then self.guardPointer old new
  refuseIf (¬new.Checked) .check

/-- An update of profiles. The generations still have to find their profile when it is done. -/
def updateProfiles (self : Database) (update : ProfileUpdate) : Except Refusal Database := do
  let profiles ← Rows.update (fun row => update.chosen row) update.change
    (self.guardProfile update) (fun other new => other.key = new.key) .unique [] self.profiles
  refuseIf (¬∀ generation ∈ self.generations,
    ∃ profile ∈ profiles, profile.key = generation.key.profile) .foreignKey
  return { self with profiles }

/-- `profile_create_command_validate` and `_apply`. A draft without a pointer is no concern of the
guards on insertion. -/
def createProfile (self : Database) (key : ProfileKey) (commandActorId : ActorId)
    (executedAtMs : Nat) : Except Refusal Database := do
  refuseIf (¬self.surroundings.IsOwner key.tenantId commandActorId)
    (.abort "profile_create_owner_required")
  refuseIf (∃ old ∈ self.profiles, old.key = key) .unique
  let row : ProfileRow :=
    { key, status := .draft, activeGenerationId := none, version := 1
      createdByActorId := commandActorId, updatedByActorId := commandActorId
      createdAtMs := executedAtMs, updatedAtMs := executedAtMs }
  return { self with profiles := self.profiles ++ [row] }

end Profiles

section Generations

/-- Some register command or successor command stands behind the new row. -/
def Registers (self : Database) (row : GenerationRow) : Prop :=
  (∃ command ∈ self.registerCommands, command.key = row.key ∧ command.objectKey = row.objectKey ∧
    command.metadataDigest = row.metadataDigest ∧ command.containerDigest = row.containerDigest ∧
    command.commandActorId = row.registeredByActorId ∧ command.executedAtMs = row.createdAtMs) ∨
  ∃ command ∈ self.successorCommands, command.candidate = row.key ∧
    command.objectKey = row.objectKey ∧ command.metadataDigest = row.metadataDigest ∧
    command.containerDigest = row.containerDigest ∧
    command.commandActorId = row.registeredByActorId ∧ command.executedAtMs = row.createdAtMs

/-- Some verify, quarantine or successor command stands behind the new status. -/
def Transitions (self : Database) (old new : GenerationRow) : Prop :=
  (∃ command ∈ self.verifyCommands, command.key = old.key ∧
    command.expectedGenerationVersion = old.version ∧
    some command.verificationReference = new.verificationReference ∧
    some command.commandActorId = new.verifiedByActorId ∧ command.executedAtMs = new.updatedAtMs ∧
    old.status = .registered ∧ new.status = .verified ∧ new.version = old.version + 1) ∨
  (∃ command ∈ self.quarantineCommands, command.key = old.key ∧
    command.expectedGenerationVersion = old.version ∧
    some command.commandActorId = new.quarantinedByActorId ∧
    command.executedAtMs = new.updatedAtMs ∧ old.status ∈ [.registered, .verified] ∧
    new.status = .quarantined ∧ new.version = old.version + 1) ∨
  ∃ command ∈ self.successorCommands, command.candidate = old.key ∧
    some command.commandActorId = new.verifiedByActorId ∧
    new.verificationReference = some command.reference ∧ command.executedAtMs = new.updatedAtMs ∧
    old.status = .registered ∧ old.version = 1 ∧ new.status = .verified ∧ new.version = 2

instance (self : Database) (row : GenerationRow) : Decidable (self.Registers row) :=
  inferInstanceAs (Decidable (_ ∨ _))

instance (self : Database) (old new : GenerationRow) : Decidable (self.Transitions old new) :=
  inferInstanceAs (Decidable (_ ∨ _ ∨ _))

/-- `profile_generation_immutable_identity`, `profile_generation_object_key_rejects_backslash_update`
and `profile_generation_transition_requires_command`, which only looks at a change of the status. -/
def guardGeneration (self : Database) (old new : GenerationRow) : Except Refusal Unit := do
  refuseIf (new.identity ≠ old.identity)
    (.abort "profile_generation_identity_immutable")
  refuseIf (hasBackslash new.objectKey) (.abort "invalid_profile_generation_object_key")
  refuseIf (new.status ≠ old.status ∧ ¬self.Transitions old new)
    (.abort "profile_generation_transition_not_governed")
  refuseIf (¬new.checked) .check

def updateGenerations (self : Database) (update : GenerationUpdate) : Except Refusal Database := do
  let generations ← Rows.update (fun row => update.chosen row) update.change self.guardGeneration
    GenerationRow.Clashes .unique [] self.generations
  return { self with generations }

/-- `profile_generation_insert_requires_register_command` and
`profile_generation_object_key_rejects_backslash_insert` before the row is there. -/
def insertGeneration (self : Database) (row : GenerationRow) : Except Refusal Database := do
  refuseIf (¬self.Registers row) (.abort "profile_generation_insert_not_governed")
  refuseIf (hasBackslash row.objectKey) (.abort "invalid_profile_generation_object_key")
  refuseIf (¬row.checked) .check
  refuseIf (∃ old ∈ self.generations, old.Clashes row) .unique
  refuseIf (¬∃ profile ∈ self.profiles, profile.key = row.key.profile) .foreignKey
  return { self with generations := self.generations ++ [row] }

end Generations

end Database

end ProfilePlatform.Catalog
