import ProfilePlatform.Catalog.Guards

/-! The register, verify, activate, quarantine and deactivate commands.

A command is a row: the trigger before it validates the row against the catalog,
and the trigger after it applies the command, through the guards of the catalog's
tables. A command that is refused leaves nothing behind.
-/

set_option autoImplicit false

namespace ProfilePlatform.Catalog

open Foundation

/-- The update that a command applies to the pointer of one profile. -/
def ProfileUpdate.pointer (profile : ProfileKey) (activeGenerationId : Option GenerationId)
    (status : ProfileStatus) (actorId : ActorId) (executedAtMs : Nat) : ProfileUpdate where
  chosen row := row.key = profile
  setsStatus := true
  setsActiveGenerationId := true
  change row := { row with
    activeGenerationId, status
    version := row.version + 1
    updatedByActorId := actorId
    updatedAtMs := executedAtMs }
  keepsStatus unset := nomatch unset
  keepsActiveGenerationId unset := nomatch unset

/-- The generation a register command brings into the catalog. -/
def RegisterCommandRow.registered (row : RegisterCommandRow) : GenerationRow where
  key := row.key
  objectKey := row.objectKey
  metadataDigest := row.metadataDigest
  containerDigest := row.containerDigest
  status := .registered
  version := 1
  verificationReference := none
  registeredByActorId := row.commandActorId
  verifiedByActorId := none
  quarantinedByActorId := none
  createdAtMs := row.executedAtMs
  updatedAtMs := row.executedAtMs
  verifiedAtMs := none
  quarantinedAtMs := none

def VerifyCommandRow.verification (row : VerifyCommandRow) : GenerationUpdate where
  chosen generation := generation.key = row.key
  change generation := { generation with
    status := .verified
    version := generation.version + 1
    verificationReference := some row.verificationReference
    verifiedByActorId := some row.commandActorId
    verifiedAtMs := some row.executedAtMs
    updatedAtMs := row.executedAtMs }

def QuarantineCommandRow.quarantine (row : QuarantineCommandRow) : GenerationUpdate where
  chosen generation := generation.key = row.key
  change generation := { generation with
    status := .quarantined
    version := generation.version + 1
    quarantinedByActorId := some row.commandActorId
    quarantinedAtMs := some row.executedAtMs
    updatedAtMs := row.executedAtMs }

def PointerCommandRow.activation (row : PointerCommandRow) : ProfileUpdate :=
  .pointer row.key.profile (some row.key.generationId) .ready row.commandActorId row.executedAtMs

def PointerCommandRow.deactivation (row : PointerCommandRow) : ProfileUpdate :=
  .pointer row.key.profile none .suspended row.commandActorId row.executedAtMs

namespace Database

/-- The command's time lies before the last change of the profile. -/
def RegressesProfile (self : Database) (key : ProfileKey) (executedAtMs : Nat) : Prop :=
  ∃ profile ∈ self.profiles, profile.key = key ∧ executedAtMs < profile.updatedAtMs

/-- The command's time lies before the last change of the generation. -/
def RegressesGeneration (self : Database) (key : GenerationKey) (executedAtMs : Nat) : Prop :=
  ∃ generation ∈ self.generations, generation.key = key ∧ executedAtMs < generation.updatedAtMs

instance (self : Database) (key : ProfileKey) (executedAtMs : Nat) :
    Decidable (self.RegressesProfile key executedAtMs) := inferInstanceAs (Decidable (∃ _ ∈ _, _))

instance (self : Database) (key : GenerationKey) (executedAtMs : Nat) :
    Decidable (self.RegressesGeneration key executedAtMs) :=
  inferInstanceAs (Decidable (∃ _ ∈ _, _))

/-- A profile that has not been prepared yet, at the version its first preparation expects. -/
def IsDraftAt (self : Database) (key : ProfileKey) (expectedVersion : Option Nat) : Prop :=
  ∃ profile ∈ self.profiles, profile.key = key ∧ profile.status = .draft ∧
    profile.activeGenerationId = none ∧ some profile.version = expectedVersion

/-- The actor operates the profile from a device it is bound to. -/
def MayPrepare (self : Database) (profile : ProfileKey) (actorId : ActorId) (deviceId : DeviceId) :
    Prop :=
  self.surroundings.IsOperator profile actorId ∧
    self.surroundings.IsBound profile.tenantId actorId deviceId ∧
    ∃ row ∈ self.profiles, row.key = profile

instance (self : Database) (key : ProfileKey) (expectedVersion : Option Nat) :
    Decidable (self.IsDraftAt key expectedVersion) := inferInstanceAs (Decidable (∃ _ ∈ _, _))

instance (self : Database) (profile : ProfileKey) (actorId : ActorId) (deviceId : DeviceId) :
    Decidable (self.MayPrepare profile actorId deviceId) := inferInstanceAs (Decidable (_ ∧ _ ∧ _))

/-- The command belongs to a first preparation that its own register command began. -/
def ContinuesPreparation (self : Database) (commandId : String) (actorId : ActorId)
    (key : GenerationKey) (executedAtMs : Nat) : Prop :=
  ∃ registration ∈ self.registerCommands, registration.key = key ∧
    registration.commandId = commandId ∧ registration.commandActorId = actorId ∧
    registration.executedAtMs = executedAtMs ∧
    (registration.initialDeviceId.any fun deviceId =>
      decide (self.MayPrepare key.profile actorId deviceId)) ∧
    self.IsDraftAt key.profile registration.initialExpectedProfileVersion

instance (self : Database) (commandId : String) (actorId : ActorId) (key : GenerationKey)
    (executedAtMs : Nat) : Decidable (self.ContinuesPreparation commandId actorId key executedAtMs) :=
  inferInstanceAs (Decidable (∃ _ ∈ _, _))

section Register

def validateRegister (self : Database) (row : RegisterCommandRow) : Except Refusal Unit := do
  refuseIf (row.initialDeviceId = none ∧
      ¬self.surroundings.IsOwner row.key.profile.tenantId row.commandActorId)
    (.abort "profile_generation_register_owner_required")
  refuseIf (row.initialDeviceId.isNone ≠ row.initialExpectedProfileVersion.isNone)
    (.abort "profile_generation_initialization_invalid_state")
  refuseIf (row.initialDeviceId.any fun deviceId =>
      ¬self.MayPrepare row.key.profile row.commandActorId deviceId)
    (.abort "profile_generation_initialization_access_required")
  refuseIf (row.initialDeviceId.isSome ∧
      ¬self.IsDraftAt row.key.profile row.initialExpectedProfileVersion)
    (.abort "profile_generation_initialization_state_mismatch")
  refuseIf (¬∃ profile ∈ self.profiles, profile.key = row.key.profile ∧ profile.status ≠ .deleted)
    (.abort "profile_generation_register_profile_missing")
  refuseIf (self.RegressesProfile row.key.profile row.executedAtMs)
    (.abort "profile_generation_time_regression")

def insertRegisterCommand (self : Database) (row : RegisterCommandRow) :
    Except Refusal Database := do
  self.validateRegister row
  refuseIf (row.initialExpectedProfileVersion.any (· < 1)) .check
  refuseIf (∃ old ∈ self.registerCommands,
    old.key.profile.tenantId = row.key.profile.tenantId ∧ old.commandId = row.commandId) .unique
  { self with registerCommands := self.registerCommands ++ [row] }.insertGeneration
    row.registered

end Register

section Verify

def validateVerify (self : Database) (row : VerifyCommandRow) : Except Refusal Unit := do
  refuseIf (¬self.surroundings.IsOwner row.key.profile.tenantId row.commandActorId ∧
      ¬self.ContinuesPreparation row.commandId row.commandActorId row.key row.executedAtMs)
    (.abort "profile_generation_verify_owner_required")
  refuseIf (self.RegressesGeneration row.key row.executedAtMs)
    (.abort "profile_generation_time_regression")
  refuseIf (¬∃ generation ∈ self.generations, generation.key = row.key ∧
      generation.status = .registered ∧ generation.version = row.expectedGenerationVersion)
    (.abort "profile_generation_verify_state_mismatch")

def insertVerifyCommand (self : Database) (row : VerifyCommandRow) : Except Refusal Database := do
  self.validateVerify row
  refuseIf (row.expectedGenerationVersion < 1) .check
  refuseIf (∃ old ∈ self.verifyCommands,
    old.key.profile.tenantId = row.key.profile.tenantId ∧ old.commandId = row.commandId) .unique
  { self with verifyCommands := self.verifyCommands ++ [row] }.updateGenerations row.verification

end Verify

section Activate

def validateActivate (self : Database) (row : PointerCommandRow) : Except Refusal Unit := do
  refuseIf (self.Retired row.key) (.abort "retired_generation_cannot_be_activated")
  refuseIf (¬self.surroundings.IsOwner row.key.profile.tenantId row.commandActorId ∧
      ¬self.ContinuesPreparation row.commandId row.commandActorId row.key row.executedAtMs)
    (.abort "profile_generation_activate_owner_required")
  refuseIf (∃ registration ∈ self.registerCommands,
      registration.key.profile.tenantId = row.key.profile.tenantId ∧
      registration.commandId = row.commandId ∧ registration.initialDeviceId.isSome ∧
      (registration.commandActorId ≠ row.commandActorId ∨ registration.key ≠ row.key ∨
        registration.initialExpectedProfileVersion.any (· ≠ row.expectedProfileVersion)))
    (.abort "profile_generation_initialization_state_mismatch")
  refuseIf (self.RegressesGeneration row.key row.executedAtMs ∨
      self.RegressesProfile row.key.profile row.executedAtMs)
    (.abort "profile_generation_time_regression")
  refuseIf (¬self.HasGeneration row.key .verified) (.abort "profile_generation_not_verified")
  refuseIf (¬∃ profile ∈ self.profiles, profile.key = row.key.profile ∧
      profile.version = row.expectedProfileVersion ∧
      profile.status ∈ [.draft, .quarantined, .ready, .suspended] ∧
      (profile.status = .ready →
        profile.activeGenerationId.any (· ≠ row.key.generationId) = true))
    (.abort "profile_generation_activate_profile_state_mismatch")

def insertActivateCommand (self : Database) (row : PointerCommandRow) :
    Except Refusal Database := do
  self.validateActivate row
  refuseIf (row.expectedProfileVersion < 1) .check
  refuseIf (∃ old ∈ self.activateCommands,
    old.key.profile.tenantId = row.key.profile.tenantId ∧ old.commandId = row.commandId) .unique
  { self with activateCommands := self.activateCommands ++ [row] }.updateProfiles row.activation

end Activate

section Quarantine

def validateQuarantine (self : Database) (row : QuarantineCommandRow) : Except Refusal Unit := do
  refuseIf (¬self.surroundings.IsOwner row.key.profile.tenantId row.commandActorId)
    (.abort "profile_generation_quarantine_owner_required")
  refuseIf (self.RegressesGeneration row.key row.executedAtMs)
    (.abort "profile_generation_time_regression")
  refuseIf (¬∃ generation ∈ self.generations, generation.key = row.key ∧
      generation.status ∈ [.registered, .verified] ∧
      generation.version = row.expectedGenerationVersion)
    (.abort "profile_generation_quarantine_state_mismatch")
  refuseIf (self.Selects row.key) (.abort "active_profile_generation_cannot_be_quarantined")

def insertQuarantineCommand (self : Database) (row : QuarantineCommandRow) :
    Except Refusal Database := do
  self.validateQuarantine row
  refuseIf (row.expectedGenerationVersion < 1) .check
  refuseIf (∃ old ∈ self.quarantineCommands,
    old.key.profile.tenantId = row.key.profile.tenantId ∧ old.commandId = row.commandId) .unique
  { self with quarantineCommands := self.quarantineCommands ++ [row] }.updateGenerations
    row.quarantine

end Quarantine

section Deactivate

def validateDeactivate (self : Database) (row : PointerCommandRow) : Except Refusal Unit := do
  refuseIf (¬self.surroundings.IsOwner row.key.profile.tenantId row.commandActorId)
    (.abort "profile_generation_deactivate_owner_required")
  refuseIf (self.RegressesProfile row.key.profile row.executedAtMs)
    (.abort "profile_generation_time_regression")
  refuseIf (¬∃ profile ∈ self.profiles, profile.key = row.key.profile ∧ profile.status = .ready ∧
      profile.activeGenerationId = some row.key.generationId ∧
      profile.version = row.expectedProfileVersion)
    (.abort "profile_generation_deactivate_profile_state_mismatch")

def insertDeactivateCommand (self : Database) (row : PointerCommandRow) :
    Except Refusal Database := do
  self.validateDeactivate row
  refuseIf (row.expectedProfileVersion < 1) .check
  refuseIf (∃ old ∈ self.deactivateCommands,
    old.key.profile.tenantId = row.key.profile.tenantId ∧ old.commandId = row.commandId) .unique
  refuseIf (¬∃ generation ∈ self.generations, generation.key = row.key) .foreignKey
  { self with deactivateCommands := self.deactivateCommands ++ [row] }.updateProfiles row.deactivation

end Deactivate

end Database

end ProfilePlatform.Catalog
