import ProfilePlatform.Catalog.Successor
import ProfilePlatform.Foundation.Machine

/-! Working proofs and retirement intents, and the statements a database executes.

A proof says that a browser was restored from the predecessor of the current
generation, byte for byte. An intent retires one generation in favour of a proven
one. A statement that is refused leaves every row as it was.
-/

set_option autoImplicit false

namespace ProfilePlatform.Catalog

open Foundation

namespace Database

section WorkingProof

/-- The current generation of a ready profile, as a retention command observed it. -/
def IsReadyOn (self : Database) (current : GenerationKey) : Prop :=
  (∃ generation ∈ self.generations, generation.key = current ∧ generation.Proven) ∧
    ∃ profile ∈ self.profiles, profile.key = current.profile ∧ profile.status = .ready ∧
      profile.activeGenerationId = some current.generationId

/-- The catalog knows the generation as proven, with these two digests. -/
def IsProvenWith (self : Database) (key : GenerationKey) (metadataDigest containerDigest : String) :
    Prop :=
  ∃ generation ∈ self.generations, generation.key = key ∧ generation.Proven ∧
    generation.metadataDigest = metadataDigest ∧ generation.containerDigest = containerDigest

instance (self : Database) (current : GenerationKey) : Decidable (self.IsReadyOn current) :=
  inferInstanceAs (Decidable (_ ∧ _))

instance (self : Database) (key : GenerationKey) (metadataDigest containerDigest : String) :
    Decidable (self.IsProvenWith key metadataDigest containerDigest) :=
  inferInstanceAs (Decidable (∃ _ ∈ _, _))

/-- `profile_generation_retired_working_proof_forbidden`, `profile_generation_working_proof_validate`
and `profile_generation_exact_native_content_proof_required`. -/
def validateWorkingProof (self : Database) (row : WorkingProofRow) : Except Refusal Unit := do
  let current : GenerationKey := ⟨row.key.profile, row.observedCurrentGenerationId⟩
  refuseIf (self.Retired row.key) (.abort "retired_generation_cannot_be_working")
  refuseIf (¬(self.IsReadyOn current ∧
      (∃ successor ∈ self.successorCommands,
        successor.candidate = current ∧ successor.base = row.key) ∧
      self.IsProvenWith row.key row.metadataDigest row.containerDigest ∧
      self.surroundings.IsOperator row.key.profile row.observedByActorId ∧
      self.surroundings.IsBound row.key.profile.tenantId row.observedByActorId
        row.observedByDeviceId))
    (.abort "working_proof_not_authorized_predecessor")
  refuseIf (¬row.ExactlyNative) (.abort "working_requires_exact_restored_native_bytes")

def insertWorkingProof (self : Database) (row : WorkingProofRow) : Except Refusal Database := do
  self.validateWorkingProof row
  refuseIf (¬row.checked) .check
  refuseIf (∃ old ∈ self.workingProofs, old.key = row.key) .unique
  return { self with workingProofs := self.workingProofs ++ [row] }

end WorkingProof

section RetirementIntent

/-- The proof is about the retained generation as it is stored, under the approved runtime. -/
def IsWorking (self : Database) (intent : RetirementIntentRow) : Prop :=
  ∃ proof ∈ self.workingProofs, proof.key = intent.retained ∧
    proof.runtimeInventorySha256 = intent.approvedRuntimeInventorySha256 ∧
    proof.provenAtMs ≤ intent.admittedAtMs ∧
    ∃ working ∈ self.generations, working.key = intent.retained ∧ working.Proven ∧
      proof.metadataDigest = working.metadataDigest ∧
      proof.containerDigest = working.containerDigest ∧ working.updatedAtMs ≤ intent.admittedAtMs

/-- The device of the intent is authorized on the current generation, and was when it was admitted. -/
def MayRetire (self : Database) (intent : RetirementIntentRow) : Prop :=
  ∃ grant ∈ self.deviceAuthorizations, grant.key = (intent.admittedByDeviceId, intent.current) ∧
    grant.status = .active ∧ grant.revokedAtMs = none ∧
    grant.authorizedAtMs ≤ intent.admittedAtMs

/-- The candidate is proven and stored as the intent says, and no device still relies on it. -/
def IsDisposable (self : Database) (intent : RetirementIntentRow) : Prop :=
  (∃ candidate ∈ self.generations, candidate.key = intent.key ∧ candidate.Proven ∧
      candidate.objectKey = intent.objectKey ∧ candidate.metadataDigest = intent.metadataDigest ∧
      candidate.containerDigest = intent.containerDigest ∧
      candidate.updatedAtMs ≤ intent.admittedAtMs) ∧
    (∀ grant ∈ self.deviceAuthorizations, grant.generation = intent.key → grant.status ≠ .active) ∧
    ∀ job ∈ self.deviceJobs, job.generation = intent.key → job.status = .succeeded

/-- The profile and its current generation are as the intent observed them. -/
def IsObserved (self : Database) (intent : RetirementIntentRow) : Prop :=
  (∃ current ∈ self.generations, current.key = intent.current ∧ current.Proven ∧
      current.updatedAtMs ≤ intent.admittedAtMs) ∧
    ∃ profile ∈ self.profiles, profile.key = intent.key.profile ∧ profile.status = .ready ∧
      profile.activeGenerationId = some intent.observedCurrentGenerationId ∧
      profile.version = intent.expectedProfileVersion ∧ profile.updatedAtMs ≤ intent.admittedAtMs

instance (self : Database) (intent : RetirementIntentRow) : Decidable (self.IsWorking intent) :=
  inferInstanceAs (Decidable (∃ _ ∈ _, _))

instance (self : Database) (intent : RetirementIntentRow) : Decidable (self.MayRetire intent) :=
  inferInstanceAs (Decidable (∃ _ ∈ _, _))

instance (self : Database) (intent : RetirementIntentRow) : Decidable (self.IsDisposable intent) :=
  inferInstanceAs (Decidable (_ ∧ _))

instance (self : Database) (intent : RetirementIntentRow) : Decidable (self.IsObserved intent) :=
  inferInstanceAs (Decidable (_ ∧ _))

/-- `profile_generation_retirement_validate` and `profile_generation_native_retirement_proof_required`.
Neither asks whether the retained generation is itself retired. -/
def validateRetirementIntent (self : Database) (row : RetirementIntentRow) :
    Except Refusal Unit := do
  refuseIf (¬(self.IsObserved row ∧ self.IsDisposable row ∧ self.IsWorking row ∧
      self.surroundings.IsOwner row.key.profile.tenantId row.admittedByActorId ∧
      self.surroundings.IsBound row.key.profile.tenantId row.admittedByActorId
        row.admittedByDeviceId ∧ self.MayRetire row))
    (.abort "retirement_requires_exact_protected_working_and_current")
  refuseIf (¬∃ proof ∈ self.workingProofs, proof.key = row.retained ∧ proof.ExactlyNative)
    (.abort "retirement_requires_native_cold_recovery_proof")

def insertRetirementIntent (self : Database) (row : RetirementIntentRow) :
    Except Refusal Database := do
  self.validateRetirementIntent row
  refuseIf (¬row.checked) .check
  refuseIf (∃ old ∈ self.retirementIntents, old.key = row.key) .unique
  return { self with retirementIntents := self.retirementIntents ++ [row] }

/-- The one update `profile_generation_retirement_append_only_update` lets through: the time at
which the object was found deleted, once. -/
def markDeleted (self : Database) (key : GenerationKey) (deletedAtMs : Nat) :
    Except Refusal Database := do
  let retirementIntents ← Rows.update (fun row => row.key = key)
    (fun row => { row with deletedAtMs := some deletedAtMs })
    (fun old new => do
      refuseIf (old.deletedAtMs ≠ none) (.abort "retirement_append_only")
      refuseIf (¬new.checked) .check)
    (fun other new => other.key = new.key) .unique [] self.retirementIntents
  return { self with retirementIntents }

end RetirementIntent

end Database

/-- A statement on the tables of the catalog, or a change of the rows other components write. -/
inductive Statement where
  | register (row : RegisterCommandRow)
  | verify (row : VerifyCommandRow)
  | activate (row : PointerCommandRow)
  | quarantine (row : QuarantineCommandRow)
  | deactivate (row : PointerCommandRow)
  | succeed (row : SuccessorCommandRow)
  | commitDevice (row : DeviceCommitCommandRow)
  | prove (row : WorkingProofRow)
  | retire (row : RetirementIntentRow)
  | markDeleted (key : GenerationKey) (deletedAtMs : Nat)
  | createProfile (key : ProfileKey) (commandActorId : ActorId) (executedAtMs : Nat)
  | updateProfiles (update : ProfileUpdate)
  | updateGenerations (update : GenerationUpdate)
  | authorize (row : AuthorizationRow)
  | updateAuthorizations (update : AuthorizationUpdate)
  | addJob (row : DeviceJobRow)
  | updateJobs (update : DeviceJobUpdate)
  | elsewhere (surroundings : Surroundings)

/-- The statements on rows that the catalog's own tables do not depend on. -/
def Statement.isAside : Statement → Bool
  | .prove _ | .retire _ | .markDeleted .. | .authorize _ | .updateAuthorizations _ | .addJob _
  | .updateJobs _ | .elsewhere _ => true
  | _ => false

namespace Database

def execute (self : Database) : Statement → Except Refusal Database
  | .register row => self.insertRegisterCommand row
  | .verify row => self.insertVerifyCommand row
  | .activate row => self.insertActivateCommand row
  | .quarantine row => self.insertQuarantineCommand row
  | .deactivate row => self.insertDeactivateCommand row
  | .succeed row => self.insertSuccessorCommand row
  | .commitDevice row => self.insertDeviceCommitCommand row
  | .prove row => self.insertWorkingProof row
  | .retire row => self.insertRetirementIntent row
  | .markDeleted key deletedAtMs => self.markDeleted key deletedAtMs
  | .createProfile key commandActorId executedAtMs =>
    self.createProfile key commandActorId executedAtMs
  | .updateProfiles update => self.updateProfiles update
  | .updateGenerations update => self.updateGenerations update
  | .authorize row => self.insertAuthorization row
  | .updateAuthorizations update => self.updateAuthorizations update
  | .addJob row => self.insertDeviceJob row
  | .updateJobs update => self.updateDeviceJobs update
  | .elsewhere surroundings => .ok { self with surroundings }

end Database

/-- Databases under statements. Each statement is one transaction. -/
def databases : Machine Database Statement (Except Refusal Unit) where
  step database statement :=
    match database.execute statement with
    | .ok after => (.ok (), after)
    | .error why => (.error why, database)

abbrev StatementEntry := Entry Database Statement (Except Refusal Unit)

end ProfilePlatform.Catalog
