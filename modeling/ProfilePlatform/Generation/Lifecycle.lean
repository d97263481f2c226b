import ProfilePlatform.Foundation.Machine
import ProfilePlatform.Foundation.Table
import ProfilePlatform.Generation.Container

/-! The cloud generation repository: immutable objects, catalog records, nonce
claims and the pointer to the current generation.

A call answers and leaves a state. What it stored before it failed stays stored.
-/

set_option autoImplicit false

namespace ProfilePlatform.Generation

open Foundation

inductive CloudGenerationStatus where
  | staged | verified | quarantined
  deriving DecidableEq, Repr

deriving instance DecidableEq for GenerationMetadata

/-- The errors of the crate, those of sealing and opening among them. -/
inductive CloudGenerationError where
  | container (why : EncryptedGenerationError)
  | identityMismatch
  | nonceReuse
  | immutableConflict
  | missingObject
  | missingGeneration
  | generationQuarantined
  | generationNotVerified
  | stalePointer
  | invalidRollback
  | versionOverflow
  | timeRegression
  deriving DecidableEq, Repr

structure CloudGenerationRecord where
  metadata : GenerationMetadata
  objectKey : String
  containerDigest : Block 32
  status : CloudGenerationStatus
  createdAt : UnixMillis
  verifiedAt : Option UnixMillis
  deriving DecidableEq

def CloudGenerationRecord.verifiedSince (observedAt : UnixMillis)
    (record : CloudGenerationRecord) : CloudGenerationRecord :=
  { record with status := .verified, verifiedAt := some observedAt }

def CloudGenerationRecord.quarantined (record : CloudGenerationRecord) : CloudGenerationRecord :=
  { record with status := .quarantined, verifiedAt := none }

structure PointerSnapshot where
  version : Nat
  currentGenerationId : Option GenerationId
  rollbackGenerationId : Option GenerationId
  deriving DecidableEq

inductive PublishResult where
  | created | idempotent
  deriving DecidableEq, Repr

structure RestoreResult where
  metadata : GenerationMetadata
  plaintext : List UInt8
  deriving DecidableEq

def GenerationMetadata.objectKey (self : GenerationMetadata) : String :=
  "tenants/" ++ self.tenantId.asStr ++ "/profiles/" ++ self.profileId.asStr ++ "/generations/" ++
    self.generationId.asStr ++ ".bpgc"

/-- The ASCII bytes of profile-platform-generation-nonce-domain-v1. -/
def nonceDomainLabel : List UInt8 :=
  [112, 114, 111, 102, 105, 108, 101, 45, 112, 108, 97, 116, 102, 111, 114, 109, 45, 103, 101, 110,
    101, 114, 97, 116, 105, 111, 110, 45, 110, 111, 110, 99, 101, 45, 100, 111, 109, 97, 105, 110,
    45, 118, 49]

def nonceDomain (sha256 : Sha256) (bytes : Block 32) : Block 32 :=
  sha256 (nonceDomainLabel ++ bytes.val)

def GenerationDek.nonceDomain (key : GenerationDek) (sha256 : Sha256) : Block 32 :=
  Generation.nonceDomain sha256 key.bytes

def openGenerationExpected (aead : Aead) (sha256 : Sha256) (container : List UInt8)
    (key : GenerationDek) (tenantId : TenantId) (profileId : ProfileId)
    (generationId : GenerationId) : Except CloudGenerationError OpenedGeneration := do
  let opened ← (openGeneration aead sha256 container key).mapError .container
  refuseIf (opened.metadata.tenantId ≠ tenantId ∨ opened.metadata.profileId ≠ profileId ∨
    opened.metadata.generationId ≠ generationId) .identityMismatch
  return opened

abbrev FakeImmutableObjectStore : Type := Table String (List UInt8)

/-- Stores the bytes and tells whether they are new; other bytes are never replaced. -/
def FakeImmutableObjectStore.putImmutable (objects : FakeImmutableObjectStore)
    (objectKey : String) (bytes : List UInt8) :
    Except CloudGenerationError (Bool × FakeImmutableObjectStore) :=
  match objects objectKey with
  | some existing =>
    if existing = bytes then .ok (false, objects) else .error .immutableConflict
  | none => .ok (true, objects.insert objectKey bytes)

structure CloudGenerationRepository where
  objects : FakeImmutableObjectStore
  records : Table GenerationId CloudGenerationRecord
  nonceClaims : Table (Block 32 × NoncePrefix) GenerationId
  pointer : PointerSnapshot

namespace CloudGenerationRepository

def default : CloudGenerationRepository := ⟨.empty, .empty, .empty, ⟨0, none, none⟩⟩

/-- Replaces a record that has to be there. -/
def amendRecord (self : CloudGenerationRepository) (generationId : GenerationId)
    (amend : CloudGenerationRecord → CloudGenerationRecord) :
    Except CloudGenerationError CloudGenerationRepository :=
  match self.records generationId with
  | some record => .ok { self with records := self.records.insert generationId (amend record) }
  | none => .error .missingGeneration

def verify (self : CloudGenerationRepository) (generationId : GenerationId)
    (observedAt : UnixMillis) : Except CloudGenerationError CloudGenerationRepository :=
  self.amendRecord generationId (CloudGenerationRecord.verifiedSince observedAt)

def quarantine (self : CloudGenerationRepository) (generationId : GenerationId) :
    Except CloudGenerationError CloudGenerationRepository :=
  self.amendRecord generationId CloudGenerationRecord.quarantined

def requirePointerVersion (self : CloudGenerationRepository) (expectedPointerVersion : Nat) :
    Except CloudGenerationError Unit :=
  refuseIf (self.pointer.version ≠ expectedPointerVersion) .stalePointer

/-- Fails with what went wrong, after the generation has been quarantined for it. -/
def failQuarantined {A : Type} (self : CloudGenerationRepository) (generationId : GenerationId)
    (why : CloudGenerationError) : Except CloudGenerationError A × CloudGenerationRepository :=
  match self.quarantine generationId with
  | .error missing => (.error missing, self)
  | .ok after => (.error why, after)

section Hashing

variable (aead : Aead) (sha256 : Sha256)

/-- Seals the plaintext, unless another generation has used the nonces it would take. -/
def sealUnclaimed (self : CloudGenerationRepository) (metadata : GenerationMetadata)
    (key : GenerationDek) (plaintext : List UInt8) :
    Except CloudGenerationError SealedGeneration := do
  let sealed ← (sealGeneration aead sha256 metadata key plaintext).mapError .container
  refuseIf ((self.nonceClaims (key.nonceDomain sha256, metadata.noncePrefix)).any
    fun claimed => claimed ≠ metadata.generationId) .nonceReuse
  return sealed

/-- Reads a new object back and settles the status of its staged record. -/
def verifyStored (self : CloudGenerationRepository) (metadata : GenerationMetadata)
    (key : GenerationDek) (objectCreated : Bool) (observedAt : UnixMillis) :
    Except CloudGenerationError PublishResult × CloudGenerationRepository :=
  match self.objects metadata.objectKey with
  | none => (.error .missingObject, self)
  | some container =>
    match openGenerationExpected aead sha256 container key metadata.tenantId metadata.profileId
        metadata.generationId with
    | .error why => self.failQuarantined metadata.generationId why
    | .ok _ =>
      match self.verify metadata.generationId observedAt with
      | .error missing => (.error missing, self)
      | .ok after => (.ok (if objectCreated then .created else .idempotent), after)

def publish (self : CloudGenerationRepository) (metadata : GenerationMetadata)
    (key : GenerationDek) (plaintext : List UInt8) (observedAt : UnixMillis) :
    Except CloudGenerationError PublishResult × CloudGenerationRepository :=
  match self.sealUnclaimed aead sha256 metadata key plaintext with
  | .error why => (.error why, self)
  | .ok sealed =>
    let nonceClaim := (key.nonceDomain sha256, metadata.noncePrefix)
    match self.objects.putImmutable metadata.objectKey sealed.container with
    | .error why => (.error why, self)
    | .ok (objectCreated, objects) =>
      match self.records metadata.generationId with
      | some existing =>
        if existing.metadata ≠ metadata ∨ existing.objectKey ≠ metadata.objectKey ∨
            existing.containerDigest ≠ sealed.containerDigest then
          -- the object has been stored by now, and nothing claims its nonces
          (.error .immutableConflict, { self with objects })
        else
          let nonceClaims := self.nonceClaims.insertIfAbsent nonceClaim metadata.generationId
          (.ok .idempotent, { self with objects, nonceClaims })
      | none =>
        let nonceClaims := self.nonceClaims.insert nonceClaim metadata.generationId
        let record : CloudGenerationRecord :=
          { metadata, objectKey := metadata.objectKey, containerDigest := sealed.containerDigest
            status := .staged, createdAt := observedAt, verifiedAt := none }
        let records := self.records.insert metadata.generationId record
        verifyStored aead sha256 { self with objects, records, nonceClaims } metadata key
          objectCreated observedAt

def restore (self : CloudGenerationRepository) (generationId : GenerationId) (key : GenerationDek)
    (observedAt : UnixMillis) :
    Except CloudGenerationError RestoreResult × CloudGenerationRepository :=
  match self.records generationId with
  | none => (.error .missingGeneration, self)
  | some record =>
    if record.status = .quarantined then (.error .generationQuarantined, self)
    else if record.metadata.keyId ≠ key.keyId then (.error (.container .metadataMismatch), self)
    else match self.objects record.objectKey with
    | none => (.error .missingObject, self)
    | some container =>
      if sha256 container ≠ record.containerDigest then
        self.failQuarantined generationId (.container .digestMismatch)
      else match openGenerationExpected aead sha256 container key record.metadata.tenantId
          record.metadata.profileId generationId with
      -- a wrong key is no reason to distrust the object
      | .error why => (.error why, self)
      | .ok opened =>
        if observedAt < record.createdAt then (.error .timeRegression, self)
        else match self.verify generationId observedAt with
        | .error missing => (.error missing, self)
        | .ok after => (.ok ⟨opened.metadata, opened.plaintext⟩, after)

end Hashing

def commitCurrent (self : CloudGenerationRepository) (expectedPointerVersion : Nat)
    (generationId : GenerationId) :
    Except CloudGenerationError PointerSnapshot × CloudGenerationRepository :=
  match self.requirePointerVersion expectedPointerVersion with
  | .error why => (.error why, self)
  | .ok () =>
    match self.records generationId with
    | none => (.error .missingGeneration, self)
    | some record =>
      match record.status with
      | .quarantined => (.error .generationQuarantined, self)
      | .staged => (.error .generationNotVerified, self)
      | .verified =>
        if self.pointer.currentGenerationId = some generationId then (.ok self.pointer, self)
        else match checkedAdd self.pointer.version 1 with
        | none => (.error .versionOverflow, self)
        | some version =>
          let pointer := ⟨version, some generationId, self.pointer.currentGenerationId⟩
          (.ok pointer, { self with pointer })

def rollback (self : CloudGenerationRepository) (expectedPointerVersion : Nat)
    (generationId : GenerationId) :
    Except CloudGenerationError PointerSnapshot × CloudGenerationRepository :=
  match self.requirePointerVersion expectedPointerVersion with
  | .error why => (.error why, self)
  | .ok () =>
    if self.pointer.rollbackGenerationId ≠ some generationId then (.error .invalidRollback, self)
    else match self.records generationId with
    | none => (.error .missingGeneration, self)
    | some record =>
      if record.status ≠ .verified then (.error .generationNotVerified, self)
      else match checkedAdd self.pointer.version 1 with
      | none => (.error .versionOverflow, self)
      | some version =>
        let pointer := ⟨version, some generationId, self.pointer.currentGenerationId⟩
        (.ok pointer, { self with pointer })

/-- Something outside the repository changes the bytes of a stored object. -/
def corrupt (self : CloudGenerationRepository) (objectKey : String) (bytes : List UInt8) :
    CloudGenerationRepository :=
  match self.objects objectKey with
  | some _ => { self with objects := self.objects.insert objectKey bytes }
  | none => self

end CloudGenerationRepository

structure PublishCall where
  metadata : GenerationMetadata
  key : GenerationDek
  plaintext : List UInt8
  observedAt : UnixMillis

inductive RepositoryEvent where
  | publish (call : PublishCall)
  | restore (generationId : GenerationId) (key : GenerationDek) (observedAt : UnixMillis)
  | commitCurrent (expectedPointerVersion : Nat) (generationId : GenerationId)
  | rollback (expectedPointerVersion : Nat) (generationId : GenerationId)
  | corrupt (objectKey : String) (bytes : List UInt8)

inductive RepositoryAnswer where
  | published (result : Except CloudGenerationError PublishResult)
  | restored (result : Except CloudGenerationError RestoreResult)
  | pointed (result : Except CloudGenerationError PointerSnapshot)
  | corrupted

/-- The repository under publish calls alone. -/
def publications (aead : Aead) (sha256 : Sha256) :
    Machine CloudGenerationRepository PublishCall (Except CloudGenerationError PublishResult) where
  step self call :=
    self.publish aead sha256 call.metadata call.key call.plaintext call.observedAt

/-- The repository under any order of calls, with corruption in between. -/
def repositories (aead : Aead) (sha256 : Sha256) :
    Machine CloudGenerationRepository RepositoryEvent RepositoryAnswer where
  step self
    | .publish call =>
      (self.publish aead sha256 call.metadata call.key call.plaintext call.observedAt).map
        .published id
    | .restore generationId key observedAt =>
      (self.restore aead sha256 generationId key observedAt).map .restored id
    | .commitCurrent expected generationId =>
      (self.commitCurrent expected generationId).map .pointed id
    | .rollback expected generationId => (self.rollback expected generationId).map .pointed id
    | .corrupt objectKey bytes => (.corrupted, self.corrupt objectKey bytes)

end ProfilePlatform.Generation
