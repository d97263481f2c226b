import ProfilePlatform.Generation.InMemory
import ProfilePlatform.Generation.Lifecycle
import ProfilePlatform.Generation.StreamedSeal

/-! What one publish call can do, said once.

An object key names its generation, a container names its metadata, and a call
ends in one of four ways.
-/

set_option autoImplicit false

namespace ProfilePlatform.Generation

open Foundation

theorem utf8Bytes_append (first second : String) :
    utf8Bytes (first ++ second) = utf8Bytes first ++ utf8Bytes second := by
  simp [utf8Bytes]

theorem utf8Bytes_injective {first second : String} (same : utf8Bytes first = utf8Bytes second) :
    first = second := by
  have decoded := GenerationMetadata.fromUtf8_utf8Bytes first
  rw [same, GenerationMetadata.fromUtf8_utf8Bytes second] at decoded
  cases decoded
  rfl

/-- What stands before the first separator is determined, and so is the rest. -/
theorem append_separator_inj {A : Type} {separator : A} {first second more rest : List A}
    (plain : separator ∉ first) (plain' : separator ∉ second)
    (same : first ++ separator :: more = second ++ separator :: rest) :
    first = second ∧ more = rest := by
  induction first generalizing second with
  | nil =>
    cases second with
    | nil =>
      cases same
      exact ⟨rfl, rfl⟩
    | cons other second =>
      cases same
      exact absurd (List.mem_cons_self ..) plain'
  | cons head first ih =>
    cases second with
    | nil =>
      cases same
      exact absurd (List.mem_cons_self ..) plain
    | cons other second =>
      obtain ⟨rfl, tails⟩ := List.cons.inj same
      obtain ⟨rfl, rfl⟩ := ih (fun member => plain (List.mem_cons_of_mem _ member))
        (fun member => plain' (List.mem_cons_of_mem _ member)) tails
      exact ⟨rfl, rfl⟩

theorem slash_notMem_asStr {kind : IdKind} (id : TypedId kind) : 47 ∉ utf8Bytes id.asStr := by
  intro slash
  have accepted := id.intoOpaque.accepted
  simp only [OpaqueId.accepts, Bool.and_eq_true, List.all_eq_true] at accepted
  exact absurd (accepted.2 47 slash) (by decide)

/-- Identifiers contain no slash, so the parts of a key can be told apart. -/
theorem objectKey_generationId {first second : GenerationMetadata}
    (same : first.objectKey = second.objectKey) : first.generationId = second.generationId := by
  have profiles : utf8Bytes "/profiles/" = 47 :: utf8Bytes "profiles/" := by decide +kernel
  have generations : utf8Bytes "/generations/" = 47 :: utf8Bytes "generations/" := by
    decide +kernel
  have bytes := congrArg utf8Bytes same
  simp only [GenerationMetadata.objectKey, utf8Bytes_append, List.append_assoc,
    List.append_cancel_left_eq, profiles, generations, List.cons_append] at bytes
  obtain ⟨-, bytes⟩ := append_separator_inj (slash_notMem_asStr _) (slash_notMem_asStr _) bytes
  rw [List.append_cancel_left_eq] at bytes
  obtain ⟨-, bytes⟩ := append_separator_inj (slash_notMem_asStr _) (slash_notMem_asStr _) bytes
  rw [List.append_cancel_left_eq, List.append_cancel_right_eq] at bytes
  exact TypedId.ext_asStr (utf8Bytes_injective bytes)

section Sealed

variable {aead : Aead} {sha256 : Sha256} {metadata other : GenerationMetadata} {key : GenerationDek}
  {plaintext : List UInt8} {sealed : SealedGeneration}

/-- A sealed container starts with its metadata, and carries its own digest. -/
theorem sealed_framed (made : sealGeneration aead sha256 metadata key plaintext = .ok sealed) :
    (∃ body, sealed.container = preludeBytes metadata.encoding ++ body) ∧
      sealed.containerDigest = sha256 sealed.container := by
  obtain ⟨-, container, records, -, rfl⟩ := sealGeneration_eq_ok.mp made
  refine ⟨?_, rfl⟩
  obtain ⟨chunked, count, tag, chunks, -, push⟩ := sealRecords_eq_ok.mp records
  obtain ⟨-, rfl⟩ := pushRecord_eq_ok.mp push
  obtain ⟨body, rfl⟩ := sealChunks_grows chunks
  exact ⟨_, List.append_assoc ..⟩

theorem readMetadata_framed (metadata : GenerationMetadata) (body : List UInt8) :
    readMetadata (preludeBytes metadata.encoding ++ body) = .ok (metadata.encoding, body) := by
  obtain ⟨positive, short⟩ := metadata.length_encoding
  exact readMetadata_eq_ok.mpr
    ⟨rfl, Nat.ne_of_gt positive, Nat.le_trans short (by decide)⟩

theorem metadata_of_framed {body rest : List UInt8}
    (same : preludeBytes metadata.encoding ++ body = preludeBytes other.encoding ++ rest) :
    metadata = other := by
  have read := readMetadata_framed metadata body
  rw [same, readMetadata_framed other rest] at read
  have encodings : other.encoding = metadata.encoding := (Prod.mk.inj (Except.ok.inj read)).1
  have decoded := metadata.decode_encoding
  rw [← encodings, other.decode_encoding] at decoded
  exact (Except.ok.inj decoded).symm

end Sealed

theorem putImmutable_eq_ok {objects after : FakeImmutableObjectStore} {objectKey : String}
    {bytes : List UInt8} {created : Bool} :
    objects.putImmutable objectKey bytes = .ok (created, after) ↔
      (objects objectKey = some bytes ∧ created = false ∧ after = objects) ∨
        (objects objectKey = none ∧ created = true ∧ after = objects.insert objectKey bytes) := by
  unfold FakeImmutableObjectStore.putImmutable
  cases objects objectKey with
  | none => simp [eq_comm]
  | some existing =>
    by_cases same : existing = bytes
    · simp [same, eq_comm]
    · simp [same]

theorem found_after_put {objects after : FakeImmutableObjectStore} {objectKey : String}
    {bytes : List UInt8} {created : Bool}
    (put : objects.putImmutable objectKey bytes = .ok (created, after)) :
    after objectKey = some bytes := by
  rcases putImmutable_eq_ok.mp put with ⟨found, -, rfl⟩ | ⟨-, -, rfl⟩
  · exact found
  · exact Table.insert_self

namespace CloudGenerationRepository

variable (aead : Aead) (sha256 : Sha256) (repository : CloudGenerationRepository) (call : PublishCall)

/-- The call passed the nonce check and its container is in the store under its key. -/
structure Stores (sealed : SealedGeneration) (created : Bool) (objects : FakeImmutableObjectStore) :
    Prop where
  admitted : repository.sealUnclaimed aead sha256 call.metadata call.key call.plaintext = .ok sealed
  put : repository.objects.putImmutable call.metadata.objectKey sealed.container = .ok (created, objects)

/-- The answer of a call that made a record, and the status it left there. -/
inductive Settled : Except CloudGenerationError PublishResult → CloudGenerationStatus → Prop where
  | verified (result : PublishResult) : Settled (.ok result) .verified
  | quarantined (why : CloudGenerationError) : Settled (.error why) .quarantined

/-- The four ways a publish call ends. -/
inductive Published :
    Except CloudGenerationError PublishResult × CloudGenerationRepository → Prop where
  | refused (why : CloudGenerationError)
      (unstored : ∀ sealed created objects, ¬repository.Stores aead sha256 call sealed created objects) :
      Published (.error why, repository)
  | conflicting {sealed : SealedGeneration} {created : Bool} {objects : FakeImmutableObjectStore}
      {existing : CloudGenerationRecord}
      (stores : repository.Stores aead sha256 call sealed created objects)
      (known : repository.records call.metadata.generationId = some existing)
      (differs : existing.metadata ≠ call.metadata ∨
        existing.objectKey ≠ call.metadata.objectKey ∨
        existing.containerDigest ≠ sealed.containerDigest) :
      Published (.error .immutableConflict, { repository with objects })
  | repeated {sealed : SealedGeneration} {created : Bool} {objects : FakeImmutableObjectStore}
      {existing : CloudGenerationRecord}
      (stores : repository.Stores aead sha256 call sealed created objects)
      (known : repository.records call.metadata.generationId = some existing)
      (metadata : existing.metadata = call.metadata)
      (objectKey : existing.objectKey = call.metadata.objectKey)
      (digest : existing.containerDigest = sealed.containerDigest) :
      Published (.ok .idempotent,
        { repository with
          objects
          nonceClaims := repository.nonceClaims.insertIfAbsent
            (call.key.nonceDomain sha256, call.metadata.noncePrefix) call.metadata.generationId })
  | registered {sealed : SealedGeneration} {created : Bool} {objects : FakeImmutableObjectStore}
      (stores : repository.Stores aead sha256 call sealed created objects)
      (new : repository.records call.metadata.generationId = none)
      (answer : Except CloudGenerationError PublishResult) (status : CloudGenerationStatus)
      (verifiedAt : Option UnixMillis) (settled : Settled answer status) :
      Published (answer,
        { repository with
          objects
          records := repository.records.insert call.metadata.generationId
            ⟨call.metadata, call.metadata.objectKey, sealed.containerDigest, status,
              call.observedAt, verifiedAt⟩
          nonceClaims := repository.nonceClaims.insert
            (call.key.nonceDomain sha256, call.metadata.noncePrefix) call.metadata.generationId })

theorem amendRecord_staged (objects : FakeImmutableObjectStore)
    (records : Table GenerationId CloudGenerationRecord)
    (nonceClaims : Table (Block 32 × NoncePrefix) GenerationId) (pointer : PointerSnapshot)
    (generationId : GenerationId) (record : CloudGenerationRecord)
    (amend : CloudGenerationRecord → CloudGenerationRecord) :
    amendRecord ⟨objects, records.insert generationId record, nonceClaims, pointer⟩ generationId
        amend =
      .ok ⟨objects, records.insert generationId (amend record), nonceClaims, pointer⟩ := by
  simp only [amendRecord, Table.insert_self, Table.insert_insert]

theorem published : repository.Published aead sha256 call
    (repository.publish aead sha256 call.metadata call.key call.plaintext call.observedAt) := by
  unfold publish
  split
  next why refused =>
    refine .refused why fun sealed created objects stores => ?_
    cases refused.symm.trans stores.admitted
  next sealed admitted =>
    split
    next why refused =>
      refine .refused why fun other created objects stores => ?_
      cases admitted.symm.trans stores.admitted
      cases refused.symm.trans stores.put
    next created objects put =>
      have stores : repository.Stores aead sha256 call sealed created objects := ⟨admitted, put⟩
      split
      next existing known =>
        split
        next differs => exact .conflicting stores known differs
        next same =>
          simp only [not_or, Decidable.not_not] at same
          exact .repeated stores known same.1 same.2.1 same.2.2
      next new =>
        -- the object is there to be read back, and so is the record that is settled
        unfold verifyStored
        simp only [found_after_put put]
        split
        next why _ =>
          simp only [failQuarantined, quarantine, amendRecord_staged]
          exact .registered stores new _ _ _ (.quarantined why)
        next =>
          simp only [verify, amendRecord_staged]
          exact .registered stores new _ _ _ (.verified _)

end CloudGenerationRepository

end ProfilePlatform.Generation
