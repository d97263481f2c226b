import ProfilePlatform.Generation.Container

/-! What a well-formed container is, said once for both readers and both writers.

The records of a container are a list with a last element: chunks in the order of
their indices and one final record. Each constructor asks for exactly what every
reader checks, in no particular order.
-/

set_option autoImplicit false

namespace ProfilePlatform.Generation

open Foundation

def RecordHeader.chunk (index length : Nat) : RecordHeader :=
  ⟨recordChunk, index, length, length + tagBytes⟩

def RecordHeader.final (index : Nat) : RecordHeader := ⟨recordFinal, index, 0, tagBytes⟩

theorem RecordHeader.chunk_fits {chunkSize : ChunkSize} {index length : Nat}
    (fits : index < capacity 8) (small : length ≤ chunkSize.val) : (chunk index length).Fits := by
  have bound : length ≤ maxChunkBytes := Nat.le_trans small chunkSize.property.2
  have wide : maxChunkBytes + tagBytes < capacity 4 := by decide
  refine ⟨(by decide : recordChunk < capacity 1), fits, ?_, ?_⟩
  · exact Nat.lt_of_le_of_lt (Nat.le_trans bound (Nat.le_add_right _ _)) wide
  · exact Nat.lt_of_le_of_lt (Nat.add_le_add_right bound _) wide

theorem RecordHeader.final_fits {index : Nat} (fits : index < capacity 8) : (final index).Fits :=
  ⟨(by decide : recordFinal < capacity 1), fits, (by decide : 0 < capacity 4),
    (by decide : tagBytes < capacity 4)⟩

/-- The records from `index` on, their bytes and the plaintext they carry. -/
inductive Records (cipher : RecordCipher) (chunkSize : ChunkSize) :
    Nat → List UInt8 → List UInt8 → Prop where
  | final {index : Nat} {tag : List UInt8} (fits : index < capacity 8)
      (length : tag.length = tagBytes)
      (opens : cipher.decrypt recordFinal index 0 tag = .ok []) :
      Records cipher chunkSize index ((RecordHeader.final index).bytes ++ tag) []
  | chunk {index : Nat} {opened ciphertext body rest : List UInt8}
      (fits : index + 1 < capacity 8) (positive : 0 < opened.length)
      (small : opened.length ≤ chunkSize.val)
      (length : ciphertext.length = opened.length + tagBytes)
      (opens : cipher.decrypt recordChunk index opened.length ciphertext = .ok opened)
      (more : Records cipher chunkSize (index + 1) body rest) :
      Records cipher chunkSize index
        ((RecordHeader.chunk index opened.length).bytes ++ (ciphertext ++ body)) (opened ++ rest)

/-- A container that opens under the key, taken apart. -/
structure Opens (aead : Aead) (sha256 : Sha256) (key : GenerationDek) (container : List UInt8)
    (metadata : GenerationMetadata) (plaintext metadataBytes body : List UInt8) : Prop where
  framed : container = preludeBytes metadataBytes ++ body
  nonempty : metadataBytes.length ≠ 0
  short : metadataBytes.length ≤ maxMetadataBytes
  decoded : GenerationMetadata.decode metadataBytes = .ok metadata
  keyed : metadata.keyId = key.keyId
  records : Records (metadata.cipher aead key (sha256 metadataBytes)) metadata.chunkSize 0 body
    plaintext
  total : plaintext.length = metadata.plaintextBytes.val
  digest : sha256 plaintext = metadata.plaintextDigest

/-- The metadata carries the key's name and describes exactly this plaintext. -/
structure Sealable (sha256 : Sha256) (metadata : GenerationMetadata) (key : GenerationDek)
    (plaintext : List UInt8) : Prop where
  keyed : metadata.keyId = key.keyId
  total : plaintext.length = metadata.plaintextBytes.val
  digest : sha256 plaintext = metadata.plaintextDigest

/-- Encryption adds a tag of sixteen bytes. -/
def Aead.AddsTag (aead : Aead) : Prop :=
  ∀ key nonce aad message ciphertext,
    aead.encrypt key nonce aad message = some ciphertext →
      ciphertext.length = message.length + tagBytes

/-- Messages of the length of a chunk are encrypted, and decryption gives them back. -/
def Aead.Inverts (aead : Aead) : Prop :=
  ∀ key nonce aad message, message.length ≤ maxChunkBytes →
    ∃ ciphertext, aead.encrypt key nonce aad message = some ciphertext ∧
      aead.decrypt key nonce aad ciphertext = some message

section Seal

variable {cipher : RecordCipher}

theorem encrypt_length (addsTag : cipher.aead.AddsTag) {recordType index : Nat}
    {message ciphertext : List UInt8}
    (encrypted : cipher.encrypt recordType index message = .ok ciphertext) :
    ciphertext.length = message.length + tagBytes := by
  unfold RecordCipher.encrypt at encrypted
  split at encrypted
  next found =>
    cases encrypted
    exact addsTag _ _ _ _ _ found
  next => cases encrypted

theorem encrypt_inverts (inverts : cipher.aead.Inverts) (recordType index : Nat)
    {message : List UInt8} (small : message.length ≤ maxChunkBytes) :
    ∃ ciphertext, cipher.encrypt recordType index message = .ok ciphertext ∧
      cipher.decrypt recordType index message.length ciphertext = .ok message := by
  obtain ⟨ciphertext, encrypted, decrypted⟩ := inverts cipher.key
    (cipher.noncePrefix.nonceFor index)
    (recordAad cipher.metadataDigest recordType index message.length) message small
  exact ⟨ciphertext, by simp only [RecordCipher.encrypt, encrypted],
    by simp only [RecordCipher.decrypt, decrypted]⟩

theorem pushRecord_eq_ok {container after ciphertext : List UInt8}
    {recordType index plaintextLength : Nat} {tooLong : EncryptedGenerationError} :
    pushRecord container recordType index plaintextLength ciphertext tooLong = .ok after ↔
      ciphertext.length < capacity 4 ∧ after = container ++
        ((⟨recordType, index, plaintextLength, ciphertext.length⟩ : RecordHeader).bytes ++
          ciphertext) := by
  constructor
  · intro pushed
    obtain ⟨_, short, same⟩ := bind_eq_ok.mp pushed
    cases same
    exact ⟨Nat.lt_of_not_le (refuseIf_eq_ok.mp short), rfl⟩
  · rintro ⟨short, rfl⟩
    exact bind_eq_ok.mpr ⟨(), refuseIf_passes (Nat.not_le.mpr short), rfl⟩

theorem nextIndex_eq_ok {index next : Nat} {overflow : EncryptedGenerationError} :
    nextIndex index overflow = .ok next ↔ next = index + 1 ∧ index + 1 < capacity 8 := by
  have same : u64Limit = capacity 8 := by decide
  unfold nextIndex
  split
  next found =>
    obtain ⟨rfl, fits⟩ := checkedAdd_eq_some.mp found
    rw [same] at fits
    constructor
    · rintro ⟨⟩
      exact ⟨rfl, fits⟩
    · rintro ⟨rfl, -⟩
      rfl
  next overflowed =>
    constructor
    · intro impossible
      cases impossible
    · rintro ⟨rfl, fits⟩
      rw [← same] at fits
      exact absurd (checkedAdd_eq_none.mp overflowed) (Nat.not_le.mpr fits)

/-- A record costs its header and its tag. -/
def overhead : Nat := headerBytes + tagBytes

theorem sealChunks_length (addsTag : cipher.aead.AddsTag) {container after : List UInt8}
    {index next : Nat} {pieces : List (List UInt8)}
    (sealed : sealChunks cipher container index pieces = .ok (after, next)) :
    after.length = container.length + pieces.flatten.length + overhead * pieces.length := by
  induction pieces generalizing container index with
  | nil =>
    cases sealed
    rfl
  | cons piece rest ih =>
    obtain ⟨ciphertext, encrypted, sealed⟩ := bind_eq_ok.mp sealed
    obtain ⟨pushed, push, sealed⟩ := bind_eq_ok.mp sealed
    obtain ⟨_, -, sealed⟩ := bind_eq_ok.mp sealed
    obtain ⟨-, rfl⟩ := pushRecord_eq_ok.mp push
    have tag := encrypt_length addsTag encrypted
    have later := ih sealed
    simp only [List.length_append, RecordHeader.length_bytes, List.flatten_cons, List.length_cons,
      Nat.mul_succ, overhead] at later ⊢
    omega

theorem sealRecords_length (addsTag : cipher.aead.AddsTag) {prelude container : List UInt8}
    {pieces : List (List UInt8)} (sealed : sealRecords cipher prelude pieces = .ok container) :
    container.length =
      prelude.length + pieces.flatten.length + overhead * (pieces.length + 1) := by
  obtain ⟨⟨sealedChunks, count⟩, chunked, sealed⟩ := bind_eq_ok.mp sealed
  obtain ⟨finalTag, encrypted, push⟩ := bind_eq_ok.mp sealed
  obtain ⟨-, rfl⟩ := pushRecord_eq_ok.mp push
  have tag := encrypt_length addsTag encrypted
  have chunked := sealChunks_length addsTag chunked
  simp only [List.length_append, RecordHeader.length_bytes, List.length_nil, Nat.mul_succ,
    overhead] at tag chunked ⊢
  omega

/-- Under a cipher that inverts, sealing succeeds and what it appends are records
of the plaintext. -/
theorem sealChunks_records (addsTag : cipher.aead.AddsTag) (inverts : cipher.aead.Inverts)
    {chunkSize : ChunkSize} (container : List UInt8) (index : Nat) (pieces : List (List UInt8))
    (sized : ∀ piece ∈ pieces, 0 < piece.length ∧ piece.length ≤ chunkSize.val)
    (fits : index + pieces.length < capacity 8) :
    ∃ after next tag body, sealChunks cipher container index pieces = .ok (after, next) ∧
      cipher.encrypt recordFinal next [] = .ok tag ∧
      after ++ ((RecordHeader.final next).bytes ++ tag) = container ++ body ∧
      Records cipher chunkSize index body pieces.flatten := by
  induction pieces generalizing container index with
  | nil =>
    -- no chunk is left: the final record closes the container
    obtain ⟨tag, encrypted, decrypted⟩ := encrypt_inverts inverts recordFinal index
      (by decide : ([] : List UInt8).length ≤ maxChunkBytes)
    exact ⟨container, index, tag, _, rfl, encrypted, rfl,
      .final fits (encrypt_length addsTag encrypted) decrypted⟩
  | cons piece rest ih =>
    obtain ⟨positive, small⟩ := sized piece (.head _)
    obtain ⟨ciphertext, encrypted, decrypted⟩ := encrypt_inverts inverts recordChunk index
      (Nat.le_trans small chunkSize.property.2)
    have tag := encrypt_length addsTag encrypted
    have short : ciphertext.length < capacity 4 := by
      rw [tag]
      exact Nat.lt_of_le_of_lt (Nat.add_le_add_right (Nat.le_trans small chunkSize.property.2) _)
        (by decide : maxChunkBytes + tagBytes < capacity 4)
    let record := (RecordHeader.chunk index piece.length).bytes ++ ciphertext
    have push : pushRecord container recordChunk index piece.length ciphertext .plaintextTooLarge =
        .ok (container ++ record) := by
      refine pushRecord_eq_ok.mpr ⟨short, ?_⟩
      rw [tag]
      rfl
    rw [List.length_cons] at fits
    have next : nextIndex index .plaintextTooLarge = .ok (index + 1) :=
      nextIndex_eq_ok.mpr ⟨rfl, by omega⟩
    obtain ⟨after, last, finalTag, body, sealed, finished, same, records⟩ :=
      ih (container ++ record) (index + 1) (fun later member => sized later (.tail _ member))
        (by omega)
    refine ⟨after, last, finalTag, record ++ body, ?_, finished, ?_, ?_⟩
    · exact bind_eq_ok.mpr ⟨_, encrypted, bind_eq_ok.mpr ⟨_, push, bind_eq_ok.mpr ⟨_, next, sealed⟩⟩⟩
    · rw [same, List.append_assoc]
    · rw [List.flatten_cons, List.append_assoc]
      exact .chunk (by omega) positive small tag decrypted records

/-- Sealing the chunks of a plaintext, from the first record to the last. -/
theorem sealRecords_records (addsTag : cipher.aead.AddsTag) (inverts : cipher.aead.Inverts)
    (chunkSize : ChunkSize) (prelude plaintext : List UInt8)
    (bounded : plaintext.length < capacity 8) :
    ∃ body, sealRecords cipher prelude (chunks chunkSize.val plaintext) = .ok (prelude ++ body) ∧
      Records cipher chunkSize 0 body plaintext := by
  have positive : 0 < chunkSize.val := Nat.lt_of_lt_of_le (by decide) chunkSize.property.1
  have few : (chunks chunkSize.val plaintext).length ≤ plaintext.length := length_chunks_le plaintext
  obtain ⟨after, next, tag, body, chunked, encrypted, same, records⟩ :=
    sealChunks_records addsTag inverts prelude 0 (chunks chunkSize.val plaintext)
      (fun piece member => length_of_mem_chunks member) (by omega)
  have length := encrypt_length addsTag encrypted
  have push : pushRecord after recordFinal next 0 tag .invalidContainer = .ok (prelude ++ body) := by
    refine pushRecord_eq_ok.mpr ⟨by rw [length]; decide, ?_⟩
    rw [length, ← same]
    rfl
  rw [flatten_chunks positive] at records
  exact ⟨body, bind_eq_ok.mpr ⟨_, chunked, bind_eq_ok.mpr ⟨_, encrypted, push⟩⟩, records⟩

theorem sealRecords_bound (addsTag : cipher.aead.AddsTag) {chunkSize : ChunkSize}
    {prelude plaintext container : List UInt8}
    (sealed : sealRecords cipher prelude (chunks chunkSize.val plaintext) = .ok container) :
    minChunkBytes * container.length ≤ minChunkBytes * prelude.length +
      (minChunkBytes + overhead) * plaintext.length + 2 * overhead * minChunkBytes := by
  have positive : 0 < chunkSize.val := Nat.lt_of_lt_of_le (by decide) chunkSize.property.1
  have many := length_chunks_mul positive plaintext
  have length := sealRecords_length addsTag sealed
  rw [flatten_chunks positive] at length
  -- all chunks but the last are full, and a full one has at least the minimal size
  have full : minChunkBytes * (chunks chunkSize.val plaintext).length ≤
      plaintext.length + minChunkBytes := by
    cases counted : (chunks chunkSize.val plaintext).length with
    | zero => exact Nat.zero_le _
    | succ count =>
      have least := Nat.mul_le_mul_left count chunkSize.property.1
      rw [counted, Nat.succ_mul] at many
      rw [Nat.mul_succ, Nat.mul_comm]
      omega
  simp only [overhead, minChunkBytes, headerBytes, tagBytes] at length full ⊢
  omega

end Seal

end ProfilePlatform.Generation
