import ProfilePlatform.Generation.InMemory
import ProfilePlatform.Generation.StreamedOpen
import ProfilePlatform.Generation.StreamedSeal

/-! What has been sealed opens again, in memory and through streams, and never
grows past the limit its reader imposes.
-/

set_option autoImplicit false

namespace ProfilePlatform.Generation

open Foundation

section Laws

variable {aead : Aead} {sha256 : Sha256} {metadata : GenerationMetadata} {key : GenerationDek}
  {plaintext container : List UInt8}

theorem Sealable.opens (addsTag : aead.AddsTag) (inverts : aead.Inverts)
    (sealable : Sealable sha256 metadata key plaintext) :
    ∃ container body, sealRecords (metadata.cipher aead key (sha256 metadata.encoding))
        (preludeBytes metadata.encoding) (chunks metadata.chunkSize.val plaintext) =
          .ok container ∧
      Opens aead sha256 key container metadata plaintext metadata.encoding body := by
  have wide : maxStreamPlaintextBytes < capacity 8 := by decide
  have few : plaintext.length < capacity 8 := by
    rw [sealable.total]
    exact Nat.lt_of_le_of_lt metadata.plaintextBytes.property wide
  obtain ⟨positive, short⟩ := metadata.length_encoding
  obtain ⟨body, sealed, records⟩ :=
    @sealRecords_records (metadata.cipher aead key (sha256 metadata.encoding)) addsTag inverts
      metadata.chunkSize (preludeBytes metadata.encoding) plaintext few
  refine ⟨_, body, sealed, rfl, Nat.ne_of_gt positive, ?_, metadata.decode_encoding, sealable.keyed,
    records, sealable.total, sealable.digest⟩
  exact Nat.le_trans short (by decide)

/-- Headers, tags and metadata add little: a limit on the plaintext bounds the container. -/
theorem sealed_within (addsTag : aead.AddsTag)
    (sealed : sealRecords (metadata.cipher aead key (sha256 metadata.encoding))
      (preludeBytes metadata.encoding) (chunks metadata.chunkSize.val plaintext) = .ok container) :
    (plaintext.length ≤ maxPlaintextBytes → container.length ≤ maxContainerBytes) ∧
      (plaintext.length ≤ maxStreamPlaintextBytes →
        container.length ≤ maxStreamContainerBytes) := by
  obtain ⟨-, short⟩ := metadata.length_encoding
  have prelude : (preludeBytes metadata.encoding).length = 12 + metadata.encoding.length := by
    simp only [preludeBytes, List.length_append, length_bigEndian, magic, List.length_cons,
      List.length_nil]
    omega
  have bound := @sealRecords_bound (metadata.cipher aead key (sha256 metadata.encoding)) addsTag
    _ _ _ _ sealed
  simp only [minChunkBytes, overhead, headerBytes, tagBytes, maxPlaintextBytes, maxContainerBytes,
    maxStreamPlaintextBytes, maxStreamContainerBytes] at bound ⊢
  omega

variable (sha256) (identity : GenerationIdentity) (key) (noncePrefix : NoncePrefix)
  (chunkSize : ChunkSize)

/-- The metadata a plaintext is sealed under: its exact length and digest. -/
def GenerationMetadata.describing (plaintext : List UInt8)
    (fits : plaintext.length ≤ maxStreamPlaintextBytes) : GenerationMetadata :=
  .ofIdentity identity key.keyId noncePrefix chunkSize ⟨plaintext.length, fits⟩ (sha256 plaintext)

theorem describing_sealable (plaintext : List UInt8)
    (fits : plaintext.length ≤ maxStreamPlaintextBytes) :
    Sealable sha256 (.describing sha256 key identity noncePrefix chunkSize plaintext fits) key
      plaintext :=
  ⟨rfl, rfl, rfl⟩

theorem forPlaintext_eq {plaintext : List UInt8} (small : plaintext.length ≤ maxPlaintextBytes) :
    ∃ fits, GenerationMetadata.forPlaintext sha256 identity key.keyId noncePrefix chunkSize.val
        plaintext =
      .ok (.describing sha256 key identity noncePrefix chunkSize plaintext fits) := by
  refine ⟨GenerationMetadata.maxPlaintext_le_stream (Nat.not_lt.mpr small), ?_⟩
  refine bind_eq_ok.mpr ⟨_, validateChunkSize_val chunkSize, ?_⟩
  rw [dif_neg (Nat.not_lt.mpr small)]
  rfl

theorem forPrehashedStream_eq {plaintext : List UInt8}
    (fits : plaintext.length ≤ maxStreamPlaintextBytes) :
    GenerationMetadata.forPrehashedStream identity key.keyId noncePrefix chunkSize.val
        plaintext.length (sha256 plaintext) =
      .ok (.describing sha256 key identity noncePrefix chunkSize plaintext fits) :=
  bind_eq_ok.mpr ⟨_, validateChunkSize_val chunkSize,
    bind_eq_ok.mpr ⟨_, validateStreamLength_val ⟨plaintext.length, fits⟩, rfl⟩⟩

theorem in_memory_round_trip (addsTag : aead.AddsTag) (inverts : aead.Inverts)
    {plaintext : List UInt8} (small : plaintext.length ≤ maxPlaintextBytes) :
    ∃ metadata sealed,
      GenerationMetadata.forPlaintext sha256 identity key.keyId noncePrefix chunkSize.val plaintext =
        .ok metadata ∧
      sealGeneration aead sha256 metadata key plaintext = .ok sealed ∧
      openGeneration aead sha256 sealed.container key = .ok ⟨metadata, plaintext⟩ := by
  obtain ⟨fits, described⟩ := forPlaintext_eq sha256 key identity noncePrefix chunkSize small
  have sealable := describing_sealable sha256 key identity noncePrefix chunkSize plaintext fits
  obtain ⟨container, body, sealed, opens⟩ := sealable.opens addsTag inverts
  have within := (sealed_within addsTag sealed).1 small
  exact ⟨_, _, described, sealGeneration_eq_ok.mpr ⟨sealable, container, sealed, within, rfl⟩,
    openGeneration_eq_ok.mpr ⟨within, small, _, body, opens⟩⟩

/-- Sealing from any source into any sink that do not fail, and opening from any
source that holds what the sink was given. -/
theorem streamed_round_trip {σ τ : Type} {source : ReadSource σ} {sink : WriteSink τ}
    {held : σ → List UInt8} {taken : τ → List UInt8} (addsTag : aead.AddsTag)
    (inverts : aead.Inverts) (holds : source.Holds held) (takes : sink.Takes taken) {s : σ} (t : τ)
    (fits : (held s).length ≤ maxStreamPlaintextBytes) :
    ∃ metadata report sent container,
      GenerationMetadata.forReader source sha256 identity key.keyId noncePrefix chunkSize.val s =
        .ok metadata ∧
      GenerationMetadata.forPrehashedStream identity key.keyId noncePrefix chunkSize.val
        (held s).length (sha256 (held s)) = .ok metadata ∧
      sealGenerationStreaming source sink aead sha256 metadata key s t = .ok (report, sent) ∧
      taken sent = taken t ++ container ∧ container.length ≤ maxStreamContainerBytes ∧
      report.containerBytes = container.length ∧
      ∀ {ρ υ : Type} {stored : ReadSource ρ} {target : WriteSink υ} {storedBytes : ρ → List UInt8}
        {targetBytes : υ → List UInt8}, stored.Holds storedBytes → target.Takes targetBytes →
        ∀ r u, storedBytes r = container →
          ∃ written, openGenerationStreaming stored target aead sha256 r key u =
              .ok (report, written) ∧
            targetBytes written = targetBytes u ++ held s := by
  have described := forPrehashedStream_eq sha256 key identity noncePrefix chunkSize fits
  have hashed := GenerationMetadata.forReader_eq holds sha256 identity key.keyId noncePrefix
    chunkSize.val fits
  rw [described] at hashed
  have sealable := describing_sealable sha256 key identity noncePrefix chunkSize (held s) fits
  obtain ⟨container, body, sealed, opens⟩ := sealable.opens addsTag inverts
  -- the writer's own limit is never met, and the reader has the same one
  have within := (sealed_within addsTag sealed).2 fits
  obtain ⟨sent, streamed, delivered⟩ :=
    sealGenerationStreaming_complete holds takes t sealable sealed within
  refine ⟨_, _, sent, container, hashed, described, streamed, delivered, within, rfl, ?_⟩
  rintro ρ υ stored target storedBytes targetBytes storedHolds targetTakes r u rfl
  exact openGenerationStreaming_complete storedHolds targetTakes u opens within

/-- Containers round-trip for every identity, key, nonce prefix, chunk size and
plaintext up to the limit of each form. -/
theorem container_round_trip (addsTag : aead.AddsTag) (inverts : aead.Inverts) :
    (∀ plaintext : List UInt8, plaintext.length ≤ maxPlaintextBytes → ∃ metadata sealed,
      GenerationMetadata.forPlaintext sha256 identity key.keyId noncePrefix chunkSize.val plaintext =
        .ok metadata ∧
      sealGeneration aead sha256 metadata key plaintext = .ok sealed ∧
      openGeneration aead sha256 sealed.container key = .ok ⟨metadata, plaintext⟩) ∧
    ∀ {σ τ : Type} {source : ReadSource σ} {sink : WriteSink τ} {held : σ → List UInt8}
      {taken : τ → List UInt8}, source.Holds held → sink.Takes taken → ∀ s t,
      (held s).length ≤ maxStreamPlaintextBytes → ∃ metadata report sent container,
        GenerationMetadata.forReader source sha256 identity key.keyId noncePrefix chunkSize.val s =
          .ok metadata ∧
        GenerationMetadata.forPrehashedStream identity key.keyId noncePrefix chunkSize.val
          (held s).length (sha256 (held s)) = .ok metadata ∧
        sealGenerationStreaming source sink aead sha256 metadata key s t = .ok (report, sent) ∧
        taken sent = taken t ++ container ∧ container.length ≤ maxStreamContainerBytes ∧
        report.containerBytes = container.length ∧
        ∀ {ρ υ : Type} {stored : ReadSource ρ} {target : WriteSink υ}
          {storedBytes : ρ → List UInt8} {targetBytes : υ → List UInt8},
          stored.Holds storedBytes → target.Takes targetBytes →
          ∀ r u, storedBytes r = container →
            ∃ written, openGenerationStreaming stored target aead sha256 r key u =
                .ok (report, written) ∧
              targetBytes written = targetBytes u ++ held s := by
  constructor
  · intro plaintext small
    exact in_memory_round_trip sha256 key identity noncePrefix chunkSize addsTag inverts small
  · intro σ τ source sink held taken holds takes s t fits
    exact streamed_round_trip sha256 key identity noncePrefix chunkSize addsTag inverts holds takes
      t fits

end Laws

/-! One byte sealed under a key of sevens: the digests, the key stream and the tags
are those of SHA-256 and XChaCha20-Poly1305 on that input. -/

namespace OneByte

def plaintext : List UInt8 := [65]

def plaintextDigest : Block 32 :=
  ⟨[85, 154, 234, 208, 130, 100, 213, 121, 93, 57, 9, 113, 140, 221, 5, 171,
    212, 149, 114, 232, 79, 229, 85, 144, 238, 243, 26, 136, 160, 143, 223, 253], rfl⟩

def metadataDigest : Block 32 :=
  ⟨[180, 46, 243, 0, 118, 60, 171, 11, 60, 153, 33, 166, 47, 104, 64, 87,
    96, 147, 120, 0, 92, 60, 98, 59, 246, 79, 221, 224, 215, 181, 250, 31], rfl⟩

def containerDigest : Block 32 :=
  ⟨[3, 241, 65, 170, 210, 87, 228, 166, 217, 222, 215, 255, 4, 112, 144, 126,
    19, 244, 157, 227, 160, 219, 42, 20, 68, 143, 61, 29, 15, 109, 2, 50], rfl⟩

/-- Plaintext, metadata and container differ in length. -/
def sha256 : Sha256 := fun bytes =>
  if bytes.length = 1 then plaintextDigest
  else if bytes.length = 123 then metadataDigest
  else containerDigest

def chunkTag : Block 16 :=
  ⟨[113, 188, 46, 154, 251, 10, 249, 166, 248, 198, 218, 103, 227, 38, 161, 6], rfl⟩

def finalTag : Block 16 :=
  ⟨[127, 138, 130, 141, 148, 87, 195, 127, 111, 246, 120, 89, 111, 57, 240, 44], rfl⟩

def tag (message : List UInt8) : Block 16 := if message = [] then finalTag else chunkTag

def pad (bytes : List UInt8) : List UInt8 := bytes.map (· ^^^ 214)

def aead : Aead where
  encrypt _ _ _ message := some (pad message ++ (tag message).val)
  decrypt _ _ _ ciphertext :=
    let message := pad (ciphertext.take (ciphertext.length - tagBytes))
    if ciphertext.drop (ciphertext.length - tagBytes) = (tag message).val then some message
    else none

@[simp] theorem length_pad (bytes : List UInt8) : (pad bytes).length = bytes.length :=
  List.length_map _

theorem pad_pad (bytes : List UInt8) : pad (pad bytes) = bytes := by
  induction bytes with
  | nil => rfl
  | cons byte rest ih =>
    have cancels : byte ^^^ 214 ^^^ 214 = byte := by
      rw [UInt8.xor_assoc, UInt8.xor_self, UInt8.xor_zero]
    simp only [pad, List.map_cons, cancels] at ih ⊢
    rw [ih]

theorem aead_addsTag : aead.AddsTag := by
  rintro key nonce aad message ciphertext ⟨⟩
  rw [List.length_append, length_pad, (tag message).property]
  rfl

theorem aead_inverts : aead.Inverts := by
  intro key nonce aad message _
  have body : (pad message ++ (tag message).val).length - tagBytes = (pad message).length := by
    rw [List.length_append, (tag message).property, tagBytes, Nat.add_sub_cancel]
  refine ⟨_, rfl, ?_⟩
  simp only [aead, body, List.take_left, List.drop_left, pad_pad, if_pos]

def key : GenerationDek where
  keyId := ⟨"key-00000003", by decide⟩
  bytes := ⟨List.replicate 32 7, rfl⟩

def identity : GenerationIdentity where
  tenantId := ⟨⟨"tenant-0003", by decide⟩⟩
  profileId := ⟨⟨"profile-0003", by decide⟩⟩
  generationId := ⟨⟨"generation-0003", by decide⟩⟩
  baseGenerationId := none

def noncePrefix : NoncePrefix := ⟨[0, 1, 2, 3, 4, 5, 6, 7, 8, 9, 10, 11, 12, 13, 14, 15], rfl⟩

def chunkSize : ChunkSize := ⟨1024, by decide⟩

end OneByte

open OneByte in
theorem container_round_trip_one_byte :
    (∃ metadata sealed,
      GenerationMetadata.forPlaintext sha256 identity key.keyId noncePrefix 1024 plaintext =
        .ok metadata ∧
      sealGeneration aead sha256 metadata key plaintext = .ok sealed ∧
      openGeneration aead sha256 sealed.container key = .ok ⟨metadata, plaintext⟩) ∧
    ∃ metadata report container,
      GenerationMetadata.forReader sliceSource sha256 identity key.keyId noncePrefix 1024
        plaintext = .ok metadata ∧
      sealGenerationStreaming sliceSource vectorSink aead sha256 metadata key plaintext [] =
        .ok (report, container) ∧
      openGenerationStreaming sliceSource vectorSink aead sha256 container key [] =
        .ok (report, plaintext) := by
  obtain ⟨inMemory, streamed⟩ := container_round_trip sha256 key identity noncePrefix chunkSize
    aead_addsTag aead_inverts
  obtain ⟨metadata, report, sent, container, hashed, -, sealed, delivered, -, -, opens⟩ :=
    streamed sliceSource_holds vectorSink_takes plaintext [] (by decide)
  obtain ⟨written, opened, same⟩ := opens sliceSource_holds vectorSink_takes sent [] delivered
  cases same
  exact ⟨inMemory plaintext (by decide), metadata, report, sent, hashed, sealed, opened⟩

end ProfilePlatform.Generation
