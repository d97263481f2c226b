import ProfilePlatform.Generation.Container

/-! Sealing and opening a generation from a source into a sink.

The container never lies in memory as a whole: what has been read or written is
only counted and hashed. A failed call leaves a source and a sink nobody may use,
so a failure carries neither.
-/

set_option autoImplicit false

namespace ProfilePlatform.Generation

open Foundation

structure StreamingGenerationReport where
  metadata : GenerationMetadata
  metadataDigest : Block 32
  containerDigest : Block 32
  containerBytes : Nat

/-- What the report of a container says. -/
def StreamingGenerationReport.of (sha256 : Sha256) (metadata : GenerationMetadata)
    (metadataBytes container : List UInt8) : StreamingGenerationReport where
  metadata := metadata
  metadataDigest := sha256 metadataBytes
  containerDigest := sha256 container
  containerBytes := container.length

/-- A sink with the running hash and count of what went into it. -/
structure Outflow (τ : Type) where
  sink : τ
  hashed : List UInt8
  bytes : Nat

/-- A source with the running hash and count of what came out of it. -/
structure Intake (σ : Type) where
  source : σ
  hashed : List UInt8
  bytes : Nat

def crypto {A : Type} (result : Except EncryptedGenerationError A) :
    Except StreamingGenerationError A := result.mapError .crypto

def io {A : Type} (result : Except IoError A) : Except StreamingGenerationError A :=
  result.mapError .io

theorem crypto_eq_ok {A : Type} {result : Except EncryptedGenerationError A} {value : A} :
    crypto result = .ok value ↔ result = .ok value := mapError_eq_ok

theorem io_eq_ok {A : Type} {result : Except IoError A} {value : A} :
    io result = .ok value ↔ result = .ok value := mapError_eq_ok

theorem crypto_refuseIf_eq_ok {condition : Prop} [Decidable condition]
    {why : EncryptedGenerationError} {done : Unit} :
    crypto (refuseIf condition why) = .ok done ↔ ¬condition :=
  crypto_eq_ok.trans refuseIf_eq_ok

theorem crypto_passes {condition : Prop} [Decidable condition] {why : EncryptedGenerationError}
    (fails : ¬condition) : crypto (refuseIf condition why) = .ok () :=
  crypto_eq_ok.mpr (refuseIf_passes fails)

/-- The count after `length` more bytes, within the policy for containers. -/
def streamBytes (bytes length : Nat) : Except EncryptedGenerationError Nat :=
  match checkedAdd bytes length with
  | none => .error .plaintextTooLarge
  | some next => if next > maxStreamContainerBytes then .error .plaintextTooLarge else .ok next

theorem streamBytes_eq_ok {bytes length next : Nat} :
    streamBytes bytes length = .ok next ↔ next = bytes + length ∧ next ≤ maxStreamContainerBytes := by
  have fits : maxStreamContainerBytes < u64Limit := by decide
  unfold streamBytes
  split
  next overflow =>
    have overflow := checkedAdd_eq_none.mp overflow
    exact ⟨fun impossible => (nomatch impossible), fun ⟨same, small⟩ => by omega⟩
  next sum added =>
    obtain ⟨rfl, -⟩ := checkedAdd_eq_some.mp added
    split
    next beyond =>
      exact ⟨fun impossible => (nomatch impossible), fun ⟨same, small⟩ => by omega⟩
    next within =>
      constructor
      · rintro ⟨⟩
        exact ⟨rfl, Nat.le_of_not_lt within⟩
      · rintro ⟨rfl, -⟩
        rfl

section Seal

variable {σ τ : Type} (source : ReadSource σ) (sink : WriteSink τ)

def streamWrite (out : Outflow τ) (data : List UInt8) :
    Except StreamingGenerationError (Outflow τ) := do
  let next ← crypto (streamBytes out.bytes data.length)
  let written ← io (sink.writeAll out.sink data)
  return { sink := written, hashed := out.hashed ++ data, bytes := next }

/-- Several writes, one after the other. -/
def streamWrites (out : Outflow τ) :
    List (List UInt8) → Except StreamingGenerationError (Outflow τ)
  | [] => .ok out
  | data :: rest => do
    let out ← streamWrite sink out data
    streamWrites out rest

def streamRecord (out : Outflow τ) (recordType index plaintextLength : Nat)
    (ciphertext : List UInt8) (tooLong : EncryptedGenerationError) :
    Except StreamingGenerationError (Outflow τ) := do
  let out ← streamWrites sink out
    [bigEndian 1 recordType, bigEndian 8 index, bigEndian 4 plaintextLength]
  crypto (refuseIf (ciphertext.length ≥ capacity 4) tooLong)
  streamWrites sink out [bigEndian 4 ciphertext.length, ciphertext]

structure SealProgress (σ τ : Type) where
  source : σ
  out : Outflow τ
  originalHashed : List UInt8
  index : Nat

def streamChunk (cipher : RecordCipher) (count : Nat) (progress : SealProgress σ τ) :
    Except StreamingGenerationError (SealProgress σ τ) := do
  let (chunk, rest) ← io (source.readExact progress.source count)
  -- the header follows the ciphertext in time, since it carries its length
  let ciphertext ← crypto (cipher.encrypt recordChunk progress.index chunk)
  let out ← streamRecord sink progress.out recordChunk progress.index count ciphertext
    .plaintextTooLarge
  let index ← crypto (nextIndex progress.index .plaintextTooLarge)
  return { source := rest, out, originalHashed := progress.originalHashed ++ chunk, index }

def streamChunks (cipher : RecordCipher) (chunkSize : ChunkSize) (remaining : Nat)
    (progress : SealProgress σ τ) : Except StreamingGenerationError (SealProgress σ τ) :=
  if remaining = 0 then .ok progress
  else do
    let count := min remaining chunkSize.val
    let progress ← streamChunk source sink cipher count progress
    streamChunks cipher chunkSize (remaining - count) progress
termination_by remaining
decreasing_by
  have positive : 0 < chunkSize.val := Nat.lt_of_lt_of_le (by decide) chunkSize.property.1
  omega

def sealGenerationStreaming (aead : Aead) (sha256 : Sha256) (metadata : GenerationMetadata)
    (key : GenerationDek) (s : σ) (t : τ) :
    Except StreamingGenerationError (StreamingGenerationReport × τ) := do
  crypto (refuseIf (metadata.keyId ≠ key.keyId) .metadataMismatch)
  crypto (refuseIf (metadata.plaintextBytes.val > maxStreamPlaintextBytes) .plaintextTooLarge)
  let metadataBytes ← crypto metadata.encode
  let metadataDigest := sha256 metadataBytes
  let cipher := metadata.cipher aead key metadataDigest
  let out ← streamWrites sink ⟨t, [], 0⟩
    [magic, bigEndian 4 metadataBytes.length, metadataBytes]
  let progress ← streamChunks source sink cipher metadata.chunkSize metadata.plaintextBytes.val
    ⟨s, out, [], 0⟩
  -- appended bytes are refused, and a source that changed since it was hashed
  let (trailing, _) ← io (source.read progress.source 1)
  crypto (refuseIf (trailing ≠ [] ∨ sha256 progress.originalHashed ≠ metadata.plaintextDigest)
    .metadataMismatch)
  let finalTag ← crypto (cipher.encrypt recordFinal progress.index [])
  let out ← streamRecord sink progress.out recordFinal progress.index 0 finalTag .invalidContainer
  return ({ metadata, metadataDigest, containerDigest := sha256 out.hashed
            containerBytes := out.bytes }, out.sink)

end Seal

section Open

variable {σ τ : Type} (source : ReadSource σ) (sink : WriteSink τ)

def streamRead (intake : Intake σ) (length : Nat) :
    Except StreamingGenerationError (List UInt8 × Intake σ) := do
  let next ← crypto (streamBytes intake.bytes length)
  -- the limit is checked before anything is read
  let (data, rest) ← io (source.readExact intake.source length)
  return (data, { source := rest, hashed := intake.hashed ++ data, bytes := next })

/-- The header in a block of seventeen bytes, cut at fixed offsets. -/
def RecordHeader.ofBlock (block : List UInt8) : RecordHeader where
  recordType := ofBigEndian (block.take 1)
  index := ofBigEndian ((block.drop 1).take 8)
  plaintextLength := ofBigEndian ((block.drop 9).take 4)
  ciphertextLength := ofBigEndian ((block.drop 13).take 4)

/-- The kinds and lengths that are refused before the ciphertext is read. -/
def RecordHeader.Malformed (header : RecordHeader) (chunkSize : Nat) : Prop :=
  ¬(header.recordType = recordChunk ∨ header.recordType = recordFinal) ∨
    (header.recordType = recordChunk ∧ (header.plaintextLength = 0 ∨
      header.plaintextLength > chunkSize ∨
      header.ciphertextLength ≠ header.plaintextLength + tagBytes)) ∨
    (header.recordType = recordFinal ∧
      (header.plaintextLength ≠ 0 ∨ header.ciphertextLength ≠ tagBytes))

instance (header : RecordHeader) (chunkSize : Nat) : Decidable (header.Malformed chunkSize) :=
  inferInstanceAs (Decidable (_ ∨ _ ∧ (_ ∨ _ ∨ _) ∨ _ ∧ (_ ∨ _)))

structure StreamProgress (σ τ : Type) where
  intake : Intake σ
  sink : τ
  plainHashed : List UInt8
  plainBytes : Nat
  index : Nat

/-- After a record there are more, or the container is complete. -/
inductive StreamStep (σ τ : Type) where
  | finished (intake : Intake σ) (sink : τ)
  | more (progress : StreamProgress σ τ)

/-- The plaintext count after `length` more bytes. -/
def plainBytesAfter (metadata : GenerationMetadata) (bytes length : Nat) :
    Except EncryptedGenerationError Nat :=
  match checkedAdd bytes length with
  | none => .error .plaintextTooLarge
  | some next =>
    if next > metadata.plaintextBytes.val ∨ next > maxStreamPlaintextBytes then
      .error .plaintextTooLarge
    else .ok next

/-- Reads a header, checks it, and reads the ciphertext it announces. -/
def readRecord (chunkSize : Nat) (progress : StreamProgress σ τ) :
    Except StreamingGenerationError (RecordHeader × List UInt8 × Intake σ) := do
  let (block, intake) ← streamRead source progress.intake headerBytes
  let header := RecordHeader.ofBlock block
  crypto (refuseIf (header.index ≠ progress.index) .invalidContainer)
  crypto (refuseIf (header.Malformed chunkSize) .invalidContainer)
  let (ciphertext, intake) ← streamRead source intake header.ciphertextLength
  return (header, ciphertext, intake)

/-- The final record must close exactly the announced plaintext, and the source. -/
def finishStream (sha256 : Sha256) (metadata : GenerationMetadata) (progress : StreamProgress σ τ)
    (intake : Intake σ) (opened : List UInt8) : Except StreamingGenerationError (StreamStep σ τ) := do
  crypto (refuseIf (opened ≠ [] ∨ progress.plainBytes ≠ metadata.plaintextBytes.val ∨
    sha256 progress.plainHashed ≠ metadata.plaintextDigest) .digestMismatch)
  let (trailing, _) ← io (source.read intake.source 1)
  crypto (refuseIf (trailing ≠ []) .invalidContainer)
  return .finished intake progress.sink

/-- An authenticated chunk goes to the sink. -/
def writeOpened (metadata : GenerationMetadata) (progress : StreamProgress σ τ)
    (intake : Intake σ) (plaintextLength : Nat) (opened : List UInt8) :
    Except StreamingGenerationError (StreamStep σ τ) := do
  crypto (refuseIf (opened.length ≠ plaintextLength) .invalidContainer)
  let plainBytes ← crypto (plainBytesAfter metadata progress.plainBytes plaintextLength)
  let written ← io (sink.writeAll progress.sink opened)
  let index ← crypto (nextIndex progress.index .invalidContainer)
  return .more { intake, sink := written, plainHashed := progress.plainHashed ++ opened
                 plainBytes, index }

def openStreamRecord (sha256 : Sha256) (cipher : RecordCipher) (metadata : GenerationMetadata)
    (progress : StreamProgress σ τ) : Except StreamingGenerationError (StreamStep σ τ) := do
  let (header, ciphertext, intake) ← readRecord source metadata.chunkSize.val progress
  let opened ← crypto
    (cipher.decrypt header.recordType progress.index header.plaintextLength ciphertext)
  if header.recordType = recordFinal then
    finishStream source sha256 metadata progress intake opened
  else writeOpened sink metadata progress intake header.plaintextLength opened

theorem streamRead_bytes {source : ReadSource σ} {intake after : Intake σ} {length : Nat}
    {data : List UInt8} (read : streamRead source intake length = .ok (data, after)) :
    after.bytes = intake.bytes + length ∧ after.bytes ≤ maxStreamContainerBytes := by
  obtain ⟨next, counted, read⟩ := bind_eq_ok.mp read
  obtain ⟨⟨bytes, rest⟩, -, same⟩ := bind_eq_ok.mp read
  cases same
  exact streamBytes_eq_ok.mp (crypto_eq_ok.mp counted)

theorem readRecord_bytes {source : ReadSource σ} {chunkSize : Nat} {progress : StreamProgress σ τ}
    {header : RecordHeader} {ciphertext : List UInt8} {intake : Intake σ}
    (read : readRecord source chunkSize progress = .ok (header, ciphertext, intake)) :
    progress.intake.bytes < intake.bytes ∧ intake.bytes ≤ maxStreamContainerBytes := by
  obtain ⟨⟨block, first⟩, readBlock, read⟩ := bind_eq_ok.mp read
  obtain ⟨_, -, read⟩ := bind_eq_ok.mp read
  obtain ⟨_, -, read⟩ := bind_eq_ok.mp read
  obtain ⟨⟨bytes, second⟩, readCiphertext, same⟩ := bind_eq_ok.mp read
  cases same
  have header := streamRead_bytes readBlock
  have body := streamRead_bytes readCiphertext
  simp only [headerBytes] at header
  omega

theorem finishStream_not_more {source : ReadSource σ} {sha256 : Sha256}
    {metadata : GenerationMetadata} {progress next : StreamProgress σ τ} {intake : Intake σ}
    {opened : List UInt8} :
    finishStream source sha256 metadata progress intake opened ≠ .ok (.more next) := by
  intro finished
  obtain ⟨_, -, finished⟩ := bind_eq_ok.mp finished
  obtain ⟨_, -, finished⟩ := bind_eq_ok.mp finished
  obtain ⟨_, -, same⟩ := bind_eq_ok.mp finished
  cases same

theorem writeOpened_intake {sink : WriteSink τ} {metadata : GenerationMetadata}
    {progress next : StreamProgress σ τ} {intake : Intake σ} {plaintextLength : Nat}
    {opened : List UInt8}
    (written : writeOpened sink metadata progress intake plaintextLength opened = .ok (.more next)) :
    next.intake = intake := by
  obtain ⟨_, -, written⟩ := bind_eq_ok.mp written
  obtain ⟨_, -, written⟩ := bind_eq_ok.mp written
  obtain ⟨_, -, written⟩ := bind_eq_ok.mp written
  obtain ⟨_, -, same⟩ := bind_eq_ok.mp written
  cases same
  rfl

/-- Every record takes bytes from the source, and the policy bounds how many there are. -/
theorem openStreamRecord_grows {source : ReadSource σ} {sink : WriteSink τ} {sha256 : Sha256}
    {cipher : RecordCipher} {metadata : GenerationMetadata} {progress next : StreamProgress σ τ}
    (step : openStreamRecord source sink sha256 cipher metadata progress = .ok (.more next)) :
    progress.intake.bytes < next.intake.bytes ∧ next.intake.bytes ≤ maxStreamContainerBytes := by
  obtain ⟨⟨header, ciphertext, intake⟩, read, step⟩ := bind_eq_ok.mp step
  obtain ⟨opened, -, step⟩ := bind_eq_ok.mp step
  split at step
  · exact absurd step finishStream_not_more
  · rw [writeOpened_intake step]
    exact readRecord_bytes read

def openStreamRecords (sha256 : Sha256) (cipher : RecordCipher) (metadata : GenerationMetadata)
    (progress : StreamProgress σ τ) : Except StreamingGenerationError (Intake σ × τ) :=
  match _ : openStreamRecord source sink sha256 cipher metadata progress with
  | .error why => .error why
  | .ok (.finished intake written) => .ok (intake, written)
  | .ok (.more next) => openStreamRecords sha256 cipher metadata next
termination_by maxStreamContainerBytes - progress.intake.bytes
decreasing_by
  have := openStreamRecord_grows (by assumption)
  omega

def openGenerationStreaming (aead : Aead) (sha256 : Sha256) (s : σ) (key : GenerationDek) (t : τ) :
    Except StreamingGenerationError (StreamingGenerationReport × τ) := do
  let (start, intake) ← streamRead source ⟨s, [], 0⟩ 12
  crypto (refuseIf (start.take 8 ≠ magic) .invalidContainer)
  let metadataLength := ofBigEndian ((start.drop 8).take 4)
  crypto (refuseIf (metadataLength = 0 ∨ metadataLength > maxMetadataBytes) .invalidContainer)
  let (metadataBytes, intake) ← streamRead source intake metadataLength
  let metadata ← crypto (GenerationMetadata.decode metadataBytes)
  crypto (refuseIf (metadata.keyId ≠ key.keyId) .metadataMismatch)
  let metadataDigest := sha256 metadataBytes
  let cipher := metadata.cipher aead key metadataDigest
  -- the limit of the in-memory reader on the announced length does not apply here
  let (intake, written) ← openStreamRecords source sink sha256 cipher metadata ⟨intake, t, [], 0, 0⟩
  return ({ metadata, metadataDigest, containerDigest := sha256 intake.hashed
            containerBytes := intake.bytes }, written)

end Open

end ProfilePlatform.Generation
