import ProfilePlatform.Generation.Metadata

/-! The container format and the code that seals and opens it in memory.

The authenticated cipher is a parameter, as code outside the repository. A record
is a header of seventeen bytes and a ciphertext; one of the final kind ends the
container.
-/

set_option autoImplicit false

namespace ProfilePlatform.Generation

open Foundation

/-- The ASCII bytes of BPGC0001. -/
def magic : List UInt8 := [66, 80, 71, 67, 48, 48, 48, 49]

def recordChunk : Nat := 1
def recordFinal : Nat := 2
def tagBytes : Nat := 16

/-- Encryption and decryption under a key, a nonce and associated data. -/
structure Aead where
  encrypt : Block 32 → Block 24 → List UInt8 → List UInt8 → Option (List UInt8)
  decrypt : Block 32 → Block 24 → List UInt8 → List UInt8 → Option (List UInt8)

structure RecordHeader where
  recordType : Nat
  index : Nat
  plaintextLength : Nat
  ciphertextLength : Nat

/-- The header's numbers fit their fields. -/
structure RecordHeader.Fits (header : RecordHeader) : Prop where
  recordType : header.recordType < capacity 1
  index : header.index < capacity 8
  plaintextLength : header.plaintextLength < capacity 4
  ciphertextLength : header.ciphertextLength < capacity 4

def headerBytes : Nat := 17

def RecordHeader.bytes (header : RecordHeader) : List UInt8 :=
  bigEndian 1 header.recordType ++ (bigEndian 8 header.index ++
    (bigEndian 4 header.plaintextLength ++ bigEndian 4 header.ciphertextLength))

def recordAad (metadataDigest : Block 32) (recordType index plaintextLength : Nat) : List UInt8 :=
  metadataDigest.val ++ bigEndian 1 recordType ++ bigEndian 8 index ++ bigEndian 4 plaintextLength

/-- What sealing and opening fix once for all records of a container. -/
structure RecordCipher where
  aead : Aead
  key : Block 32
  noncePrefix : NoncePrefix
  metadataDigest : Block 32

def GenerationMetadata.cipher (metadata : GenerationMetadata) (aead : Aead) (key : GenerationDek)
    (metadataDigest : Block 32) : RecordCipher where
  aead := aead
  key := key.bytes
  noncePrefix := metadata.noncePrefix
  metadataDigest := metadataDigest

namespace RecordCipher

def encrypt (cipher : RecordCipher) (recordType index : Nat) (message : List UInt8) :
    Except EncryptedGenerationError (List UInt8) :=
  match cipher.aead.encrypt cipher.key (cipher.noncePrefix.nonceFor index)
      (recordAad cipher.metadataDigest recordType index message.length) message with
  | some ciphertext => .ok ciphertext
  | none => .error .authenticationFailed

def decrypt (cipher : RecordCipher) (recordType index plaintextLength : Nat)
    (ciphertext : List UInt8) : Except EncryptedGenerationError (List UInt8) :=
  match cipher.aead.decrypt cipher.key (cipher.noncePrefix.nonceFor index)
      (recordAad cipher.metadataDigest recordType index plaintextLength) ciphertext with
  | some opened => .ok opened
  | none => .error .authenticationFailed

end RecordCipher

/-- The next record index. -/
def nextIndex (index : Nat) (overflow : EncryptedGenerationError) :
    Except EncryptedGenerationError Nat :=
  match checkedAdd index 1 with
  | some next => .ok next
  | none => .error overflow

structure SealedGeneration where
  metadata : GenerationMetadata
  metadataDigest : Block 32
  container : List UInt8
  containerDigest : Block 32

structure OpenedGeneration where
  metadata : GenerationMetadata
  plaintext : List UInt8

/-- Appends a record, unless its ciphertext is too long for the header. -/
def pushRecord (container : List UInt8) (recordType index plaintextLength : Nat)
    (ciphertext : List UInt8) (tooLong : EncryptedGenerationError) :
    Except EncryptedGenerationError (List UInt8) := do
  refuseIf (ciphertext.length ≥ capacity 4) tooLong
  let header : RecordHeader := ⟨recordType, index, plaintextLength, ciphertext.length⟩
  return container ++ (header.bytes ++ ciphertext)

/-- Seals the chunks in order. A chunk is at most 1 MiB, so its length always fits. -/
def sealChunks (cipher : RecordCipher) (container : List UInt8) (chunkCount : Nat) :
    List (List UInt8) → Except EncryptedGenerationError (List UInt8 × Nat)
  | [] => .ok (container, chunkCount)
  | chunk :: rest => do
    let ciphertext ← cipher.encrypt recordChunk chunkCount chunk
    let container ←
      pushRecord container recordChunk chunkCount chunk.length ciphertext .plaintextTooLarge
    let chunkCount ← nextIndex chunkCount .plaintextTooLarge
    sealChunks cipher container chunkCount rest

/-- The chunk records and the final record. -/
def sealRecords (cipher : RecordCipher) (prelude : List UInt8) (pieces : List (List UInt8)) :
    Except EncryptedGenerationError (List UInt8) := do
  let (container, chunkCount) ← sealChunks cipher prelude 0 pieces
  let finalTag ← cipher.encrypt recordFinal chunkCount []
  pushRecord container recordFinal chunkCount 0 finalTag .invalidContainer

/-- What stands before the records. -/
def preludeBytes (metadataBytes : List UInt8) : List UInt8 :=
  magic ++ (bigEndian 4 metadataBytes.length ++ metadataBytes)

def GenerationMetadata.validatePlaintext (self : GenerationMetadata) (sha256 : Sha256)
    (plaintext : List UInt8) : Except EncryptedGenerationError Unit :=
  refuseIf (plaintext.length ≠ self.plaintextBytes.val ∨ sha256 plaintext ≠ self.plaintextDigest)
    .metadataMismatch

def sealGeneration (aead : Aead) (sha256 : Sha256) (metadata : GenerationMetadata)
    (key : GenerationDek) (plaintext : List UInt8) :
    Except EncryptedGenerationError SealedGeneration := do
  refuseIf (metadata.keyId ≠ key.keyId) .metadataMismatch
  metadata.validatePlaintext sha256 plaintext
  let metadataBytes ← metadata.encode
  let metadataDigest := sha256 metadataBytes
  let cipher := metadata.cipher aead key metadataDigest
  let container ← sealRecords cipher (preludeBytes metadataBytes)
    (chunks metadata.chunkSize.val plaintext)
  -- the limit is checked once, on the finished container
  refuseIf (container.length > maxContainerBytes) .plaintextTooLarge
  return { metadata, metadataDigest, container, containerDigest := sha256 container }

structure InspectedGenerationMetadataPrelude where
  metadata : GenerationMetadata
  metadataDigest : Block 32
  preludeBytes : Nat

def readMetadata : Cursor EncryptedGenerationError (List UInt8) := do
  let start ← readBytes magic.length
  .lift (refuseIf (start.val ≠ magic) .invalidContainer)
  let metadataLength ← readNumber 4
  .lift (refuseIf (metadataLength = 0 ∨ metadataLength > maxMetadataBytes) .invalidContainer)
  let metadataBytes ← readBytes metadataLength
  return metadataBytes.val

def inspectGenerationMetadataPrelude (sha256 : Sha256) (container : List UInt8) :
    Except EncryptedGenerationError InspectedGenerationMetadataPrelude := do
  refuseIf (container.length > maxContainerBytes) .invalidContainer
  let (metadataBytes, unread) ← readMetadata container
  let metadata ← GenerationMetadata.decode metadataBytes
  return { metadata, metadataDigest := sha256 metadataBytes
           preludeBytes := container.length - unread.length }

structure OpenProgress where
  plaintext : List UInt8
  expectedIndex : Nat
  finalSeen : Bool

def readHeader : Cursor EncryptedGenerationError RecordHeader := do
  let recordType ← readNumber 1
  let index ← readNumber 8
  let plaintextLength ← readNumber 4
  let ciphertextLength ← readNumber 4
  return { recordType, index, plaintextLength, ciphertextLength }

/-- What an authenticated record adds to the plaintext, if its kind and lengths agree. -/
def OpenProgress.accept (progress : OpenProgress) (chunkSize : Nat) (header : RecordHeader)
    (opened : List UInt8) : Except EncryptedGenerationError OpenProgress :=
  if header.recordType = recordChunk then do
    refuseIf (header.plaintextLength = 0 ∨ header.plaintextLength > chunkSize ∨
      header.ciphertextLength ≠ header.plaintextLength + tagBytes ∨
      opened.length ≠ header.plaintextLength) .invalidContainer
    refuseIf (progress.plaintext.length + opened.length > maxPlaintextBytes) .plaintextTooLarge
    let expectedIndex ← nextIndex progress.expectedIndex .invalidContainer
    return { progress with plaintext := progress.plaintext ++ opened, expectedIndex }
  else if header.recordType = recordFinal then do
    refuseIf (header.plaintextLength ≠ 0 ∨ header.ciphertextLength ≠ tagBytes ∨ opened ≠ [])
      .invalidContainer
    return { progress with finalSeen := true }
  else .error .invalidContainer

def openRecord (cipher : RecordCipher) (chunkSize : Nat) (progress : OpenProgress) :
    Cursor EncryptedGenerationError OpenProgress := do
  .lift (refuseIf (progress.finalSeen = true) .invalidContainer)
  let header ← readHeader
  .lift (refuseIf (header.index ≠ progress.expectedIndex) .invalidContainer)
  -- kind and lengths are looked at only after the record has been authenticated
  let ciphertext ← readBytes header.ciphertextLength
  let opened ← .lift
    (cipher.decrypt header.recordType header.index header.plaintextLength ciphertext.val)
  .lift (progress.accept chunkSize header opened)

theorem readHeader_eq_ok {unread rest : List UInt8} {header : RecordHeader} :
    readHeader unread = .ok (header, rest) ↔ header.Fits ∧ unread = header.bytes ++ rest := by
  constructor
  · intro read
    obtain ⟨recordType, _, first, read⟩ := Cursor.bind_eq_ok.mp read
    obtain ⟨index, _, second, read⟩ := Cursor.bind_eq_ok.mp read
    obtain ⟨plaintextLength, _, third, read⟩ := Cursor.bind_eq_ok.mp read
    obtain ⟨ciphertextLength, _, fourth, same⟩ := Cursor.bind_eq_ok.mp read
    cases same
    obtain ⟨fitsType, rfl⟩ := Cursor.number_eq_ok.mp first
    obtain ⟨fitsIndex, rfl⟩ := Cursor.number_eq_ok.mp second
    obtain ⟨fitsPlaintext, rfl⟩ := Cursor.number_eq_ok.mp third
    obtain ⟨fitsCiphertext, rfl⟩ := Cursor.number_eq_ok.mp fourth
    exact ⟨⟨fitsType, fitsIndex, fitsPlaintext, fitsCiphertext⟩,
      by simp only [RecordHeader.bytes, List.append_assoc]⟩
  · rintro ⟨fits, rfl⟩
    have reads : Cursor.Reads readHeader header.bytes header :=
      (Cursor.Reads.number fits.recordType).bind
        ((Cursor.Reads.number fits.index).bind
          ((Cursor.Reads.number fits.plaintextLength).bind
            ((Cursor.Reads.number fits.ciphertextLength).finish (Cursor.Reads.pure header))))
    exact reads rest

@[simp] theorem RecordHeader.length_bytes (header : RecordHeader) :
    header.bytes.length = headerBytes := by
  simp only [RecordHeader.bytes, List.length_append, length_bigEndian]
  rfl

/-- A record at the head of the unread bytes, as far as the in-memory reader checks it. -/
structure Opened (cipher : RecordCipher) (chunkSize : Nat) (progress : OpenProgress)
    (unread : List UInt8) (next : OpenProgress) (rest : List UInt8) (header : RecordHeader)
    (ciphertext opened : List UInt8) : Prop where
  unfinished : ¬progress.finalSeen = true
  fits : header.Fits
  split : unread = header.bytes ++ (ciphertext ++ rest)
  inOrder : header.index = progress.expectedIndex
  length : ciphertext.length = header.ciphertextLength
  decrypted : cipher.decrypt header.recordType header.index header.plaintextLength ciphertext =
    .ok opened
  accepted : progress.accept chunkSize header opened = .ok next

theorem openRecord_eq_ok {cipher : RecordCipher} {chunkSize : Nat} {progress next : OpenProgress}
    {unread rest : List UInt8} :
    openRecord cipher chunkSize progress unread = .ok (next, rest) ↔
      ∃ header ciphertext opened,
        Opened cipher chunkSize progress unread next rest header ciphertext opened := by
  constructor
  · intro read
    obtain ⟨_, _, unfinished, read⟩ := Cursor.bind_eq_ok.mp read
    obtain ⟨header, _, parsed, read⟩ := Cursor.bind_eq_ok.mp read
    obtain ⟨_, _, inOrder, read⟩ := Cursor.bind_eq_ok.mp read
    obtain ⟨ciphertext, _, taken, read⟩ := Cursor.bind_eq_ok.mp read
    obtain ⟨opened, _, decrypted, accepted⟩ := Cursor.bind_eq_ok.mp read
    obtain ⟨going, rfl⟩ := Cursor.lift_eq_ok.mp unfinished
    obtain ⟨fits, rfl⟩ := readHeader_eq_ok.mp parsed
    obtain ⟨expected, rfl⟩ := Cursor.lift_eq_ok.mp inOrder
    cases Cursor.take_eq_ok.mp taken
    obtain ⟨authentic, rfl⟩ := Cursor.lift_eq_ok.mp decrypted
    obtain ⟨taken, rfl⟩ := Cursor.lift_eq_ok.mp accepted
    exact ⟨header, ciphertext.val, opened, refuseIf_eq_ok.mp going, fits, rfl,
      Decidable.not_not.mp (refuseIf_eq_ok.mp expected), ciphertext.property, authentic, taken⟩
  · rintro ⟨header, ciphertext, opened, unfinished, fits, rfl, inOrder, length, decrypted, accepted⟩
    refine Cursor.bind_eq_ok.mpr ⟨(), _, Cursor.lift_eq_ok.mpr ⟨refuseIf_passes unfinished, rfl⟩, ?_⟩
    refine Cursor.bind_eq_ok.mpr ⟨header, _, readHeader_eq_ok.mpr ⟨fits, rfl⟩, ?_⟩
    refine Cursor.bind_eq_ok.mpr ⟨(), _,
      Cursor.lift_eq_ok.mpr ⟨refuseIf_passes (not_not_intro inOrder), rfl⟩, ?_⟩
    refine Cursor.bind_eq_ok.mpr ⟨⟨ciphertext, length⟩, _, Cursor.take_eq_ok.mpr rfl, ?_⟩
    refine Cursor.bind_eq_ok.mpr ⟨opened, _, Cursor.lift_eq_ok.mpr ⟨decrypted, rfl⟩, ?_⟩
    exact Cursor.lift_eq_ok.mpr ⟨accepted, rfl⟩

theorem openRecord_shrinks {cipher : RecordCipher} {chunkSize : Nat} {progress next : OpenProgress}
    {unread rest : List UInt8}
    (read : openRecord cipher chunkSize progress unread = .ok (next, rest)) :
    rest.length < unread.length := by
  obtain ⟨header, ciphertext, opened, record⟩ := openRecord_eq_ok.mp read
  rw [record.split, List.length_append, List.length_append, header.length_bytes]
  simp only [headerBytes]
  omega

def openRecords (cipher : RecordCipher) (chunkSize : Nat) (progress : OpenProgress)
    (unread : List UInt8) : Except EncryptedGenerationError OpenProgress :=
  if unread = [] then .ok progress
  else
    match _ : openRecord cipher chunkSize progress unread with
    | .error why => .error why
    | .ok (next, rest) => openRecords cipher chunkSize next rest
termination_by unread.length
decreasing_by exact openRecord_shrinks (by assumption)

def openGeneration (aead : Aead) (sha256 : Sha256) (container : List UInt8) (key : GenerationDek) :
    Except EncryptedGenerationError OpenedGeneration := do
  let inspected ← inspectGenerationMetadataPrelude sha256 container
  let metadata := inspected.metadata
  refuseIf (metadata.keyId ≠ key.keyId) .metadataMismatch
  -- the metadata may announce what only a stream can hold
  refuseIf (metadata.plaintextBytes.val > maxPlaintextBytes) .plaintextTooLarge
  let cipher := metadata.cipher aead key inspected.metadataDigest
  let progress ← openRecords cipher metadata.chunkSize.val ⟨[], 0, false⟩
    (container.drop inspected.preludeBytes)
  refuseIf (¬progress.finalSeen = true) .invalidContainer
  refuseIf (progress.plaintext.length ≠ metadata.plaintextBytes.val) .digestMismatch
  refuseIf (sha256 progress.plaintext ≠ metadata.plaintextDigest) .digestMismatch
  return { metadata, plaintext := progress.plaintext }

end ProfilePlatform.Generation
