import ProfilePlatform.Foundation.Cursor
import ProfilePlatform.Foundation.Stream
import ProfilePlatform.Primitives

/-! The metadata of an encrypted generation and its canonical encoding.

Hashing is a parameter: SHA-256 is code outside the repository. Sizes that fit
the machine word on every supported target are natural numbers.
-/

set_option autoImplicit false

namespace ProfilePlatform.Generation

open Foundation

def containerVersion : Nat := 1
def algorithmId : Nat := 1
def minChunkBytes : Nat := 1024
def maxChunkBytes : Nat := 1048576
def maxPlaintextBytes : Nat := 67108864
def maxStreamPlaintextBytes : Nat := 603979776
def maxStreamContainerBytes : Nat := 637534208
def maxContainerBytes : Nat := 83886080
def maxMetadataBytes : Nat := 4096
def minKeyIdBytes : Nat := 8
def maxKeyIdBytes : Nat := 96

/-- The errors of the crate that sealing and opening can answer with. -/
inductive EncryptedGenerationError where
  | invalidKeyId
  | invalidChunkSize
  | plaintextTooLarge
  | metadataMismatch
  | invalidContainer
  | unsupportedVersion
  | authenticationFailed
  | digestMismatch
  deriving DecidableEq, Repr

inductive StreamingGenerationError where
  | io (why : IoError)
  | crypto (why : EncryptedGenerationError)
  deriving DecidableEq, Repr

abbrev Sha256 : Type := List UInt8 → Block 32

def KeyId.accepts (value : String) : Bool :=
  minKeyIdBytes ≤ (utf8Bytes value).length && (utf8Bytes value).length ≤ maxKeyIdBytes &&
    (utf8Bytes value).all isIdByte

abbrev KeyId : Type := { value : String // KeyId.accepts value = true }

def KeyId.parse (value : String) : Except EncryptedGenerationError KeyId :=
  if accepted : KeyId.accepts value = true then .ok ⟨value, accepted⟩ else .error .invalidKeyId

structure GenerationDek where
  keyId : KeyId
  bytes : Block 32

abbrev NoncePrefix : Type := Block 16

/-- The nonce of a record: the prefix of the generation and the record's index. -/
def NoncePrefix.nonceFor (noncePrefix : NoncePrefix) (index : Nat) : Block 24 :=
  ⟨noncePrefix.val ++ bigEndian 8 index, by simp [noncePrefix.property]⟩

abbrev ChunkSize : Type := { size : Nat // minChunkBytes ≤ size ∧ size ≤ maxChunkBytes }

abbrev StreamLength : Type := { bytes : Nat // bytes ≤ maxStreamPlaintextBytes }

structure GenerationIdentity where
  tenantId : TenantId
  profileId : ProfileId
  generationId : GenerationId
  baseGenerationId : Option GenerationId

/-- Every constructor of the source validates the chunk size and bounds the plaintext. -/
structure GenerationMetadata where
  tenantId : TenantId
  profileId : ProfileId
  generationId : GenerationId
  baseGenerationId : Option GenerationId
  keyId : KeyId
  noncePrefix : NoncePrefix
  chunkSize : ChunkSize
  plaintextBytes : StreamLength
  plaintextDigest : Block 32

def validateChunkSize (chunkSize : Nat) : Except EncryptedGenerationError ChunkSize :=
  if valid : minChunkBytes ≤ chunkSize ∧ chunkSize ≤ maxChunkBytes then .ok ⟨chunkSize, valid⟩
  else .error .invalidChunkSize

def validateStreamLength (bytes : Nat) : Except EncryptedGenerationError StreamLength :=
  if large : bytes > maxStreamPlaintextBytes then .error .plaintextTooLarge
  else .ok ⟨bytes, Nat.le_of_not_lt large⟩

theorem validateChunkSize_val (chunkSize : ChunkSize) :
    validateChunkSize chunkSize.val = .ok chunkSize :=
  dif_pos chunkSize.property

theorem validateStreamLength_val (bytes : StreamLength) :
    validateStreamLength bytes.val = .ok bytes :=
  dif_neg (Nat.not_lt.mpr bytes.property)

def readBytes (length : Nat) : Cursor EncryptedGenerationError (Block length) :=
  .take .invalidContainer length

def readNumber (width : Nat) : Cursor EncryptedGenerationError Nat :=
  .number .invalidContainer width

namespace GenerationMetadata

def ofIdentity (identity : GenerationIdentity) (keyId : KeyId) (noncePrefix : NoncePrefix)
    (chunkSize : ChunkSize) (plaintextBytes : StreamLength) (plaintextDigest : Block 32) :
    GenerationMetadata where
  tenantId := identity.tenantId
  profileId := identity.profileId
  generationId := identity.generationId
  baseGenerationId := identity.baseGenerationId
  keyId := keyId
  noncePrefix := noncePrefix
  chunkSize := chunkSize
  plaintextBytes := plaintextBytes
  plaintextDigest := plaintextDigest

theorem maxPlaintext_le_stream {bytes : Nat} (small : ¬bytes > maxPlaintextBytes) :
    bytes ≤ maxStreamPlaintextBytes :=
  Nat.le_trans (Nat.le_of_not_lt small) (by decide)

def forPlaintext (sha256 : Sha256) (identity : GenerationIdentity) (keyId : KeyId)
    (noncePrefix : NoncePrefix) (chunkSize : Nat) (plaintext : List UInt8) :
    Except EncryptedGenerationError GenerationMetadata := do
  let chunkSize ← validateChunkSize chunkSize
  if large : plaintext.length > maxPlaintextBytes then throw .plaintextTooLarge
  else
    return ofIdentity identity keyId noncePrefix chunkSize
      ⟨plaintext.length, maxPlaintext_le_stream large⟩ (sha256 plaintext)

/-- Sealing reads the source again and checks the digest that is only promised here. -/
def forPrehashedStream (identity : GenerationIdentity) (keyId : KeyId) (noncePrefix : NoncePrefix)
    (chunkSize plaintextBytes : Nat) (plaintextDigest : Block 32) :
    Except EncryptedGenerationError GenerationMetadata := do
  let chunkSize ← validateChunkSize chunkSize
  let plaintextBytes ← validateStreamLength plaintextBytes
  return ofIdentity identity keyId noncePrefix chunkSize plaintextBytes plaintextDigest

section ForReader

variable {σ : Type} (source : ReadSource σ)

/-- The first pass over a source: its bytes, as far as the policy lets it read. -/
def hashReader (s : σ) (hashed : List UInt8) (within : hashed.length ≤ maxStreamPlaintextBytes) :
    Except StreamingGenerationError { hashed : List UInt8 // hashed.length ≤ maxStreamPlaintextBytes } :=
  match source.read s 65536 with
  | .error why => .error (.io why)
  | .ok ([], _) => .ok ⟨hashed, within⟩
  | .ok (byte :: piece, rest) =>
    if large : (hashed ++ byte :: piece).length > maxStreamPlaintextBytes then
      .error (.crypto .plaintextTooLarge)
    else hashReader rest (hashed ++ byte :: piece) (Nat.le_of_not_lt large)
termination_by maxStreamPlaintextBytes - hashed.length
decreasing_by simp only [List.length_append, List.length_cons] at large ⊢; omega

def forReader (sha256 : Sha256) (identity : GenerationIdentity) (keyId : KeyId)
    (noncePrefix : NoncePrefix) (chunkSize : Nat) (s : σ) :
    Except StreamingGenerationError GenerationMetadata := do
  let chunkSize ← (validateChunkSize chunkSize).mapError .crypto
  let hashed ← hashReader source s [] (Nat.zero_le _)
  return ofIdentity identity keyId noncePrefix chunkSize ⟨hashed.val.length, hashed.property⟩
    (sha256 hashed.val)

variable {source} {held : σ → List UInt8}

/-- A first pass over a source within the policy sees everything the source holds. -/
theorem hashReader_eq (holds : source.Holds held) {s : σ} {hashed : List UInt8}
    (within : hashed.length ≤ maxStreamPlaintextBytes)
    (fits : (hashed ++ held s).length ≤ maxStreamPlaintextBytes) :
    hashReader source s hashed within = .ok ⟨hashed ++ held s, fits⟩ := by
  induction size : (held s).length using Nat.strongRecOn generalizing s hashed with
  | ind length ih =>
    obtain ⟨piece, rest, read, split, -, progress⟩ := holds.reads s 65536
    unfold hashReader
    rw [read]
    cases piece with
    | nil =>
      have ended : held s = [] :=
        Decidable.byContradiction fun left => progress (by decide) left rfl
      simp only [ended, List.append_nil]
    | cons byte piece =>
      have whole : hashed ++ held s = hashed ++ byte :: piece ++ held rest := by
        rw [split, List.append_assoc]
      have shorter : (held rest).length < length := by
        rw [← size, split, List.length_append, List.length_cons]
        omega
      have small : ¬(hashed ++ byte :: piece).length > maxStreamPlaintextBytes := by
        rw [whole, List.length_append] at fits
        omega
      simp only [dif_neg small, whole]
      exact ih _ shorter _ (whole ▸ fits) rfl

/-- Hashing the source first gives the metadata of its exact length and digest. -/
theorem forReader_eq (holds : source.Holds held) (sha256 : Sha256) (identity : GenerationIdentity)
    (keyId : KeyId) (noncePrefix : NoncePrefix) (chunkSize : Nat) {s : σ}
    (fits : (held s).length ≤ maxStreamPlaintextBytes) :
    forReader source sha256 identity keyId noncePrefix chunkSize s =
      (forPrehashedStream identity keyId noncePrefix chunkSize (held s).length
        (sha256 (held s))).mapError .crypto := by
  unfold forReader forPrehashedStream
  cases validateChunkSize chunkSize with
  | error why => rfl
  | ok valid =>
    have hashed := @hashReader_eq _ _ _ holds s [] (Nat.zero_le _) fits
    have length := validateStreamLength_val ⟨(held s).length, fits⟩
    simp only [hashed, length]
    rfl

end ForReader

def pushString (value : String) : Except EncryptedGenerationError (List UInt8) :=
  if (utf8Bytes value).length < capacity 2 then
    .ok (bigEndian 2 (utf8Bytes value).length ++ utf8Bytes value)
  else .error .invalidContainer

def pushBase : Option GenerationId → Except EncryptedGenerationError (List UInt8)
  | some generationId => do return 1 :: (← pushString generationId.asStr)
  | none => .ok [0]

def encode (self : GenerationMetadata) : Except EncryptedGenerationError (List UInt8) := do
  let _ ← validateChunkSize self.chunkSize.val
  let _ ← validateStreamLength self.plaintextBytes.val
  let tenantId ← pushString self.tenantId.asStr
  let profileId ← pushString self.profileId.asStr
  let generationId ← pushString self.generationId.asStr
  let baseGenerationId ← pushBase self.baseGenerationId
  let keyId ← pushString self.keyId.val
  let output :=
    bigEndian 2 containerVersion ++ (bigEndian 2 algorithmId ++ (tenantId ++ (profileId ++
      (generationId ++ (baseGenerationId ++ (keyId ++ (self.noncePrefix.val ++
        (bigEndian 4 self.chunkSize.val ++ (bigEndian 8 self.plaintextBytes.val ++
          self.plaintextDigest.val)))))))))
  if output.length > maxMetadataBytes then throw .invalidContainer
  else return output

def fromUtf8 (bytes : List UInt8) : Except EncryptedGenerationError String :=
  match String.fromUTF8? bytes.toByteArray with
  | some value => .ok value
  | none => .error .invalidContainer

def readString : Cursor EncryptedGenerationError String := do
  let length ← readNumber 2
  let bytes ← readBytes length
  .lift (fromUtf8 bytes.val)

def readId {kind : IdKind} : Cursor EncryptedGenerationError (TypedId kind) := do
  let value ← readString
  .lift ((TypedId.parse value).mapError fun _ => .invalidContainer)

def readBase : Cursor EncryptedGenerationError (Option GenerationId) := do
  let tag ← readNumber 1
  if tag = 0 then return none
  else if tag = 1 then return some (← readId)
  else throw .invalidContainer

/-- A number that must be the expected one, or the format is not supported. -/
def expectNumber (expected : Nat) : Cursor EncryptedGenerationError Unit := do
  let value ← readNumber 2
  .lift (refuseIf (value ≠ expected) .unsupportedVersion)

def readKeyId : Cursor EncryptedGenerationError KeyId := do
  let value ← readString
  .lift (KeyId.parse value)

def readChunkSize : Cursor EncryptedGenerationError ChunkSize := do
  let chunkSize ← readNumber 4
  .lift (validateChunkSize chunkSize)

def readStreamLength : Cursor EncryptedGenerationError StreamLength := do
  let plaintextBytes ← readNumber 8
  .lift (validateStreamLength plaintextBytes)

def decodeFields : Cursor EncryptedGenerationError GenerationMetadata := do
  expectNumber containerVersion
  expectNumber algorithmId
  let tenantId ← readId
  let profileId ← readId
  let generationId ← readId
  let baseGenerationId ← readBase
  let keyId ← readKeyId
  let noncePrefix ← readBytes 16
  let chunkSize ← readChunkSize
  let plaintextBytes ← readStreamLength
  let plaintextDigest ← readBytes 32
  return { tenantId, profileId, generationId, baseGenerationId, keyId, noncePrefix, chunkSize,
           plaintextBytes, plaintextDigest }

def decode (bytes : List UInt8) : Except EncryptedGenerationError GenerationMetadata :=
  match decodeFields bytes with
  | .error why => .error why
  | .ok (metadata, []) => .ok metadata
  | .ok (_, _ :: _) => .error .invalidContainer

end GenerationMetadata

end ProfilePlatform.Generation

/-! Decoding inverts encoding, and every metadata value has an encoding that fits. -/

namespace ProfilePlatform.Generation.GenerationMetadata

open Foundation

theorem fromUtf8_utf8Bytes (value : String) : fromUtf8 (utf8Bytes value) = .ok value := by
  have same : (utf8Bytes value).toByteArray = value.toByteArray := by
    apply ByteArray.ext
    simp [utf8Bytes, List.data_toByteArray]
  simp only [fromUtf8, same, String.fromUTF8?, value.isValidUTF8, dite_true]
  rfl

theorem length_le_of_accepts {value : String} (accepted : OpaqueId.accepts value = true) :
    (utf8Bytes value).length ≤ 96 := by
  simp only [OpaqueId.accepts, Bool.and_eq_true, decide_eq_true_eq] at accepted
  exact accepted.1.2

/-- What `push_string` appends for a text that is short enough. -/
def stringBytes (value : String) : List UInt8 :=
  bigEndian 2 (utf8Bytes value).length ++ utf8Bytes value

/-- What `encode` appends for the base generation. -/
def baseBytes : Option GenerationId → List UInt8
  | some generationId => 1 :: stringBytes generationId.asStr
  | none => [0]

theorem pushString_eq {value : String} (short : (utf8Bytes value).length ≤ 96) :
    pushString value = .ok (stringBytes value) :=
  if_pos (Nat.lt_of_le_of_lt short (by decide))

theorem length_asStr {kind : IdKind} (id : TypedId kind) : (utf8Bytes id.asStr).length ≤ 96 :=
  length_le_of_accepts id.intoOpaque.accepted

theorem length_keyId (keyId : KeyId) : (utf8Bytes keyId.val).length ≤ 96 :=
  length_le_of_accepts keyId.property

theorem pushBase_eq (base : Option GenerationId) : pushBase base = .ok (baseBytes base) := by
  cases base with
  | none => rfl
  | some generationId => simp only [pushBase, pushString_eq (length_asStr generationId)]; rfl

theorem length_stringBytes {value : String} (short : (utf8Bytes value).length ≤ 96) :
    (stringBytes value).length ≤ 98 := by
  simp only [stringBytes, List.length_append, length_bigEndian]
  omega

theorem length_baseBytes (base : Option GenerationId) : (baseBytes base).length ≤ 99 := by
  cases base with
  | none => decide
  | some generationId =>
    have := length_stringBytes (length_asStr generationId)
    simp only [baseBytes, List.length_cons]
    omega

def encoding (self : GenerationMetadata) : List UInt8 :=
  bigEndian 2 containerVersion ++ (bigEndian 2 algorithmId ++ (stringBytes self.tenantId.asStr ++
    (stringBytes self.profileId.asStr ++ (stringBytes self.generationId.asStr ++
      (baseBytes self.baseGenerationId ++ (stringBytes self.keyId.val ++ (self.noncePrefix.val ++
        (bigEndian 4 self.chunkSize.val ++ (bigEndian 8 self.plaintextBytes.val ++
          self.plaintextDigest.val)))))))))

variable (self : GenerationMetadata)

theorem length_encoding : 0 < self.encoding.length ∧ self.encoding.length ≤ 555 := by
  have tenant := length_stringBytes (length_asStr self.tenantId)
  have profile := length_stringBytes (length_asStr self.profileId)
  have generation := length_stringBytes (length_asStr self.generationId)
  have base := length_baseBytes self.baseGenerationId
  have key := length_stringBytes (length_keyId self.keyId)
  simp only [encoding, List.length_append, length_bigEndian, self.noncePrefix.property,
    self.plaintextDigest.property]
  omega

/-- No check of `encode` can fail on a value that its constructors accepted. -/
theorem encode_eq : self.encode = .ok self.encoding := by
  have fits : ¬self.encoding.length > maxMetadataBytes :=
    Nat.not_lt.mpr (Nat.le_trans self.length_encoding.2 (by decide))
  simp only [encode, validateChunkSize_val, validateStreamLength_val,
    pushString_eq (length_asStr _), pushString_eq (length_keyId _), pushBase_eq]
  exact if_neg fits

theorem readString_reads {value : String} (short : (utf8Bytes value).length ≤ 96) :
    Cursor.Reads readString (stringBytes value) value := by
  have fits : (utf8Bytes value).length < capacity 2 := Nat.lt_of_le_of_lt short (by decide)
  have bytes : Cursor.Reads (readBytes (utf8Bytes value).length) (utf8Bytes value)
      ⟨utf8Bytes value, rfl⟩ := Cursor.Reads.take ⟨utf8Bytes value, rfl⟩
  have length : Cursor.Reads (readNumber 2) (bigEndian 2 (utf8Bytes value).length) _ :=
    Cursor.Reads.number fits
  exact length.bind (bytes.finish (Cursor.Reads.lift (fromUtf8_utf8Bytes value)))

theorem readId_reads {kind : IdKind} (id : TypedId kind) :
    Cursor.Reads readId (stringBytes id.asStr) id :=
  (readString_reads (length_asStr id)).finish
    (Cursor.Reads.lift (mapError_eq_ok.mpr (TypedId.parse_asStr id)))

theorem readBase_reads (base : Option GenerationId) :
    Cursor.Reads readBase (baseBytes base) base := by
  cases base with
  | none =>
    have tag : Cursor.Reads (readNumber 1) [0] 0 := Cursor.Reads.number (by decide)
    exact tag.finish (Cursor.Reads.pure none)
  | some generationId =>
    have tag : Cursor.Reads (readNumber 1) [1] 1 := Cursor.Reads.number (by decide)
    refine tag.bind ?_
    rw [if_neg (by decide), if_pos rfl]
    exact (readId_reads generationId).finish (Cursor.Reads.pure _)

theorem expectNumber_reads {expected : Nat} (fits : expected < capacity 2) :
    Cursor.Reads (expectNumber expected) (bigEndian 2 expected) () :=
  Cursor.Reads.finish (Cursor.Reads.number fits)
    (Cursor.Reads.lift (refuseIf_passes (not_not_intro rfl)))

theorem readKeyId_reads :
    Cursor.Reads readKeyId (stringBytes self.keyId.val) self.keyId := by
  have parsed : KeyId.parse self.keyId.val = .ok self.keyId := dif_pos self.keyId.property
  exact (readString_reads (length_keyId self.keyId)).finish (Cursor.Reads.lift parsed)

theorem readChunkSize_reads :
    Cursor.Reads readChunkSize (bigEndian 4 self.chunkSize.val) self.chunkSize := by
  have fits : self.chunkSize.val < capacity 4 :=
    Nat.lt_of_le_of_lt self.chunkSize.property.2 (by decide)
  exact Cursor.Reads.finish (Cursor.Reads.number fits)
    (Cursor.Reads.lift (validateChunkSize_val self.chunkSize))

theorem readStreamLength_reads :
    Cursor.Reads readStreamLength (bigEndian 8 self.plaintextBytes.val) self.plaintextBytes := by
  have fits : self.plaintextBytes.val < capacity 8 :=
    Nat.lt_of_le_of_lt self.plaintextBytes.property (by decide)
  exact Cursor.Reads.finish (Cursor.Reads.number fits)
    (Cursor.Reads.lift (validateStreamLength_val self.plaintextBytes))

theorem decodeFields_reads : Cursor.Reads decodeFields self.encoding self := by
  refine (expectNumber_reads (by decide)).bind ?_
  refine (expectNumber_reads (by decide)).bind ?_
  refine (readId_reads self.tenantId).bind ?_
  refine (readId_reads self.profileId).bind ?_
  refine (readId_reads self.generationId).bind ?_
  refine (readBase_reads self.baseGenerationId).bind ?_
  refine self.readKeyId_reads.bind ?_
  refine (Cursor.Reads.take self.noncePrefix).bind ?_
  refine self.readChunkSize_reads.bind ?_
  refine self.readStreamLength_reads.bind ?_
  exact (Cursor.Reads.take self.plaintextDigest).finish (Cursor.Reads.pure self)

theorem decode_encoding : decode self.encoding = .ok self := by
  have read := self.decodeFields_reads []
  rw [List.append_nil] at read
  simp only [decode, read]

end ProfilePlatform.Generation.GenerationMetadata
