import ProfilePlatform.Generation.Lifecycle
import ProfilePlatform.Generation.Publication
import ProfilePlatform.SaveAttempt.Record

/-! The two readers of a save attempt, one of the whole record in memory and one that leaves the
container on disk, and the step that retires an attempt the second has read. -/

set_option autoImplicit false

namespace ProfilePlatform.SaveAttempt

open Foundation Generation
open Snapshot (buildInventory Files)

section Header

abbrev RecoveredLoneOrigin.Unsound (self : RecoveredLoneOrigin) (epoch : Nat) : Prop :=
  self.epoch = 0 ∨ epoch ≤ self.epoch ∨ (utf8Bytes self.sessionFingerprint).length ≠ 64 ∨
    (utf8Bytes self.fencingFingerprint).length ≠ 64

namespace AttemptHeader

/-- What both readers ask of a header before they look at the container. -/
abbrev OutOfScope (self : AttemptHeader) (tenant : TenantId) (profile : ProfileId)
    (successor : GenerationId) : Prop :=
  self.tenant ≠ tenant.asStr ∨ self.profile ≠ profile.asStr ∨ self.successor ≠ successor.asStr ∨
    self.schema ≠ attemptSchema ∨ self.baseGeneration = self.successor ∨
    (utf8Bytes self.sessionFingerprint).length ≠ 64 ∨
    (utf8Bytes self.fencingFingerprint).length ≠ 64 ∨ self.epoch = 0 ∨
    self.recoveredLoneOrigin.any fun origin => decide (origin.Unsound self.epoch)

/-- What both readers ask of the metadata in front of the container. -/
abbrev Misdescribes (self : AttemptHeader) (tenant : TenantId) (profile : ProfileId)
    (successor : GenerationId) (metadata : GenerationMetadata) (metadataDigest : Block 32) : Prop :=
  metadata.tenantId ≠ tenant ∨ metadata.profileId ≠ profile ∨ metadata.generationId ≠ successor ∨
    metadata.baseGenerationId.map TypedId.asStr ≠ some self.baseGeneration ∨
    metadata.objectKey ≠ self.objectKey ∨ hexDigest metadataDigest.val ≠ self.metadataDigest

end AttemptHeader

end Header

section Spool

variable (sha256 : Sha256)

/-- An object in a file: so many bytes from an offset on, with this digest. -/
structure VerifiedGenerationObjectFile where
  file : Bytes
  payloadOffset : Nat
  expectedBytes : Nat
  expectedSha256 : Bytes

namespace VerifiedGenerationObjectFile

/-- The file is read from the offset to its end, and hashed. -/
def recheckAndRewind (self : VerifiedGenerationObjectFile) : Except IoError Unit := do
  refuseIf (checkedAdd self.payloadOffset self.expectedBytes ≠ some self.file.length) .other
  let rest := self.file.drop self.payloadOffset
  refuseIf (rest.length ≠ self.expectedBytes ∨ (sha256 rest).val ≠ self.expectedSha256) .other

def openPayload (file : Bytes) (payloadOffset expectedBytes : Nat) (expectedSha256 : Bytes) :
    Except IoError VerifiedGenerationObjectFile := do
  refuseIf (expectedBytes = 0 ∨ maxStreamContainerBytes < expectedBytes) .other
  refuseIf (checkedAdd payloadOffset expectedBytes ≠ some file.length) .other
  let source : VerifiedGenerationObjectFile := ⟨file, payloadOffset, expectedBytes, expectedSha256⟩
  source.recheckAndRewind sha256
  return source

def openCheckpointPayload (file : Bytes) (offset expectedBytes : Nat) (expectedSha256 : Bytes) :
    Except IoError VerifiedGenerationObjectFile := do
  refuseIf (¬(12 ≤ offset ∧ offset ≤ 12 + 4096)) .other
  openPayload sha256 file offset expectedBytes expectedSha256

end VerifiedGenerationObjectFile

end Spool

section Readers

variable (codec : HeaderCodec) (sha256 : Sha256) (root : AttemptRoot) (tenant : TenantId)
  (profile : ProfileId) (successor : GenerationId)

structure ReadOnlySaveAttempt where
  header : AttemptHeader
  ciphertext : Bytes

structure ReadOnlyStreamedSaveAttempt where
  header : AttemptHeader
  ciphertext : VerifiedGenerationObjectFile

def changedUnless {E A : Type} (result : Except E A) : Outcome A := result.mapError fun _ => .changed
def invalidUnless {E A : Type} (result : Except E A) : Outcome A := result.mapError fun _ => .invalid

def inspectExactSaveAttempt : Outcome (Option ReadOnlySaveAttempt) :=
  match root.records (attemptPath sha256 tenant profile successor) with
  | none => .ok none
  | some record => do
    refuseIf (maxRecordBytes < record.length) .invalid
    let (header, payload) ← parseRecord codec record
    refuseIf (header.OutOfScope tenant profile successor) .invalid
    let inspected ← invalidUnless (inspectGenerationMetadataPrelude sha256 payload)
    refuseIf (header.Misdescribes tenant profile successor inspected.metadata
      inspected.metadataDigest ∨ hexDigest (sha256 payload).val ≠ header.containerDigest ∨
      payload.length ≠ header.containerBytes) .invalid
    let candidate ← changedUnless (root.openGeneration tenant profile successor)
    let inventory ← changedUnless (buildInventory candidate)
    refuseIf (inventory.inventoryDigest ≠ header.candidateInventory ∨
      inventory.totalBytes ≠ header.candidateBytes) .changed
    let base ← invalidUnless (GenerationId.parse header.baseGeneration)
    let source ← changedUnless (root.openGeneration tenant profile base)
    let sourceInventory ← changedUnless (buildInventory source)
    refuseIf (sourceInventory.inventoryDigest ≠ header.sourceInventory) .changed
    return some ⟨header, payload⟩

/-- The metadata in front of a container that is read from a file. -/
def readPrelude (payload : Bytes) : Outcome InspectedGenerationMetadataPrelude := do
  refuseIf (payload.length < 12) (.io .unexpectedEof)
  refuseIf (payload.take 8 ≠ Generation.magic) .invalid
  let metadataLength := headerLength payload
  refuseIf (metadataLength = 0 ∨ maxMetadataBytes < metadataLength) .invalid
  refuseIf (payload.length < 12 + metadataLength) (.io .unexpectedEof)
  invalidUnless (inspectGenerationMetadataPrelude sha256 (payload.take (12 + metadataLength)))

def inspectStreamingExactSaveAttempt : Outcome (Option ReadOnlyStreamedSaveAttempt) :=
  match root.records (attemptPath sha256 tenant profile successor) with
  | none => .ok none
  | some record => do
    refuseIf (record.length ≤ 12 ∨ maxStreamRecordBytes < record.length) .invalid
    let header ← readBoundedAttemptHeader codec record
    refuseIf (header.OutOfScope tenant profile successor) .invalid
    let length := headerLength record
    let payloadOffset := 12 + length
    refuseIf (length = 0 ∨ maxHeaderBytes < length ∨
      checkedAdd payloadOffset header.containerBytes ≠ some record.length) .invalid
    let hashBytes := utf8Bytes header.containerDigest
    refuseIf (hashBytes.length ≠ 64 ∨ ¬hashBytes.all Hex.isDigit) .invalid
    let expectedSha ← okOr (Hex.bytes hashBytes) .invalid
    let payload ← changedUnless (VerifiedGenerationObjectFile.openCheckpointPayload sha256 record
      payloadOffset header.containerBytes expectedSha)
    let inspected ← readPrelude sha256 (record.drop payloadOffset)
    refuseIf (header.Misdescribes tenant profile successor inspected.metadata
      inspected.metadataDigest) .invalid
    changedUnless (payload.recheckAndRewind sha256)
    let base ← invalidUnless (GenerationId.parse header.baseGeneration)
    let source ← changedUnless (root.openGeneration tenant profile base)
    let candidate ← changedUnless (root.openGeneration tenant profile successor)
    let sourceInventory ← changedUnless (buildInventory source)
    let candidateInventory ← changedUnless (buildInventory candidate)
    refuseIf (sourceInventory.inventoryDigest ≠ header.sourceInventory ∨
      candidateInventory.inventoryDigest ≠ header.candidateInventory ∨
      candidateInventory.totalBytes ≠ header.candidateBytes) .changed
    return some ⟨header, payload⟩

/-- The container of a checkpoint that was read, opened once more. The header is written out again
to find out where it ends. -/
def reopenForRetirement (checkpoint : ReadOnlyStreamedSaveAttempt) :
    Outcome VerifiedGenerationObjectFile := do
  changedUnless (checkpoint.ciphertext.recheckAndRewind sha256)
  let record ← okOr (root.records (attemptPath sha256 tenant profile successor)) (.io .other)
  let header ← readBoundedAttemptHeader codec record
  refuseIf (header ≠ checkpoint.header) .changed
  let hashBytes := utf8Bytes checkpoint.header.containerDigest
  refuseIf (hashBytes.length ≠ 64) .invalid
  let digest ← okOr (Hex.bytes hashBytes) .invalid
  let headerBytes := codec.toVec checkpoint.header
  let reopened ← changedUnless (VerifiedGenerationObjectFile.openCheckpointPayload sha256 record
    (12 + headerBytes.length) checkpoint.header.containerBytes digest)
  changedUnless (reopened.recheckAndRewind sha256)
  return reopened

/-- What the candidate's binding is compared with is not modelled, only that it is compared last. -/
def retireVerifiedStreamingBinding (bound : ReadOnlyStreamedSaveAttempt → Outcome Unit)
    (checkpoint : ReadOnlyStreamedSaveAttempt) : Outcome AttemptRoot := do
  let _ ← reopenForRetirement codec sha256 root tenant profile successor checkpoint
  bound checkpoint
  let records := Function.update root.records (attemptPath sha256 tenant profile successor) none
  return { root with records }

end Readers

/-! Which records the two readers of a save attempt take, and with what result. -/

open Snapshot (buildInventory)

section Pieces

variable {sha256 : Sha256} {payload : Bytes} (holds : GenerationMetadata → Block 32 → Prop)

theorem changedUnless_eq_ok {E A : Type} {result : Except E A} {value : A} :
    changedUnless result = .ok value ↔ result = .ok value := mapError_eq_ok

theorem invalidUnless_eq_ok {E A : Type} {result : Except E A} {value : A} :
    invalidUnless result = .ok value ↔ result = .ok value := mapError_eq_ok

/-- A digest is spelled as the source spells one if it is read as one and has no capitals. -/
theorem hexDigest_eq_iff {digest : Block 32} {spelled : String} :
    hexDigest digest.val = spelled ↔ (∀ byte ∈ utf8Bytes spelled, Hex.isDigit byte = true) ∧
      Hex.bytes (utf8Bytes spelled) = some digest.val ∧
      ∀ byte ∈ utf8Bytes spelled, Hex.isCapital byte = false := by
  constructor
  · rintro rfl
    have text : utf8Bytes (hexDigest digest.val) = Hex.text digest.val := Hex.utf8_hexDigest digest.val
    rw [text]
    exact ⟨fun byte member => (Hex.text_digits _ byte member).1, Hex.bytes_text _,
      fun byte member => (Hex.text_digits _ byte member).2⟩
  · rintro ⟨digits, read, small⟩
    refine eq_of_utf8 ?_
    rw [Hex.utf8_hexDigest]
    exact Hex.text_of_bytes read digits small

theorem length_of_bytes {digest : Block 32} {spelled : Bytes} (read : Hex.bytes spelled = some digest.val) :
    spelled.length = 64 := by
  have counted := Hex.length_of_bytes read
  rw [digest.property] at counted
  exact counted

theorem length_preludeBytes (metadata : GenerationMetadata) :
    (preludeBytes metadata.encoding).length = 12 + metadata.encoding.length := by
  simp only [preludeBytes, Generation.magic, List.length_append, List.length_cons, List.length_nil,
    length_bigEndian]
  omega

/-- The reader in memory finds the metadata that stand in front of a container. -/
theorem inspected_iff :
    (∃ inspected, inspectGenerationMetadataPrelude sha256 payload = .ok inspected ∧
      holds inspected.metadata inspected.metadataDigest) ↔
    payload.length ≤ maxContainerBytes ∧ ∃ metadata body,
      payload = preludeBytes metadata.encoding ++ body ∧ holds metadata (sha256 metadata.encoding) := by
  constructor
  · rintro ⟨inspected, inspection, here⟩
    obtain ⟨fits, metadataBytes, body, metadata, read, decoded, rfl⟩ :=
      inspectGenerationMetadataPrelude_eq_ok.mp inspection
    obtain rfl := GenerationMetadata.eq_encoding_of_decode decoded
    exact ⟨fits, metadata, body, (readMetadata_eq_ok.mp read).1, here⟩
  · rintro ⟨fits, metadata, body, rfl, here⟩
    exact ⟨_, inspectGenerationMetadataPrelude_eq_ok.mpr ⟨fits, _, body, metadata,
      readMetadata_framed metadata body, metadata.decode_encoding, rfl⟩, here⟩

theorem headerLength_prelude (metadata : GenerationMetadata) (body : Bytes) :
    headerLength (preludeBytes metadata.encoding ++ body) = metadata.encoding.length := by
  rw [preludeBytes, List.append_assoc, List.append_assoc]
  exact headerLength_eq rfl (Nat.lt_of_le_of_lt metadata.length_encoding.2 (by decide))

theorem readPrelude_iff :
    (∃ inspected, readPrelude sha256 payload = .ok inspected ∧
      holds inspected.metadata inspected.metadataDigest) ↔
    ∃ metadata body, payload = preludeBytes metadata.encoding ++ body ∧
      holds metadata (sha256 metadata.encoding) := by
  constructor
  · rintro ⟨inspected, read, here⟩
    obtain ⟨_, -, read⟩ := bind_eq_ok.mp read
    obtain ⟨_, -, read⟩ := bind_eq_ok.mp read
    obtain ⟨_, -, read⟩ := bind_eq_ok.mp read
    obtain ⟨_, -, inspection⟩ := bind_eq_ok.mp read
    obtain ⟨-, metadata, body, split, here⟩ :=
      (inspected_iff holds).mp ⟨inspected, invalidUnless_eq_ok.mp inspection, here⟩
    refine ⟨metadata, body ++ payload.drop (12 + headerLength payload), ?_, here⟩
    rw [← List.append_assoc, ← split, List.take_append_drop]
  · rintro ⟨metadata, body, rfl, here⟩
    obtain ⟨positive, short⟩ := metadata.length_encoding
    have sized := length_preludeBytes metadata
    have begins : (preludeBytes metadata.encoding ++ body).take 8 = Generation.magic := by
      rw [preludeBytes, List.append_assoc, List.take_left' (by rfl)]
    have prelude : (preludeBytes metadata.encoding ++ body).take (12 + metadata.encoding.length) =
        preludeBytes metadata.encoding ++ [] := by
      rw [List.take_left' sized, List.append_nil]
    have limit : 12 + 555 ≤ maxContainerBytes := by decide
    have room : 555 ≤ maxMetadataBytes := by decide
    have inside : (preludeBytes metadata.encoding ++ []).length ≤ maxContainerBytes := by
      rw [List.append_nil, sized]
      omega
    obtain ⟨inspected, inspection, here⟩ :=
      (inspected_iff holds).mpr ⟨inside, metadata, [], rfl, here⟩
    refine ⟨inspected, ?_, here⟩
    unfold readPrelude
    rw [headerLength_prelude, List.length_append, sized]
    refine bind_eq_ok.mpr ⟨(), refuseIf_passes (by omega), ?_⟩
    refine bind_eq_ok.mpr ⟨(), refuseIf_passes (not_not.mpr begins), ?_⟩
    refine bind_eq_ok.mpr ⟨(), refuseIf_passes (by omega), ?_⟩
    refine bind_eq_ok.mpr ⟨(), refuseIf_passes (by omega), ?_⟩
    rw [prelude]
    exact invalidUnless_eq_ok.mpr inspection

end Pieces

section Files

variable {sha256 : Sha256} {file digest : Bytes} {offset bytes : Nat}
  {object : VerifiedGenerationObjectFile}

theorem recheckAndRewind_eq_ok : object.recheckAndRewind sha256 = .ok () ↔
    object.payloadOffset + object.expectedBytes = object.file.length ∧
      object.file.length < u64Limit ∧
      (sha256 (object.file.drop object.payloadOffset)).val = object.expectedSha256 := by
  unfold VerifiedGenerationObjectFile.recheckAndRewind
  constructor
  · intro rechecked
    obtain ⟨_, sized, same⟩ := bind_eq_ok.mp rechecked
    have sized := checkedAdd_eq_some.mp (not_not.mp (refuseIf_eq_ok.mp sized))
    have same := not_or.mp (refuseIf_eq_ok.mp same)
    exact ⟨sized.1.symm, sized.1 ▸ sized.2, not_not.mp same.2⟩
  · rintro ⟨ends, small, same⟩
    refine bind_eq_ok.mpr ⟨(), refuseIf_passes (not_not.mpr ?_), refuseIf_passes ?_⟩
    · exact checkedAdd_eq_some.mpr ⟨ends.symm, ends ▸ small⟩
    · rw [not_or, not_not, not_not, List.length_drop]
      exact ⟨by omega, same⟩

theorem openCheckpointPayload_eq_ok :
    VerifiedGenerationObjectFile.openCheckpointPayload sha256 file offset bytes digest = .ok object ↔
      object = ⟨file, offset, bytes, digest⟩ ∧ (12 ≤ offset ∧ offset ≤ 12 + 4096) ∧ bytes ≠ 0 ∧
        bytes ≤ maxStreamContainerBytes ∧ offset + bytes = file.length ∧ file.length < u64Limit ∧
        (sha256 (file.drop offset)).val = digest := by
  constructor
  · intro opened
    obtain ⟨_, inside, opened⟩ := bind_eq_ok.mp opened
    obtain ⟨_, bounded, opened⟩ := bind_eq_ok.mp opened
    obtain ⟨_, -, opened⟩ := bind_eq_ok.mp opened
    obtain ⟨_, rechecked, same⟩ := bind_eq_ok.mp opened
    cases same
    have bounded := not_or.mp (refuseIf_eq_ok.mp bounded)
    exact ⟨rfl, not_not.mp (refuseIf_eq_ok.mp inside), bounded.1, Nat.not_lt.mp bounded.2,
      recheckAndRewind_eq_ok.mp rechecked⟩
  · rintro ⟨rfl, inside, nonempty, bounded, ends, small, same⟩
    refine bind_eq_ok.mpr ⟨(), refuseIf_passes (not_not.mpr inside), ?_⟩
    refine bind_eq_ok.mpr ⟨(), refuseIf_passes (not_or.mpr ⟨nonempty, Nat.not_lt.mpr bounded⟩), ?_⟩
    refine bind_eq_ok.mpr ⟨(), refuseIf_passes (not_not.mpr ?_), ?_⟩
    · exact checkedAdd_eq_some.mpr ⟨ends.symm, ends ▸ small⟩
    · exact bind_eq_ok.mpr ⟨(), recheckAndRewind_eq_ok.mpr ⟨ends, small, same⟩, rfl⟩

end Files

section Readers

variable (codec : HeaderCodec) (sha256 : Sha256) (root : AttemptRoot) (header : AttemptHeader)
  (tenant : TenantId) (profile : ProfileId) (successor : GenerationId)

/-- The metadata are those the header speaks of. -/
def Describes (metadata : GenerationMetadata) (metadataDigest : Block 32) : Prop :=
  ¬header.Misdescribes tenant profile successor metadata metadataDigest

/-- The generations are still what the header says they were. -/
def Unchanged : Prop :=
  ∃ base source candidate sourceInventory candidateInventory,
    GenerationId.parse header.baseGeneration = .ok base ∧
    root.openGeneration tenant profile base = .ok source ∧
    buildInventory source = .ok sourceInventory ∧
    root.openGeneration tenant profile successor = .ok candidate ∧
    buildInventory candidate = .ok candidateInventory ∧
    sourceInventory.inventoryDigest = header.sourceInventory ∧
    candidateInventory.inventoryDigest = header.candidateInventory ∧
    candidateInventory.totalBytes = header.candidateBytes

/-- What both readers ask of a header and its container. -/
structure Sound (payload : Bytes) : Prop where
  placed : ¬header.OutOfScope tenant profile successor
  described : ∃ metadata body, payload = preludeBytes metadata.encoding ++ body ∧
    Describes header tenant profile successor metadata (sha256 metadata.encoding)
  counted : payload.length = header.containerBytes
  digits : ∀ byte ∈ utf8Bytes header.containerDigest, Hex.isDigit byte = true
  digested : Hex.bytes (utf8Bytes header.containerDigest) = some (sha256 payload).val
  unchanged : Unchanged root header tenant profile successor

/-- The digest of the container is spelled without capitals. -/
def SmallDigits : Prop :=
  ∀ byte ∈ utf8Bytes header.containerDigest, Hex.isCapital byte = false

variable {codec sha256 root header tenant profile successor} {record payload : Bytes}

theorem inspectExact_eq_ok
    (stored : root.records (attemptPath sha256 tenant profile successor) = some record) :
    inspectExactSaveAttempt codec sha256 root tenant profile successor = .ok (some ⟨header, payload⟩) ↔
      ∃ headerBytes, Framed record headerBytes payload ∧ codec.fromSlice headerBytes = some header ∧
        Sound sha256 root header tenant profile successor payload ∧
        record.length ≤ maxRecordBytes ∧ payload.length ≤ maxContainerBytes ∧ SmallDigits header := by
  unfold inspectExactSaveAttempt
  rw [stored]
  constructor
  · intro inspected
    obtain ⟨_, bounded, inspected⟩ := bind_eq_ok.mp inspected
    obtain ⟨⟨parsed, container⟩, parses, inspected⟩ := bind_eq_ok.mp inspected
    obtain ⟨_, placed, inspected⟩ := bind_eq_ok.mp inspected
    obtain ⟨prelude, inspection, inspected⟩ := bind_eq_ok.mp inspected
    obtain ⟨_, described, inspected⟩ := bind_eq_ok.mp inspected
    obtain ⟨candidate, candidateOpened, inspected⟩ := bind_eq_ok.mp inspected
    obtain ⟨inventory, candidateListed, inspected⟩ := bind_eq_ok.mp inspected
    obtain ⟨_, candidateSame, inspected⟩ := bind_eq_ok.mp inspected
    obtain ⟨base, named, inspected⟩ := bind_eq_ok.mp inspected
    obtain ⟨source, sourceOpened, inspected⟩ := bind_eq_ok.mp inspected
    obtain ⟨sourceInventory, sourceListed, inspected⟩ := bind_eq_ok.mp inspected
    obtain ⟨_, sourceSame, same⟩ := bind_eq_ok.mp inspected
    cases same
    obtain ⟨headerBytes, framed, decoded, small⟩ := parseRecord_eq_ok.mp parses
    obtain ⟨described, others⟩ := not_or.mp (refuseIf_eq_ok.mp described)
    rw [not_or, not_not, not_not] at others
    obtain ⟨-, metadata, body, split, metadataDescribed⟩ :=
      (inspected_iff (Describes header tenant profile successor)).mp
        ⟨prelude, invalidUnless_eq_ok.mp inspection, described⟩
    obtain ⟨digits, digested, capitals⟩ := hexDigest_eq_iff.mp others.1
    have candidateSame := not_or.mp (refuseIf_eq_ok.mp candidateSame)
    exact ⟨headerBytes, framed, decoded, ⟨refuseIf_eq_ok.mp placed,
      ⟨metadata, body, split, metadataDescribed⟩, others.2, digits, digested,
      base, source, candidate, sourceInventory, inventory, invalidUnless_eq_ok.mp named,
      changedUnless_eq_ok.mp sourceOpened, changedUnless_eq_ok.mp sourceListed,
      changedUnless_eq_ok.mp candidateOpened, changedUnless_eq_ok.mp candidateListed,
      not_not.mp (refuseIf_eq_ok.mp sourceSame), not_not.mp candidateSame.1,
      not_not.mp candidateSame.2⟩, Nat.not_lt.mp (refuseIf_eq_ok.mp bounded), small, capitals⟩
  · rintro ⟨headerBytes, framed, decoded, sound, bounded, small, capitals⟩
    obtain ⟨metadata, body, split, metadataDescribed⟩ := sound.described
    obtain ⟨inspected, inspection, described⟩ :=
      (inspected_iff (Describes header tenant profile successor)).mpr
        ⟨small, metadata, body, split, metadataDescribed⟩
    have digest := hexDigest_eq_iff.mpr ⟨sound.digits, sound.digested, capitals⟩
    obtain ⟨base, source, candidate, sourceInventory, candidateInventory, named, sourceOpened,
      sourceListed, candidateOpened, candidateListed, sourceSame, candidateSame, bytesSame⟩ :=
      sound.unchanged
    refine bind_eq_ok.mpr ⟨(), refuseIf_passes (Nat.not_lt.mpr bounded), ?_⟩
    refine bind_eq_ok.mpr ⟨_, parseRecord_eq_ok.mpr ⟨headerBytes, framed, decoded, small⟩, ?_⟩
    refine bind_eq_ok.mpr ⟨(), refuseIf_passes sound.placed, ?_⟩
    refine bind_eq_ok.mpr ⟨_, invalidUnless_eq_ok.mpr inspection, ?_⟩
    refine bind_eq_ok.mpr ⟨(), refuseIf_passes ?_, ?_⟩
    · refine not_or.mpr ⟨described, ?_⟩
      rw [not_or, not_not, not_not]
      exact ⟨digest, sound.counted⟩
    refine bind_eq_ok.mpr ⟨_, changedUnless_eq_ok.mpr candidateOpened, ?_⟩
    refine bind_eq_ok.mpr ⟨_, changedUnless_eq_ok.mpr candidateListed, ?_⟩
    refine bind_eq_ok.mpr ⟨(), refuseIf_passes ?_, ?_⟩
    · rw [not_or, not_not, not_not]
      exact ⟨candidateSame, bytesSame⟩
    refine bind_eq_ok.mpr ⟨_, invalidUnless_eq_ok.mpr named, ?_⟩
    refine bind_eq_ok.mpr ⟨_, changedUnless_eq_ok.mpr sourceOpened, ?_⟩
    refine bind_eq_ok.mpr ⟨_, changedUnless_eq_ok.mpr sourceListed, ?_⟩
    exact bind_eq_ok.mpr ⟨(), refuseIf_passes (not_not.mpr sourceSame), rfl⟩

/-- The object a frame's container is in its file. -/
def containerObject (sha256 : Sha256) (record headerBytes payload : Bytes) :
    VerifiedGenerationObjectFile :=
  ⟨record, 12 + headerBytes.length, payload.length, (sha256 payload).val⟩

theorem inspectStreaming_eq_ok {object : VerifiedGenerationObjectFile}
    (stored : root.records (attemptPath sha256 tenant profile successor) = some record) :
    inspectStreamingExactSaveAttempt codec sha256 root tenant profile successor =
        .ok (some ⟨header, object⟩) ↔
      ∃ headerBytes payload, Framed record headerBytes payload ∧
        codec.fromSlice headerBytes = some header ∧
        Sound sha256 root header tenant profile successor payload ∧
        record.length ≤ maxStreamRecordBytes ∧ payload.length ≤ maxStreamContainerBytes ∧
        object = containerObject sha256 record headerBytes payload := by
  unfold inspectStreamingExactSaveAttempt
  rw [stored]
  constructor
  · intro inspected
    obtain ⟨_, bounded, inspected⟩ := bind_eq_ok.mp inspected
    obtain ⟨read, reads, inspected⟩ := bind_eq_ok.mp inspected
    obtain ⟨_, placed, inspected⟩ := bind_eq_ok.mp inspected
    obtain ⟨_, -, inspected⟩ := bind_eq_ok.mp inspected
    obtain ⟨_, spelled, inspected⟩ := bind_eq_ok.mp inspected
    obtain ⟨digest, decodes, inspected⟩ := bind_eq_ok.mp inspected
    obtain ⟨container, opened, inspected⟩ := bind_eq_ok.mp inspected
    obtain ⟨prelude, inspection, inspected⟩ := bind_eq_ok.mp inspected
    obtain ⟨_, described, inspected⟩ := bind_eq_ok.mp inspected
    obtain ⟨_, -, inspected⟩ := bind_eq_ok.mp inspected
    obtain ⟨base, named, inspected⟩ := bind_eq_ok.mp inspected
    obtain ⟨source, sourceOpened, inspected⟩ := bind_eq_ok.mp inspected
    obtain ⟨candidate, candidateOpened, inspected⟩ := bind_eq_ok.mp inspected
    obtain ⟨sourceInventory, sourceListed, inspected⟩ := bind_eq_ok.mp inspected
    obtain ⟨candidateInventory, candidateListed, inspected⟩ := bind_eq_ok.mp inspected
    obtain ⟨_, inventories, same⟩ := bind_eq_ok.mp inspected
    cases same
    obtain ⟨headerBytes, payload, framed, decoded, fits⟩ := readBoundedAttemptHeader_eq_ok.mp reads
    obtain ⟨rfl, -, -, small, ends, -, hashed⟩ :=
      openCheckpointPayload_eq_ok.mp (changedUnless_eq_ok.mp opened)
    have length := framed.length
    rw [framed.headerLength_eq] at ends
    have counted : payload.length = header.containerBytes := by omega
    rw [framed.headerLength_eq, framed.ciphertext_eq] at hashed
    obtain ⟨metadata, body, split, metadataDescribed⟩ :=
      (readPrelude_iff (Describes header tenant profile successor)).mp
        ⟨prelude, inspection, refuseIf_eq_ok.mp described⟩
    rw [framed.headerLength_eq, framed.ciphertext_eq] at split
    have spelled := not_or.mp (refuseIf_eq_ok.mp spelled)
    have inventories := refuseIf_eq_ok.mp inventories
    rw [not_or, not_or, not_not, not_not, not_not] at inventories
    refine ⟨headerBytes, payload, framed, decoded, ⟨refuseIf_eq_ok.mp placed,
      ⟨metadata, body, split, metadataDescribed⟩, counted,
      List.all_eq_true.mp (not_not.mp spelled.2), ?_, base, source, candidate, sourceInventory,
      candidateInventory, invalidUnless_eq_ok.mp named, changedUnless_eq_ok.mp sourceOpened,
      changedUnless_eq_ok.mp sourceListed, changedUnless_eq_ok.mp candidateOpened,
      changedUnless_eq_ok.mp candidateListed, inventories⟩, fits, counted ▸ small, ?_⟩
    · rw [hashed]
      exact okOr_eq_ok.mp decodes
    · rw [containerObject, framed.headerLength_eq, counted, hashed]
  · rintro ⟨headerBytes, payload, framed, decoded, sound, bounded, small, rfl⟩
    obtain ⟨metadata, body, split, metadataDescribed⟩ := sound.described
    obtain ⟨inspected, inspection, described⟩ :=
      (readPrelude_iff (Describes header tenant profile successor)).mpr
        ⟨metadata, body, split, metadataDescribed⟩
    obtain ⟨base, source, candidate, sourceInventory, candidateInventory, named, sourceOpened,
      sourceListed, candidateOpened, candidateListed, inventories⟩ := sound.unchanged
    have length := framed.length
    have positive := framed.positive
    have short := framed.short
    have limit : maxStreamRecordBytes < u64Limit := by decide
    have ends : 12 + headerBytes.length + payload.length = record.length := length.symm
    have narrow : maxHeaderBytes = 4096 := rfl
    have opened : VerifiedGenerationObjectFile.openCheckpointPayload sha256 record
        (12 + headerBytes.length) payload.length (sha256 payload).val =
          .ok (containerObject sha256 record headerBytes payload) := by
      refine openCheckpointPayload_eq_ok.mpr ⟨rfl, by omega, by omega, small, ends, by omega, ?_⟩
      rw [framed.ciphertext_eq]
    have rechecked : (containerObject sha256 record headerBytes payload).recheckAndRewind sha256 =
        .ok () := by
      refine recheckAndRewind_eq_ok.mpr ⟨ends, by show record.length < _; omega, ?_⟩
      show (sha256 (record.drop (12 + headerBytes.length))).val = _
      rw [framed.ciphertext_eq]
      rfl
    refine bind_eq_ok.mpr ⟨(), refuseIf_passes (not_or.mpr ⟨by omega, by omega⟩), ?_⟩
    refine bind_eq_ok.mpr ⟨header, readBoundedAttemptHeader_eq_ok.mpr
      ⟨headerBytes, payload, framed, decoded, bounded⟩, ?_⟩
    refine bind_eq_ok.mpr ⟨(), refuseIf_passes sound.placed, ?_⟩
    dsimp only
    rw [framed.headerLength_eq, framed.ciphertext_eq, ← sound.counted]
    refine bind_eq_ok.mpr ⟨(), refuseIf_passes ?_, ?_⟩
    · rw [not_or, not_or, not_not]
      exact ⟨framed.headed, by omega, checkedAdd_eq_some.mpr ⟨length, by omega⟩⟩
    refine bind_eq_ok.mpr ⟨(), refuseIf_passes ?_, ?_⟩
    · rw [not_or, not_not, not_not]
      exact ⟨length_of_bytes sound.digested, List.all_eq_true.mpr sound.digits⟩
    refine bind_eq_ok.mpr ⟨_, okOr_eq_ok.mpr sound.digested, ?_⟩
    refine bind_eq_ok.mpr ⟨_, changedUnless_eq_ok.mpr opened, ?_⟩
    refine bind_eq_ok.mpr ⟨_, inspection, ?_⟩
    refine bind_eq_ok.mpr ⟨(), refuseIf_passes described, ?_⟩
    refine bind_eq_ok.mpr ⟨(), changedUnless_eq_ok.mpr rechecked, ?_⟩
    refine bind_eq_ok.mpr ⟨_, invalidUnless_eq_ok.mpr named, ?_⟩
    refine bind_eq_ok.mpr ⟨_, changedUnless_eq_ok.mpr sourceOpened, ?_⟩
    refine bind_eq_ok.mpr ⟨_, changedUnless_eq_ok.mpr candidateOpened, ?_⟩
    refine bind_eq_ok.mpr ⟨_, changedUnless_eq_ok.mpr sourceListed, ?_⟩
    refine bind_eq_ok.mpr ⟨_, changedUnless_eq_ok.mpr candidateListed, ?_⟩
    refine bind_eq_ok.mpr ⟨(), refuseIf_passes ?_, rfl⟩
    rw [not_or, not_or, not_not, not_not, not_not]
    exact inventories

end Readers

end ProfilePlatform.SaveAttempt
