import ProfilePlatform.Foundation.Hex
import ProfilePlatform.Generation.Canonical
import ProfilePlatform.Snapshot.Decoding

/-! The record of a save attempt: a header in JSON in front of a sealed container. How the header
is spelled is the serializer's own, and a parameter here. -/

set_option autoImplicit false

namespace ProfilePlatform.SaveAttempt

open Foundation Generation

abbrev Bytes : Type := List UInt8

inductive SaveAttemptEvidenceError where
  | io (why : IoError)
  | invalid
  | changed
  deriving DecidableEq, Repr

abbrev Outcome : Type → Type := Except SaveAttemptEvidenceError

structure RecoveredLoneOrigin where
  epoch : Nat
  sessionFingerprint : String
  fencingFingerprint : String
  deriving DecidableEq

structure AttemptHeader where
  schema : String
  tenant : String
  profile : String
  baseGeneration : String
  successor : String
  sessionFingerprint : String
  fencingFingerprint : String
  deviceFingerprint : Option String
  epoch : Nat
  sourceInventory : UInt64
  candidateInventory : UInt64
  candidateBytes : Nat
  objectKey : String
  metadataDigest : String
  containerDigest : String
  containerBytes : Nat
  recoveredLoneOrigin : Option RecoveredLoneOrigin
  deriving DecidableEq

/-- How a header is written and read as JSON. -/
structure HeaderCodec where
  toVec : AttemptHeader → Bytes
  fromSlice : Bytes → Option AttemptHeader

def HeaderCodec.RoundTrips (codec : HeaderCodec) : Prop :=
  ∀ header, codec.fromSlice (codec.toVec header) = some header

/-- The generations on disk, and the records beside them by file name. -/
structure AttemptRoot where
  workspaces : TenantId → ProfileId → Snapshot.MaterializationRoot
  records : Table String Bytes

def AttemptRoot.openGeneration (self : AttemptRoot) (tenant : TenantId) (profile : ProfileId)
    (generation : GenerationId) : Except Snapshot.LocalProfileError Snapshot.Files :=
  (self.workspaces tenant profile).openGeneration generation

/-- `BPAT0001`. -/
def magic : Bytes := [66, 80, 65, 84, 48, 48, 48, 49]

def maxHeaderBytes : Nat := 4096
def maxRecordBytes : Nat := maxContainerBytes + maxHeaderBytes + 12
def maxStreamRecordBytes : Nat := maxStreamContainerBytes + maxHeaderBytes + 12
def attemptSchema : String := "bridge-p3-attempt-v1"

section Names

variable (sha256 : Sha256)

/-- The length of a text in eight bytes, and the text. -/
def lengthAndText (text : String) : Bytes := bigEndian 8 (utf8Bytes text).length ++ utf8Bytes text

def scopeFilePrefix (tenant : TenantId) (profile : ProfileId) : String :=
  ".profile-save-attempt-v1-" ++ hexDigest (sha256 (utf8Bytes
    "bridge-p3-save-attempt-profile-scope-v1\x00" ++ lengthAndText tenant.asStr ++
      lengthAndText profile.asStr)).val

def attemptPath (tenant : TenantId) (profile : ProfileId) (successor : GenerationId) : String :=
  scopeFilePrefix sha256 tenant profile ++ "-" ++ hexDigest (sha256 (utf8Bytes
    "bridge-p3-save-attempt-successor-v1\x00" ++ lengthAndText successor.asStr)).val ++ ".bin"

def credentialFingerprint (kind value : String) : String :=
  hexDigest (sha256 (utf8Bytes "bridge-p3-ephemeral-owner-fingerprint-v1\x00" ++
    lengthAndText kind ++ lengthAndText value)).val

end Names

section Parsing

variable (codec : HeaderCodec)

/-- The number that stands behind the magic. -/
def headerLength (record : Bytes) : Nat := ofBigEndian ((record.drop 8).take 4)

def parseRecord (bytes : Bytes) : Outcome (AttemptHeader × Bytes) := do
  refuseIf (bytes.length < 12 ∨ bytes.take 8 ≠ magic) .invalid
  let length := headerLength bytes
  refuseIf (length = 0 ∨ maxHeaderBytes < length ∨ bytes.length - 12 < length) .invalid
  let header ← okOr (codec.fromSlice ((bytes.drop 12).take length)) .invalid
  let ciphertext := bytes.drop (12 + length)
  refuseIf (ciphertext = [] ∨ maxContainerBytes < ciphertext.length) .invalid
  return (header, ciphertext)

def readBoundedAttemptHeader (file : Bytes) : Outcome AttemptHeader := do
  refuseIf (file.length ≤ 12 ∨ maxStreamRecordBytes < file.length) .invalid
  refuseIf (file.take 8 ≠ magic) .invalid
  let length := headerLength file
  refuseIf (length = 0 ∨ maxHeaderBytes < length ∨ file.length ≤ 12 + length) .invalid
  okOr (codec.fromSlice ((file.drop 12).take length)) .invalid

end Parsing

section Frames

/-- What is written for a header and a container. -/
def recordBytes (headerBytes ciphertext : Bytes) : Bytes :=
  magic ++ bigEndian 4 headerBytes.length ++ headerBytes ++ ciphertext

/-- A record whose header and container are these. -/
structure Framed (record headerBytes ciphertext : Bytes) : Prop where
  whole : record = recordBytes headerBytes ciphertext
  headed : headerBytes.length ≠ 0
  short : headerBytes.length ≤ maxHeaderBytes
  filled : ciphertext ≠ []

variable {record headerBytes ciphertext : Bytes}

theorem headerLength_eq {start rest : Bytes} {number : Nat} (eight : start.length = 8)
    (fits : number < capacity 4) : headerLength (start ++ (bigEndian 4 number ++ rest)) = number := by
  rw [headerLength, List.drop_left' eight, List.take_left' (length_bigEndian 4 _),
    ofBigEndian_bigEndian fits]

theorem length_recordBytes :
    (recordBytes headerBytes ciphertext).length = 12 + headerBytes.length + ciphertext.length := by
  simp only [recordBytes, magic, List.length_append, List.length_cons, List.length_nil,
    length_bigEndian]

theorem Framed.positive (framed : Framed record headerBytes ciphertext) : 0 < ciphertext.length :=
  List.length_pos_iff.mpr framed.filled

theorem Framed.length (framed : Framed record headerBytes ciphertext) :
    record.length = 12 + headerBytes.length + ciphertext.length := by
  rw [framed.whole, length_recordBytes]

theorem Framed.headerLength_eq (framed : Framed record headerBytes ciphertext) :
    headerLength record = headerBytes.length := by
  rw [framed.whole, recordBytes, List.append_assoc, List.append_assoc]
  exact SaveAttempt.headerLength_eq rfl (Nat.lt_of_le_of_lt framed.short (by decide))

theorem Framed.begins (framed : Framed record headerBytes ciphertext) : record.take 8 = magic := by
  rw [framed.whole, recordBytes, List.append_assoc, List.append_assoc, List.take_left' (by decide)]

theorem Framed.unmagic (framed : Framed record headerBytes ciphertext) :
    record.drop 12 = headerBytes ++ ciphertext := by
  rw [framed.whole, recordBytes, List.append_assoc]
  exact List.drop_left' (by rw [List.length_append, length_bigEndian]; rfl)

theorem Framed.header_eq (framed : Framed record headerBytes ciphertext) :
    (record.drop 12).take headerBytes.length = headerBytes := by
  rw [framed.unmagic, List.take_left]

theorem Framed.ciphertext_eq (framed : Framed record headerBytes ciphertext) :
    record.drop (12 + headerBytes.length) = ciphertext := by
  rw [← List.drop_drop, framed.unmagic, List.drop_left]

/-- A record that passes the checks of its frame has the header and the container that the frame
points to. -/
theorem Framed.of_checks (long : 12 ≤ record.length) (begins : record.take 8 = magic)
    (headed : headerLength record ≠ 0) (short : headerLength record ≤ maxHeaderBytes)
    (inside : 12 + headerLength record < record.length) :
    Framed record ((record.drop 12).take (headerLength record))
      (record.drop (12 + headerLength record)) := by
  have counted : ((record.drop 12).take (headerLength record)).length = headerLength record := by
    rw [List.length_take, List.length_drop]
    omega
  have numbered : bigEndian 4 (headerLength record) = (record.drop 8).take 4 := by
    refine bigEndian_ofBigEndian ?_
    rw [List.length_take, List.length_drop]
    omega
  refine ⟨?_, by rwa [counted], by rwa [counted], ?_⟩
  · rw [recordBytes, counted, numbered, ← begins, ← List.drop_drop, List.append_assoc,
      List.append_assoc, List.take_append_drop, ← List.drop_drop (i := 4) (j := 8),
      List.take_append_drop, List.take_append_drop]
  · intro empty
    have none := congrArg List.length empty
    rw [List.length_drop, List.length_nil] at none
    omega

variable {codec : HeaderCodec} {header : AttemptHeader}

theorem parseRecord_eq_ok : parseRecord codec record = .ok (header, ciphertext) ↔
    ∃ headerBytes, Framed record headerBytes ciphertext ∧
      codec.fromSlice headerBytes = some header ∧ ciphertext.length ≤ maxContainerBytes := by
  constructor
  · intro parsed
    obtain ⟨_, starts, parsed⟩ := bind_eq_ok.mp parsed
    obtain ⟨_, sized, parsed⟩ := bind_eq_ok.mp parsed
    obtain ⟨found, decoded, parsed⟩ := bind_eq_ok.mp parsed
    obtain ⟨_, bounded, same⟩ := bind_eq_ok.mp parsed
    cases same
    have starts := not_or.mp (refuseIf_eq_ok.mp starts)
    have sized := refuseIf_eq_ok.mp sized
    have bounded := not_or.mp (refuseIf_eq_ok.mp bounded)
    simp only [not_or] at sized
    have long : 12 ≤ record.length := Nat.not_lt.mp starts.1
    have left : 12 + headerLength record ≠ record.length := by
      intro ends
      exact bounded.1 (by rw [ends, List.drop_length])
    refine ⟨_, .of_checks long (not_not.mp starts.2) sized.1 (Nat.not_lt.mp sized.2.1) (by omega),
      okOr_eq_ok.mp decoded, Nat.not_lt.mp bounded.2⟩
  · rintro ⟨headerBytes, framed, decoded, bounded⟩
    have length := framed.length
    have counted := framed.headerLength_eq
    refine bind_eq_ok.mpr ⟨(), refuseIf_passes ?_, bind_eq_ok.mpr ⟨(), refuseIf_passes ?_, ?_⟩⟩
    · rw [not_or, not_not]
      exact ⟨by omega, framed.begins⟩
    · rw [counted, not_or, not_or]
      have short := framed.short
      exact ⟨framed.headed, by omega, by omega⟩
    · dsimp only
      rw [counted, framed.header_eq, framed.ciphertext_eq]
      exact bind_eq_ok.mpr ⟨header, okOr_eq_ok.mpr decoded, bind_eq_ok.mpr ⟨(),
        refuseIf_passes (not_or.mpr ⟨framed.filled, Nat.not_lt.mpr bounded⟩), rfl⟩⟩

theorem readBoundedAttemptHeader_eq_ok : readBoundedAttemptHeader codec record = .ok header ↔
    ∃ headerBytes ciphertext, Framed record headerBytes ciphertext ∧
      codec.fromSlice headerBytes = some header ∧ record.length ≤ maxStreamRecordBytes := by
  constructor
  · intro read
    obtain ⟨_, bounded, read⟩ := bind_eq_ok.mp read
    obtain ⟨_, starts, read⟩ := bind_eq_ok.mp read
    obtain ⟨_, sized, decoded⟩ := bind_eq_ok.mp read
    have bounded := not_or.mp (refuseIf_eq_ok.mp bounded)
    have starts := not_not.mp (refuseIf_eq_ok.mp starts)
    have sized := refuseIf_eq_ok.mp sized
    simp only [not_or] at sized
    exact ⟨_, _, .of_checks (by omega) starts sized.1 (Nat.not_lt.mp sized.2.1)
      (Nat.not_le.mp sized.2.2), okOr_eq_ok.mp decoded, Nat.not_lt.mp bounded.2⟩
  · rintro ⟨headerBytes, ciphertext, framed, decoded, bounded⟩
    have length := framed.length
    have positive := framed.positive
    have short := framed.short
    have counted := framed.headerLength_eq
    refine bind_eq_ok.mpr ⟨(), refuseIf_passes (not_or.mpr ⟨by omega, by omega⟩),
      bind_eq_ok.mpr ⟨(), refuseIf_passes (not_not.mpr framed.begins), ?_⟩⟩
    refine bind_eq_ok.mpr ⟨(), refuseIf_passes ?_, ?_⟩
    · rw [counted, not_or, not_or]
      exact ⟨framed.headed, by omega, by omega⟩
    · rw [counted, framed.header_eq]
      exact okOr_eq_ok.mpr decoded

end Frames

end ProfilePlatform.SaveAttempt
