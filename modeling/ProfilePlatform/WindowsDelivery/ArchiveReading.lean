import ProfilePlatform.WindowsDelivery.Archive

/-! What the readers of an archive return for what stands in the file. -/

set_option autoImplicit false

namespace ProfilePlatform.WindowsDelivery.Archive

open Foundation

def region (file : List UInt8) (offset size : Nat) : List UInt8 := (file.drop offset).take size

section Regions

variable {file piece : List UInt8} {offset length size : Nat}

end Regions

section Texts

theorem fromUtf8_utf8Bytes (text : String) : fromUtf8 (utf8Bytes text) = .ok text := by
  have same : (utf8Bytes text).toByteArray = text.toByteArray := by
    apply ByteArray.ext
    simp [utf8Bytes, List.data_toByteArray]
  simp only [fromUtf8, same, String.fromUTF8?, text.isValidUTF8, dite_true]
  rfl

end Texts

section Numbers

variable {fields : List (List UInt8)} {index offset width value : Nat}

end Numbers

/-! Where the members of an accepted ZIP stand. -/

/-- A member of an archive, from its header to the end of its data, and what is told of it. -/
structure Member where
  start : Nat
  dataOffset : Nat
  size : Nat
  told : Option ParsedArchiveEntry

def Member.stop (member : Member) : Nat := member.dataOffset + member.size

/-- What is told of a member is true of its data. -/
def Member.Sound (sha256 : List UInt8 → Block 32) (file : List UInt8) (member : Member) : Prop :=
  ∀ entry, member.told = some entry → entry.dataOffset = member.dataOffset ∧
    (entry.kind = .regularFile → entry.sizeBytes = member.size ∧
      entry.sha256 = hexDigest (sha256 (region file member.dataOffset member.size)).val)

def told (members : List Member) : List ParsedArchiveEntry := members.filterMap Member.told

section Entry

variable {sha256 : List UInt8 → Block 32} {file : List UInt8} {record : EndRecord}

/-- What one entry of the central directory adds to the archive. -/
structure Admits (sha256 : List UInt8 → Block 32) (file : List UInt8) (record : EndRecord)
    (entry : ZipEntry) (member : Member) : Prop where
  told : member.told = entry.parsed
  occupied : entry.occupied = (member.start, member.stop)
  header : member.start + 30 ≤ member.dataOffset
  before : member.stop ≤ record.centralOffset
  sound : member.Sound sha256 file

end Entry

section Loop

variable {sha256 : List UInt8 → Block 32} {file : List UInt8} {record : EndRecord}

/-- The members that the walk has met. -/
structure Walked (sha256 : List UInt8 → Block 32) (file : List UInt8) (record : EndRecord)
    (members : List Member) (walk : ZipWalk) : Prop where
  parsed : walk.parsed = told members
  occupied : walk.occupied = members.map fun member => (member.start, member.stop)
  headers : ∀ member ∈ members, member.start + 30 ≤ member.dataOffset
  before : ∀ member ∈ members, member.stop ≤ record.centralOffset
  sound : ∀ member ∈ members, member.Sound sha256 file

theorem Walked.step {members : List Member} {walk : ZipWalk} {entry : ZipEntry} {member : Member}
    (walked : Walked sha256 file record members walk)
    (admits : Admits sha256 file record entry member) :
    Walked sha256 file record (members ++ [member])
      ⟨entry.cursor, walk.parsed ++ entry.parsed.toList, walk.occupied ++ [entry.occupied]⟩ where
  parsed := by
    rw [walked.parsed, told, told, List.filterMap_append, ← admits.told]
    cases found : member.told <;> simp [found]
  occupied := by rw [walked.occupied, admits.occupied, List.map_append, List.map_singleton]
  headers := List.forall_mem_append.mpr ⟨walked.headers, List.forall_mem_singleton.mpr admits.header⟩
  before := List.forall_mem_append.mpr ⟨walked.before, List.forall_mem_singleton.mpr admits.before⟩
  sound := List.forall_mem_append.mpr ⟨walked.sound, List.forall_mem_singleton.mpr admits.sound⟩

end Loop

end ProfilePlatform.WindowsDelivery.Archive
