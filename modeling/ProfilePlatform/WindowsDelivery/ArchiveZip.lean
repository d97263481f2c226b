import ProfilePlatform.Foundation.Fields
import ProfilePlatform.WindowsDelivery.ArchiveReading

/-! A stored ZIP reads as the files that it was written from. -/

set_option autoImplicit false

namespace ProfilePlatform.WindowsDelivery.Archive

open Foundation

section Writer

/-- A file or a directory with its mode, whose name is flagged as UTF-8 or not. -/
structure ZipFixture where
  name : String
  content : List UInt8
  mode : Nat
  utf8 : Bool

def ZipFixture.isDirectory (file : ZipFixture) : Bool := file.mode &&& unixFileTypeMask == unixDirectory

def ZipFixture.flags (file : ZipFixture) : Nat := if file.utf8 then zipAllowedFlags else 0

def ZipFixture.crc32 (file : ZipFixture) : Nat := (~~~crcBytes file.content).toNat

/-- A name and a mode that can be written. -/
structure ZipFixture.Plain (file : ZipFixture) : Prop where
  named : file.name ≠ ""
  plain : '\x00' ∉ file.name.toList
  short : (utf8Bytes file.name).length ≤ 65535
  mode : file.mode ≤ 65535

end Writer

section Lengths

variable (file : ZipFixture) (localOffset : Nat)

end Lengths

section Headers

variable {file : ZipFixture} {localOffset : Nat}

/-- The header that the fields of a file are read as. -/
def ZipFixture.header (file : ZipFixture) (localOffset : Nat) : CentralHeader where
  flags := file.flags
  compression := 0
  expectedCrc32 := file.crc32
  compressedSize := file.content.length
  uncompressedSize := file.content.length
  nameLen := (utf8Bytes file.name).length
  extraLen := 0
  commentLen := 0
  externalAttributes := file.mode <<< 16
  localHeaderOffset := localOffset

end Headers

section Entries

variable (sha256 : List UInt8 → Block 32)

def ZipFixture.dataOffset (file : ZipFixture) (localOffset : Nat) : Nat :=
  localOffset + 30 + (utf8Bytes file.name).length

/-- What a file is told as. -/
def ZipFixture.told (file : ZipFixture) (localOffset : Nat) : Option ParsedArchiveEntry :=
  zipParsed file.name (file.header localOffset) (file.dataOffset localOffset)
    (hexDigest (sha256 file.content).val)

def ZipFixture.occupied (file : ZipFixture) (localOffset : Nat) : Nat × Nat :=
  (localOffset, file.dataOffset localOffset + file.content.length)

variable {sha256} {file : ZipFixture}

end Entries

section Archives

variable (sha256 : List UInt8 → Block 32)

variable {sha256} {files : List ZipFixture} {localOffset centralOffset : Nat}

end Archives

end ProfilePlatform.WindowsDelivery.Archive
