import ProfilePlatform.WindowsDelivery.ArchiveHeaders
import ProfilePlatform.WindowsDelivery.ArchiveReading

/-! A TAR reads as the files that it was written from, and the members of an accepted one tile it. -/

set_option autoImplicit false

namespace ProfilePlatform.WindowsDelivery.Archive

open Foundation

section Writer

/-- Zeros up to the next block. -/
def padding (size : Nat) : List UInt8 := List.replicate ((512 - size % 512) % 512) 0

def tarBlock (header : TarHeader) (typeFlag : UInt8) (content : List UInt8) : List UInt8 :=
  tarHeader header content.length typeFlag ++ (content ++ padding content.length)

/-- A file or a directory. A path that its header does not tell has a member of its own before it. -/
structure TarFixture where
  path : String
  content : List UInt8
  isDirectory : Bool
  header : TarHeader
  pax : Option (TarHeader × List UInt8)

def TarFixture.typeFlag (file : TarFixture) : UInt8 :=
  if file.isDirectory then tarDirectory else tarRegularFile

def TarFixture.paxBlock (file : TarFixture) : List UInt8 :=
  match file.pax with
  | none => []
  | some pax => tarBlock pax.1 tarPaxHeader pax.2

def TarFixture.written (file : TarFixture) : List UInt8 :=
  file.paxBlock ++ tarBlock file.header file.typeFlag file.content

structure TarFixture.Plain (file : TarFixture) : Prop where
  named : file.path ≠ ""
  plain : '\x00' ∉ file.path.toList
  header : file.header.Plain
  small : file.content.length < 8 ^ 11
  empty : file.isDirectory = true → file.content = []
  told : match file.pax with
    | none => file.header.path = file.path
    | some pax => pax.1.Plain ∧ PaxRecord file.path pax.2 ∧ pax.2.length ≤ maxPaxHeaderBytes

end Writer

section Steps

variable {sha256 : List UInt8 → Block 32} {bytes front rest : List UInt8}

variable (sha256)

/-- What a file is told as, with its header at the place. A directory is left out. -/
def TarFixture.told (file : TarFixture) (place : Nat) : List ParsedArchiveEntry :=
  if file.isDirectory then []
  else [⟨file.path, .regularFile, file.content.length, hexDigest (sha256 file.content).val, place + 512⟩]

variable {sha256}

end Steps

section Archives

variable {sha256 : List UInt8 → Block 32} {file : List UInt8} {walk next : TarWalk}

variable {bytes front rest : List UInt8} {parsed : List ParsedArchiveEntry}

end Archives

end ProfilePlatform.WindowsDelivery.Archive
