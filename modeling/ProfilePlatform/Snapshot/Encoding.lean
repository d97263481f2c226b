import ProfilePlatform.Foundation.Bytes
import ProfilePlatform.Generation.Metadata
import ProfilePlatform.Snapshot.Workspace

/-! Canonical workspace snapshots and the two encoders that write them.

The lower-case form of a name is a parameter: nothing depends on how characters fold.
-/

set_option autoImplicit false

namespace ProfilePlatform.Snapshot

open Foundation

inductive GenerationSnapshotError where
  | invalidFormat
  | snapshotTooLarge
  | unsafePath
  | sourceChanged
  | targetAlreadyExists
  | prePublish
  | localProfile (error : LocalProfileError)
  deriving DecidableEq, Repr

abbrev Outcome : Type → Type := Except GenerationSnapshotError

def ofIo (why : IoError) : GenerationSnapshotError := .localProfile (.io why)

/-- The magic spells BPGW0001. -/
def workspaceSnapshotMagic : Bytes := [66, 80, 71, 87, 48, 48, 48, 49]
def maxWorkspaceSnapshotBytes : Nat := 67108864
def maxStreamNativeProfileBytes : Nat := Generation.maxStreamPlaintextBytes
def maxStreamWorkspaceSnapshotBytes : Nat := Generation.maxStreamPlaintextBytes
def maxSnapshotFiles : Nat := 100000
def maxSnapshotPathBytes : Nat := 512
/-- A file goes through a buffer of this size. -/
def streamBufferBytes : Nat := 65536

section Paths

def reservedStems : List String := ["CON", "PRN", "AUX", "NUL", "CLOCK$"]
def numberedStems : List String := ["COM", "LPT"]

def windowsReservedComponent (component : String) : Bool :=
  let stem := ((component.toList.splitOn '.').headD []).map Char.toUpper
  reservedStems.any (stem = ·.toList) ||
    numberedStems.any fun device =>
      "123456789".toList.any fun digit => stem = device.toList ++ [digit]

/-- A control character or one of the characters `<>:"|?*`. -/
def isRefusedByte (byte : UInt8) : Bool :=
  byte < 32 || byte = 127 || [60, 62, 58, 34, 124, 63, 42].contains byte

def validateComponent (component : String) : Outcome Unit :=
  refuseIf (component = "" ∨ component = "." ∨ component = ".." ∨
    component.toList.getLast? = some '.' ∨ component.toList.getLast? = some ' ' ∨
    (utf8Bytes component).any isRefusedByte ∨ windowsReservedComponent component) .unsafePath

def refusedPaths : List String :=
  [generationMarker, bridgeLockFile, firefoxParentLockPath, firefoxWindowsParentLockPath,
    firefoxLockPath]

def validateWindowsRelativePath (path : String) : Outcome Unit := do
  refuseIf (path = "" ∨ maxSnapshotPathBytes < (utf8Bytes path).length ∨
    path.toList.head? = some '/' ∨ path.toList.getLast? = some '/' ∨ '\\' ∈ path.toList ∨
    ['/', '/'] <:+: path.toList ∨ path ∈ refusedPaths) .unsafePath
  (pathComponents path).forM validateComponent

variable (toLowercase : String → String)

/-- The names gone through: the last one, and every one in lower case. -/
structure SeenPaths where
  previous : Option String
  casefolded : List String

def SeenPaths.new : SeenPaths := ⟨none, []⟩

/-- The next name, which comes after the last one and is new in lower case too. -/
def SeenPaths.accept (outOfOrder : GenerationSnapshotError) (self : SeenPaths)
    (relative : String) : Outcome SeenPaths := do
  validateWindowsRelativePath relative
  refuseIf (self.previous.any (relative ≤ ·)) outOfOrder
  refuseIf (toLowercase relative ∈ self.casefolded) .unsafePath
  return ⟨some relative, toLowercase relative :: self.casefolded⟩

end Paths

section Canonical

def snapshotHeader (count : Nat) : Bytes := workspaceSnapshotMagic ++ bigEndian 4 count

def entryHeader (relative : String) (bytes : Nat) : Bytes :=
  bigEndian 2 (utf8Bytes relative).length ++ utf8Bytes relative ++ bigEndian 8 bytes

def encodedFile (file : String × Bytes) : Bytes := entryHeader file.1 file.2.length ++ file.2

/-- What a snapshot of the files is, byte for byte. -/
def canonicalSnapshot (files : Files) : Bytes :=
  snapshotHeader files.length ++ files.flatMap encodedFile

end Canonical

/-- The contents of what must be a regular file of the size in the inventory. -/
def GenerationWorkspace.regularFile (workspace : GenerationWorkspace) (entry : InventoryEntry) :
    Outcome Bytes :=
  match workspace.files.contents entry.relativePath with
  | none =>
    if workspace.files.hasDirectory entry.relativePath then .error .sourceChanged
    else .error (.localProfile .fileNotFound)
  | some contents => if contents.length = entry.bytes then .ok contents else .error .sourceChanged

section InMemory

variable {σ : Type} (disk : Disk σ) (workspace : GenerationWorkspace)

def checkedExtend (output bytes : Bytes) : Outcome Bytes :=
  if maxWorkspaceSnapshotBytes < output.length + bytes.length then .error .snapshotTooLarge
  else .ok (output ++ bytes)

def encodeEntry (output : Bytes) (entry : InventoryEntry) : Outcome Bytes := do
  let path := utf8Bytes entry.relativePath
  refuseIf (capacity 2 ≤ path.length) .snapshotTooLarge
  let output ← checkedExtend output (bigEndian 2 path.length)
  let output ← checkedExtend output path
  let output ← checkedExtend output (bigEndian 8 entry.bytes)
  let contents ← workspace.regularFile entry
  refuseIf (maxWorkspaceSnapshotBytes < output.length) .snapshotTooLarge
  refuseIf (maxWorkspaceSnapshotBytes - output.length < entry.bytes) .snapshotTooLarge
  let (read, _) ← (disk.source.readExact (disk.openAt entry.relativePath contents)
    entry.bytes).mapError ofIo
  return output ++ read

def encodeWorkspaceSnapshot (expectedInventory : GenerationInventory) : Outcome Bytes := do
  let count := expectedInventory.entries.length
  refuseIf (capacity 4 ≤ count) .snapshotTooLarge
  let output ← expectedInventory.entries.foldlM (encodeEntry disk workspace) (snapshotHeader count)
  let current ← workspace.inventory.mapError .localProfile
  refuseIf (current ≠ expectedInventory) .sourceChanged
  return output

end InMemory

structure StreamedWorkspaceSnapshot where
  plaintextBytes : Nat
  plaintextDigest : Block 32

def addEncodedSize (size : Nat) (entry : InventoryEntry) : Outcome Nat := do
  let pathLength := (utf8Bytes entry.relativePath).length
  refuseIf (pathLength = 0 ∨ maxSnapshotPathBytes < pathLength) .unsafePath
  match checkedAdd size (2 + pathLength + 8) with
  | none => .error .snapshotTooLarge
  | some withHeader =>
    match checkedAdd withHeader entry.bytes with
    | none => .error .snapshotTooLarge
    | some size =>
      refuseIf (maxStreamWorkspaceSnapshotBytes < size) .snapshotTooLarge
      return size

def encodedStreamSnapshotSize (inventory : GenerationInventory) : Outcome Nat := do
  refuseIf (maxSnapshotFiles < inventory.entries.length) .snapshotTooLarge
  refuseIf (maxStreamNativeProfileBytes < inventory.totalBytes) .snapshotTooLarge
  inventory.entries.foldlM addEncodedSize 12

section Streaming

variable {σ τ : Type} (disk : Disk σ) (sink : WriteSink τ) (toLowercase : String → String)
  (sha256 : Generation.Sha256) (workspace : GenerationWorkspace)

/-- The output so far; the digest has been fed the bytes of `hashed`. -/
structure StreamOutput (τ : Type) where
  output : τ
  hashed : Bytes
  length : Nat

def writeStreamPiece (self : StreamOutput τ) (piece : Bytes) : Outcome (StreamOutput τ) :=
  match checkedAdd self.length piece.length with
  | none => .error .snapshotTooLarge
  | some next => do
    refuseIf (maxStreamWorkspaceSnapshotBytes < next) .snapshotTooLarge
    let output ← (sink.writeAll self.output piece).mapError ofIo
    return ⟨output, self.hashed ++ piece, next⟩

def streamFile (file : σ) (remaining : Nat) (written : StreamOutput τ) :
    Outcome (StreamOutput τ) :=
  if remaining = 0 then .ok written
  else do
    let (piece, file) ← (disk.source.readExact file (min remaining streamBufferBytes)).mapError ofIo
    let written ← writeStreamPiece sink written piece
    streamFile file (remaining - min remaining streamBufferBytes) written
termination_by remaining
decreasing_by
  simp only [streamBufferBytes]
  omega

def streamEntry (state : SeenPaths × StreamOutput τ) (entry : InventoryEntry) :
    Outcome (SeenPaths × StreamOutput τ) := do
  let seen ← state.1.accept toLowercase .unsafePath entry.relativePath
  let path := utf8Bytes entry.relativePath
  refuseIf (capacity 2 ≤ path.length) .snapshotTooLarge
  let written ← writeStreamPiece sink state.2 (bigEndian 2 path.length)
  let written ← writeStreamPiece sink written path
  let written ← writeStreamPiece sink written (bigEndian 8 entry.bytes)
  let contents ← workspace.regularFile entry
  let written ← streamFile disk sink (disk.openAt entry.relativePath contents) entry.bytes written
  return (seen, written)

def encodeWorkspaceSnapshotStreaming (expectedInventory : GenerationInventory) (output : τ) :
    Outcome (StreamedWorkspaceSnapshot × τ) := do
  let expectedLength ← encodedStreamSnapshotSize expectedInventory
  let count := expectedInventory.entries.length
  refuseIf (capacity 4 ≤ count) .snapshotTooLarge
  let written ← writeStreamPiece sink ⟨output, [], 0⟩ workspaceSnapshotMagic
  let written ← writeStreamPiece sink written (bigEndian 4 count)
  let (_, written) ← expectedInventory.entries.foldlM
    (streamEntry disk sink toLowercase workspace) (SeenPaths.new, written)
  let current ← workspace.inventory.mapError .localProfile
  refuseIf (current ≠ expectedInventory) .sourceChanged
  refuseIf (written.length ≠ expectedLength) .sourceChanged
  return (⟨written.length, sha256 written.hashed⟩, written.output)

end Streaming

end ProfilePlatform.Snapshot
