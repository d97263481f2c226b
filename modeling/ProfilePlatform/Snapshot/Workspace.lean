import Mathlib
import ProfilePlatform.Foundation.Fallible
import ProfilePlatform.Foundation.Stream
import ProfilePlatform.Primitives

/-! A generation workspace and its inventory.

A workspace is its regular files by relative path, a path being its components
joined by slashes; a directory is there as long as a file is below it. Reading a
file goes through a source that may hand out fewer bytes than asked for.
-/

set_option autoImplicit false

namespace ProfilePlatform.Snapshot

open Foundation

abbrev Bytes : Type := List UInt8

def maxInventoryFiles : Nat := 100000
def maxRelativePathBytes : Nat := 512

inductive LocalProfileError where
  | unsafeRelativePath
  | specialFileRejected
  | inventoryLimitExceeded
  | inventorySizeOverflow
  | fileNotFound
  | fileAlreadyExists
  | targetAlreadyExists
  | generationMarkerMissing
  | generationMarkerMismatch
  | io (why : IoError)
  deriving DecidableEq, Repr

def pathComponents (path : String) : List String := (path.toList.splitOn '/').map String.ofList

def joinComponents (components : List String) : String :=
  String.ofList (List.intercalate ['/'] (components.map String.toList))

/-- The directories a path leads through, outermost first. -/
def directories (path : String) : List String :=
  let components := pathComponents path
  (List.range (components.length - 1)).map fun depth => joinComponents (components.take (depth + 1))

abbrev Files : Type := List (String × Bytes)

def Files.contents (files : Files) (path : String) : Option Bytes :=
  (files.find? fun file => file.1 = path).map Prod.snd

/-- Whether some file lies below the path. -/
def Files.hasDirectory (files : Files) (path : String) : Bool :=
  files.any fun file => path ∈ directories file.1

structure GenerationWorkspace where
  files : Files
  distinct : (files.map Prod.fst).Nodup
  /-- What is a file is no directory. -/
  apart : ∀ file ∈ files, files.hasDirectory file.1 = false

def fnvOffsetBasis : UInt64 := 0xcbf29ce484222325
def fnvPrime : UInt64 := 0x00000100000001b3

def fnvUpdate (digest : UInt64) (bytes : Bytes) : UInt64 :=
  bytes.foldl (fun digest byte => (digest ^^^ byte.toUInt64) * fnvPrime) digest

structure InventoryEntry where
  relativePath : String
  bytes : Nat
  contentDigest : UInt64
  deriving DecidableEq

structure GenerationInventory where
  entries : List InventoryEntry
  totalBytes : Nat
  inventoryDigest : UInt64
  deriving DecidableEq

/-- The eight bytes of an integer, least significant first. -/
def toLeBytes (value : UInt64) : Bytes :=
  (List.range 8).map fun place => (value >>> (8 * place).toUInt64).toUInt8

def inventoryEntryDigest (digest : UInt64) (entry : InventoryEntry) : UInt64 :=
  let digest := fnvUpdate digest (utf8Bytes entry.relativePath)
  let digest := fnvUpdate digest (toLeBytes entry.bytes.toUInt64)
  fnvUpdate digest (toLeBytes entry.contentDigest)

def generationMarker : String := ".profile-generation"
def generationMarkerContent : String := "profile-platform-generation-v1\n"
def bridgeLockFile : String := ".profile-platform.lock"
def generationAdmissionFile : String := ".profile-platform.writer-admission"
def recoveryMarkerStagePrefix : String := ".profile-platform.lock.recovery-"
def firefoxParentLockPath : String := "user_data/.parentlock"
def firefoxWindowsParentLockPath : String := "user_data/parent.lock"
def firefoxLockPath : String := "user_data/lock"

def isBridgeControlFile (relativePath : String) : Bool :=
  relativePath = generationMarker || relativePath = bridgeLockFile ||
    relativePath = generationAdmissionFile ||
    recoveryMarkerStagePrefix.toList.isPrefixOf relativePath.toList

def isEphemeralBrowserLock (relativePath : String) : Bool :=
  relativePath = firefoxParentLockPath || relativePath = firefoxWindowsParentLockPath ||
    relativePath = firefoxLockPath

def normalizedRelativePath (relative : String) : Except LocalProfileError String :=
  if (pathComponents relative).any fun part => part = "" || part = "." || part = ".." then
    .error .unsafeRelativePath
  else if relative = "" || maxRelativePathBytes < (utf8Bytes relative).length then
    .error .unsafeRelativePath
  else .ok relative

/-- What the walk makes of a directory it comes to. -/
def visitDirectory (relative : String) : Except LocalProfileError Unit := do
  let relativePath ← normalizedRelativePath relative
  refuseIf (isEphemeralBrowserLock relativePath ∨ isBridgeControlFile relativePath)
    .specialFileRejected

/-- What the walk makes of a file it comes to; locks and control files are passed over. -/
def visitFile (relative : String) (contents : Bytes) :
    Except LocalProfileError (Option InventoryEntry) := do
  let relativePath ← normalizedRelativePath relative
  if isEphemeralBrowserLock relativePath || isBridgeControlFile relativePath then return none
  else return some ⟨relativePath, contents.length, fnvUpdate fnvOffsetBasis contents⟩

/-- The walk, file by file, through the directories on the way. -/
def collectInventory (entries : List InventoryEntry) :
    Files → Except LocalProfileError (List InventoryEntry)
  | [] => .ok entries
  | (path, contents) :: rest => do
    (directories path).forM visitDirectory
    match ← visitFile path contents with
    | none => collectInventory entries rest
    | some entry =>
      refuseIf (maxInventoryFiles ≤ entries.length) .inventoryLimitExceeded
      collectInventory (entries ++ [entry]) rest

def totalBytes (total : Nat) : List InventoryEntry → Except LocalProfileError Nat
  | [] => .ok total
  | entry :: rest =>
    match checkedAdd total entry.bytes with
    | none => .error .inventorySizeOverflow
    | some total => totalBytes total rest

def buildInventory (files : Files) : Except LocalProfileError GenerationInventory := do
  let collected ← collectInventory [] files
  let entries := collected.insertionSort fun left right => left.relativePath ≤ right.relativePath
  refuseIf (maxInventoryFiles < entries.length) .inventoryLimitExceeded
  let total ← totalBytes 0 entries
  return ⟨entries, total, entries.foldl inventoryEntryDigest fnvOffsetBasis⟩

def GenerationWorkspace.inventory (self : GenerationWorkspace) :
    Except LocalProfileError GenerationInventory :=
  buildInventory self.files

/-- How files are read: an opened file hands out the contents it was opened on. -/
structure Disk (σ : Type) where
  source : ReadSource σ
  held : σ → Bytes
  openAt : String → Bytes → σ
  holds : source.Holds held
  opened : ∀ path contents, held (openAt path contents) = contents

/-- Files held in memory. -/
def memoryDisk : Disk Bytes where
  source := sliceSource
  held := id
  openAt _ contents := contents
  holds := sliceSource_holds
  opened _ _ := rfl

end ProfilePlatform.Snapshot
