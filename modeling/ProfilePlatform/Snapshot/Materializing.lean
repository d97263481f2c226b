import ProfilePlatform.Foundation.Calls
import ProfilePlatform.Snapshot.Language

/-! The materializer of a snapshot held in memory, call for call. Any call to the disk may fail or
be the last one, and a write may have got part of the way. -/

set_option autoImplicit false

namespace ProfilePlatform.Snapshot

open Foundation Foundation.Calls
open MaterializationRoot (newGeneration)

abbrev DiskCalls : Type → Type := Calls MaterializationRoot GenerationSnapshotError

def diskFailed : GenerationSnapshotError := ofIo .other

/-- The directory with these files instead of those it has. -/
def MaterializationRoot.put (directory : GenerationId) (files : Files) (self : MaterializationRoot) :
    MaterializationRoot :=
  { self with generations := self.generations.insert directory files }

/-- The files of a directory, none of which is there without it. -/
def MaterializationRoot.filesIn (self : MaterializationRoot) (directory : GenerationId) : Files :=
  (self.generations directory).getD []

/-- A write that leaves nothing behind, or one of these states. -/
def writing (directory : GenerationId) (files : Files) (cut : Nat → Files) : DiskCalls Unit :=
  perform (MaterializationRoot.put directory files)
    (fun reached root => if reached = 0 then root else root.put directory (cut (reached - 1)))
    diskFailed

namespace InMemory

/-- A new directory, and then the marker in it. -/
def createGeneration (directory : GenerationId) : DiskCalls Unit := do
  writing directory [] fun _ => []
  writing directory newGeneration fun reached =>
    [(generationMarker, (utf8Bytes generationMarkerContent).take reached)]
  observe diskFailed

def createStagingWorkspace : Nat → DiskCalls GenerationId
  | 0 => told (.error .targetAlreadyExists)
  | attempts + 1 => do
    let root ← look
    change fun root => { root with stagingSequence := root.stagingSequence + 1 }
    let staging ← told root.stagingId
    observe diskFailed
    if (root.generations staging).isSome then createStagingWorkspace attempts
    else do
      createGeneration staging
      return staging

def ensureDescendantDirectories (staging : GenerationId) (relative : String) : DiskCalls Unit :=
  (directories relative).forM fun directory => do
    observe diskFailed
    let root ← look
    told (refuseIf (((root.filesIn staging).contents directory).isSome) .unsafePath)
    observe diskFailed

def materializeEntry (staging : GenerationId) (entry : String × Bytes) : DiskCalls Unit := do
  ensureDescendantDirectories staging entry.1
  let root ← look
  told (createNew (root.filesIn staging) entry.1)
  writing staging (root.filesIn staging ++ [(entry.1, [])])
    fun _ => root.filesIn staging ++ [(entry.1, [])]
  writing staging (root.filesIn staging ++ [entry])
    fun reached => root.filesIn staging ++ [(entry.1, entry.2.take reached)]
  observe diskFailed
  observe diskFailed
  let root ← look
  told (refuseIf (((root.filesIn staging).contents entry.1).map List.length ≠ some entry.2.length)
    .sourceChanged)

/-- A file of the inventory is the entry, byte for byte. -/
def verifyMaterializedFile (files : Files) (actual : InventoryEntry) (expected : String × Bytes) :
    Outcome Unit := do
  refuseIf (actual.relativePath ≠ expected.1 ∨ actual.bytes ≠ expected.2.length) .sourceChanged
  match files.contents expected.1 with
  | none =>
    if files.hasDirectory expected.1 then .error .sourceChanged
    else .error (.localProfile .fileNotFound)
  | some contents => refuseIf (contents ≠ expected.2) .sourceChanged

def verifyMaterializedSnapshot (files expected : Files) : Outcome Unit := do
  let inventory ← (buildInventory files).mapError .localProfile
  refuseIf (inventory.entries.length ≠ expected.length) .sourceChanged
  (inventory.entries.zip expected).forM fun pair => verifyMaterializedFile files pair.1 pair.2

def verify (directory : GenerationId) (expected : Files) : DiskCalls Unit := do
  observe diskFailed
  let root ← look
  told (verifyMaterializedSnapshot (root.filesIn directory) expected)

/-- A directory is renamed whole, and not onto one that is there. -/
def rename (source target : GenerationId) : DiskCalls Unit := do
  let root ← look
  told (refuseIf ((root.generations target).isSome) diskFailed)
  perform (fun root => root.rename source target (root.filesIn source))
    (fun reached root => if reached = 0 then root
      else root.rename source target (root.filesIn source)) diskFailed

def openGeneration (generation : GenerationId) : DiskCalls Files := do
  observe diskFailed
  let root ← look
  told ((root.openGeneration generation).mapError .localProfile)

variable (beforePublish : Files → Outcome Unit) (generation : GenerationId)

end InMemory

end ProfilePlatform.Snapshot
