import ProfilePlatform.Foundation.Cursor
import ProfilePlatform.Foundation.Table
import ProfilePlatform.Snapshot.Encoding

/-! Reopening a snapshot: the parser of one held in memory, and the materializer that
writes a streamed one to disk. The generations are those of one profile.
-/

set_option autoImplicit false

namespace ProfilePlatform.Snapshot

open Foundation

def fromUtf8 (bytes : Bytes) : Outcome String :=
  (Generation.GenerationMetadata.fromUtf8 bytes).mapError fun _ => .unsafePath

section Parsing

variable (toLowercase : String → String)

abbrev Parser : Type → Type := Cursor GenerationSnapshotError

def parseEntry (seen : SeenPaths) : Parser (SeenPaths × String × Bytes) := do
  let pathLength ← Cursor.number .invalidFormat 2
  Cursor.lift (refuseIf (pathLength = 0 ∨ maxSnapshotPathBytes < pathLength) .unsafePath)
  let pathBytes ← Cursor.take .invalidFormat pathLength
  let relative ← Cursor.lift (fromUtf8 pathBytes.val)
  let seen ← Cursor.lift (seen.accept toLowercase .invalidFormat relative)
  let contentLength ← Cursor.number .invalidFormat 8
  let content ← Cursor.take .invalidFormat contentLength
  return (seen, relative, content.val)

def parseEntries (seen : SeenPaths) : Nat → Parser Files
  | 0 => pure []
  | count + 1 => do
    let (seen, entry) ← parseEntry toLowercase seen
    let entries ← parseEntries seen count
    return entry :: entries

def parseCounted : Parser Files := do
  let count ← Cursor.number .invalidFormat 4
  Cursor.lift (refuseIf (maxSnapshotFiles < count) .invalidFormat)
  parseEntries toLowercase SeenPaths.new count

def parseWorkspaceSnapshot (snapshot : Bytes) : Outcome Files := do
  refuseIf (maxWorkspaceSnapshotBytes < snapshot.length ∨
    snapshot.length < workspaceSnapshotMagic.length + 4 ∨
    snapshot.take workspaceSnapshotMagic.length ≠ workspaceSnapshotMagic) .invalidFormat
  let (entries, unread) ← parseCounted toLowercase (snapshot.drop workspaceSnapshotMagic.length)
  refuseIf (unread ≠ []) .invalidFormat
  return entries

end Parsing

section Roots

/-- The generations on disk, and what the names of staging directories are made of. -/
structure MaterializationRoot where
  generations : Table GenerationId Files
  processId : Nat
  stagingSequence : Nat

def stagingAttempts : Nat := 32

namespace MaterializationRoot

def openGeneration (self : MaterializationRoot) (generation : GenerationId) :
    Except LocalProfileError Files :=
  match self.generations generation with
  | none => .error .fileNotFound
  | some files =>
    match files.contents generationMarker with
    | none => .error .generationMarkerMissing
    | some marker =>
      if marker = utf8Bytes generationMarkerContent then .ok files
      else .error .generationMarkerMismatch

def newGeneration : Files := [(generationMarker, utf8Bytes generationMarkerContent)]

def createGeneration (self : MaterializationRoot) (generation : GenerationId) :
    Except LocalProfileError MaterializationRoot :=
  match self.generations generation with
  | some _ => .error .targetAlreadyExists
  | none => .ok { self with generations := self.generations.insert generation newGeneration }

def stagingId (self : MaterializationRoot) : Outcome GenerationId :=
  (GenerationId.parse ("reopen_stage_" ++ toString self.processId ++ "_" ++
    toString self.stagingSequence)).mapError fun _ => .invalidFormat

def createStagingWorkspace : Nat → MaterializationRoot → Outcome GenerationId × MaterializationRoot
  | 0, self => (.error .targetAlreadyExists, self)
  | attempts + 1, self =>
    let advanced := { self with stagingSequence := self.stagingSequence + 1 }
    match self.stagingId with
    | .error why => (.error why, advanced)
    | .ok staging =>
      match advanced.createGeneration staging with
      | .ok created => (.ok staging, created)
      | .error .targetAlreadyExists => createStagingWorkspace attempts advanced
      | .error error => (.error (.localProfile error), advanced)

def remove (self : MaterializationRoot) (generation : GenerationId) : MaterializationRoot :=
  { self with generations := Function.update self.generations generation none }

def rename (self : MaterializationRoot) (source target : GenerationId) (files : Files) :
    MaterializationRoot :=
  { self with
    generations := Table.insert (Function.update self.generations source none) target files }

end MaterializationRoot

end Roots

section Materializing

variable {ρ σ : Type} (disk : Disk σ) (source : ReadSource ρ) (toLowercase : String → String)
  (sha256 : Generation.Sha256)

/-- The input so far; the digest has been fed the bytes of `hashed`. -/
structure StreamInput (ρ : Type) where
  unread : ρ
  hashed : Bytes
  total : Nat

def readFailure : IoError → GenerationSnapshotError
  | .unexpectedEof => .invalidFormat
  | why => ofIo why

def readStreamPiece (self : StreamInput ρ) (size : Nat) : Outcome (Bytes × StreamInput ρ) :=
  match checkedAdd self.total size with
  | none => .error .snapshotTooLarge
  | some next => do
    refuseIf (maxStreamWorkspaceSnapshotBytes < next) .snapshotTooLarge
    let (piece, unread) ← (source.readExact self.unread size).mapError readFailure
    return (piece, ⟨unread, self.hashed ++ piece, next⟩)

/-- Copies the contents of a file, a buffer at a time. -/
def copyFile (input : StreamInput ρ) (remaining : Nat) (contents : Bytes) :
    Outcome (Bytes × StreamInput ρ) :=
  if remaining = 0 then .ok (contents, input)
  else do
    let (piece, input) ← readStreamPiece source input (min remaining streamBufferBytes)
    copyFile input (remaining - min remaining streamBufferBytes) (contents ++ piece)
termination_by remaining
decreasing_by
  simp only [streamBufferBytes]
  omega

/-- A directory on the way to a file is there already or is made; a file in its place is not. -/
def ensureDescendantDirectories (staging : Files) (relative : String) : Outcome Unit :=
  (directories relative).forM fun directory =>
    refuseIf ((staging.contents directory).isSome) .unsafePath

def createNew (staging : Files) (relative : String) : Outcome Unit :=
  refuseIf ((staging.contents relative).isSome ∨ staging.hasDirectory relative)
    (.localProfile .fileAlreadyExists)

structure StreamedSnapshotFile where
  relativePath : String
  bytes : Nat
  digest : Block 32

structure Materialized (ρ : Type) where
  input : StreamInput ρ
  entries : List StreamedSnapshotFile
  nativeTotal : Nat
  seen : SeenPaths
  staging : Files

def materializeEntry (expected : StreamedWorkspaceSnapshot) (self : Materialized ρ) :
    Outcome (Materialized ρ) := do
  let (length, input) ← readStreamPiece source self.input 2
  let pathLength := ofBigEndian length
  refuseIf (pathLength = 0 ∨ maxSnapshotPathBytes < pathLength) .unsafePath
  let (path, input) ← readStreamPiece source input pathLength
  let relative ← fromUtf8 path
  let seen ← self.seen.accept toLowercase .unsafePath relative
  let (contentLength, input) ← readStreamPiece source input 8
  let bytes := ofBigEndian contentLength
  match checkedAdd self.nativeTotal bytes with
  | none => .error .snapshotTooLarge
  | some nativeTotal =>
    refuseIf (maxStreamNativeProfileBytes < nativeTotal) .snapshotTooLarge
    refuseIf ((checkedAdd input.total bytes).all (expected.plaintextBytes < ·)) .snapshotTooLarge
    ensureDescendantDirectories self.staging relative
    createNew self.staging relative
    let (contents, input) ← copyFile source input bytes []
    return ⟨input, self.entries ++ [⟨relative, bytes, sha256 contents⟩], nativeTotal, seen,
      self.staging ++ [(relative, contents)]⟩

def materializeEntries (expected : StreamedWorkspaceSnapshot) :
    Nat → Materialized ρ → Outcome (Materialized ρ)
  | 0, self => .ok self
  | count + 1, self => do
    materializeEntries expected count
      (← materializeEntry source toLowercase sha256 expected self)

/-- A file read until a read comes back empty. -/
def readToEnd (file : σ) : Except IoError Bytes :=
  match _ : disk.source.read file streamBufferBytes with
  | .error why => .error why
  | .ok ([], _) => .ok []
  | .ok (byte :: piece, rest) => (readToEnd rest).map fun more => byte :: piece ++ more
termination_by (disk.held file).length
decreasing_by
  rename_i read
  obtain ⟨_, _, same, split, -⟩ := disk.holds.reads file streamBufferBytes
  rw [read] at same
  cases same
  rw [split, List.length_append, List.length_cons]
  omega

def verifyStreamedFile (files : Files) (actual : InventoryEntry) (original : StreamedSnapshotFile) :
    Outcome Unit := do
  refuseIf (actual.relativePath ≠ original.relativePath ∨ actual.bytes ≠ original.bytes)
    .sourceChanged
  let contents ← match files.contents original.relativePath with
    | none =>
      if files.hasDirectory original.relativePath then .error .sourceChanged
      else .error (.localProfile .fileNotFound)
    | some contents => .ok contents
  refuseIf (contents.length ≠ original.bytes) .sourceChanged
  let read ← (readToEnd disk (disk.openAt original.relativePath contents)).mapError ofIo
  refuseIf (sha256 read ≠ original.digest) .sourceChanged

def verifyStreamedWorkspace (files : Files) (entries : List StreamedSnapshotFile) :
    Outcome Unit := do
  let inventory ← (buildInventory files).mapError .localProfile
  refuseIf (inventory.entries.length ≠ entries.length) .sourceChanged
  (inventory.entries.zip entries).forM fun pair => verifyStreamedFile disk sha256 files pair.1 pair.2

variable (beforePublish : Files → Outcome Unit)

/-- Reads the stream into the staging directory and verifies what was written there. -/
def stageStream (begin : ρ) (expected : StreamedWorkspaceSnapshot) (staging : Files) :
    Outcome (List StreamedSnapshotFile × Files) := do
  let (magic, input) ← readStreamPiece source ⟨begin, [], 0⟩ 8
  refuseIf (magic ≠ workspaceSnapshotMagic) .invalidFormat
  let (countBytes, input) ← readStreamPiece source input 4
  let count := ofBigEndian countBytes
  refuseIf (maxSnapshotFiles < count) .snapshotTooLarge
  let done ← materializeEntries source toLowercase sha256 expected count
    ⟨input, [], 0, SeenPaths.new, staging⟩
  let (eof, _) ← (source.read done.input.unread 1).mapError ofIo
  refuseIf (eof ≠ [] ∨ done.input.total ≠ expected.plaintextBytes ∨
    sha256 done.input.hashed ≠ expected.plaintextDigest) .invalidFormat
  verifyStreamedWorkspace disk sha256 done.staging done.entries
  beforePublish done.staging
  return (done.entries, done.staging)

/-- The generation is published under its own name, unless that name is taken. -/
def publishStaging (root : MaterializationRoot) (generation staging : GenerationId)
    (entries : List StreamedSnapshotFile) (files : Files) : Outcome Files × MaterializationRoot :=
  match root.generations generation with
  | some _ => (.error .targetAlreadyExists, root.remove staging)
  | none =>
    let published := root.rename staging generation files
    match published.openGeneration generation with
    | .error error => (.error (.localProfile error), published)
    | .ok workspace =>
      match verifyStreamedWorkspace disk sha256 workspace entries with
      | .error why => (.error why, published)
      | .ok () => (.ok workspace, published)

def materializeWorkspaceSnapshotStreaming (root : MaterializationRoot) (generation : GenerationId)
    (begin : ρ) (expected : StreamedWorkspaceSnapshot) : Outcome Files × MaterializationRoot :=
  if maxStreamWorkspaceSnapshotBytes < expected.plaintextBytes then (.error .snapshotTooLarge, root)
  else
    match root.openGeneration generation with
    | .ok _ => (.error .targetAlreadyExists, root)
    | .error .fileNotFound =>
      match root.createStagingWorkspace stagingAttempts with
      | (.error why, root) => (.error why, root)
      | (.ok staging, root) =>
        match stageStream disk source toLowercase sha256 beforePublish begin expected
          MaterializationRoot.newGeneration with
        | .error why => (.error why, root.remove staging)
        | .ok (entries, files) => publishStaging disk sha256 root generation staging entries files
    | .error error => (.error (.localProfile error), root)

end Materializing

end ProfilePlatform.Snapshot
