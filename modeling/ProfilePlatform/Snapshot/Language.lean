import ProfilePlatform.Generation.Canonical
import ProfilePlatform.Snapshot.Reopening

/-! The snapshots that the parser in memory takes: canonical ones of files that a snapshot
may list, and no others. -/

set_option autoImplicit false

namespace ProfilePlatform.Snapshot

open Foundation

/-- Files that a snapshot may list: few enough, and with portable names in order. -/
structure Listable (toLowercase : String → String) (files : Files) : Prop where
  few : files.length ≤ maxSnapshotFiles
  portable : Portable toLowercase (files.map Prod.fst)
  sorted : (files.map Prod.fst).Pairwise (· < ·)

section Parsing

variable {toLowercase : String → String}

/-- What the parser has read is spelled as the encoder spells it, name for name in order. -/
theorem parseEntries_sound {count : Nat} {names : List String} {seen : SeenPaths}
    {unread rest : Bytes} {files : Files} (seenNames : seen = SeenPaths.of toLowercase names)
    (sorted : names.Pairwise (· < ·))
    (parsed : parseEntries toLowercase seen count unread = .ok (files, rest)) :
    files.length = count ∧ unread = files.flatMap encodedFile ++ rest ∧
      (names ++ files.map Prod.fst).Pairwise (· < ·) := by
  induction count generalizing names seen unread files with
  | zero =>
    cases parsed
    exact ⟨rfl, rfl, by simpa using sorted⟩
  | succ count ih =>
    obtain ⟨⟨after, file⟩, more, first, parsed⟩ := Cursor.bind_eq_ok.mp parsed
    obtain ⟨later, left, others, done⟩ := Cursor.bind_eq_ok.mp parsed
    cases done
    subst seenNames
    obtain ⟨length, _, measured, first⟩ := Cursor.bind_eq_ok.mp first
    obtain ⟨_, _, sized, first⟩ := Cursor.bind_eq_ok.mp first
    obtain ⟨path, _, taken, first⟩ := Cursor.bind_eq_ok.mp first
    obtain ⟨relative, _, text, first⟩ := Cursor.bind_eq_ok.mp first
    obtain ⟨_, _, admits, first⟩ := Cursor.bind_eq_ok.mp first
    obtain ⟨contentLength, _, counted, first⟩ := Cursor.bind_eq_ok.mp first
    obtain ⟨content, _, copied, done⟩ := Cursor.bind_eq_ok.mp first
    cases done
    obtain ⟨-, rfl⟩ := Cursor.lift_eq_ok.mp sized
    obtain ⟨read, rfl⟩ := Cursor.lift_eq_ok.mp text
    obtain ⟨accepts, rfl⟩ := Cursor.lift_eq_ok.mp admits
    have spelled : utf8Bytes relative = path.val :=
      Generation.GenerationMetadata.utf8Bytes_of_fromUtf8 (mapError_eq_ok.mp read)
    obtain ⟨-, ordered, -, rfl⟩ := SeenPaths.accept_eq_ok.mp accepts
    obtain ⟨listed, split, all⟩ := ih rfl (sorted_concat sorted ordered) others
    rw [List.map_cons, List.append_cons]
    refine ⟨congrArg (· + 1) listed, ?_, all⟩
    rw [(Cursor.number_eq_ok.mp measured).2, Cursor.take_eq_ok.mp taken,
      (Cursor.number_eq_ok.mp counted).2, Cursor.take_eq_ok.mp copied, split, List.flatMap_cons,
      encodedFile, entryHeader, spelled, path.property, content.property]
    simp only [List.append_assoc]

/-- The parser takes the canonical snapshots of files that can be listed, if they are small
enough, and nothing else. -/
theorem parseWorkspaceSnapshot_eq_ok {snapshot : Bytes} {files : Files} :
    parseWorkspaceSnapshot toLowercase snapshot = .ok files ↔
      snapshot = canonicalSnapshot files ∧ Listable toLowercase files ∧
        snapshot.length ≤ maxWorkspaceSnapshotBytes := by
  constructor
  · intro parsed
    have portable := portable_of_parsed parsed
    obtain ⟨_, admitted, parsed⟩ := bind_eq_ok.mp parsed
    obtain ⟨⟨entries, unread⟩, counted, parsed⟩ := bind_eq_ok.mp parsed
    obtain ⟨_, ended, done⟩ := bind_eq_ok.mp parsed
    cases done
    have admitted := refuseIf_eq_ok.mp admitted
    simp only [not_or, not_not] at admitted
    have ended := not_not.mp (refuseIf_eq_ok.mp ended)
    subst ended
    obtain ⟨count, _, measured, counted⟩ := Cursor.bind_eq_ok.mp counted
    obtain ⟨_, _, few, counted⟩ := Cursor.bind_eq_ok.mp counted
    obtain ⟨counts, rfl⟩ := Cursor.lift_eq_ok.mp few
    have few := refuseIf_eq_ok.mp counts
    obtain ⟨rfl, split, sorted⟩ := parseEntries_sound rfl List.Pairwise.nil counted
    refine ⟨?_, ⟨Nat.not_lt.mp few, portable, sorted⟩, Nat.not_lt.mp admitted.1⟩
    have parts := List.take_append_drop workspaceSnapshotMagic.length snapshot
    rw [admitted.2.2, (Cursor.number_eq_ok.mp measured).2, split] at parts
    rw [← parts, canonicalSnapshot, snapshotHeader]
    simp only [List.append_assoc, List.append_nil]
  · rintro ⟨rfl, listable, small⟩
    have valid (file) (member : file ∈ files) : validateWindowsRelativePath file.1 = .ok () :=
      listable.portable.valid file.1 (List.mem_map_of_mem member)
    refine parse_sorted listable.few listable.portable listable.sorted
      (fun file member => .of_valid (valid file member)) (fun file member => ?_) small
    have inside : file.2.length ≤ (files.flatMap encodedFile).length :=
      (length_le_contentBytes member).trans (contentBytes_le files)
    have limit : maxWorkspaceSnapshotBytes < u64Limit := by decide
    rw [canonicalSnapshot, List.length_append] at small
    omega

end Parsing

/-! Whether a saved workspace can be reopened. -/

open MaterializationRoot (newGeneration)

/-- A root the generation can be written to: it is not there, and a staging directory can be
made under another name. -/
structure Ready (root : MaterializationRoot) (generation : GenerationId) : Prop where
  absent : root.generations generation = none
  stages : ∃ staging after, root.createStagingWorkspace stagingAttempts = (.ok staging, after) ∧
    staging ≠ generation

section Statement

variable {σ ω : Type} (disk : Disk σ) (targetDisk : Disk ω) (toLowercase : String → String)
  (sha256 : Generation.Sha256) (workspace : GenerationWorkspace) (inventory : GenerationInventory)

/-- What the encoder in memory returns is parsed back to the files it was made of. -/
def ParsesBack : Prop :=
  ∀ bytes, encodeWorkspaceSnapshot disk workspace inventory = .ok bytes →
    parseWorkspaceSnapshot toLowercase bytes = .ok (workspace.filesOf inventory)

/-- What the streaming encoder has written is taken, and these files are written out. -/
def Materializes : Prop :=
  ∀ (τ ρ : Type) (sink : WriteSink τ) (taken : τ → Bytes) (source : ReadSource ρ)
    (held : ρ → Bytes) (beforePublish : Files → Outcome Unit) (output final : τ) (begin : ρ)
    (snapshot : StreamedWorkspaceSnapshot) (root : MaterializationRoot) (generation : GenerationId),
    sink.Records taken → taken output = [] →
    encodeWorkspaceSnapshotStreaming disk sink toLowercase sha256 workspace inventory output =
      .ok (snapshot, final) →
    source.Holds held → held begin = taken final → Ready root generation →
    beforePublish (newGeneration ++ workspace.filesOf inventory) = .ok () →
    ∃ published, materializeWorkspaceSnapshotStreaming targetDisk source toLowercase sha256
        beforePublish root generation begin snapshot =
          (.ok (newGeneration ++ workspace.filesOf inventory), published) ∧
      published.generations =
        root.generations.insert generation (newGeneration ++ workspace.filesOf inventory)

end Statement

/-- The room the inventory takes in a snapshot. -/
def snapshotSize (inventory : GenerationInventory) : Nat :=
  12 + (inventory.entries.map fun entry =>
    2 + (utf8Bytes entry.relativePath).length + 8 + entry.bytes).sum

variable {σ ω : Type} {disk : Disk σ} {targetDisk : Disk ω} {toLowercase : String → String}
  {sha256 : Generation.Sha256} {workspace : GenerationWorkspace} {inventory : GenerationInventory}

theorem length_flatMap_encodedFile (files : Files) :
    (files.flatMap encodedFile).length = (files.map fun file =>
      2 + (utf8Bytes file.1).length + 8 + file.2.length).sum := by
  rw [List.length_flatMap]
  simp only [length_encodedFile]

theorem length_canonicalSnapshot (listed : workspace.inventory = .ok inventory) :
    (canonicalSnapshot (workspace.filesOf inventory)).length = snapshotSize inventory := by
  obtain ⟨-, same⟩ := accepted listed
  have entries : inventory.entries = (workspace.filesOf inventory).map InventoryEntry.of :=
    congrArg GenerationInventory.entries same
  rw [canonicalSnapshot, List.length_append, length_snapshotHeader, length_flatMap_encodedFile,
    snapshotSize, entries, List.map_map]
  rfl

theorem materializes (listed : workspace.inventory = .ok inventory) :
    Materializes disk targetDisk toLowercase sha256 workspace inventory := by
  intro τ ρ sink taken source held beforePublish output final begin snapshot root generation records
    clean written holds whole ready agrees
  obtain ⟨known, -⟩ := accepted listed
  obtain ⟨portable, fits, rfl, grown⟩ := streaming_wrote records listed written
  obtain ⟨staging, after, stages, apart⟩ := ready.stages
  obtain ⟨free, staged⟩ := createStagingWorkspace_creates stages
  rw [grown, clean, List.nil_append] at whole
  obtain ⟨published, done, placed⟩ :=
    publishStaging_publishes targetDisk known ready.absent apart free staged
  refine ⟨published, ?_, placed⟩
  have opens : root.openGeneration generation = .error .fileNotFound := by
    simp only [MaterializationRoot.openGeneration, ready.absent]
  unfold materializeWorkspaceSnapshotStreaming
  rw [if_neg (Nat.not_lt.mpr fits)]
  simp only [opens, stages, stageStream_succeeds targetDisk holds known portable whole fits agrees]
  exact done

theorem parsesBack_iff (listed : workspace.inventory = .ok inventory) :
    ParsesBack disk toLowercase workspace inventory ↔
      maxWorkspaceSnapshotBytes < snapshotSize inventory ∨
        Portable toLowercase ((workspace.filesOf inventory).map Prod.fst) := by
  obtain ⟨known, -⟩ := accepted listed
  rw [← length_canonicalSnapshot listed]
  constructor
  · intro parses
    rcases Nat.lt_or_ge maxWorkspaceSnapshotBytes
      (canonicalSnapshot (workspace.filesOf inventory)).length with large | small
    · exact .inl large
    · exact .inr (portable_of_parsed
        (parses _ ((encodeWorkspaceSnapshot_eq_ok listed).mpr ⟨small, rfl⟩)))
  · rintro either bytes encoded
    obtain ⟨small, rfl⟩ := (encodeWorkspaceSnapshot_eq_ok listed).mp encoded
    rcases either with large | portable
    · omega
    · exact parse_canonical known portable small

/-- A workspace can be reopened unless its snapshot in memory has a name that is no good on
Windows, or names that differ in case alone. -/
theorem reopens_iff (disk : Disk σ) (targetDisk : Disk ω) (toLowercase : String → String)
    (sha256 : Generation.Sha256) (listed : workspace.inventory = .ok inventory) :
    (ParsesBack disk toLowercase workspace inventory ∧
        Materializes disk targetDisk toLowercase sha256 workspace inventory) ↔
      maxWorkspaceSnapshotBytes < snapshotSize inventory ∨
        Portable toLowercase (inventory.entries.map InventoryEntry.relativePath) := by
  have names : (workspace.filesOf inventory).map Prod.fst =
      inventory.entries.map InventoryEntry.relativePath := by
    rw [GenerationWorkspace.filesOf, List.map_map]
    rfl
  rw [and_iff_left (materializes listed), parsesBack_iff listed, names]

theorem reopens_iff_small :
    (ParsesBack memoryDisk asciiLowercase smallWorkspace smallInventory ∧
        Materializes memoryDisk memoryDisk asciiLowercase (fun _ => ⟨List.replicate 32 0, rfl⟩)
          smallWorkspace smallInventory) ↔
      maxWorkspaceSnapshotBytes < snapshotSize smallInventory ∨
        Portable asciiLowercase (smallInventory.entries.map InventoryEntry.relativePath) :=
  reopens_iff memoryDisk memoryDisk asciiLowercase (fun _ => ⟨List.replicate 32 0, rfl⟩) small_listed

/-- The browser has kept a file under the name of a device. -/
def deviceWorkspace : GenerationWorkspace where
  files := [("aux", [1])]
  distinct := by decide
  apart := by decide

theorem device_name_lost :
    deviceWorkspace.inventory = .ok (inventoryOf [("aux", [1])]) ∧
      encodeWorkspaceSnapshot memoryDisk deviceWorkspace (inventoryOf [("aux", [1])]) =
        .ok (canonicalSnapshot [("aux", [1])]) ∧
      parseWorkspaceSnapshot asciiLowercase (canonicalSnapshot [("aux", [1])]) =
        .error .unsafePath := by
  have listed : deviceWorkspace.inventory = .ok (inventoryOf [("aux", [1])]) := by rfl
  refine ⟨listed, (encodeWorkspaceSnapshot_eq_ok listed).mpr ⟨by decide, by decide⟩, by decide +kernel⟩

end ProfilePlatform.Snapshot
