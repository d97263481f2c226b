import ProfilePlatform.Snapshot.Written

/-! The pull reader: a snapshot handed out as it is asked for.

A turn of its loop either hands out a piece or opens the next file. Of an unchanging
workspace a reader holds what is left of the canonical snapshot.
-/

set_option autoImplicit false

namespace ProfilePlatform.Snapshot

open Foundation

structure WorkspaceSnapshotReader (σ : Type) where
  workspace : GenerationWorkspace
  inventory : GenerationInventory
  expectedBytes : Nat
  emittedBytes : Nat
  pending : Bytes
  pendingOffset : Nat
  nextEntry : Nat
  currentFile : Option σ
  remainingFileBytes : Nat
  verifiedEof : Bool

/-- What a turn of the loop comes to. -/
inductive Turn (σ : Type) where
  | handsOut (piece : Bytes) (reader : WorkspaceSnapshotReader σ)
  | goesOn (reader : WorkspaceSnapshotReader σ)

def snapshotReaderChanged : IoError := .other

namespace WorkspaceSnapshotReader

variable {σ : Type}

def atStart (workspace : GenerationWorkspace) (inventory : GenerationInventory)
    (expectedBytes : Nat) : WorkspaceSnapshotReader σ where
  workspace := workspace
  inventory := inventory
  expectedBytes := expectedBytes
  emittedBytes := 0
  pending := snapshotHeader inventory.entries.length
  pendingOffset := 0
  nextEntry := 0
  currentFile := none
  remainingFileBytes := 0
  verifiedEof := false

def new (toLowercase : String → String) (workspace : GenerationWorkspace)
    (inventory : GenerationInventory) : Outcome (WorkspaceSnapshotReader σ) := do
  let expectedBytes ← encodedStreamSnapshotSize inventory
  let _ ← inventory.entries.foldlM
    (fun seen entry => seen.accept toLowercase .unsafePath entry.relativePath) SeenPaths.new
  refuseIf (capacity 4 ≤ inventory.entries.length) .snapshotTooLarge
  return atStart workspace inventory expectedBytes

def advanceWritten (self : WorkspaceSnapshotReader σ) (count : Nat) :
    Except IoError (WorkspaceSnapshotReader σ) :=
  match checkedAdd self.emittedBytes count with
  | none => .error snapshotReaderChanged
  | some emittedBytes => do
    refuseIf (self.expectedBytes < emittedBytes) snapshotReaderChanged
    return { self with emittedBytes }

variable (disk : Disk σ)

/-- With nothing pending and no file under way, the next file is opened, or all is done. -/
def openNext (self : WorkspaceSnapshotReader σ) : Except IoError (Turn σ) :=
  match self.inventory.entries[self.nextEntry]? with
  | some entry => do
    let contents ← (self.workspace.regularFile entry).mapError fun _ => snapshotReaderChanged
    refuseIf (contents.length ≠ entry.bytes) snapshotReaderChanged
    let path := utf8Bytes entry.relativePath
    refuseIf (capacity 2 ≤ path.length) snapshotReaderChanged
    return .goesOn { self with
      nextEntry := self.nextEntry + 1
      currentFile := some (disk.openAt entry.relativePath contents)
      remainingFileBytes := entry.bytes
      pending := self.pending ++ entryHeader entry.relativePath entry.bytes }
  | none =>
    if self.verifiedEof then .ok (.handsOut [] self)
    else do
      let current ← self.workspace.inventory.mapError fun _ => snapshotReaderChanged
      refuseIf (current ≠ self.inventory ∨ self.emittedBytes ≠ self.expectedBytes)
        snapshotReaderChanged
      return .handsOut [] { self with verifiedEof := true }

def turn (self : WorkspaceSnapshotReader σ) (size : Nat) : Except IoError (Turn σ) :=
  if self.pendingOffset < self.pending.length then do
    let available := self.pending.length - self.pendingOffset
    let count := min available size
    let piece := (self.pending.drop self.pendingOffset).take count
    let advanced ← { self with pendingOffset := self.pendingOffset + count }.advanceWritten count
    return .handsOut piece advanced
  else
    let cleared := { self with pending := [], pendingOffset := 0 }
    match self.currentFile with
    | none => cleared.openNext disk
    | some file =>
      if self.remainingFileBytes ≠ 0 then do
        let allowed := min self.remainingFileBytes size
        let (piece, file) ← disk.source.read file allowed
        refuseIf (piece = []) snapshotReaderChanged
        let advanced ← { cleared with
          currentFile := some file
          remainingFileBytes := self.remainingFileBytes - piece.length }.advanceWritten piece.length
        return .handsOut piece advanced
      else { cleared with currentFile := none }.openNext disk

theorem openNext_goesOn {self next : WorkspaceSnapshotReader σ}
    (opens : self.openNext disk = .ok (.goesOn next)) :
    next.inventory = self.inventory ∧ next.nextEntry = self.nextEntry + 1 ∧
      self.nextEntry < self.inventory.entries.length := by
  unfold openNext at opens
  split at opens
  next entry found =>
    obtain ⟨contents, -, opens⟩ := bind_eq_ok.mp opens
    obtain ⟨⟨⟩, -, opens⟩ := bind_eq_ok.mp opens
    obtain ⟨⟨⟩, -, done⟩ := bind_eq_ok.mp opens
    cases done
    exact ⟨rfl, rfl, (List.getElem?_eq_some_iff.mp found).1⟩
  next =>
    split at opens
    · cases opens
    · obtain ⟨current, -, opens⟩ := bind_eq_ok.mp opens
      obtain ⟨⟨⟩, -, done⟩ := bind_eq_ok.mp opens
      cases done

theorem turn_goesOn {self next : WorkspaceSnapshotReader σ} {size : Nat}
    (turned : self.turn disk size = .ok (.goesOn next)) :
    next.inventory.entries.length - next.nextEntry <
      self.inventory.entries.length - self.nextEntry := by
  have opened {cleared : WorkspaceSnapshotReader σ}
      (opens : cleared.openNext disk = .ok (.goesOn next))
      (same : cleared.inventory = self.inventory) (place : cleared.nextEntry = self.nextEntry) :
      next.inventory.entries.length - next.nextEntry <
        self.inventory.entries.length - self.nextEntry := by
    obtain ⟨kept, moved, inside⟩ := openNext_goesOn disk opens
    rw [kept, moved, ← same, ← place]
    omega
  unfold turn at turned
  split at turned
  next =>
    obtain ⟨advanced, -, done⟩ := bind_eq_ok.mp turned
    cases done
  next =>
    split at turned
    next => exact opened turned rfl rfl
    next file _ =>
      split at turned
      next =>
        obtain ⟨⟨piece, rest⟩, -, turned⟩ := bind_eq_ok.mp turned
        obtain ⟨⟨⟩, -, turned⟩ := bind_eq_ok.mp turned
        obtain ⟨advanced, -, done⟩ := bind_eq_ok.mp turned
        cases done
      next => exact opened turned rfl rfl

def readLoop (self : WorkspaceSnapshotReader σ) (size : Nat) :
    Except IoError (Bytes × WorkspaceSnapshotReader σ) :=
  match _ : self.turn disk size with
  | .error why => .error why
  | .ok (.handsOut piece reader) => .ok (piece, reader)
  | .ok (.goesOn reader) => reader.readLoop size
termination_by self.inventory.entries.length - self.nextEntry
decreasing_by
  rename_i turned
  exact turn_goesOn disk turned

/-- The reader as a source of bytes. -/
def source : ReadSource (WorkspaceSnapshotReader σ) where
  read self size := if size = 0 then .ok ([], self) else self.readLoop disk size

section Holding

variable {disk}

/-- What is left to hand out: what is pending, the file under way and the files after it. -/
def held (disk : Disk σ) (self : WorkspaceSnapshotReader σ) : Bytes :=
  self.pending.drop self.pendingOffset ++ (self.currentFile.elim [] disk.held ++
    ((self.workspace.filesOf self.inventory).drop self.nextEntry).flatMap encodedFile)

/-- The reader counts right, and the workspace is still what the inventory says. -/
structure Sound (disk : Disk σ) (reader : WorkspaceSnapshotReader σ) : Prop where
  listed : reader.workspace.inventory = .ok reader.inventory
  counted : reader.emittedBytes + (reader.held disk).length = reader.expectedBytes
  small : reader.expectedBytes ≤ maxStreamWorkspaceSnapshotBytes
  remaining : ∀ file ∈ reader.currentFile, (disk.held file).length = reader.remainingFileBytes

variable {self : WorkspaceSnapshotReader σ}

theorem advanceWritten_succeeds {count : Nat} (room : self.emittedBytes + count ≤ self.expectedBytes)
    (small : self.expectedBytes ≤ maxStreamWorkspaceSnapshotBytes) :
    self.advanceWritten count = .ok { self with emittedBytes := self.emittedBytes + count } := by
  have policy : maxStreamWorkspaceSnapshotBytes < u64Limit := by decide
  have fits : checkedAdd self.emittedBytes count = some (self.emittedBytes + count) :=
    checkedAdd_eq_some.mpr ⟨rfl, by omega⟩
  unfold advanceWritten
  simp only [fits, refuseIf_passes (Nat.not_lt.mpr room)]
  rfl

/-- A turn of a sound reader: a piece of what is held, or the next file with nothing lost. -/
inductive Turns (disk : Disk σ) (before : WorkspaceSnapshotReader σ) (size : Nat) : Turn σ → Prop where
  | handsOut {piece : Bytes} {after : WorkspaceSnapshotReader σ} (sound : Sound disk after)
      (split : before.held disk = piece ++ after.held disk) (fits : piece.length ≤ size)
      (progress : before.held disk ≠ [] → piece ≠ []) : Turns disk before size (.handsOut piece after)
  | goesOn {after : WorkspaceSnapshotReader σ} (sound : Sound disk after)
      (same : after.held disk = before.held disk) : Turns disk before size (.goesOn after)

theorem openNext_turns (size : Nat) (sound : Sound disk self) (cleared : self.pending = [])
    (reset : self.pendingOffset = 0) (none : self.currentFile = none) :
    ∃ turn, self.openNext disk = .ok turn ∧ Turns disk self size turn := by
  obtain ⟨known, same⟩ := accepted sound.listed
  have entries : self.inventory.entries =
      (self.workspace.filesOf self.inventory).map InventoryEntry.of :=
    congrArg GenerationInventory.entries same
  have left : self.held disk =
      ((self.workspace.filesOf self.inventory).drop self.nextEntry).flatMap encodedFile := by
    simp [held, cleared, none]
  unfold openNext
  rw [entries, List.getElem?_map]
  cases found : (self.workspace.filesOf self.inventory)[self.nextEntry]? with
  | none =>
    have done : self.held disk = [] := by
      rw [left, List.drop_eq_nil_of_le (List.getElem?_eq_none_iff.mp found)]
      rfl
    have counted := sound.counted
    rw [done, List.length_nil, Nat.add_zero] at counted
    simp only [Option.map_none]
    split
    next =>
      exact ⟨_, rfl, .handsOut sound rfl (Nat.zero_le _) fun more => absurd done more⟩
    next =>
      have kept : Sound disk { self with verifiedEof := true } :=
        ⟨sound.listed, sound.counted, sound.small, sound.remaining⟩
      refine ⟨.handsOut [] { self with verifiedEof := true }, ?_, .handsOut kept rfl (Nat.zero_le _)
        fun more => absurd done more⟩
      refine bind_eq_ok.mpr ⟨_, mapError_eq_ok.mpr sound.listed, ?_⟩
      refine bind_eq_ok.mpr ⟨(), refuseIf_passes ?_, rfl⟩
      rintro (changed | changed)
      · exact changed rfl
      · exact changed counted
  | some file =>
    obtain ⟨inside, here⟩ := List.getElem?_eq_some_iff.mp found
    have member : file ∈ self.workspace.filesOf self.inventory := here ▸ List.getElem_mem inside
    obtain ⟨stored, normalized⟩ := known.members file member
    have next : (self.workspace.filesOf self.inventory).drop self.nextEntry =
        file :: (self.workspace.filesOf self.inventory).drop (self.nextEntry + 1) := by
      rw [List.drop_eq_getElem_cons inside, here]
    let opened : WorkspaceSnapshotReader σ := { self with
      nextEntry := self.nextEntry + 1
      currentFile := some (disk.openAt file.1 file.2)
      remainingFileBytes := file.2.length
      pending := self.pending ++ entryHeader file.1 file.2.length }
    have kept : opened.held disk = self.held disk := by
      rw [left, next, List.flatMap_cons]
      simp [opened, held, cleared, reset, disk.opened, encodedFile]
    have opens : Sound disk opened := by
      refine ⟨sound.listed, by rw [kept]; exact sound.counted, sound.small, ?_⟩
      rintro _ ⟨⟩
      exact congrArg List.length (disk.opened file.1 file.2)
    refine ⟨.goesOn opened, ?_, .goesOn opens kept⟩
    refine bind_eq_ok.mpr ⟨file.2, mapError_eq_ok.mpr (regularFile_of stored), ?_⟩
    refine bind_eq_ok.mpr ⟨(), refuseIf_passes (not_not_intro rfl), ?_⟩
    exact bind_eq_ok.mpr ⟨(), refuseIf_passes (Nat.not_le.mpr normalized.encodable), rfl⟩

theorem turn_turns {size : Nat} (room : 0 < size) (sound : Sound disk self) :
    ∃ turn, self.turn disk size = .ok turn ∧ Turns disk self size turn := by
  have counted := sound.counted
  unfold turn
  split
  next waiting =>
    let piece := (self.pending.drop self.pendingOffset).take
      (min (self.pending.length - self.pendingOffset) size)
    have sized : piece.length = min (self.pending.length - self.pendingOffset) size := by
      simp only [piece, List.length_take, List.length_drop]
      omega
    let moved := { self with
      pendingOffset := self.pendingOffset + min (self.pending.length - self.pendingOffset) size }
    have split : self.held disk = piece ++ moved.held disk := by
      simp only [held, moved, piece, ← List.drop_drop, ← List.append_assoc, List.take_append_drop]
    have lengths : (self.held disk).length = piece.length + (moved.held disk).length := by
      rw [split, List.length_append]
    have within : moved.emittedBytes +
        min (self.pending.length - self.pendingOffset) size ≤ moved.expectedBytes := by
      simp only [moved]
      omega
    refine ⟨_, bind_eq_ok.mpr ⟨_, advanceWritten_succeeds within sound.small, rfl⟩, ?_⟩
    refine .handsOut ⟨sound.listed, ?_, sound.small, sound.remaining⟩ split ?_ ?_
    · show self.emittedBytes + min (self.pending.length - self.pendingOffset) size +
        (moved.held disk).length = self.expectedBytes
      omega
    · show piece.length ≤ size
      omega
    · intro _ empty
      have none : piece.length = 0 := congrArg List.length empty
      omega
  next spent =>
    let cleared := { self with pending := [], pendingOffset := 0 }
    have gone : self.pending.drop self.pendingOffset = [] :=
      List.drop_eq_nil_of_le (Nat.not_lt.mp spent)
    have same : cleared.held disk = self.held disk := by
      simp only [held, cleared, gone, List.drop_nil]
    have clear : Sound disk cleared :=
      ⟨sound.listed, by rw [same]; exact counted, sound.small, sound.remaining⟩
    have onward {closed : WorkspaceSnapshotReader σ} {turn : Turn σ}
        (turns : Turns disk closed size turn) (kept : closed.held disk = self.held disk) :
        Turns disk self size turn := by
      cases turns with
      | handsOut sound split fits progress =>
        exact .handsOut sound (kept ▸ split) fits (kept ▸ progress)
      | goesOn sound same => exact .goesOn sound (same.trans kept)
    cases under : self.currentFile with
    | none =>
      obtain ⟨turn, opens, turns⟩ := openNext_turns size clear rfl rfl under
      refine ⟨turn, ?_, onward turns same⟩
      rw [← opens]
      simp only [cleared, under]
    | some file =>
      have remaining := sound.remaining file under
      simp only
      split
      next unread =>
        obtain ⟨piece, rest, read, split, short, progress⟩ :=
          disk.holds.reads file (min self.remainingFileBytes size)
        have unfinished : disk.held file ≠ [] := by
          intro empty
          rw [empty, List.length_nil] at remaining
          omega
        have nonempty : piece ≠ [] := progress (by omega) unfinished
        let handed := { cleared with
          currentFile := some rest
          remainingFileBytes := self.remainingFileBytes - piece.length }
        have whole : self.held disk = piece ++ handed.held disk := by
          rw [← same]
          simp [held, handed, cleared, under, split]
        have lengths := congrArg List.length whole
        have fileLengths := congrArg List.length split
        rw [List.length_append] at lengths fileLengths
        have within : handed.emittedBytes + piece.length ≤ handed.expectedBytes := by
          show self.emittedBytes + piece.length ≤ self.expectedBytes
          omega
        refine ⟨.handsOut piece { handed with emittedBytes := self.emittedBytes + piece.length }, ?_,
          .handsOut ⟨sound.listed, ?_, sound.small, ?_⟩ whole (by omega) fun _ => nonempty⟩
        · refine bind_eq_ok.mpr ⟨(piece, rest), read, ?_⟩
          refine bind_eq_ok.mpr ⟨(), refuseIf_passes nonempty, ?_⟩
          exact bind_eq_ok.mpr ⟨_, advanceWritten_succeeds within sound.small, rfl⟩
        · show self.emittedBytes + piece.length + (handed.held disk).length = self.expectedBytes
          omega
        · rintro _ ⟨⟩
          show (disk.held rest).length = self.remainingFileBytes - piece.length
          omega
      next finished =>
        have empty : disk.held file = [] := List.eq_nil_of_length_eq_zero (by omega)
        let closed : WorkspaceSnapshotReader σ := { cleared with currentFile := none }
        have kept : closed.held disk = self.held disk := by
          rw [← same]
          simp [held, closed, cleared, under, empty]
        have close : Sound disk closed := by
          refine ⟨sound.listed, by rw [kept]; exact counted, sound.small, ?_⟩
          rintro _ ⟨⟩
        obtain ⟨turn, opens, turns⟩ := openNext_turns size close rfl rfl rfl
        exact ⟨turn, opens, onward turns kept⟩

theorem readLoop_reads {size : Nat} (room : 0 < size) (sound : Sound disk self) :
    ∃ piece after, self.readLoop disk size = .ok (piece, after) ∧ Sound disk after ∧
      self.held disk = piece ++ after.held disk ∧ piece.length ≤ size ∧
      (self.held disk ≠ [] → piece ≠ []) := by
  induction left : self.inventory.entries.length - self.nextEntry using Nat.strongRecOn
    generalizing self with
  | ind left ih =>
    obtain ⟨turn, turned, turns⟩ := turn_turns room sound
    unfold readLoop
    split
    next failed =>
      rw [turned] at failed
      cases failed
    next handed =>
      rw [turned] at handed
      cases handed
      cases turns with
      | handsOut sound split fits progress => exact ⟨_, _, rfl, sound, split, fits, progress⟩
    next next goesOn =>
      have fewer := turn_goesOn disk goesOn
      rw [turned] at goesOn
      cases goesOn
      cases turns with
      | goesOn sound same => exact same ▸ ih _ (left ▸ fewer) sound rfl

/-- As long as the workspace does not change, a reader hands out what it holds. -/
theorem source_holds (disk : Disk σ) : (source disk).HoldsIn (Sound disk) (held disk) where
  reads self size sound := by
    rcases Nat.eq_zero_or_pos size with rfl | room
    · exact ⟨[], self, rfl, sound, rfl, Nat.le_refl 0, fun asked => absurd asked (Nat.lt_irrefl 0)⟩
    · obtain ⟨piece, rest, read, kept, split, fits, progress⟩ := readLoop_reads room sound
      exact ⟨piece, rest, by rw [← read]; exact if_neg (Nat.ne_of_gt room), kept, split, fits,
        fun _ => progress⟩

theorem new_eq_ok {toLowercase : String → String} {workspace : GenerationWorkspace}
    {inventory : GenerationInventory} {reader : WorkspaceSnapshotReader σ}
    (listed : workspace.inventory = .ok inventory) :
    new toLowercase workspace inventory = .ok reader ↔
      Portable toLowercase ((workspace.filesOf inventory).map Prod.fst) ∧
      (canonicalSnapshot (workspace.filesOf inventory)).length ≤ maxStreamWorkspaceSnapshotBytes ∧
      reader = atStart workspace inventory
        (canonicalSnapshot (workspace.filesOf inventory)).length := by
  obtain ⟨known, same⟩ := accepted listed
  have entries : inventory.entries = (workspace.filesOf inventory).map InventoryEntry.of :=
    congrArg GenerationInventory.entries same
  let Admitted (gone : Files) (seen : SeenPaths) : Prop :=
    seen = SeenPaths.of toLowercase (gone.map Prod.fst) ∧ Portable toLowercase (gone.map Prod.fst)
  unfold new
  rw [entries, List.foldlM_map, List.length_map]
  constructor
  · intro made
    obtain ⟨size, sized, made⟩ := bind_eq_ok.mp made
    obtain ⟨seen, admitted, made⟩ := bind_eq_ok.mp made
    obtain ⟨⟨⟩, -, done⟩ := bind_eq_ok.mp made
    cases done
    obtain ⟨fits, rfl⟩ := (encodedStreamSnapshotSize_eq_ok listed).mp sized
    refine ⟨(foldlM_keeps admitted Admitted ⟨rfl, .nil⟩ ?_).2, fits, rfl⟩
    rintro gone file later before after - ⟨rfl, portable⟩ admits
    obtain ⟨valid, -, fresh, rfl⟩ := SeenPaths.accept_eq_ok.mp admits
    simp only [Admitted, List.map_append, List.map_singleton]
    exact ⟨rfl, portable.concat valid fresh⟩
  · rintro ⟨portable, fits, rfl⟩
    have admits : ∃ seen, (workspace.filesOf inventory).foldlM (fun seen (file : String × Bytes) =>
        seen.accept toLowercase .unsafePath file.1) SeenPaths.new = .ok seen ∧
        seen = SeenPaths.of toLowercase ((workspace.filesOf inventory).map Prod.fst) := by
      refine foldlM_succeeds (fun gone seen =>
        seen = SeenPaths.of toLowercase (gone.map Prod.fst)) rfl ?_
      rintro gone file later before same rfl
      have names : (workspace.filesOf inventory).map Prod.fst =
          gone.map Prod.fst ++ file.1 :: later.map Prod.fst := by
        rw [same, List.map_append, List.map_cons]
      rw [List.map_append, List.map_singleton]
      exact ⟨_, SeenPaths.admits portable known.sorted names, rfl⟩
    obtain ⟨seen, admitted, -⟩ := admits
    refine bind_eq_ok.mpr ⟨_, (encodedStreamSnapshotSize_eq_ok listed).mpr ⟨fits, rfl⟩, ?_⟩
    refine bind_eq_ok.mpr ⟨seen, admitted, ?_⟩
    exact bind_eq_ok.mpr ⟨(), refuseIf_passes (Nat.not_le.mpr known.countable), rfl⟩

theorem atStart_sound (disk : Disk σ) {workspace : GenerationWorkspace}
    {inventory : GenerationInventory} (listed : workspace.inventory = .ok inventory)
    (fits : (canonicalSnapshot (workspace.filesOf inventory)).length ≤
      maxStreamWorkspaceSnapshotBytes) :
    (atStart workspace inventory (canonicalSnapshot (workspace.filesOf inventory)).length).held
        disk = canonicalSnapshot (workspace.filesOf inventory) ∧
      Sound disk (atStart workspace inventory
        (canonicalSnapshot (workspace.filesOf inventory)).length) := by
  have whole : (atStart workspace inventory
      (canonicalSnapshot (workspace.filesOf inventory)).length).held disk =
        canonicalSnapshot (workspace.filesOf inventory) := by
    simp [held, atStart, canonicalSnapshot, GenerationWorkspace.filesOf]
  refine ⟨whole, listed, ?_, fits, ?_⟩
  · rw [whole]
    exact Nat.zero_add _
  · rintro _ ⟨⟩

end Holding

end WorkspaceSnapshotReader

/-! One byte stream: the pull reader, the push encoder and the encoder in memory. -/

section Stream

variable {σ ρ τ : Type} (disk : Disk σ) (readerDisk : Disk ρ) {sink : WriteSink τ}
  {taken : τ → Bytes} (toLowercase : String → String) (sha256 : Generation.Sha256)
  {workspace : GenerationWorkspace} {inventory : GenerationInventory}
  {reader : WorkspaceSnapshotReader ρ}

/-- However the reader is read, and however short the reads of its files are, it hands out
what the encoders write. -/
theorem one_stream (takes : sink.Takes taken) (listed : workspace.inventory = .ok inventory)
    (made : WorkspaceSnapshotReader.new toLowercase workspace inventory = .ok reader)
    (output : τ) :
    ∃ bytes,
      (∃ final, encodeWorkspaceSnapshotStreaming disk sink toLowercase sha256 workspace inventory
        output = .ok (⟨bytes.length, sha256 bytes⟩, final) ∧ taken final = taken output ++ bytes) ∧
      encodedStreamSnapshotSize inventory = .ok bytes.length ∧
      reader.expectedBytes = bytes.length ∧
      (bytes.length ≤ maxWorkspaceSnapshotBytes →
        encodeWorkspaceSnapshot disk workspace inventory = .ok bytes) ∧
      ∀ sizes, ∃ pieces after,
        (WorkspaceSnapshotReader.source readerDisk).readPieces reader sizes = .ok (pieces, after) ∧
        ReadSource.Drains bytes sizes pieces := by
  obtain ⟨portable, fits, rfl⟩ := (WorkspaceSnapshotReader.new_eq_ok listed).mp made
  obtain ⟨whole, sound⟩ := WorkspaceSnapshotReader.atStart_sound readerDisk listed fits
  refine ⟨canonicalSnapshot (workspace.filesOf inventory), ?_, ?_, rfl, ?_, ?_⟩
  · obtain ⟨snapshot, final, done⟩ := streaming_succeeds takes listed portable fits
    obtain ⟨-, -, rfl, grown⟩ := streaming_wrote takes.records listed done
    exact ⟨final, done, grown⟩
  · exact (encodedStreamSnapshotSize_eq_ok listed).mpr ⟨fits, rfl⟩
  · exact fun small => (encodeWorkspaceSnapshot_eq_ok listed).mpr ⟨small, rfl⟩
  · intro sizes
    obtain ⟨pieces, after, reads, -, -, drains⟩ :=
      (WorkspaceSnapshotReader.source_holds readerDisk).readPieces sound sizes
    exact ⟨pieces, after, reads, whole ▸ drains⟩

end Stream

theorem one_stream_small : ∃ bytes : Bytes,
    (∃ final, encodeWorkspaceSnapshotStreaming memoryDisk vectorSink asciiLowercase
      (fun _ => ⟨List.replicate 32 0, rfl⟩) smallWorkspace smallInventory [] =
        .ok (⟨bytes.length, ⟨List.replicate 32 0, rfl⟩⟩, final) ∧ final = [] ++ bytes) ∧
      encodedStreamSnapshotSize smallInventory = .ok bytes.length ∧ 58 = bytes.length ∧
      (bytes.length ≤ maxWorkspaceSnapshotBytes →
        encodeWorkspaceSnapshot memoryDisk smallWorkspace smallInventory = .ok bytes) ∧
      ∀ sizes, ∃ pieces after,
        (WorkspaceSnapshotReader.source memoryDisk).readPieces
          (.atStart smallWorkspace smallInventory 58) sizes = .ok (pieces, after) ∧
        ReadSource.Drains bytes sizes pieces :=
  one_stream memoryDisk memoryDisk asciiLowercase (fun _ => ⟨List.replicate 32 0, rfl⟩)
    vectorSink_takes small_listed
    ((WorkspaceSnapshotReader.new_eq_ok small_listed).mpr ⟨small_portable, by decide, rfl⟩) []

end ProfilePlatform.Snapshot
