import ProfilePlatform.Generation.Metadata
import ProfilePlatform.Snapshot.Places

/-! When a snapshot can be reopened. The materializer takes whatever the streaming encoder
has written, for both check the names; the encoder in memory does not check them.
-/

set_option autoImplicit false

namespace ProfilePlatform.Snapshot

open Foundation

section Parsing

variable {toLowercase : String → String} {workspace : GenerationWorkspace}

theorem fromUtf8_utf8Bytes (text : String) : fromUtf8 (utf8Bytes text) = .ok text := by
  rw [fromUtf8, Generation.GenerationMetadata.fromUtf8_utf8Bytes]
  rfl

theorem parseEntry_reads {seen after : SeenPaths} {file : String × Bytes}
    (admits : seen.accept toLowercase .invalidFormat file.1 = .ok after)
    (normalized : Normalized file.1) (small : file.2.length < u64Limit) :
    Cursor.Reads (parseEntry toLowercase seen) (encodedFile file) (after, file) := by
  have named := length_utf8Bytes_pos normalized.nonempty
  have short : (utf8Bytes file.1).length ≤ maxSnapshotPathBytes := normalized.short
  unfold encodedFile entryHeader parseEntry
  simp only [List.append_assoc]
  refine (Cursor.Reads.number normalized.encodable).bind ?_
  refine Cursor.Reads.check (refuseIf_passes (by omega)) ?_
  refine (Cursor.Reads.take ⟨utf8Bytes file.1, rfl⟩).bind ?_
  refine Cursor.Reads.check (fromUtf8_utf8Bytes file.1) (Cursor.Reads.check admits ?_)
  refine (Cursor.Reads.number small).bind ?_
  exact (Cursor.Reads.take ⟨file.2, rfl⟩).finish (Cursor.Reads.pure _)

theorem parseEntries_reads {files gone : Files} {seen : SeenPaths}
    (seenGone : seen = SeenPaths.of toLowercase (gone.map Prod.fst))
    (portable : Portable toLowercase ((gone ++ files).map Prod.fst))
    (sorted : ((gone ++ files).map Prod.fst).Pairwise (· < ·))
    (normalized : ∀ file ∈ files, Normalized file.1)
    (small : ∀ file ∈ files, file.2.length < u64Limit) :
    Cursor.Reads (parseEntries toLowercase seen files.length) (files.flatMap encodedFile) files := by
  induction files generalizing gone seen with
  | nil => exact Cursor.Reads.pure []
  | cons file rest ih =>
    rw [List.forall_mem_cons] at normalized small
    have names : (gone ++ file :: rest).map Prod.fst =
        gone.map Prod.fst ++ file.1 :: rest.map Prod.fst := by
      rw [List.map_append, List.map_cons]
    have admits : seen.accept toLowercase .invalidFormat file.1 =
        .ok (SeenPaths.of toLowercase (gone.map Prod.fst ++ [file.1])) :=
      seenGone ▸ SeenPaths.admits portable sorted names
    rw [List.append_cons] at portable sorted
    refine (parseEntry_reads admits normalized.1 small.1).bind ?_
    refine (ih ?_ portable sorted normalized.2 small.2).finish (Cursor.Reads.pure _)
    rw [List.map_append, List.map_singleton]

theorem parse_sorted {files : Files} (few : files.length ≤ maxSnapshotFiles)
    (portable : Portable toLowercase (files.map Prod.fst))
    (sorted : (files.map Prod.fst).Pairwise (· < ·))
    (normalized : ∀ file ∈ files, Normalized file.1)
    (small : ∀ file ∈ files, file.2.length < u64Limit)
    (fits : (canonicalSnapshot files).length ≤ maxWorkspaceSnapshotBytes) :
    parseWorkspaceSnapshot toLowercase (canonicalSnapshot files) = .ok files := by
  have counted : Cursor.Reads (parseCounted toLowercase)
      (bigEndian 4 files.length ++ files.flatMap encodedFile) files := by
    have countable : files.length < capacity 4 := Nat.lt_of_le_of_lt few (by decide)
    refine (Cursor.Reads.number countable).bind ?_
    refine Cursor.Reads.check (refuseIf_passes (Nat.not_lt.mpr few)) ?_
    have none : SeenPaths.new = SeenPaths.of toLowercase (([] : Files).map Prod.fst) := rfl
    exact parseEntries_reads none portable sorted normalized small
  have split : canonicalSnapshot files =
      workspaceSnapshotMagic ++ (bigEndian 4 files.length ++ files.flatMap encodedFile) := by
    rw [canonicalSnapshot, snapshotHeader, List.append_assoc]
  have long : workspaceSnapshotMagic.length + 4 ≤ (canonicalSnapshot files).length := by
    rw [split, List.length_append, List.length_append, length_bigEndian]
    omega
  have parsed := counted []
  rw [List.append_nil] at parsed
  unfold parseWorkspaceSnapshot
  refine bind_eq_ok.mpr ⟨(), refuseIf_passes ?_, ?_⟩
  · rw [split, List.take_left, ← split]
    rintro (large | short | other)
    · omega
    · omega
    · exact other rfl
  · rw [split, List.drop_left]
    exact bind_eq_ok.mpr ⟨_, parsed, bind_eq_ok.mpr ⟨(), refuseIf_passes (not_not_intro rfl), rfl⟩⟩

theorem parse_canonical {files : Files} (known : Accepted workspace files)
    (portable : Portable toLowercase (files.map Prod.fst))
    (fits : (canonicalSnapshot files).length ≤ maxWorkspaceSnapshotBytes) :
    parseWorkspaceSnapshot toLowercase (canonicalSnapshot files) = .ok files :=
  parse_sorted known.few portable known.sorted (fun file member => (known.members file member).2)
    (fun _ member => Nat.lt_of_le_of_lt (length_le_contentBytes member) known.small) fits

theorem parseEntries_portable {count : Nat} {names : List String} {seen : SeenPaths}
    {unread rest : Bytes} {files : Files} (seenNames : seen = SeenPaths.of toLowercase names)
    (portable : Portable toLowercase names)
    (parsed : parseEntries toLowercase seen count unread = .ok (files, rest)) :
    Portable toLowercase (names ++ files.map Prod.fst) := by
  induction count generalizing names seen unread files with
  | zero =>
    cases parsed
    rw [List.map_nil, List.append_nil]
    exact portable
  | succ count ih =>
    obtain ⟨⟨after, file⟩, more, first, parsed⟩ := Cursor.bind_eq_ok.mp parsed
    obtain ⟨later, left, others, done⟩ := Cursor.bind_eq_ok.mp parsed
    cases done
    subst seenNames
    obtain ⟨_, _, -, first⟩ := Cursor.bind_eq_ok.mp first
    obtain ⟨_, _, -, first⟩ := Cursor.bind_eq_ok.mp first
    obtain ⟨_, _, -, first⟩ := Cursor.bind_eq_ok.mp first
    obtain ⟨relative, _, -, first⟩ := Cursor.bind_eq_ok.mp first
    obtain ⟨_, _, admits, first⟩ := Cursor.bind_eq_ok.mp first
    obtain ⟨_, _, -, first⟩ := Cursor.bind_eq_ok.mp first
    obtain ⟨_, _, -, done⟩ := Cursor.bind_eq_ok.mp first
    cases done
    obtain ⟨valid, -, fresh, rfl⟩ := SeenPaths.accept_eq_ok.mp (Cursor.lift_eq_ok.mp admits).1
    rw [List.map_cons, List.append_cons]
    exact ih rfl (portable.concat valid fresh) others

theorem portable_of_parsed {snapshot : Bytes} {files : Files}
    (parsed : parseWorkspaceSnapshot toLowercase snapshot = .ok files) :
    Portable toLowercase (files.map Prod.fst) := by
  obtain ⟨⟨⟩, -, parsed⟩ := bind_eq_ok.mp parsed
  obtain ⟨⟨entries, unread⟩, counted, parsed⟩ := bind_eq_ok.mp parsed
  obtain ⟨⟨⟩, -, done⟩ := bind_eq_ok.mp parsed
  cases done
  obtain ⟨_, _, -, counted⟩ := Cursor.bind_eq_ok.mp counted
  obtain ⟨_, _, -, counted⟩ := Cursor.bind_eq_ok.mp counted
  exact parseEntries_portable rfl .nil counted

end Parsing

section Materializing

variable {ρ σ : Type} {disk : Disk σ} {source : ReadSource ρ} {held : ρ → Bytes}
  {toLowercase : String → String} {sha256 : Generation.Sha256} {workspace : GenerationWorkspace}

/-- The bytes came from the source, into the digest and into the count. -/
structure Consumed (held : ρ → Bytes) (before : StreamInput ρ) (bytes : Bytes)
    (after : StreamInput ρ) : Prop where
  unread : held before.unread = bytes ++ held after.unread
  hashed : after.hashed = before.hashed ++ bytes
  total : after.total = before.total + bytes.length

theorem Consumed.nothing (input : StreamInput ρ) : Consumed held input [] input :=
  ⟨rfl, (List.append_nil _).symm, rfl⟩

theorem Consumed.append {before between after : StreamInput ρ} {first second : Bytes}
    (consumed : Consumed held before first between) (more : Consumed held between second after) :
    Consumed held before (first ++ second) after where
  unread := by rw [consumed.unread, more.unread, List.append_assoc]
  hashed := by rw [more.hashed, consumed.hashed, List.append_assoc]
  total := by rw [more.total, consumed.total, List.length_append, Nat.add_assoc]

/-- What comes after the bytes is what the source holds once they are read. -/
theorem Consumed.rest {before after : StreamInput ρ} {bytes more : Bytes}
    (consumed : Consumed held before bytes after) (split : held before.unread = bytes ++ more) :
    held after.unread = more :=
  List.append_cancel_left (consumed.unread.symm.trans split)

theorem readStreamPiece_reads (holds : source.Holds held) {input : StreamInput ρ}
    {piece more : Bytes} (split : held input.unread = piece ++ more)
    (room : input.total + piece.length ≤ maxStreamWorkspaceSnapshotBytes) :
    ∃ after, readStreamPiece source input piece.length = .ok (piece, after) ∧
      Consumed held input piece after := by
  have fits : input.total + piece.length < u64Limit := Nat.lt_of_le_of_lt room (by decide)
  obtain ⟨rest, read, left⟩ := holds.readExact split
  unfold readStreamPiece
  simp only [checkedAdd_eq_some.mpr ⟨rfl, fits⟩]
  refine ⟨⟨rest, input.hashed ++ piece, input.total + piece.length⟩, ?_, ?_⟩
  · refine bind_eq_ok.mpr ⟨(), refuseIf_passes (Nat.not_lt.mpr room), ?_⟩
    exact bind_eq_ok.mpr ⟨(piece, rest), mapError_eq_ok.mpr read, rfl⟩
  · exact ⟨by rw [split, left], rfl, rfl⟩

theorem copyFile_copies (holds : source.Holds held) {input : StreamInput ρ}
    {bytes more copied : Bytes} (split : held input.unread = bytes ++ more)
    (room : input.total + bytes.length ≤ maxStreamWorkspaceSnapshotBytes) :
    ∃ after, copyFile source input bytes.length copied = .ok (copied ++ bytes, after) ∧
      Consumed held input bytes after := by
  induction size : bytes.length using Nat.strongRecOn generalizing input bytes copied with
  | ind size ih =>
    subst size
    unfold copyFile
    split
    next empty =>
      rw [List.eq_nil_of_length_eq_zero empty, List.append_nil]
      exact ⟨input, rfl, .nothing _⟩
    next unfinished =>
      have sized : (bytes.take streamBufferBytes).length = min bytes.length streamBufferBytes := by
        rw [List.length_take, Nat.min_comm]
      have first : held input.unread =
          bytes.take streamBufferBytes ++ (bytes.drop streamBufferBytes ++ more) := by
        rw [split, ← List.append_assoc, List.take_append_drop]
      have firstRoom : input.total + (bytes.take streamBufferBytes).length ≤
          maxStreamWorkspaceSnapshotBytes := by omega
      obtain ⟨between, read, consumed⟩ := readStreamPiece_reads holds first firstRoom
      have counted := consumed.total
      have shorter : (bytes.drop streamBufferBytes).length < bytes.length := by
        rw [List.length_drop]
        simp only [streamBufferBytes]
        omega
      have restRoom : between.total + (bytes.drop streamBufferBytes).length ≤
          maxStreamWorkspaceSnapshotBytes := by
        rw [counted, List.length_drop]
        omega
      obtain ⟨after, later, others⟩ := ih _ shorter (consumed.rest first) restRoom rfl
      have left : bytes.length - min bytes.length streamBufferBytes =
          (bytes.drop streamBufferBytes).length := by
        rw [List.length_drop]
        omega
      refine ⟨after, ?_, ?_⟩
      · rw [← sized] at left ⊢
        refine bind_eq_ok.mpr ⟨(_, between), read, ?_⟩
        simp only [left]
        rw [later, List.append_assoc, List.take_append_drop]
      · have both := consumed.append others
        rwa [List.take_append_drop] at both

open MaterializationRoot (newGeneration)

def StreamedSnapshotFile.of (sha256 : Generation.Sha256) (file : String × Bytes) :
    StreamedSnapshotFile := ⟨file.1, file.2.length, sha256 file.2⟩

/-- Where the materializer stands once some files are written. -/
structure Staged (toLowercase : String → String) (sha256 : Generation.Sha256) (gone : Files)
    (state : Materialized ρ) : Prop where
  entries : state.entries = gone.map (.of sha256)
  native : state.nativeTotal = contentBytes gone
  seen : state.seen = SeenPaths.of toLowercase (gone.map Prod.fst)
  staging : state.staging = newGeneration ++ gone

theorem contentBytes_append (first second : Files) :
    contentBytes (first ++ second) = contentBytes first + contentBytes second := by
  rw [contentBytes, List.map_append, List.sum_append, contentBytes, contentBytes]

section Places

variable {files gone later : Files} {file : String × Bytes}

theorem Accepted.marker_notMem (known : Accepted workspace files) (member : file ∈ files) :
    file.1 ≠ generationMarker := by
  intro marker
  have saved := known.saved file member
  simp [isSaved, isBridgeControlFile, marker] at saved

/-- A path in the inventory leads neither through the marker nor through a file. -/
theorem Accepted.apart (known : Accepted workspace files) : (newGeneration ++ files).Apart := by
  intro file member
  rw [Files.hasDirectory_append, Bool.or_eq_false_iff]
  have markerAlone : directories generationMarker = [] := by decide
  refine ⟨by simp [Files.hasDirectory, newGeneration, markerAlone], ?_⟩
  rw [Files.hasDirectory, List.any_eq_false]
  intro other there inside
  have inside := of_decide_eq_true inside
  rcases List.mem_append.mp member with marker | here
  · have admitted := visitDirectory_eq_ok.mp ((known.walks other there).directories file.1 inside)
    rw [List.mem_singleton.mp marker] at admitted
    exact absurd admitted.2.2 (by decide)
  · have below : workspace.files.hasDirectory file.1 = true :=
      List.any_eq_true.mpr ⟨other, known.present other there, decide_eq_true inside⟩
    rw [workspace.apart file (known.present file here)] at below
    cases below

theorem Accepted.placeable (known : Accepted workspace files)
    (portable : Portable toLowercase (files.map Prod.fst)) : Placeable toLowercase files :=
  ⟨portable, known.sorted, known.apart⟩

end Places

/-- The next file of a stream is written out, if its name is admitted and nothing is in its
place. -/
theorem materializeEntry_takes (holds : source.Holds held) {gone : Files} {file : String × Bytes}
    (normalized : Normalized file.1) {self : Materialized ρ}
    (staged : Staged toLowercase sha256 gone self)
    (admits : (SeenPaths.of toLowercase (gone.map Prod.fst)).accept toLowercase .unsafePath file.1 =
      .ok (SeenPaths.of toLowercase (gone.map Prod.fst ++ [file.1])))
    (passes : ensureDescendantDirectories (newGeneration ++ gone) file.1 = .ok ())
    (creates : createNew (newGeneration ++ gone) file.1 = .ok ()) {more : Bytes}
    (split : held self.input.unread = encodedFile file ++ more)
    {expected : StreamedWorkspaceSnapshot}
    (room : self.input.total + (encodedFile file).length ≤ expected.plaintextBytes)
    (policy : expected.plaintextBytes ≤ maxStreamWorkspaceSnapshotBytes)
    (nativeFits : contentBytes gone + file.2.length ≤ maxStreamNativeProfileBytes) :
    ∃ after, materializeEntry source toLowercase sha256 expected self = .ok after ∧
      Staged toLowercase sha256 (gone ++ [file]) after ∧
      Consumed held self.input (encodedFile file) after.input := by
  have named := length_utf8Bytes_pos normalized.nonempty
  have short : (utf8Bytes file.1).length ≤ maxSnapshotPathBytes := normalized.short
  have admits := staged.seen ▸ admits
  have sized := length_encodedFile file
  have withinLimit : u64Limit > maxStreamWorkspaceSnapshotBytes := by decide
  have small : file.2.length < u64Limit := by omega
  simp only [encodedFile, entryHeader, List.append_assoc] at split
  have lengthRoom : self.input.total + (bigEndian 2 (utf8Bytes file.1).length).length ≤
      maxStreamWorkspaceSnapshotBytes := by
    rw [length_bigEndian]
    omega
  obtain ⟨afterLength, first, consumedLength⟩ := readStreamPiece_reads holds split lengthRoom
  have split := consumedLength.rest split
  have counted := consumedLength.total
  rw [length_bigEndian] at counted first
  have pathRoom : afterLength.total + (utf8Bytes file.1).length ≤
      maxStreamWorkspaceSnapshotBytes := by omega
  obtain ⟨afterPath, second, consumedPath⟩ := readStreamPiece_reads holds split pathRoom
  have split := consumedPath.rest split
  have countedPath := consumedPath.total
  have sizeRoom : afterPath.total + (bigEndian 8 file.2.length).length ≤
      maxStreamWorkspaceSnapshotBytes := by
    rw [length_bigEndian]
    omega
  obtain ⟨afterSize, third, consumedSize⟩ := readStreamPiece_reads holds split sizeRoom
  have split := consumedSize.rest split
  have countedSize := consumedSize.total
  rw [length_bigEndian] at countedSize third
  have contentsRoom : afterSize.total + file.2.length ≤ maxStreamWorkspaceSnapshotBytes := by omega
  obtain ⟨afterContents, fourth, consumedContents⟩ := copyFile_copies holds split contentsRoom
  have nativePolicy : maxStreamNativeProfileBytes < u64Limit := by decide
  have nativeAdds : checkedAdd self.nativeTotal file.2.length =
      some (contentBytes gone + file.2.length) := by
    rw [staged.native]
    exact checkedAdd_eq_some.mpr ⟨rfl, by omega⟩
  have totalAdds : checkedAdd afterSize.total file.2.length =
      some (afterSize.total + file.2.length) := checkedAdd_eq_some.mpr ⟨rfl, by omega⟩
  refine ⟨⟨afterContents, self.entries ++ [.of sha256 file], contentBytes gone + file.2.length,
    SeenPaths.of toLowercase (gone.map Prod.fst ++ [file.1]), self.staging ++ [file]⟩, ?_, ?_, ?_⟩
  · refine bind_eq_ok.mpr ⟨_, first, ?_⟩
    simp only [ofBigEndian_bigEndian normalized.encodable]
    refine bind_eq_ok.mpr ⟨(), refuseIf_passes (by omega), bind_eq_ok.mpr ⟨_, second, ?_⟩⟩
    refine bind_eq_ok.mpr ⟨_, fromUtf8_utf8Bytes file.1, bind_eq_ok.mpr ⟨_, admits, ?_⟩⟩
    refine bind_eq_ok.mpr ⟨_, third, ?_⟩
    simp only [ofBigEndian_bigEndian (show file.2.length < capacity 8 from small), nativeAdds,
      totalAdds]
    refine bind_eq_ok.mpr ⟨(), refuseIf_passes (Nat.not_lt.mpr nativeFits), ?_⟩
    refine bind_eq_ok.mpr ⟨(), refuseIf_passes ?_, ?_⟩
    · simp only [Option.all_some, decide_eq_true_eq]
      omega
    rw [staged.staging]
    refine bind_eq_ok.mpr ⟨(), passes, ?_⟩
    refine bind_eq_ok.mpr ⟨(), creates, ?_⟩
    exact bind_eq_ok.mpr ⟨_, fourth, rfl⟩
  · refine ⟨?_, ?_, ?_, ?_⟩
    · simp only [staged.entries, List.map_append, List.map_singleton]
    · simp [contentBytes]
    · simp only [List.map_append, List.map_singleton]
    · simp only [staged.staging, List.append_assoc]
  · have whole := ((consumedLength.append consumedPath).append consumedSize).append consumedContents
    exact whole

theorem materializeEntries_takes (holds : source.Holds held) {files gone later : Files}
    (placeable : Placeable toLowercase files) (same : files = gone ++ later) {self : Materialized ρ}
    (staged : Staged toLowercase sha256 gone self) {more : Bytes}
    (split : held self.input.unread = later.flatMap encodedFile ++ more)
    {expected : StreamedWorkspaceSnapshot}
    (room : self.input.total + (later.flatMap encodedFile).length ≤ expected.plaintextBytes)
    (policy : expected.plaintextBytes ≤ maxStreamWorkspaceSnapshotBytes)
    (native : contentBytes files ≤ maxStreamNativeProfileBytes) :
    ∃ final, materializeEntries source toLowercase sha256 expected later.length self = .ok final ∧
      Staged toLowercase sha256 files final ∧
      Consumed held self.input (later.flatMap encodedFile) final.input := by
  induction later generalizing gone self with
  | nil =>
    rw [List.append_nil] at same
    exact ⟨self, rfl, same ▸ staged, .nothing _⟩
  | cons file rest ih =>
    rw [List.flatMap_cons, List.append_assoc] at split
    rw [List.flatMap_cons, List.length_append] at room
    have firstRoom : self.input.total + (encodedFile file).length ≤ expected.plaintextBytes := by
      omega
    have nativeFits : contentBytes gone + file.2.length ≤ maxStreamNativeProfileBytes := by
      rw [same, contentBytes_append] at native
      simp only [contentBytes, List.map_cons, List.sum_cons] at native ⊢
      omega
    obtain ⟨normalized, admits, passes, creates⟩ := placeable.next same
    obtain ⟨after, turn, kept, consumed⟩ := materializeEntry_takes holds normalized staged admits
      passes creates split firstRoom policy nativeFits
    have counted := consumed.total
    have restRoom : after.input.total + (rest.flatMap encodedFile).length ≤
        expected.plaintextBytes := by omega
    rw [List.append_cons] at same
    obtain ⟨final, others, ends, consumedRest⟩ :=
      ih same kept (consumed.rest split) restRoom
    exact ⟨final, bind_eq_ok.mpr ⟨after, turn, others⟩, ends,
      List.flatMap_cons ▸ consumed.append consumedRest⟩

/-- The part of the streaming materializer that reads the stream, up to its end. -/
def readStream (source : ReadSource ρ) (toLowercase : String → String)
    (sha256 : Generation.Sha256) (begin : ρ) (expected : StreamedWorkspaceSnapshot) (staging : Files) :
    Outcome (Materialized ρ) := do
  let (magic, input) ← readStreamPiece source ⟨begin, [], 0⟩ 8
  refuseIf (magic ≠ workspaceSnapshotMagic) .invalidFormat
  let (countBytes, input) ← readStreamPiece source input 4
  let count := ofBigEndian countBytes
  refuseIf (maxSnapshotFiles < count) .snapshotTooLarge
  let done ← materializeEntries source toLowercase sha256 expected count
    ⟨input, [], 0, SeenPaths.new, staging⟩
  let (eof, _) ← (source.read done.input.unread 1).mapError ofIo
  refuseIf (eof ≠ [] ∨ done.input.total ≠ expected.plaintextBytes ∨
    sha256 done.input.hashed ≠ expected.plaintextDigest) .invalidFormat
  return done

theorem stageStream_eq (disk : Disk σ) (beforePublish : Files → Outcome Unit)
    (begin : ρ) (expected : StreamedWorkspaceSnapshot) (staging : Files) :
    stageStream disk source toLowercase sha256 beforePublish begin expected staging =
      readStream source toLowercase sha256 begin expected staging >>= fun done => do
        verifyStreamedWorkspace disk sha256 done.staging done.entries
        beforePublish done.staging
        return (done.entries, done.staging) := by
  unfold stageStream readStream
  simp only [bind_assoc, pure_bind]

section Verifying

variable {files : Files}

theorem readToEnd_eq (disk : Disk σ) (file : σ) : readToEnd disk file = .ok (disk.held file) := by
  induction size : (disk.held file).length using Nat.strongRecOn generalizing file with
  | ind length ih =>
    obtain ⟨piece, rest, read, split, -, progress⟩ := disk.holds.reads file streamBufferBytes
    unfold readToEnd
    split
    next failed =>
      rw [read] at failed
      cases failed
    next done =>
      rw [read] at done
      cases done
      have ended : disk.held file = [] :=
        Decidable.byContradiction fun left => progress (by decide) left rfl
      rw [ended]
    next byte more after handed =>
      rw [read] at handed
      cases handed
      have fewer : (disk.held rest).length < length := by
        rw [← size, split, List.length_append, List.length_cons]
        omega
      rw [ih _ fewer rest rfl, split]
      rfl

theorem Accepted.distinct (known : Accepted workspace files) :
    ((newGeneration ++ files).map Prod.fst).Nodup := by
  rw [List.map_append]
  refine List.nodup_append.mpr ⟨List.nodup_singleton _, known.sorted.imp ne_of_lt, ?_⟩
  intro marker first path member
  obtain ⟨file, inside, rfl⟩ := List.mem_map.mp member
  rw [List.mem_singleton.mp first]
  exact fun taken => known.marker_notMem inside taken.symm

/-- Written out into a new generation, the files have the inventory they came from. -/
theorem inventory_staged (known : Accepted workspace files) :
    buildInventory (newGeneration ++ files) = .ok (inventoryOf files) := by
  have marker : isSaved (generationMarker, utf8Bytes generationMarkerContent) = false := by decide
  have listed : savedFiles (newGeneration ++ files) = files := by
    have all : files.filter isSaved = files := List.filter_eq_self.mpr known.saved
    rw [savedFiles, List.filter_append, all, newGeneration, List.filter_cons_of_neg (by simp [marker]),
      List.filter_nil, List.nil_append]
    refine List.Pairwise.insertionSort_eq ?_
    exact (List.pairwise_map.mp known.sorted).imp le_of_lt
  refine buildInventory_eq_ok.mpr ⟨?_, ?_, ?_, ?_⟩
  · intro file member
    rcases List.mem_append.mp member with marker | written
    · rw [List.mem_singleton.mp marker]
      have none : directories generationMarker = [] := by decide
      refine ⟨by simp [none], by decide, by decide, by decide⟩
    · exact known.walks file written
  · rw [listed]
    exact known.few
  · rw [listed]
    exact known.small
  · rw [listed]

theorem verifyStreamedWorkspace_passes (disk : Disk σ) (known : Accepted workspace files) :
    verifyStreamedWorkspace disk sha256 (newGeneration ++ files) (files.map (.of sha256)) =
      .ok () := by
  refine bind_eq_ok.mpr ⟨inventoryOf files, mapError_eq_ok.mpr (inventory_staged known), ?_⟩
  refine bind_eq_ok.mpr ⟨(), refuseIf_passes ?_, ?_⟩
  · rw [inventoryOf, List.length_map, List.length_map]
    exact not_not_intro rfl
  · rw [inventoryOf, List.zip_map']
    refine forM_eq_ok.mpr fun pair member => ?_
    obtain ⟨file, inside, rfl⟩ := List.mem_map.mp member
    have found : (newGeneration ++ files).contents file.1 = some file.2 :=
      Files.contents_of_mem known.distinct (List.mem_append_right _ inside)
    unfold verifyStreamedFile
    simp only [StreamedSnapshotFile.of, InventoryEntry.of, found, readToEnd_eq, disk.opened]
    simp [refuseIf, Except.mapError, bind, Except.bind]

end Verifying

variable {beforePublish : Files → Outcome Unit}

/-- The stream of a snapshot of files that can be listed and written out is read to its end. -/
theorem readStream_takes (sha256 : Generation.Sha256) (holds : source.Holds held) {files : Files}
    (few : files.length ≤ maxSnapshotFiles) (placeable : Placeable toLowercase files) {begin : ρ}
    (whole : held begin = canonicalSnapshot files)
    (fits : (canonicalSnapshot files).length ≤ maxStreamWorkspaceSnapshotBytes) :
    ∃ done, readStream source toLowercase sha256 begin
      ⟨(canonicalSnapshot files).length, sha256 (canonicalSnapshot files)⟩ newGeneration = .ok done ∧
        Staged toLowercase sha256 files done := by
  have sized : (canonicalSnapshot files).length = 12 + (files.flatMap encodedFile).length := by
    rw [canonicalSnapshot, List.length_append, length_snapshotHeader]
  have split : held begin = workspaceSnapshotMagic ++ (bigEndian 4 files.length ++
      (files.flatMap encodedFile ++ [])) := by
    rw [whole, canonicalSnapshot, snapshotHeader, List.append_assoc, List.append_nil]
  have magicRoom : (StreamInput.mk begin [] 0).total + workspaceSnapshotMagic.length ≤
      maxStreamWorkspaceSnapshotBytes := show 0 + 8 ≤ maxStreamWorkspaceSnapshotBytes by decide
  obtain ⟨afterMagic, first, consumedMagic⟩ := readStreamPiece_reads holds split magicRoom
  have split := consumedMagic.rest split
  have counted : afterMagic.total = 8 := consumedMagic.total
  have countRoom : afterMagic.total + (bigEndian 4 files.length).length ≤
      maxStreamWorkspaceSnapshotBytes := by
    rw [length_bigEndian]
    omega
  obtain ⟨afterCount, second, consumedCount⟩ := readStreamPiece_reads holds split countRoom
  have split := consumedCount.rest split
  have countedBoth := consumedCount.total
  rw [length_bigEndian] at countedBoth second
  have native : contentBytes files ≤ maxStreamNativeProfileBytes := by
    have content := contentBytes_le files
    simp only [maxStreamNativeProfileBytes, maxStreamWorkspaceSnapshotBytes] at fits ⊢
    omega
  have begins : Staged toLowercase sha256 ([] : Files) (⟨afterCount, [], 0, SeenPaths.new,
      newGeneration⟩ : Materialized ρ) := ⟨rfl, rfl, rfl, rfl⟩
  have room : afterCount.total + (files.flatMap encodedFile).length ≤
      (StreamedWorkspaceSnapshot.mk (canonicalSnapshot files).length
        (sha256 (canonicalSnapshot files))).plaintextBytes := by
    show _ ≤ (canonicalSnapshot files).length
    omega
  obtain ⟨final, third, staged, consumedFiles⟩ :=
    materializeEntries_takes holds placeable rfl begins split room fits native
  have all : Consumed held ⟨begin, [], 0⟩ (canonicalSnapshot files) final.input :=
    (consumedMagic.append consumedCount).append consumedFiles
  have ended : held final.input.unread = [] := consumedFiles.rest split
  have countable : files.length < capacity 4 := Nat.lt_of_le_of_lt few (by decide)
  obtain ⟨eof, unread, last, atEnd⟩ := holds.read_one final.input.unread
  refine ⟨final, ?_, staged⟩
  refine bind_eq_ok.mpr ⟨_, first, bind_eq_ok.mpr ⟨(), refuseIf_passes (not_not_intro rfl), ?_⟩⟩
  refine bind_eq_ok.mpr ⟨_, second, ?_⟩
  simp only [ofBigEndian_bigEndian countable]
  refine bind_eq_ok.mpr ⟨(), refuseIf_passes (Nat.not_lt.mpr few), ?_⟩
  refine bind_eq_ok.mpr ⟨final, third, bind_eq_ok.mpr ⟨_, mapError_eq_ok.mpr last, ?_⟩⟩
  refine bind_eq_ok.mpr ⟨(), refuseIf_passes ?_, rfl⟩
  rw [all.total, all.hashed]
  rintro (more | other | other)
  · exact more (atEnd.mpr ended)
  · exact other (Nat.zero_add _)
  · exact other rfl

theorem stageStream_succeeds (disk : Disk σ) (holds : source.Holds held) {files : Files}
    (known : Accepted workspace files) (portable : Portable toLowercase (files.map Prod.fst))
    {begin : ρ} (whole : held begin = canonicalSnapshot files)
    (fits : (canonicalSnapshot files).length ≤ maxStreamWorkspaceSnapshotBytes)
    (agrees : beforePublish (newGeneration ++ files) = .ok ()) :
    stageStream disk source toLowercase sha256 beforePublish begin
      ⟨(canonicalSnapshot files).length, sha256 (canonicalSnapshot files)⟩ newGeneration =
        .ok (files.map (.of sha256), newGeneration ++ files) := by
  obtain ⟨done, reads, staged⟩ :=
    readStream_takes _ holds known.few (known.placeable portable) whole fits
  rw [stageStream_eq, reads]
  change (do
    verifyStreamedWorkspace disk sha256 done.staging done.entries
    beforePublish done.staging
    return (done.entries, done.staging)) = _
  rw [staged.staging, staged.entries]
  refine bind_eq_ok.mpr ⟨(), verifyStreamedWorkspace_passes disk known, ?_⟩
  exact bind_eq_ok.mpr ⟨(), agrees, rfl⟩

theorem createStagingWorkspace_creates {attempts : Nat} {root after : MaterializationRoot}
    {staging : GenerationId}
    (created : root.createStagingWorkspace attempts = (.ok staging, after)) :
    root.generations staging = none ∧
      after.generations = root.generations.insert staging newGeneration := by
  induction attempts generalizing root with
  | zero => cases created
  | succ attempts ih =>
    unfold MaterializationRoot.createStagingWorkspace at created
    simp only at created
    split at created
    next => cases created
    next name _ =>
      split at created
      next made =>
        cases created
        unfold MaterializationRoot.createGeneration at made
        split at made
        next => cases made
        next absent => cases made; exact ⟨absent, rfl⟩
      next =>
        have later := ih created
        exact later
      next => cases created

theorem publishStaging_publishes (disk : Disk σ) {files : Files} (known : Accepted workspace files)
    {root after : MaterializationRoot} {generation staging : GenerationId}
    (absent : root.generations generation = none) (apart : staging ≠ generation)
    (free : root.generations staging = none)
    (staged : after.generations = root.generations.insert staging newGeneration) :
    ∃ published, publishStaging disk sha256 after generation staging (files.map (.of sha256))
        (newGeneration ++ files) = (.ok (newGeneration ++ files), published) ∧
      published.generations = root.generations.insert generation (newGeneration ++ files) := by
  have still : after.generations generation = none := by
    rw [staged, Table.insert_of_ne apart.symm, absent]
  have marked : (newGeneration ++ files).contents generationMarker =
      some (utf8Bytes generationMarkerContent) := rfl
  have cleared : Function.update after.generations staging none = root.generations := by
    rw [staged, Table.insert, Function.update_idem, ← free, Function.update_eq_self]
  refine ⟨after.rename staging generation (newGeneration ++ files), ?_, ?_⟩
  · unfold publishStaging
    simp only [still]
    have opens : (after.rename staging generation (newGeneration ++ files)).openGeneration
        generation = .ok (newGeneration ++ files) := by
      simp only [MaterializationRoot.openGeneration, MaterializationRoot.rename, Table.insert_self,
        marked, if_true]
    simp only [opens, verifyStreamedWorkspace_passes disk known]
  · rw [MaterializationRoot.rename, cleared]

end Materializing

end ProfilePlatform.Snapshot
