import ProfilePlatform.Snapshot.Language

/-! The two readers of snapshots take the same language, as far as they look for the same: only
the one that writes to disk finds a path that leads through a file. -/

set_option autoImplicit false

namespace ProfilePlatform.Snapshot

open Foundation
open MaterializationRoot (newGeneration)

section Sound

variable {ρ : Type} {source : ReadSource ρ} {held : ρ → Bytes} {toLowercase : String → String}
  {sha256 : Generation.Sha256}

theorem readStreamPiece_sound (holds : source.Holds held) {input after : StreamInput ρ} {size : Nat}
    {piece : Bytes} (read : readStreamPiece source input size = .ok (piece, after)) :
    piece.length = size ∧ Consumed held input piece after := by
  unfold readStreamPiece at read
  split at read
  next => cases read
  next next added =>
    obtain ⟨rfl, -⟩ := checkedAdd_eq_some.mp added
    obtain ⟨_, -, read⟩ := bind_eq_ok.mp read
    obtain ⟨⟨bytes, rest⟩, taken, done⟩ := bind_eq_ok.mp read
    cases done
    obtain ⟨split, sized⟩ := holds.readExact_eq_ok (mapError_eq_ok.mp taken)
    exact ⟨sized, split, rfl, by rw [sized]⟩

theorem copyFile_sound (holds : source.Holds held) {input after : StreamInput ρ} {remaining : Nat}
    {copied contents : Bytes}
    (run : copyFile source input remaining copied = .ok (contents, after)) :
    ∃ bytes, contents = copied ++ bytes ∧ bytes.length = remaining ∧
      Consumed held input bytes after := by
  fun_induction copyFile source input remaining copied with
  | case1 input copied =>
    cases run
    exact ⟨[], (List.append_nil _).symm, rfl, .nothing _⟩
  | case2 input remaining copied unfinished ih =>
    obtain ⟨⟨piece, between⟩, first, later⟩ := bind_eq_ok.mp run
    obtain ⟨sized, consumed⟩ := readStreamPiece_sound holds first
    obtain ⟨bytes, rfl, counted, others⟩ := ih piece between later
    refine ⟨piece ++ bytes, List.append_assoc .., ?_, consumed.append others⟩
    rw [List.length_append, sized, counted]
    omega

/-- What the stream has handed out for one file is spelled as the encoder spells it. -/
theorem materializeEntry_sound (holds : source.Holds held) {gone : Files}
    {self after : Materialized ρ} (staged : Staged toLowercase sha256 gone self)
    {expected : StreamedWorkspaceSnapshot}
    (run : materializeEntry source toLowercase sha256 expected self = .ok after) :
    ∃ file : String × Bytes, Staged toLowercase sha256 (gone ++ [file]) after ∧
      Consumed held self.input (encodedFile file) after.input ∧
      (SeenPaths.of toLowercase (gone.map Prod.fst)).accept toLowercase .unsafePath file.1 =
        .ok (SeenPaths.of toLowercase (gone.map Prod.fst ++ [file.1])) ∧
      ensureDescendantDirectories (newGeneration ++ gone) file.1 = .ok () ∧
      createNew (newGeneration ++ gone) file.1 = .ok () := by
  unfold materializeEntry at run
  obtain ⟨⟨length, afterLength⟩, first, run⟩ := bind_eq_ok.mp run
  obtain ⟨_, -, run⟩ := bind_eq_ok.mp run
  obtain ⟨⟨path, afterPath⟩, second, run⟩ := bind_eq_ok.mp run
  obtain ⟨relative, text, run⟩ := bind_eq_ok.mp run
  obtain ⟨seen, admits, run⟩ := bind_eq_ok.mp run
  obtain ⟨⟨contentLength, afterSize⟩, third, run⟩ := bind_eq_ok.mp run
  dsimp only at run
  split at run
  next => cases run
  next native added =>
    obtain ⟨_, -, run⟩ := bind_eq_ok.mp run
    obtain ⟨_, -, run⟩ := bind_eq_ok.mp run
    obtain ⟨_, passes, run⟩ := bind_eq_ok.mp run
    obtain ⟨_, creates, run⟩ := bind_eq_ok.mp run
    obtain ⟨⟨contents, afterContents⟩, fourth, done⟩ := bind_eq_ok.mp run
    cases done
    obtain ⟨lengthSized, consumedLength⟩ := readStreamPiece_sound holds first
    obtain ⟨pathSized, consumedPath⟩ := readStreamPiece_sound holds second
    obtain ⟨sizeSized, consumedSize⟩ := readStreamPiece_sound holds third
    obtain ⟨_, rfl, counted, consumedContents⟩ := copyFile_sound holds fourth
    change contents.length = _ at counted
    obtain ⟨rfl, -⟩ := checkedAdd_eq_some.mp added
    have spelled : utf8Bytes relative = path :=
      Generation.GenerationMetadata.utf8Bytes_of_fromUtf8 (mapError_eq_ok.mp text)
    rw [staged.seen] at admits
    have named := (SeenPaths.accept_eq_ok.mp admits).2.2.2
    subst named
    rw [staged.staging] at passes creates
    have header : length ++ path ++ contentLength ++ contents = encodedFile (relative, contents) := by
      rw [encodedFile, entryHeader, spelled, pathSized, counted, bigEndian_ofBigEndian lengthSized,
        bigEndian_ofBigEndian sizeSized]
    refine ⟨(relative, contents), ?_, ?_, admits, passes, creates⟩
    · refine ⟨?_, ?_, ?_, ?_⟩
      · simp only [staged.entries, List.map_append, List.map_singleton, StreamedSnapshotFile.of,
          counted]
      · simp [staged.native, contentBytes, counted]
      · simp only [List.map_append, List.map_singleton]
      · simp only [staged.staging, List.append_assoc]
    · rw [← header]
      exact ((consumedLength.append consumedPath).append consumedSize).append consumedContents

theorem materializeEntries_sound (holds : source.Holds held) {count : Nat} {gone : Files}
    {self final : Materialized ρ} (staged : Staged toLowercase sha256 gone self)
    (placeable : Placeable toLowercase gone) {expected : StreamedWorkspaceSnapshot}
    (run : materializeEntries source toLowercase sha256 expected count self = .ok final) :
    ∃ files : Files, files.length = count ∧ Staged toLowercase sha256 (gone ++ files) final ∧
      Placeable toLowercase (gone ++ files) ∧
      Consumed held self.input (files.flatMap encodedFile) final.input := by
  induction count generalizing gone self with
  | zero =>
    cases run
    exact ⟨[], rfl, by rwa [List.append_nil], by rwa [List.append_nil], .nothing _⟩
  | succ count ih =>
    obtain ⟨between, first, later⟩ := bind_eq_ok.mp run
    obtain ⟨file, stagedFile, consumed, admits, passes, creates⟩ :=
      materializeEntry_sound holds staged first
    obtain ⟨files, counted, stagedAll, placeableAll, others⟩ :=
      ih stagedFile (placeable.concat admits passes creates) later
    rw [← List.append_cons] at stagedAll placeableAll
    exact ⟨file :: files, congrArg (· + 1) counted, stagedAll, placeableAll, consumed.append others⟩

/-- A stream that is read to its end is the canonical snapshot of the files written out. -/
theorem readStream_sound (holds : source.Holds held) {begin : ρ}
    {expected : StreamedWorkspaceSnapshot} {done : Materialized ρ}
    (run : readStream source toLowercase sha256 begin expected newGeneration = .ok done) :
    ∃ files : Files, held begin = canonicalSnapshot files ∧ files.length ≤ maxSnapshotFiles ∧
      Placeable toLowercase files ∧ Staged toLowercase sha256 files done := by
  obtain ⟨⟨magic, afterMagic⟩, first, run⟩ := bind_eq_ok.mp run
  obtain ⟨_, known, run⟩ := bind_eq_ok.mp run
  obtain ⟨⟨countBytes, afterCount⟩, second, run⟩ := bind_eq_ok.mp run
  obtain ⟨_, few, run⟩ := bind_eq_ok.mp run
  obtain ⟨final, third, run⟩ := bind_eq_ok.mp run
  obtain ⟨⟨eof, unread⟩, last, run⟩ := bind_eq_ok.mp run
  obtain ⟨_, ended, same⟩ := bind_eq_ok.mp run
  cases same
  have known := not_not.mp (refuseIf_eq_ok.mp known)
  have few := Nat.not_lt.mp (refuseIf_eq_ok.mp few)
  have ended := refuseIf_eq_ok.mp ended
  simp only [not_or, not_not] at ended
  obtain ⟨-, consumedMagic⟩ := readStreamPiece_sound holds first
  obtain ⟨countSized, consumedCount⟩ := readStreamPiece_sound holds second
  have begins : Staged toLowercase sha256 ([] : Files) (⟨afterCount, [], 0, SeenPaths.new,
      newGeneration⟩ : Materialized ρ) := ⟨rfl, rfl, rfl, rfl⟩
  have nothing : Placeable toLowercase [] :=
    ⟨.nil, List.Pairwise.nil, by rw [List.append_nil]; exact apart_newGeneration⟩
  obtain ⟨files, counted, staged, placeable, consumedFiles⟩ :=
    materializeEntries_sound holds begins nothing third
  obtain ⟨piece, rest, reads, atEnd⟩ := holds.read_one done.input.unread
  have finished : held done.input.unread = [] := by
    rw [mapError_eq_ok.mp last] at reads
    cases reads
    exact atEnd.mp ended.1
  have all := ((consumedMagic.append consumedCount).append consumedFiles).unread
  refine ⟨files, ?_, counted ▸ few, placeable, staged⟩
  rw [finished, List.append_nil] at all
  rw [canonicalSnapshot, snapshotHeader, ← known, counted, bigEndian_ofBigEndian countSized]
  exact all

end Sound

section Agreement

variable {ρ : Type}

/-- The reader of streams takes the snapshot, and writes these files out. -/
def Streams (source : ReadSource ρ) (toLowercase : String → String) (sha256 : Generation.Sha256)
    (begin : ρ) (snapshot : Bytes) (files : Files) : Prop :=
  ∃ done, readStream source toLowercase sha256 begin ⟨snapshot.length, sha256 snapshot⟩
      newGeneration = .ok done ∧
    done.staging = newGeneration ++ files ∧ done.entries = files.map (.of sha256)

/-- The reader of streams takes what the parser in memory takes, except for paths that lead through
a file, and both read the same files. What they take is the canonical snapshot of the files. -/
theorem parsers_agree {source : ReadSource ρ} {held : ρ → Bytes} (holds : source.Holds held)
    (toLowercase : String → String) (sha256 : Generation.Sha256) (begin : ρ)
    (small : (held begin).length ≤ maxWorkspaceSnapshotBytes) :
    (∀ files, Streams source toLowercase sha256 begin (held begin) files ↔
      parseWorkspaceSnapshot toLowercase (held begin) = .ok files ∧
        (newGeneration ++ files).Apart) ∧
    ((∃ done, readStream source toLowercase sha256 begin
        ⟨(held begin).length, sha256 (held begin)⟩ newGeneration = .ok done) ↔
      ∃ files, Streams source toLowercase sha256 begin (held begin) files) ∧
    ∀ files, parseWorkspaceSnapshot toLowercase (held begin) = .ok files →
      canonicalSnapshot files = held begin := by
  have reads {done : Materialized ρ} (run : readStream source toLowercase sha256 begin
      ⟨(held begin).length, sha256 (held begin)⟩ newGeneration = .ok done) :
      ∃ files, parseWorkspaceSnapshot toLowercase (held begin) = .ok files ∧
        (newGeneration ++ files).Apart ∧ Staged toLowercase sha256 files done := by
    obtain ⟨files, whole, few, placeable, staged⟩ := readStream_sound holds run
    have listable : Listable toLowercase files := ⟨few, placeable.portable, placeable.sorted⟩
    exact ⟨files, parseWorkspaceSnapshot_eq_ok.mpr ⟨whole, listable, small⟩, placeable.apart, staged⟩
  refine ⟨fun files => ⟨?_, ?_⟩, ⟨?_, ?_⟩, ?_⟩
  · rintro ⟨done, run, staging, -⟩
    obtain ⟨others, parsed, apart, staged⟩ := reads run
    rw [staged.staging] at staging
    cases List.append_cancel_left staging
    exact ⟨parsed, apart⟩
  · rintro ⟨parsed, apart⟩
    obtain ⟨whole, listable, -⟩ := parseWorkspaceSnapshot_eq_ok.mp parsed
    have policy : maxWorkspaceSnapshotBytes ≤ maxStreamWorkspaceSnapshotBytes := by decide
    have placeable : Placeable toLowercase files := ⟨listable.portable, listable.sorted, apart⟩
    obtain ⟨done, run, staged⟩ := readStream_takes sha256 holds listable.few placeable
      whole (whole ▸ small.trans policy)
    rw [← whole] at run
    exact ⟨done, run, staged.staging, staged.entries⟩
  · rintro ⟨done, run⟩
    obtain ⟨files, -, -, staged⟩ := reads run
    exact ⟨files, done, run, staged.staging, staged.entries⟩
  · rintro ⟨files, done, run, -⟩
    exact ⟨done, run⟩
  · intro files parsed
    exact (parseWorkspaceSnapshot_eq_ok.mp parsed).1.symm

end Agreement

/-! A file, and a file below it. -/

namespace FileBelowFile

def files : Files := [("profile", []), ("profile/cert9", [])]

def snapshot : Bytes := canonicalSnapshot files

def sha256 : Generation.Sha256 := fun _ => ⟨List.replicate 32 211, rfl⟩

theorem listable : Listable asciiLowercase files := by
  refine ⟨by decide, ⟨?_, by decide⟩, by decide⟩
  simp only [files, List.map_cons, List.map_nil, List.forall_mem_cons, List.not_mem_nil,
    false_imp_iff, implies_true, and_true]
  unfold validateWindowsRelativePath
  constructor <;> exact bind_eq_ok.mpr ⟨(), refuseIf_passes (by decide +kernel), by decide +kernel⟩

theorem small : snapshot.length ≤ maxWorkspaceSnapshotBytes := by
  have sized : snapshot.length = 52 := by decide
  rw [sized]
  decide

theorem parsed : parseWorkspaceSnapshot asciiLowercase snapshot = .ok files :=
  parseWorkspaceSnapshot_eq_ok.mpr ⟨rfl, listable, small⟩

/-- The parser in memory takes the snapshot, and the reader of streams does not. -/
theorem only_parsed : parseWorkspaceSnapshot asciiLowercase snapshot = .ok files ∧
    ∀ done, readStream sliceSource asciiLowercase sha256 snapshot
      ⟨snapshot.length, sha256 snapshot⟩ newGeneration ≠ .ok done := by
  refine ⟨parsed, fun done run => ?_⟩
  obtain ⟨others, whole, few, placeable, -⟩ := readStream_sound sliceSource_holds run
  have also : parseWorkspaceSnapshot asciiLowercase snapshot = .ok others :=
    parseWorkspaceSnapshot_eq_ok.mpr ⟨whole, ⟨few, placeable.portable, placeable.sorted⟩, small⟩
  rw [parsed] at also
  cases also
  exact absurd (placeable.apart ("profile", []) (by simp [files])) (by decide)

theorem parsers_agree_below :
    (∀ others, Streams sliceSource asciiLowercase sha256 snapshot snapshot others ↔
      parseWorkspaceSnapshot asciiLowercase snapshot = .ok others ∧
        (newGeneration ++ others).Apart) ∧
    ((∃ done, readStream sliceSource asciiLowercase sha256 snapshot
        ⟨snapshot.length, sha256 snapshot⟩ newGeneration = .ok done) ↔
      ∃ others, Streams sliceSource asciiLowercase sha256 snapshot snapshot others) ∧
    ∀ others, parseWorkspaceSnapshot asciiLowercase snapshot = .ok others →
      canonicalSnapshot others = snapshot :=
  parsers_agree sliceSource_holds asciiLowercase sha256 snapshot small

end FileBelowFile

end ProfilePlatform.Snapshot
