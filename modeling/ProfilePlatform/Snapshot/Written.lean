import ProfilePlatform.Snapshot.Encoding
import ProfilePlatform.Snapshot.Inventory

/-! What the encoders write: the canonical snapshot of the saved files, and when they
refuse to.
-/

set_option autoImplicit false

namespace ProfilePlatform.Snapshot

open Foundation

section Names

variable (toLowercase : String → String)

/-- Names every reader takes: good on Windows, and different even in lower case. -/
structure Portable (names : List String) : Prop where
  valid : ∀ name ∈ names, validateWindowsRelativePath name = .ok ()
  apart : (names.map toLowercase).Nodup

def SeenPaths.of (names : List String) : SeenPaths :=
  ⟨names.getLast?, (names.map toLowercase).reverse⟩

variable {toLowercase} {names : List String} {name : String} {why : GenerationSnapshotError}

theorem SeenPaths.accept_eq_ok {after : SeenPaths} :
    (SeenPaths.of toLowercase names).accept toLowercase why name = .ok after ↔
      validateWindowsRelativePath name = .ok () ∧ (∀ last ∈ names.getLast?, last < name) ∧
        toLowercase name ∉ names.map toLowercase ∧
        after = SeenPaths.of toLowercase (names ++ [name]) := by
  have made : SeenPaths.of toLowercase (names ++ [name]) =
      ⟨some name, toLowercase name :: (names.map toLowercase).reverse⟩ := by
    simp [SeenPaths.of]
  rw [made]
  unfold SeenPaths.accept
  constructor
  · intro admitted
    obtain ⟨⟨⟩, valid, rest⟩ := bind_eq_ok.mp admitted
    obtain ⟨⟨⟩, ordered, rest⟩ := bind_eq_ok.mp rest
    obtain ⟨⟨⟩, fresh, done⟩ := bind_eq_ok.mp rest
    cases done
    refine ⟨valid, ?_, ?_, rfl⟩
    · intro last ends
      have ordered := refuseIf_eq_ok.mp ordered
      simp only [SeenPaths.of, Option.mem_def.mp ends, Option.any_some, decide_eq_true_eq] at ordered
      exact lt_of_not_ge ordered
    · have fresh := refuseIf_eq_ok.mp fresh
      simpa only [SeenPaths.of, List.mem_reverse] using fresh
  · rintro ⟨valid, ordered, fresh, rfl⟩
    refine bind_eq_ok.mpr ⟨(), valid, bind_eq_ok.mpr ⟨(), refuseIf_passes ?_, ?_⟩⟩
    · simp only [SeenPaths.of]
      cases ends : names.getLast? with
      | none => simp
      | some last => simpa using ordered last ends
    · refine bind_eq_ok.mpr ⟨(), refuseIf_passes ?_, rfl⟩
      simpa only [SeenPaths.of, List.mem_reverse] using fresh

theorem Portable.nil : Portable toLowercase [] := ⟨by simp, List.nodup_nil⟩

theorem Portable.concat (portable : Portable toLowercase names)
    (valid : validateWindowsRelativePath name = .ok ())
    (fresh : toLowercase name ∉ names.map toLowercase) : Portable toLowercase (names ++ [name]) where
  valid := by
    intro other member
    rcases List.mem_append.mp member with old | new
    · exact portable.valid other old
    · rw [List.mem_singleton.mp new]
      exact valid
  apart := by
    rw [List.map_append, List.map_singleton]
    exact List.nodup_append.mpr ⟨portable.apart, List.nodup_singleton _, by
      rintro _ old _ new rfl
      exact fresh (List.mem_singleton.mp new ▸ old)⟩

theorem SeenPaths.admits {gone later : List String} (portable : Portable toLowercase names)
    (sorted : names.Pairwise (· < ·)) (same : names = gone ++ name :: later) :
    (SeenPaths.of toLowercase gone).accept toLowercase why name =
      .ok (SeenPaths.of toLowercase (gone ++ [name])) := by
  subst same
  have apart := portable.apart
  rw [List.map_append, List.map_cons, List.nodup_append] at apart
  refine SeenPaths.accept_eq_ok.mpr ⟨portable.valid name (by simp), ?_, ?_, rfl⟩
  · intro last ends
    exact (List.pairwise_append.mp sorted).2.2 last (List.mem_of_getLast? ends) name
      List.mem_cons_self
  · intro seen
    exact apart.2.2 _ seen _ List.mem_cons_self rfl

end Names

section Stored

variable {workspace : GenerationWorkspace} {file : String × Bytes}

theorem regularFile_of (member : file ∈ workspace.files) :
    workspace.regularFile (.of file) = .ok file.2 := by
  simp [GenerationWorkspace.regularFile, InventoryEntry.of,
    GenerationWorkspace.contents_of_mem member]

theorem length_le_contentBytes {files : Files} (member : file ∈ files) :
    file.2.length ≤ contentBytes files := by
  obtain ⟨before, after, rfl⟩ := List.append_of_mem member
  simp only [contentBytes, List.map_append, List.map_cons, List.sum_append, List.sum_cons]
  omega

theorem length_encodedFile (file : String × Bytes) :
    (encodedFile file).length = 2 + (utf8Bytes file.1).length + 8 + file.2.length := by
  simp only [encodedFile, entryHeader, List.length_append, length_bigEndian]

theorem Normalized.encodable {path : String} (normalized : Normalized path) :
    (utf8Bytes path).length < capacity 2 :=
  Nat.lt_of_le_of_lt normalized.short (by decide)

end Stored

section InMemory

variable {σ : Type} {disk : Disk σ} {workspace : GenerationWorkspace}

theorem checkedExtend_eq_ok {output bytes extended : Bytes} :
    checkedExtend output bytes = .ok extended ↔
      output.length + bytes.length ≤ maxWorkspaceSnapshotBytes ∧ extended = output ++ bytes := by
  unfold checkedExtend
  split
  next large =>
    constructor
    · intro impossible
      cases impossible
    · rintro ⟨small, -⟩
      omega
  next small =>
    constructor
    · rintro ⟨⟩
      exact ⟨by omega, rfl⟩
    · rintro ⟨-, rfl⟩
      rfl

theorem readWhole (disk : Disk σ) (path : String) (contents : Bytes) :
    ∃ rest, disk.source.readExact (disk.openAt path contents) contents.length =
      .ok (contents, rest) := by
  have whole : disk.held (disk.openAt path contents) = contents ++ [] := by
    rw [disk.opened, List.append_nil]
  obtain ⟨rest, read, -⟩ := disk.holds.readExact whole
  exact ⟨rest, read⟩

theorem encodeEntry_eq_ok {output result : Bytes} {file : String × Bytes}
    (member : file ∈ workspace.files) (normalized : Normalized file.1) :
    encodeEntry disk workspace output (.of file) = .ok result ↔
      output.length + (encodedFile file).length ≤ maxWorkspaceSnapshotBytes ∧
        result = output ++ encodedFile file := by
  obtain ⟨rest, read⟩ := readWhole disk file.1 file.2
  have sized := length_encodedFile file
  unfold encodeEntry
  constructor
  · intro encoded
    obtain ⟨⟨⟩, -, encoded⟩ := bind_eq_ok.mp encoded
    obtain ⟨withLength, first, encoded⟩ := bind_eq_ok.mp encoded
    obtain ⟨withPath, second, encoded⟩ := bind_eq_ok.mp encoded
    obtain ⟨withHeader, third, encoded⟩ := bind_eq_ok.mp encoded
    obtain ⟨contents, found, encoded⟩ := bind_eq_ok.mp encoded
    obtain ⟨⟨⟩, -, encoded⟩ := bind_eq_ok.mp encoded
    obtain ⟨⟨⟩, room, encoded⟩ := bind_eq_ok.mp encoded
    rw [regularFile_of member] at found
    cases found
    obtain ⟨-, rfl⟩ := checkedExtend_eq_ok.mp first
    obtain ⟨-, rfl⟩ := checkedExtend_eq_ok.mp second
    obtain ⟨small, rfl⟩ := checkedExtend_eq_ok.mp third
    have room := refuseIf_eq_ok.mp room
    simp only [InventoryEntry.of, read] at encoded
    cases encoded
    simp only [InventoryEntry.of, List.length_append, length_bigEndian] at room small
    refine ⟨by omega, ?_⟩
    simp only [encodedFile, entryHeader, List.append_assoc]
  · rintro ⟨small, rfl⟩
    have encodable := normalized.encodable
    refine bind_eq_ok.mpr ⟨(), refuseIf_passes (Nat.not_le.mpr encodable), ?_⟩
    refine bind_eq_ok.mpr ⟨_, checkedExtend_eq_ok.mpr ⟨?_, rfl⟩, ?_⟩
    · rw [length_bigEndian]
      omega
    refine bind_eq_ok.mpr ⟨_, checkedExtend_eq_ok.mpr ⟨?_, rfl⟩, ?_⟩
    · rw [List.length_append, length_bigEndian]
      simp only [InventoryEntry.of]
      omega
    refine bind_eq_ok.mpr ⟨_, checkedExtend_eq_ok.mpr ⟨?_, rfl⟩, ?_⟩
    · simp only [List.length_append, length_bigEndian, InventoryEntry.of]
      omega
    refine bind_eq_ok.mpr ⟨_, regularFile_of member, ?_⟩
    refine bind_eq_ok.mpr ⟨(), refuseIf_passes ?_, bind_eq_ok.mpr ⟨(), refuseIf_passes ?_, ?_⟩⟩
    · simp only [List.length_append, length_bigEndian, InventoryEntry.of]
      omega
    · simp only [List.length_append, length_bigEndian, InventoryEntry.of]
      omega
    simp only [InventoryEntry.of, read]
    refine congrArg Except.ok ?_
    simp only [encodedFile, entryHeader, List.append_assoc]

theorem encodeEntries_eq_ok {files : Files} {output result : Bytes}
    (members : ∀ file ∈ files, file ∈ workspace.files ∧ Normalized file.1)
    (small : output.length ≤ maxWorkspaceSnapshotBytes) :
    (files.map InventoryEntry.of).foldlM (encodeEntry disk workspace) output = .ok result ↔
      output.length + (files.flatMap encodedFile).length ≤ maxWorkspaceSnapshotBytes ∧
        result = output ++ files.flatMap encodedFile := by
  induction files generalizing output with
  | nil =>
    simp only [List.map_nil, List.foldlM_nil, List.flatMap_nil, List.append_nil, List.length_nil]
    constructor
    · rintro ⟨⟩
      exact ⟨small, rfl⟩
    · rintro ⟨-, rfl⟩
      rfl
  | cons file rest ih =>
    obtain ⟨⟨member, normalized⟩, others⟩ := List.forall_mem_cons.mp members
    rw [List.map_cons, List.foldlM_cons, bind_eq_ok, List.flatMap_cons, List.length_append,
      ← List.append_assoc, ← Nat.add_assoc]
    constructor
    · rintro ⟨_, first, later⟩
      obtain ⟨fits, rfl⟩ := (encodeEntry_eq_ok member normalized).mp first
      rw [← List.length_append] at fits ⊢
      exact (ih others fits).mp later
    · rintro ⟨fits, rfl⟩
      refine ⟨_, (encodeEntry_eq_ok member normalized).mpr ⟨by omega, rfl⟩, ?_⟩
      rw [← List.length_append] at fits
      exact (ih others (by omega)).mpr ⟨fits, rfl⟩

end InMemory

section Accepted

variable {workspace : GenerationWorkspace} {inventory : GenerationInventory}

/-- What an accepted inventory is about. -/
structure Accepted (workspace : GenerationWorkspace) (files : Files) : Prop where
  present : ∀ file ∈ files, file ∈ workspace.files
  walks : ∀ file ∈ files, Walks file
  saved : ∀ file ∈ files, isSaved file = true
  sorted : (files.map Prod.fst).Pairwise (· < ·)
  few : files.length ≤ maxInventoryFiles
  small : contentBytes files < u64Limit

theorem accepted (listed : workspace.inventory = .ok inventory) :
    Accepted workspace (workspace.filesOf inventory) ∧
      inventory = inventoryOf (workspace.filesOf inventory) := by
  obtain ⟨walks, few, small, same⟩ := buildInventory_eq_ok.mp listed
  rw [GenerationWorkspace.filesOf_eq listed]
  refine ⟨⟨?_, ?_, ?_, ?_, few, small⟩, same⟩
  · exact fun file member => (mem_savedFiles.mp member).1
  · exact fun file member => walks file (mem_savedFiles.mp member).1
  · exact fun file member => (mem_savedFiles.mp member).2
  · exact List.pairwise_map.mpr workspace.savedFiles_sorted

namespace Accepted

variable {files : Files} (known : Accepted workspace files)
include known

theorem members : ∀ file ∈ files, file ∈ workspace.files ∧ Normalized file.1 :=
  fun file member => ⟨known.present file member, (known.walks file member).normalized⟩

theorem countable : files.length < capacity 4 := Nat.lt_of_le_of_lt known.few (by decide)

end Accepted

end Accepted

theorem length_snapshotHeader (count : Nat) : (snapshotHeader count).length = 12 := by
  rw [snapshotHeader, List.length_append, length_bigEndian]
  rfl

/-- The encoder in memory writes the canonical snapshot, if it is not too large for it. -/
theorem encodeWorkspaceSnapshot_eq_ok {σ : Type} {disk : Disk σ} {workspace : GenerationWorkspace}
    {inventory : GenerationInventory} {bytes : Bytes}
    (listed : workspace.inventory = .ok inventory) :
    encodeWorkspaceSnapshot disk workspace inventory = .ok bytes ↔
      bytes.length ≤ maxWorkspaceSnapshotBytes ∧
        bytes = canonicalSnapshot (workspace.filesOf inventory) := by
  obtain ⟨known, same⟩ := accepted listed
  have entries : inventory.entries = (workspace.filesOf inventory).map InventoryEntry.of :=
    congrArg GenerationInventory.entries same
  have begins : (snapshotHeader (workspace.filesOf inventory).length).length ≤
      maxWorkspaceSnapshotBytes := by
    rw [length_snapshotHeader]
    decide
  unfold encodeWorkspaceSnapshot
  rw [entries, List.length_map]
  constructor
  · intro encoded
    obtain ⟨⟨⟩, -, encoded⟩ := bind_eq_ok.mp encoded
    obtain ⟨output, written, encoded⟩ := bind_eq_ok.mp encoded
    obtain ⟨current, -, encoded⟩ := bind_eq_ok.mp encoded
    obtain ⟨⟨⟩, -, done⟩ := bind_eq_ok.mp encoded
    cases done
    obtain ⟨fits, rfl⟩ := (encodeEntries_eq_ok known.members begins).mp written
    rw [← List.length_append] at fits
    exact ⟨fits, rfl⟩
  · rintro ⟨fits, rfl⟩
    refine bind_eq_ok.mpr ⟨(), refuseIf_passes (Nat.not_le.mpr known.countable), ?_⟩
    rw [canonicalSnapshot, List.length_append] at fits
    refine bind_eq_ok.mpr ⟨_, (encodeEntries_eq_ok known.members begins).mpr ⟨fits, rfl⟩, ?_⟩
    refine bind_eq_ok.mpr ⟨inventory, mapError_eq_ok.mpr listed, ?_⟩
    exact bind_eq_ok.mpr ⟨(), refuseIf_passes (not_not_intro rfl), rfl⟩

section Sizes

theorem length_utf8Bytes_pos {text : String} (nonempty : text ≠ "") :
    0 < (utf8Bytes text).length := by
  refine Nat.pos_of_ne_zero fun empty => nonempty ?_
  exact String.utf8ByteSize_eq_zero_iff.mp empty

theorem addEncodedSize_eq_ok {size sum : Nat} {file : String × Bytes}
    (normalized : Normalized file.1) :
    addEncodedSize size (.of file) = .ok sum ↔
      size + (encodedFile file).length ≤ maxStreamWorkspaceSnapshotBytes ∧
        sum = size + (encodedFile file).length := by
  have named := length_utf8Bytes_pos normalized.nonempty
  have short : (utf8Bytes file.1).length ≤ maxSnapshotPathBytes := normalized.short
  have policy : maxStreamWorkspaceSnapshotBytes < u64Limit := by decide
  rw [length_encodedFile]
  unfold addEncodedSize
  constructor
  · intro added
    obtain ⟨⟨⟩, -, added⟩ := bind_eq_ok.mp added
    split at added
    next => cases added
    next withHeader first =>
      split at added
      next => cases added
      next total second =>
        obtain ⟨⟨⟩, fits, done⟩ := bind_eq_ok.mp added
        cases done
        have fits := refuseIf_eq_ok.mp fits
        obtain ⟨rfl, -⟩ := checkedAdd_eq_some.mp first
        obtain ⟨rfl, -⟩ := checkedAdd_eq_some.mp second
        simp only [InventoryEntry.of] at fits ⊢
        omega
  · rintro ⟨fits, rfl⟩
    have first : checkedAdd size (2 + (utf8Bytes file.1).length + 8) =
        some (size + (2 + (utf8Bytes file.1).length + 8)) :=
      checkedAdd_eq_some.mpr ⟨rfl, by omega⟩
    have second : checkedAdd (size + (2 + (utf8Bytes file.1).length + 8)) file.2.length =
        some (size + (2 + (utf8Bytes file.1).length + 8) + file.2.length) :=
      checkedAdd_eq_some.mpr ⟨rfl, by omega⟩
    refine bind_eq_ok.mpr ⟨(), refuseIf_passes ?_, ?_⟩
    · simp only [InventoryEntry.of]
      omega
    · simp only [InventoryEntry.of, first, second]
      refine bind_eq_ok.mpr ⟨(), refuseIf_passes (by omega), ?_⟩
      simp only [Nat.add_assoc]
      rfl

theorem addEncodedSizes_eq_ok {files : Files} {size sum : Nat}
    (normalized : ∀ file ∈ files, Normalized file.1)
    (small : size ≤ maxStreamWorkspaceSnapshotBytes) :
    (files.map InventoryEntry.of).foldlM addEncodedSize size = .ok sum ↔
      size + (files.flatMap encodedFile).length ≤ maxStreamWorkspaceSnapshotBytes ∧
        sum = size + (files.flatMap encodedFile).length := by
  induction files generalizing size with
  | nil =>
    simp only [List.map_nil, List.foldlM_nil, List.flatMap_nil, List.length_nil, Nat.add_zero]
    constructor
    · rintro ⟨⟩
      exact ⟨small, rfl⟩
    · rintro ⟨-, rfl⟩
      rfl
  | cons file rest ih =>
    obtain ⟨first, others⟩ := List.forall_mem_cons.mp normalized
    rw [List.map_cons, List.foldlM_cons, bind_eq_ok, List.flatMap_cons, List.length_append,
      ← Nat.add_assoc]
    constructor
    · rintro ⟨_, added, later⟩
      obtain ⟨fits, rfl⟩ := (addEncodedSize_eq_ok first).mp added
      exact (ih others fits).mp later
    · rintro ⟨fits, rfl⟩
      refine ⟨_, (addEncodedSize_eq_ok first).mpr ⟨by omega, rfl⟩, ?_⟩
      exact (ih others (by omega)).mpr ⟨fits, rfl⟩

theorem contentBytes_le (files : Files) : contentBytes files ≤ (files.flatMap encodedFile).length := by
  induction files with
  | nil => exact Nat.zero_le _
  | cons file rest ih =>
    rw [List.flatMap_cons, List.length_append, length_encodedFile]
    simp only [contentBytes, List.map_cons, List.sum_cons] at ih ⊢
    omega

theorem encodedStreamSnapshotSize_eq_ok {workspace : GenerationWorkspace}
    {inventory : GenerationInventory} {size : Nat} (listed : workspace.inventory = .ok inventory) :
    encodedStreamSnapshotSize inventory = .ok size ↔
      size ≤ maxStreamWorkspaceSnapshotBytes ∧
        size = (canonicalSnapshot (workspace.filesOf inventory)).length := by
  obtain ⟨known, same⟩ := accepted listed
  have normalized : ∀ file ∈ workspace.filesOf inventory, Normalized file.1 :=
    fun file member => (known.walks file member).normalized
  have few : (workspace.filesOf inventory).length ≤ maxSnapshotFiles := known.few
  have header : 12 ≤ maxStreamWorkspaceSnapshotBytes := by decide
  have entries : inventory.entries = (workspace.filesOf inventory).map InventoryEntry.of :=
    congrArg GenerationInventory.entries same
  have total : inventory.totalBytes = contentBytes (workspace.filesOf inventory) :=
    congrArg GenerationInventory.totalBytes same
  rw [canonicalSnapshot, List.length_append, length_snapshotHeader]
  unfold encodedStreamSnapshotSize
  rw [entries, total, List.length_map]
  constructor
  · intro computed
    obtain ⟨⟨⟩, -, computed⟩ := bind_eq_ok.mp computed
    obtain ⟨⟨⟩, -, computed⟩ := bind_eq_ok.mp computed
    obtain ⟨fits, rfl⟩ := (addEncodedSizes_eq_ok normalized header).mp computed
    exact ⟨fits, rfl⟩
  · rintro ⟨fits, rfl⟩
    have native : contentBytes (workspace.filesOf inventory) ≤ maxStreamNativeProfileBytes := by
      have content := contentBytes_le (workspace.filesOf inventory)
      simp only [maxStreamWorkspaceSnapshotBytes, maxStreamNativeProfileBytes] at fits ⊢
      omega
    refine bind_eq_ok.mpr ⟨(), refuseIf_passes (Nat.not_lt.mpr few), ?_⟩
    refine bind_eq_ok.mpr ⟨(), refuseIf_passes (Nat.not_lt.mpr native), ?_⟩
    exact (addEncodedSizes_eq_ok normalized header).mpr ⟨fits, rfl⟩

end Sizes

section Streaming

variable {σ τ : Type} {disk : Disk σ} {sink : WriteSink τ} {taken : τ → Bytes}
  {toLowercase : String → String} {workspace : GenerationWorkspace}

/-- The bytes went to the output, into the digest and into the count. -/
structure Wrote (taken : τ → Bytes) (before : StreamOutput τ) (bytes : Bytes)
    (after : StreamOutput τ) : Prop where
  output : taken after.output = taken before.output ++ bytes
  hashed : after.hashed = before.hashed ++ bytes
  length : after.length = before.length + bytes.length

theorem Wrote.nothing (written : StreamOutput τ) : Wrote taken written [] written :=
  ⟨(List.append_nil _).symm, (List.append_nil _).symm, rfl⟩

theorem Wrote.append {before between after : StreamOutput τ} {first second : Bytes}
    (wrote : Wrote taken before first between) (more : Wrote taken between second after) :
    Wrote taken before (first ++ second) after where
  output := by rw [more.output, wrote.output, List.append_assoc]
  hashed := by rw [more.hashed, wrote.hashed, List.append_assoc]
  length := by rw [more.length, wrote.length, List.length_append, Nat.add_assoc]

theorem writeStreamPiece_wrote (records : sink.Records taken) {before after : StreamOutput τ}
    {piece : Bytes} (wrote : writeStreamPiece sink before piece = .ok after) :
    Wrote taken before piece after := by
  unfold writeStreamPiece at wrote
  split at wrote
  next => cases wrote
  next next added =>
    obtain ⟨rfl, -⟩ := checkedAdd_eq_some.mp added
    obtain ⟨⟨⟩, -, wrote⟩ := bind_eq_ok.mp wrote
    obtain ⟨output, took, done⟩ := bind_eq_ok.mp wrote
    cases done
    exact ⟨records.writes _ _ _ (mapError_eq_ok.mp took), rfl, rfl⟩

theorem writeStreamPiece_succeeds (takes : sink.Takes taken) {before : StreamOutput τ}
    {piece : Bytes} (room : before.length + piece.length ≤ maxStreamWorkspaceSnapshotBytes) :
    ∃ after, writeStreamPiece sink before piece = .ok after := by
  have fits : before.length + piece.length < u64Limit := Nat.lt_of_le_of_lt room (by decide)
  obtain ⟨output, took, -⟩ := takes.writes before.output piece
  unfold writeStreamPiece
  simp only [checkedAdd_eq_some.mpr ⟨rfl, fits⟩, refuseIf_passes (Nat.not_lt.mpr room), took]
  exact ⟨_, rfl⟩

theorem streamFile_wrote (records : sink.Records taken) {file : σ} {bytes : Bytes}
    {before after : StreamOutput τ} (holds : disk.held file = bytes)
    (wrote : streamFile disk sink file bytes.length before = .ok after) :
    Wrote taken before bytes after := by
  induction size : bytes.length using Nat.strongRecOn generalizing file bytes before with
  | ind size ih =>
    subst size
    unfold streamFile at wrote
    split at wrote
    next empty =>
      cases wrote
      rw [List.eq_nil_of_length_eq_zero empty]
      exact .nothing _
    next some =>
      obtain ⟨⟨piece, rest⟩, read, wrote⟩ := bind_eq_ok.mp wrote
      obtain ⟨between, piecewise, wrote⟩ := bind_eq_ok.mp wrote
      obtain ⟨split, sized⟩ := disk.holds.readExact_eq_ok (mapError_eq_ok.mp read)
      rw [holds] at split
      subst split
      rw [← sized, List.length_append, Nat.add_sub_cancel_left] at wrote
      refine (writeStreamPiece_wrote records piecewise).append (ih _ ?_ rfl wrote rfl)
      rw [List.length_append] at sized some ⊢
      simp only [streamBufferBytes] at sized
      omega

theorem streamFile_succeeds (takes : sink.Takes taken) {file : σ} {bytes : Bytes}
    {before : StreamOutput τ} (holds : disk.held file = bytes)
    (room : before.length + bytes.length ≤ maxStreamWorkspaceSnapshotBytes) :
    ∃ after, streamFile disk sink file bytes.length before = .ok after := by
  induction size : bytes.length using Nat.strongRecOn generalizing file bytes before with
  | ind size ih =>
    subst size
    unfold streamFile
    split
    next => exact ⟨before, rfl⟩
    next some =>
      have sized : (bytes.take streamBufferBytes).length = min bytes.length streamBufferBytes := by
        rw [List.length_take, Nat.min_comm]
      have split : disk.held file = bytes.take streamBufferBytes ++ bytes.drop streamBufferBytes := by
        rw [holds, List.take_append_drop]
      obtain ⟨unread, read, held⟩ := disk.holds.readExact split
      rw [sized] at read
      have first : before.length + (bytes.take streamBufferBytes).length ≤
          maxStreamWorkspaceSnapshotBytes := by omega
      obtain ⟨between, wrote⟩ := writeStreamPiece_succeeds takes first
      have counted := (writeStreamPiece_wrote takes.records wrote).length
      have rest : between.length + (bytes.drop streamBufferBytes).length ≤
          maxStreamWorkspaceSnapshotBytes := by
        rw [counted, List.length_drop]
        omega
      have shorter : (bytes.drop streamBufferBytes).length < bytes.length := by
        rw [List.length_drop]
        simp only [streamBufferBytes]
        omega
      obtain ⟨after, more⟩ := ih _ shorter held rest rfl
      have left : bytes.length - min bytes.length streamBufferBytes =
          (bytes.drop streamBufferBytes).length := by
        rw [List.length_drop]
        omega
      refine ⟨after, bind_eq_ok.mpr ⟨(_, unread), mapError_eq_ok.mpr read, ?_⟩⟩
      refine bind_eq_ok.mpr ⟨between, wrote, ?_⟩
      rw [left]
      exact more

theorem streamEntry_wrote (records : sink.Records taken) {seen after : SeenPaths}
    {before written : StreamOutput τ} {file : String × Bytes} (member : file ∈ workspace.files)
    (done : streamEntry disk sink toLowercase workspace (seen, before) (.of file) =
      .ok (after, written)) :
    seen.accept toLowercase .unsafePath file.1 = .ok after ∧
      Wrote taken before (encodedFile file) written := by
  unfold streamEntry at done
  obtain ⟨admitted, admits, done⟩ := bind_eq_ok.mp done
  obtain ⟨⟨⟩, -, done⟩ := bind_eq_ok.mp done
  obtain ⟨withLength, first, done⟩ := bind_eq_ok.mp done
  obtain ⟨withPath, second, done⟩ := bind_eq_ok.mp done
  obtain ⟨withHeader, third, done⟩ := bind_eq_ok.mp done
  obtain ⟨contents, found, done⟩ := bind_eq_ok.mp done
  rw [regularFile_of member] at found
  cases found
  obtain ⟨withContents, fourth, done⟩ := bind_eq_ok.mp done
  cases done
  have header := ((writeStreamPiece_wrote records first).append
    (writeStreamPiece_wrote records second)).append (writeStreamPiece_wrote records third)
  exact ⟨admits, header.append (streamFile_wrote records (disk.opened file.1 file.2) fourth)⟩

theorem streamEntry_succeeds (takes : sink.Takes taken) {seen after : SeenPaths}
    {before : StreamOutput τ} {file : String × Bytes} (member : file ∈ workspace.files)
    (normalized : Normalized file.1) (admits : seen.accept toLowercase .unsafePath file.1 = .ok after)
    (room : before.length + (encodedFile file).length ≤ maxStreamWorkspaceSnapshotBytes) :
    ∃ written, streamEntry disk sink toLowercase workspace (seen, before) (.of file) =
      .ok (after, written) := by
  rw [length_encodedFile] at room
  have counts {before after : StreamOutput τ} {piece : Bytes}
      (written : writeStreamPiece sink before piece = .ok after) :
      after.length = before.length + piece.length :=
    (writeStreamPiece_wrote takes.records written).length
  have lengthFits : before.length + (bigEndian 2 (utf8Bytes file.1).length).length ≤
      maxStreamWorkspaceSnapshotBytes := by
    rw [length_bigEndian]
    omega
  obtain ⟨withLength, first⟩ := writeStreamPiece_succeeds takes lengthFits
  have counted := counts first
  rw [length_bigEndian] at counted
  have pathFits : withLength.length + (utf8Bytes file.1).length ≤
      maxStreamWorkspaceSnapshotBytes := by omega
  obtain ⟨withPath, second⟩ := writeStreamPiece_succeeds takes pathFits
  have countedPath := counts second
  have sizeFits : withPath.length + (bigEndian 8 file.2.length).length ≤
      maxStreamWorkspaceSnapshotBytes := by
    rw [length_bigEndian]
    omega
  obtain ⟨withHeader, third⟩ := writeStreamPiece_succeeds takes sizeFits
  have countedSize := counts third
  rw [length_bigEndian] at countedSize
  have contentsFit : withHeader.length + file.2.length ≤ maxStreamWorkspaceSnapshotBytes := by omega
  obtain ⟨written, fourth⟩ := streamFile_succeeds takes (disk.opened file.1 file.2) contentsFit
  refine ⟨written, bind_eq_ok.mpr ⟨after, admits, ?_⟩⟩
  refine bind_eq_ok.mpr ⟨(), refuseIf_passes (Nat.not_le.mpr normalized.encodable), ?_⟩
  refine bind_eq_ok.mpr ⟨withLength, first, bind_eq_ok.mpr ⟨withPath, second, ?_⟩⟩
  refine bind_eq_ok.mpr ⟨withHeader, third, bind_eq_ok.mpr ⟨file.2, regularFile_of member, ?_⟩⟩
  exact bind_eq_ok.mpr ⟨written, fourth, rfl⟩

/-- Where the loop over the files stands once some are through. -/
structure Through (toLowercase : String → String) (taken : τ → Bytes) (start : StreamOutput τ)
    (gone : Files) (state : SeenPaths × StreamOutput τ) : Prop where
  seen : state.1 = SeenPaths.of toLowercase (gone.map Prod.fst)
  portable : Portable toLowercase (gone.map Prod.fst)
  wrote : Wrote taken start (gone.flatMap encodedFile) state.2

theorem Through.none (start : StreamOutput τ) :
    Through toLowercase taken start [] (SeenPaths.new, start) := ⟨rfl, .nil, .nothing _⟩

theorem Through.next {start : StreamOutput τ} {gone : Files} {file : String × Bytes}
    {before after : SeenPaths × StreamOutput τ} (through : Through toLowercase taken start gone before)
    (admits : before.1.accept toLowercase .unsafePath file.1 = .ok after.1)
    (wrote : Wrote taken before.2 (encodedFile file) after.2) :
    Through toLowercase taken start (gone ++ [file]) after := by
  rw [through.seen] at admits
  obtain ⟨valid, -, fresh, seen⟩ := SeenPaths.accept_eq_ok.mp admits
  refine ⟨?_, ?_, ?_⟩
  · rw [seen, List.map_append, List.map_singleton]
  · rw [List.map_append, List.map_singleton]
    exact through.portable.concat valid fresh
  · rw [List.flatMap_append, List.flatMap_singleton]
    exact through.wrote.append wrote

theorem streamEntries_wrote (records : sink.Records taken) {files : Files}
    {start : StreamOutput τ} {final : SeenPaths × StreamOutput τ}
    (known : Accepted workspace files)
    (done : (files.map InventoryEntry.of).foldlM (streamEntry disk sink toLowercase workspace)
      (SeenPaths.new, start) = .ok final) :
    Through toLowercase taken start files final := by
  rw [List.foldlM_map] at done
  refine foldlM_keeps done (Through toLowercase taken start) (.none start) ?_
  rintro gone file later ⟨seen, before⟩ ⟨after, written⟩ same through turn
  have member : file ∈ files := by
    rw [same]
    simp
  obtain ⟨admits, wrote⟩ := streamEntry_wrote records (known.present file member) turn
  exact through.next admits wrote

theorem streamEntries_succeeds (takes : sink.Takes taken) {files : Files} {start : StreamOutput τ}
    (known : Accepted workspace files) (portable : Portable toLowercase (files.map Prod.fst))
    (room : start.length + (files.flatMap encodedFile).length ≤ maxStreamWorkspaceSnapshotBytes) :
    ∃ final, (files.map InventoryEntry.of).foldlM (streamEntry disk sink toLowercase workspace)
      (SeenPaths.new, start) = .ok final ∧ Through toLowercase taken start files final := by
  rw [List.foldlM_map]
  refine foldlM_succeeds (Through toLowercase taken start) (.none start) ?_
  rintro gone file later ⟨seen, before⟩ same through
  have member : file ∈ files := by
    rw [same]
    simp
  have names : files.map Prod.fst = gone.map Prod.fst ++ file.1 :: later.map Prod.fst := by
    rw [same, List.map_append, List.map_cons]
  have admits : (SeenPaths.of toLowercase (gone.map Prod.fst)).accept toLowercase .unsafePath file.1 =
      .ok (SeenPaths.of toLowercase (gone.map Prod.fst ++ [file.1])) :=
    SeenPaths.admits portable known.sorted names
  rw [← through.seen] at admits
  have written := through.wrote.length
  have fits : before.length + (encodedFile file).length ≤ maxStreamWorkspaceSnapshotBytes := by
    rw [same, List.flatMap_append, List.flatMap_cons, List.length_append,
      List.length_append] at room
    simp only at written
    omega
  obtain ⟨member, normalized⟩ := known.members file member
  obtain ⟨written, done⟩ := streamEntry_succeeds takes member normalized admits fits
  exact ⟨_, done, through.next admits (streamEntry_wrote takes.records member done).2⟩

variable {sha256 : Generation.Sha256} {inventory : GenerationInventory} {output : τ}

theorem streaming_wrote (records : sink.Records taken)
    (listed : workspace.inventory = .ok inventory) {snapshot : StreamedWorkspaceSnapshot}
    {final : τ}
    (done : encodeWorkspaceSnapshotStreaming disk sink toLowercase sha256 workspace inventory
      output = .ok (snapshot, final)) :
    Portable toLowercase ((workspace.filesOf inventory).map Prod.fst) ∧
      (canonicalSnapshot (workspace.filesOf inventory)).length ≤ maxStreamWorkspaceSnapshotBytes ∧
      snapshot = ⟨(canonicalSnapshot (workspace.filesOf inventory)).length,
        sha256 (canonicalSnapshot (workspace.filesOf inventory))⟩ ∧
      taken final = taken output ++ canonicalSnapshot (workspace.filesOf inventory) := by
  obtain ⟨known, same⟩ := accepted listed
  have entries : inventory.entries = (workspace.filesOf inventory).map InventoryEntry.of :=
    congrArg GenerationInventory.entries same
  unfold encodeWorkspaceSnapshotStreaming at done
  rw [entries, List.length_map] at done
  obtain ⟨size, sized, done⟩ := bind_eq_ok.mp done
  obtain ⟨⟨⟩, -, done⟩ := bind_eq_ok.mp done
  obtain ⟨withMagic, first, done⟩ := bind_eq_ok.mp done
  obtain ⟨withCount, second, done⟩ := bind_eq_ok.mp done
  obtain ⟨⟨seen, written⟩, looped, done⟩ := bind_eq_ok.mp done
  obtain ⟨current, -, done⟩ := bind_eq_ok.mp done
  obtain ⟨⟨⟩, -, done⟩ := bind_eq_ok.mp done
  obtain ⟨⟨⟩, -, done⟩ := bind_eq_ok.mp done
  cases done
  obtain ⟨fits, rfl⟩ := (encodedStreamSnapshotSize_eq_ok listed).mp sized
  have through := streamEntries_wrote records known looped
  have whole : Wrote taken ⟨output, [], 0⟩ (canonicalSnapshot (workspace.filesOf inventory))
      written :=
    ((writeStreamPiece_wrote records first).append
      (writeStreamPiece_wrote records second)).append through.wrote
  refine ⟨through.portable, fits, ?_, whole.output⟩
  rw [whole.length, whole.hashed, Nat.zero_add, List.nil_append]

theorem streaming_succeeds (takes : sink.Takes taken) (listed : workspace.inventory = .ok inventory)
    (portable : Portable toLowercase ((workspace.filesOf inventory).map Prod.fst))
    (fits : (canonicalSnapshot (workspace.filesOf inventory)).length ≤
      maxStreamWorkspaceSnapshotBytes) :
    ∃ snapshot final, encodeWorkspaceSnapshotStreaming disk sink toLowercase sha256 workspace
      inventory output = .ok (snapshot, final) := by
  obtain ⟨known, same⟩ := accepted listed
  have entries : inventory.entries = (workspace.filesOf inventory).map InventoryEntry.of :=
    congrArg GenerationInventory.entries same
  have policy : 12 ≤ maxStreamWorkspaceSnapshotBytes := by decide
  have magicFits : (StreamOutput.mk output [] 0).length + workspaceSnapshotMagic.length ≤
      maxStreamWorkspaceSnapshotBytes := by
    simp only [workspaceSnapshotMagic, List.length_cons, List.length_nil]
    omega
  obtain ⟨withMagic, first⟩ := writeStreamPiece_succeeds takes magicFits
  have magic := (writeStreamPiece_wrote takes.records first).length
  simp only [workspaceSnapshotMagic, List.length_cons, List.length_nil] at magic
  have countFits : withMagic.length + (bigEndian 4 (workspace.filesOf inventory).length).length ≤
      maxStreamWorkspaceSnapshotBytes := by
    rw [length_bigEndian]
    omega
  obtain ⟨withCount, second⟩ := writeStreamPiece_succeeds takes countFits
  have count := (writeStreamPiece_wrote takes.records second).length
  rw [length_bigEndian] at count
  have filesFit : withCount.length + ((workspace.filesOf inventory).flatMap encodedFile).length ≤
      maxStreamWorkspaceSnapshotBytes := by
    rw [canonicalSnapshot, List.length_append, length_snapshotHeader] at fits
    omega
  obtain ⟨⟨seen, written⟩, looped, through⟩ := streamEntries_succeeds takes known portable filesFit
  have whole : Wrote taken ⟨output, [], 0⟩ (canonicalSnapshot (workspace.filesOf inventory))
      written :=
    ((writeStreamPiece_wrote takes.records first).append
      (writeStreamPiece_wrote takes.records second)).append through.wrote
  have counted := whole.length
  rw [Nat.zero_add] at counted
  refine ⟨⟨written.length, sha256 written.hashed⟩, written.output, ?_⟩
  unfold encodeWorkspaceSnapshotStreaming
  rw [entries, List.length_map]
  refine bind_eq_ok.mpr ⟨_, (encodedStreamSnapshotSize_eq_ok listed).mpr ⟨fits, rfl⟩, ?_⟩
  refine bind_eq_ok.mpr ⟨(), refuseIf_passes (Nat.not_le.mpr known.countable), ?_⟩
  refine bind_eq_ok.mpr ⟨withMagic, first, bind_eq_ok.mpr ⟨withCount, second, ?_⟩⟩
  refine bind_eq_ok.mpr ⟨(seen, written), looped, ?_⟩
  refine bind_eq_ok.mpr ⟨inventory, mapError_eq_ok.mpr listed, ?_⟩
  refine bind_eq_ok.mpr ⟨(), refuseIf_passes (not_not_intro rfl), ?_⟩
  exact bind_eq_ok.mpr ⟨(), refuseIf_passes (not_not_intro counted), rfl⟩

end Streaming

section Small

/-- Lower case as far as ASCII goes. -/
def asciiLowercase (text : String) : String := String.ofList (text.toList.map Char.toLower)

def smallWorkspace : GenerationWorkspace where
  files := [("user_data/prefs.js", [1, 2, 3]), (generationMarker, [10]), ("empty", [])]
  distinct := by decide
  apart := by decide

def smallInventory : GenerationInventory :=
  inventoryOf [("empty", []), ("user_data/prefs.js", [1, 2, 3])]

theorem small_listed : smallWorkspace.inventory = .ok smallInventory := by rfl

theorem small_portable :
    Portable asciiLowercase ((smallWorkspace.filesOf smallInventory).map Prod.fst) := by
  have names : (smallWorkspace.filesOf smallInventory).map Prod.fst =
      ["empty", "user_data/prefs.js"] := by rfl
  rw [names]
  refine ⟨?_, by decide⟩
  simp only [List.forall_mem_cons, List.not_mem_nil, false_imp_iff, implies_true, and_true]
  unfold validateWindowsRelativePath
  constructor <;> exact bind_eq_ok.mpr ⟨(), refuseIf_passes (by decide +kernel), by decide +kernel⟩

end Small

end ProfilePlatform.Snapshot
