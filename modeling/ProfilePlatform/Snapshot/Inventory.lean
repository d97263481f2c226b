import ProfilePlatform.Snapshot.Workspace

/-! What an accepted inventory says: the saved files of the workspace in the order of
their paths, and nothing else.
-/

set_option autoImplicit false

namespace ProfilePlatform.Snapshot

open Foundation

section Paths

structure Normalized (path : String) : Prop where
  plain : ∀ part ∈ pathComponents path, part ≠ "" ∧ part ≠ "." ∧ part ≠ ".."
  nonempty : path ≠ ""
  short : (utf8Bytes path).length ≤ maxRelativePathBytes

theorem normalizedRelativePath_eq_ok {relative path : String} :
    normalizedRelativePath relative = .ok path ↔ path = relative ∧ Normalized relative := by
  unfold normalizedRelativePath
  split
  next bad =>
    constructor
    · intro impossible
      cases impossible
    · rintro ⟨-, normalized⟩
      obtain ⟨part, member, wrong⟩ := List.any_eq_true.mp bad
      have plain := normalized.plain part member
      simp [plain.1, plain.2.1, plain.2.2] at wrong
  next plain =>
    split
    next bad =>
      constructor
      · intro impossible
        cases impossible
      · rintro ⟨-, normalized⟩
        have short := Nat.not_lt.mpr normalized.short
        simp [normalized.nonempty, short] at bad
    next sized =>
      simp only [Bool.or_eq_true, decide_eq_true_eq, not_or, Nat.not_lt] at sized
      constructor
      · rintro ⟨⟩
        refine ⟨rfl, ?_, sized.1, sized.2⟩
        intro part member
        refine ⟨?_, ?_, ?_⟩ <;> rintro rfl <;>
          exact plain (List.any_eq_true.mpr ⟨_, member, by simp⟩)
      · rintro ⟨rfl, -⟩
        rfl

theorem visitDirectory_eq_ok {path : String} :
    visitDirectory path = .ok () ↔
      Normalized path ∧ isEphemeralBrowserLock path = false ∧ isBridgeControlFile path = false := by
  unfold visitDirectory
  rw [bind_eq_ok]
  constructor
  · rintro ⟨_, normal, admitted⟩
    obtain ⟨rfl, normalized⟩ := normalizedRelativePath_eq_ok.mp normal
    have apart := refuseIf_eq_ok.mp admitted
    rw [not_or] at apart
    exact ⟨normalized, Bool.eq_false_iff.mpr apart.1, Bool.eq_false_iff.mpr apart.2⟩
  · rintro ⟨normalized, noLock, noControl⟩
    exact ⟨path, normalizedRelativePath_eq_ok.mpr ⟨rfl, normalized⟩,
      refuseIf_passes (by simp [noLock, noControl])⟩

end Paths

/-- Neither a lock of the browser nor a control file of the bridge. -/
def isSaved (file : String × Bytes) : Bool :=
  !(isEphemeralBrowserLock file.1 || isBridgeControlFile file.1)

def InventoryEntry.of (file : String × Bytes) : InventoryEntry :=
  ⟨file.1, file.2.length, fnvUpdate fnvOffsetBasis file.2⟩

/-- The walk comes through to the file. -/
structure Walks (file : String × Bytes) : Prop where
  directories : ∀ directory ∈ directories file.1, visitDirectory directory = .ok ()
  normalized : Normalized file.1

theorem visitFile_eq_ok {file : String × Bytes} {visited : Option InventoryEntry} :
    visitFile file.1 file.2 = .ok visited ↔
      Normalized file.1 ∧ visited = if isSaved file then some (.of file) else none := by
  unfold visitFile
  rw [bind_eq_ok]
  constructor
  · rintro ⟨_, normal, found⟩
    obtain ⟨rfl, normalized⟩ := normalizedRelativePath_eq_ok.mp normal
    refine ⟨normalized, ?_⟩
    split at found
    next passed => cases found; simp [isSaved, passed]
    next saved => cases found; simp [isSaved, saved, InventoryEntry.of]
  · rintro ⟨normalized, rfl⟩
    refine ⟨file.1, normalizedRelativePath_eq_ok.mpr ⟨rfl, normalized⟩, ?_⟩
    split
    next passed => simp [isSaved, passed]; rfl
    next saved => simp [isSaved, saved]; rfl

theorem collectInventory_eq_ok {entries collected : List InventoryEntry} {files : Files}
    (few : entries.length ≤ maxInventoryFiles) :
    collectInventory entries files = .ok collected ↔
      (∀ file ∈ files, Walks file) ∧
        entries.length + (files.filter isSaved).length ≤ maxInventoryFiles ∧
        collected = entries ++ (files.filter isSaved).map .of := by
  induction files generalizing entries with
  | nil =>
    simp only [collectInventory, List.filter_nil, List.map_nil, List.append_nil, List.length_nil]
    constructor
    · rintro ⟨⟩
      exact ⟨by simp, few, rfl⟩
    · rintro ⟨-, -, rfl⟩
      rfl
  | cons file rest ih =>
    rw [collectInventory, bind_eq_ok]
    constructor
    · rintro ⟨⟨⟩, walked, more⟩
      obtain ⟨visited, visits, later⟩ := bind_eq_ok.mp more
      obtain ⟨normalized, rfl⟩ := visitFile_eq_ok.mp visits
      have walks : Walks file := ⟨forM_eq_ok.mp walked, normalized⟩
      cases saved : isSaved file with
      | false =>
        simp only [saved, Bool.false_eq_true, if_false] at later
        obtain ⟨all, bounded, same⟩ := (ih few).mp later
        rw [List.filter_cons_of_neg (by simp [saved])]
        exact ⟨List.forall_mem_cons.mpr ⟨walks, all⟩, bounded, same⟩
      | true =>
        simp only [saved, if_true] at later
        obtain ⟨⟨⟩, room, later⟩ := bind_eq_ok.mp later
        have room := refuseIf_eq_ok.mp room
        have next : (entries ++ [InventoryEntry.of file]).length ≤ maxInventoryFiles := by
          rw [List.length_append, List.length_singleton]
          omega
        obtain ⟨all, bounded, same⟩ := (ih next).mp later
        rw [List.filter_cons_of_pos saved, List.length_cons, List.map_cons, List.append_cons]
        refine ⟨List.forall_mem_cons.mpr ⟨walks, all⟩, ?_, same⟩
        rw [List.length_append, List.length_singleton] at bounded
        omega
    · rintro ⟨all, bounded, rfl⟩
      obtain ⟨walks, others⟩ := List.forall_mem_cons.mp all
      refine ⟨(), forM_eq_ok.mpr walks.directories, ?_⟩
      refine bind_eq_ok.mpr ⟨_, visitFile_eq_ok.mpr ⟨walks.normalized, rfl⟩, ?_⟩
      cases saved : isSaved file with
      | false =>
        simp only [Bool.false_eq_true, if_false]
        have rejected : ¬isSaved file = true := by simp [saved]
        rw [List.filter_cons_of_neg rejected] at bounded
        exact (ih few).mpr ⟨others, bounded, by rw [List.filter_cons_of_neg rejected]⟩
      | true =>
        simp only [if_true]
        rw [List.filter_cons_of_pos saved, List.length_cons] at bounded
        have next : (entries ++ [InventoryEntry.of file]).length +
            (rest.filter isSaved).length ≤ maxInventoryFiles := by
          rw [List.length_append, List.length_singleton]
          omega
        refine bind_eq_ok.mpr ⟨(), refuseIf_passes (by omega), ?_⟩
        refine (ih (Nat.le_trans (Nat.le_add_right _ _) next)).mpr ⟨others, next, ?_⟩
        rw [List.filter_cons_of_pos saved, List.map_cons, List.append_cons]

section Listing

def byPath (left right : String × Bytes) : Prop := left.1 ≤ right.1

instance : DecidableRel byPath := fun left right => inferInstanceAs (Decidable (left.1 ≤ right.1))

instance : Std.Total byPath := ⟨fun left right => le_total left.1 right.1⟩

instance : IsTrans (String × Bytes) byPath := ⟨fun _ _ _ => le_trans⟩

/-- The files an inventory lists, in its order. -/
def savedFiles (files : Files) : Files := (files.filter isSaved).insertionSort byPath

def contentBytes (files : Files) : Nat := (files.map fun file => file.2.length).sum

def inventoryOf (files : Files) : GenerationInventory :=
  let entries := files.map InventoryEntry.of
  ⟨entries, contentBytes files, entries.foldl inventoryEntryDigest fnvOffsetBasis⟩

theorem mem_savedFiles {files : Files} {file : String × Bytes} :
    file ∈ savedFiles files ↔ file ∈ files ∧ isSaved file := by
  rw [savedFiles, List.mem_insertionSort, List.mem_filter]

theorem length_savedFiles (files : Files) :
    (savedFiles files).length = (files.filter isSaved).length := List.length_insertionSort ..

theorem insertionSort_entries (files : Files) :
    ((files.filter isSaved).map InventoryEntry.of).insertionSort
        (fun left right => left.relativePath ≤ right.relativePath) =
      (savedFiles files).map InventoryEntry.of := by
  refine (List.map_insertionSort byPath _ InventoryEntry.of _ ?_).symm
  intro left _ right _
  exact Iff.rfl

theorem totalBytes_eq_ok {files : Files} {total sum : Nat} (fits : total < u64Limit) :
    totalBytes total (files.map InventoryEntry.of) = .ok sum ↔
      sum = total + contentBytes files ∧ total + contentBytes files < u64Limit := by
  induction files generalizing total with
  | nil =>
    simp only [List.map_nil, totalBytes, contentBytes, List.sum_nil, Nat.add_zero]
    constructor
    · rintro ⟨⟩
      exact ⟨rfl, fits⟩
    · rintro ⟨rfl, -⟩
      rfl
  | cons file rest ih =>
    have grown : contentBytes (file :: rest) = file.2.length + contentBytes rest := by
      rw [contentBytes, List.map_cons, List.sum_cons, contentBytes]
    rw [List.map_cons, totalBytes, grown]
    split
    next overflow =>
      have overflow := checkedAdd_eq_none.mp overflow
      simp only [InventoryEntry.of] at overflow
      constructor
      · intro impossible
        cases impossible
      · rintro ⟨-, small⟩
        omega
    next next added =>
      obtain ⟨rfl, small⟩ := checkedAdd_eq_some.mp added
      rw [ih small]
      simp only [InventoryEntry.of, Nat.add_assoc]

theorem buildInventory_eq_ok {files : Files} {inventory : GenerationInventory} :
    buildInventory files = .ok inventory ↔
      (∀ file ∈ files, Walks file) ∧ (savedFiles files).length ≤ maxInventoryFiles ∧
        contentBytes (savedFiles files) < u64Limit ∧ inventory = inventoryOf (savedFiles files) := by
  have positive : 0 < u64Limit := by decide
  unfold buildInventory
  rw [bind_eq_ok]
  constructor
  · rintro ⟨_, collected, sorted⟩
    obtain ⟨walks, bounded, rfl⟩ := (collectInventory_eq_ok (Nat.zero_le _)).mp collected
    simp only [List.nil_append, insertionSort_entries] at sorted
    obtain ⟨⟨⟩, -, summed⟩ := bind_eq_ok.mp sorted
    obtain ⟨sum, total, made⟩ := bind_eq_ok.mp summed
    obtain ⟨rfl, small⟩ := (totalBytes_eq_ok positive).mp total
    rw [Nat.zero_add] at small
    cases made
    refine ⟨walks, ?_, small, by rw [inventoryOf, Nat.zero_add]⟩
    rw [length_savedFiles]
    simpa using bounded
  · rintro ⟨walks, few, small, rfl⟩
    have bounded : ([] : List InventoryEntry).length + (files.filter isSaved).length ≤
        maxInventoryFiles := by
      rw [← length_savedFiles]
      simpa using few
    refine ⟨_, (collectInventory_eq_ok (Nat.zero_le _)).mpr ⟨walks, bounded, rfl⟩, ?_⟩
    simp only [List.nil_append, insertionSort_entries]
    refine bind_eq_ok.mpr ⟨(), refuseIf_passes (by simpa using few), ?_⟩
    rw [← Nat.zero_add (contentBytes _)] at small
    refine bind_eq_ok.mpr ⟨_, (totalBytes_eq_ok positive).mpr ⟨rfl, small⟩, ?_⟩
    rw [Nat.zero_add]
    rfl

end Listing

theorem Files.contents_of_mem {files : Files} {file : String × Bytes}
    (distinct : (files.map Prod.fst).Nodup) (member : file ∈ files) :
    files.contents file.1 = some file.2 := by
  induction files with
  | nil => cases member
  | cons other rest ih =>
    rw [List.map_cons, List.nodup_cons] at distinct
    rcases List.mem_cons.mp member with rfl | later
    · simp [Files.contents]
    · have apart : other.1 ≠ file.1 := fun same => distinct.1 (same ▸ List.mem_map_of_mem later)
      have found := ih distinct.2 later
      simpa [Files.contents, apart] using found

theorem Files.contents_eq_none {files : Files} {path : String} :
    files.contents path = none ↔ ∀ file ∈ files, file.1 ≠ path := by
  simp [Files.contents]

namespace GenerationWorkspace

variable (workspace : GenerationWorkspace)

/-- The paths of the inventory, each with what the workspace holds there. -/
def filesOf (inventory : GenerationInventory) : Files :=
  inventory.entries.map fun entry =>
    (entry.relativePath, (workspace.files.contents entry.relativePath).getD [])

variable {workspace} {inventory : GenerationInventory} {file : String × Bytes}

theorem contents_of_mem (member : file ∈ workspace.files) :
    workspace.files.contents file.1 = some file.2 :=
  Files.contents_of_mem workspace.distinct member

theorem savedFiles_sorted (workspace : GenerationWorkspace) :
    (savedFiles workspace.files).Pairwise fun left right => left.1 < right.1 := by
  have ordered : (savedFiles workspace.files).Pairwise byPath := List.pairwise_insertionSort _ _
  have sublist : ((workspace.files.filter isSaved).map Prod.fst).Nodup :=
    workspace.distinct.sublist (List.filter_sublist.map Prod.fst)
  have distinct : ((savedFiles workspace.files).map Prod.fst).Nodup :=
    ((List.perm_insertionSort _ _).map Prod.fst).nodup_iff.mpr sublist
  rw [List.Nodup, List.pairwise_map] at distinct
  exact (ordered.and distinct).imp fun both => lt_of_le_of_ne both.1 both.2

theorem filesOf_eq (listed : workspace.inventory = .ok inventory) :
    workspace.filesOf inventory = savedFiles workspace.files := by
  obtain ⟨-, -, -, rfl⟩ := buildInventory_eq_ok.mp listed
  rw [filesOf, inventoryOf, List.map_map]
  refine (List.map_congr_left fun file member => ?_).trans (List.map_id _)
  have held := contents_of_mem (mem_savedFiles.mp member).1
  simp only [Function.comp_apply, InventoryEntry.of, held, Option.getD_some, id]

end GenerationWorkspace

end ProfilePlatform.Snapshot
