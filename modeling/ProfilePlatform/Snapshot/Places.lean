import ProfilePlatform.Snapshot.Decoding
import ProfilePlatform.Snapshot.Written

/-! Names of files that can stand side by side in a directory. -/

set_option autoImplicit false

namespace ProfilePlatform.Snapshot

open Foundation
open MaterializationRoot (newGeneration)

/-- What is a file is no directory. -/
def Files.Apart (files : Files) : Prop := ∀ file ∈ files, files.hasDirectory file.1 = false

section Names

theorem ValidPath.facts {path : String} (valid : validateWindowsRelativePath path = .ok ()) :
    (path ≠ "" ∧ (utf8Bytes path).length ≤ maxSnapshotPathBytes ∧ path ∉ refusedPaths ∧
      '\\' ∉ path.toList) ∧ ∀ part ∈ pathComponents path, validateComponent part = .ok () := by
  obtain ⟨_, admitted, components⟩ := bind_eq_ok.mp valid
  have admitted := refuseIf_eq_ok.mp admitted
  simp only [not_or] at admitted
  exact ⟨⟨admitted.1, Nat.not_lt.mp admitted.2.1, admitted.2.2.2.2.2.2, admitted.2.2.2.2.1⟩,
    forM_eq_ok.mp components⟩

/-- A name that is good on Windows is a path below the directory it is taken in. -/
theorem Normalized.of_valid {path : String} (valid : validateWindowsRelativePath path = .ok ()) :
    Normalized path := by
  obtain ⟨⟨nonempty, short, -, -⟩, components⟩ := ValidPath.facts valid
  refine ⟨fun part member => ?_, nonempty, short⟩
  have plain := refuseIf_eq_ok.mp (components part member)
  simp only [not_or] at plain
  exact ⟨plain.1, plain.2.1, plain.2.2.1⟩

theorem sorted_concat {names : List String} {name : String} (sorted : names.Pairwise (· < ·))
    (ordered : ∀ last ∈ names.getLast?, last < name) : (names ++ [name]).Pairwise (· < ·) := by
  rw [List.pairwise_append]
  refine ⟨sorted, List.pairwise_singleton _ _, fun other member _ last => ?_⟩
  rw [List.mem_singleton.mp last]
  rcases List.eq_nil_or_concat' names with rfl | ⟨front, final, rfl⟩
  · cases member
  · have below := ordered final (by simp)
    rcases List.mem_append.mp member with earlier | here
    · exact ((List.pairwise_append.mp sorted).2.2 other earlier final (by simp)).trans below
    · rw [List.mem_singleton.mp here]
      exact below

end Names

section Places

theorem Files.hasDirectory_append (files more : Files) (path : String) :
    (files ++ more).hasDirectory path = (files.hasDirectory path || more.hasDirectory path) :=
  List.any_append

theorem length_intercalate_take (pieces : List (List Char)) (depth : Nat)
    (inside : depth + 1 < pieces.length) :
    (List.intercalate ['/'] (pieces.take (depth + 1))).length <
      (List.intercalate ['/'] pieces).length := by
  induction pieces generalizing depth with
  | nil => cases inside
  | cons first rest ih =>
    have more : rest ≠ [] := by
      rintro rfl
      simp at inside
    rw [List.take_succ_cons, List.intercalate_cons_of_ne_nil more]
    cases depth with
    | zero =>
      rw [List.take_zero, List.intercalate_singleton]
      simp only [List.length_append, List.length_singleton]
      omega
    | succ depth =>
      have shorter : depth + 1 < rest.length := by
        rw [List.length_cons] at inside
        omega
      have some : rest.take (depth + 1) ≠ [] := by
        rw [ne_eq, List.take_eq_nil_iff, not_or]
        exact ⟨Nat.succ_ne_zero depth, more⟩
      rw [List.intercalate_cons_of_ne_nil some]
      simp only [List.length_append]
      have later := ih depth shorter
      omega

theorem not_mem_directories (path : String) : path ∉ directories path := by
  intro member
  obtain ⟨depth, range, same⟩ := List.mem_map.mp member
  rw [List.mem_range] at range
  have chars := congrArg String.toList same
  rw [joinComponents, pathComponents, String.toList_ofList, ← List.map_take, List.map_map] at chars
  have texts : ((String.toList ∘ String.ofList) : List Char → List Char) = id :=
    funext fun piece => String.toList_ofList
  rw [texts, List.map_id] at chars
  have shorter := length_intercalate_take (path.toList.splitOn '/') depth (by
    rw [pathComponents, List.length_map] at range
    omega)
  rw [chars, List.intercalate_splitOn] at shorter
  exact lt_irrefl _ shorter

theorem ensureDescendantDirectories_eq_ok {staging : Files} {relative : String} :
    ensureDescendantDirectories staging relative = .ok () ↔
      ∀ file ∈ staging, file.1 ∉ directories relative := by
  rw [ensureDescendantDirectories, forM_eq_ok]
  simp only [refuseIf_eq_ok, Option.not_isSome_iff_eq_none, Files.contents_eq_none]
  constructor
  · intro free file member inside
    exact free file.1 inside file member rfl
  · rintro free directory inside file member rfl
    exact free file member inside

theorem createNew_eq_ok {staging : Files} {relative : String} :
    createNew staging relative = .ok () ↔
      (∀ file ∈ staging, file.1 ≠ relative) ∧ staging.hasDirectory relative = false := by
  rw [createNew, refuseIf_eq_ok, not_or, Option.not_isSome_iff_eq_none, Files.contents_eq_none,
    Bool.not_eq_true]

theorem apart_concat {files : Files} {file : String × Bytes} :
    Files.Apart (files ++ [file]) ↔ files.Apart ∧
      (∀ other ∈ files, other.1 ∉ directories file.1) ∧ files.hasDirectory file.1 = false := by
  have last (path : String) : Files.hasDirectory [file] path = false ↔ path ∉ directories file.1 := by
    simp [Files.hasDirectory]
  unfold Files.Apart
  simp only [List.forall_mem_append, List.forall_mem_singleton, Files.hasDirectory_append,
    Bool.or_eq_false_iff, last]
  constructor
  · rintro ⟨before, here⟩
    exact ⟨fun other member => (before other member).1, fun other member => (before other member).2,
      here.1⟩
  · rintro ⟨before, through, here⟩
    exact ⟨fun other member => ⟨before other member, through other member⟩, here, not_mem_directories file.1⟩

theorem apart_newGeneration : newGeneration.Apart := by
  intro file member
  rw [List.mem_singleton.mp member]
  decide

end Places

section Placeable

variable {toLowercase : String → String}

/-- Files that can be placeable out one after the other. -/
structure Placeable (toLowercase : String → String) (files : Files) : Prop where
  portable : Portable toLowercase (files.map Prod.fst)
  sorted : (files.map Prod.fst).Pairwise (· < ·)
  apart : (newGeneration ++ files).Apart

theorem Placeable.concat {gone : Files} {file : String × Bytes} (placeable : Placeable toLowercase gone)
    (admits : (SeenPaths.of toLowercase (gone.map Prod.fst)).accept toLowercase .unsafePath file.1 =
      .ok (SeenPaths.of toLowercase (gone.map Prod.fst ++ [file.1])))
    (passes : ensureDescendantDirectories (newGeneration ++ gone) file.1 = .ok ())
    (creates : createNew (newGeneration ++ gone) file.1 = .ok ()) :
    Placeable toLowercase (gone ++ [file]) := by
  obtain ⟨valid, ordered, fresh, -⟩ := SeenPaths.accept_eq_ok.mp admits
  refine ⟨?_, ?_, ?_⟩
  · rw [List.map_append, List.map_singleton]
    exact placeable.portable.concat valid fresh
  · rw [List.map_append, List.map_singleton]
    exact sorted_concat placeable.sorted ordered
  · rw [← List.append_assoc, apart_concat]
    exact ⟨placeable.apart, ensureDescendantDirectories_eq_ok.mp passes, (createNew_eq_ok.mp creates).2⟩

theorem Placeable.next {files gone later : Files} {file : String × Bytes}
    (placeable : Placeable toLowercase files) (same : files = gone ++ file :: later) :
    Normalized file.1 ∧
      (SeenPaths.of toLowercase (gone.map Prod.fst)).accept toLowercase .unsafePath file.1 =
        .ok (SeenPaths.of toLowercase (gone.map Prod.fst ++ [file.1])) ∧
      ensureDescendantDirectories (newGeneration ++ gone) file.1 = .ok () ∧
      createNew (newGeneration ++ gone) file.1 = .ok () := by
  have names : files.map Prod.fst = gone.map Prod.fst ++ file.1 :: later.map Prod.fst := by
    rw [same, List.map_append, List.map_cons]
  have here : file.1 ∈ files.map Prod.fst := by
    rw [names]
    simp
  have valid := placeable.portable.valid file.1 here
  have sorted := placeable.sorted
  rw [names, List.pairwise_append] at sorted
  have apart : Files.Apart ((newGeneration ++ gone) ++ file :: later) := by
    rw [List.append_assoc, ← same]
    exact placeable.apart
  have present : file ∈ (newGeneration ++ gone) ++ file :: later :=
    List.mem_append_right _ List.mem_cons_self
  refine ⟨.of_valid valid, SeenPaths.admits placeable.portable placeable.sorted names,
    ensureDescendantDirectories_eq_ok.mpr fun other member inside => ?_,
    createNew_eq_ok.mpr ⟨fun other member taken => ?_, ?_⟩⟩
  · have below : Files.hasDirectory ((newGeneration ++ gone) ++ file :: later) other.1 = true :=
      List.any_eq_true.mpr ⟨file, present, by simpa using inside⟩
    rw [apart other (List.mem_append_left _ member)] at below
    cases below
  · rcases List.mem_append.mp member with marker | earlier
    · rw [List.mem_singleton.mp marker] at taken
      refine (ValidPath.facts valid).1.2.2.1 ?_
      rw [← taken]
      exact List.mem_cons_self
    · have before := sorted.2.2 other.1 (List.mem_map_of_mem earlier) file.1 List.mem_cons_self
      exact lt_irrefl _ (taken ▸ before)
  · have none := apart file present
    rw [Files.hasDirectory_append, Bool.or_eq_false_iff] at none
    exact none.1

end Placeable

end ProfilePlatform.Snapshot
