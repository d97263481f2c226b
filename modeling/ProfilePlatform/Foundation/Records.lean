import ProfilePlatform.Foundation.Fields
import ProfilePlatform.Foundation.Lines

/-! Texts of whole lines, and lines that give a value to a key. -/

set_option autoImplicit false

namespace Foundation.Records

/-- `str::lines`. -/
def lines (text : String) : List String :=
  let pieces := text.toList.splitOn '\n'
  let ended := pieces.dropLast.map fun line =>
    if line.getLast? = some '\r' then line.dropLast else line
  (ended ++ pieces.getLast?.toList.filter fun line => !line.isEmpty).map String.ofList

/-- `str::split_once`. -/
def splitOnce (separator : Char) (text : String) : Option (String × String) :=
  if separator ∈ text.toList then
    let front := text.toList.takeWhile (· ≠ separator)
    some (String.ofList front, String.ofList (text.toList.drop (front.length + 1)))
  else none

/-- The lines, each with its line break. -/
def unlines (lines : List String) : String := String.join (lines.map fun line => line ++ "\n")

section Lines

@[simp] theorem toList_unlines (lines : List String) :
    (unlines lines).toList = lines.flatMap fun line => line.toList ++ ['\n'] := by
  simp [unlines, String.toList_join, List.flatMap_map]

theorem splitOn_unlines {lines : List String} (plain : ∀ line ∈ lines, '\n' ∉ line.toList) :
    (unlines lines).toList.splitOn '\n' = lines.map String.toList ++ [[]] := by
  rw [toList_unlines]
  induction lines with
  | nil => simp
  | cons line rest ih =>
    obtain ⟨first, later⟩ := List.forall_mem_cons.mp plain
    rw [List.flatMap_cons, List.append_assoc, List.singleton_append, Lines.splitOn_next first,
      ih later]
    rfl

/-- Lines without breaks in them are read back from the text of them. -/
theorem lines_unlines {lines : List String}
    (plain : ∀ line ∈ lines, '\n' ∉ line.toList ∧ '\r' ∉ line.toList) :
    Records.lines (unlines lines) = lines := by
  have kept : ∀ line ∈ lines.map String.toList,
      (if line.getLast? = some '\r' then line.dropLast else line) = line := by
    intro line member
    obtain ⟨text, listed, rfl⟩ := List.mem_map.mp member
    exact if_neg fun last => (plain text listed).2 (List.mem_of_getLast? last)
  unfold Records.lines
  dsimp only
  rw [splitOn_unlines fun line member => (plain line member).1, List.dropLast_concat,
    List.getLast?_concat, List.map_congr_left kept]
  simp [Function.comp_def]

theorem flatMap_splitOn (chars : List Char) :
    (chars.splitOn '\n').flatMap (fun line => line ++ ['\n']) = chars ++ ['\n'] := by
  induction chars using Lines.induction '\n' with
  | last line absent => rw [List.splitOn_eq_singleton absent, List.flatMap_singleton]
  | next line rest absent ih =>
    rw [Lines.splitOn_next absent, List.flatMap_cons, ih]
    simp

theorem absent_of_mem_splitOn {chars piece : List Char} (member : piece ∈ chars.splitOn '\n') :
    '\n' ∉ piece := by
  induction chars using Lines.induction '\n' with
  | last line absent =>
    rw [List.splitOn_eq_singleton absent, List.mem_singleton] at member
    exact member ▸ absent
  | next line rest absent ih =>
    rw [Lines.splitOn_next absent, List.mem_cons] at member
    rcases member with rfl | later
    · exact absent
    · exact ih later

theorem break_not_mem_lines {text line : String} (member : line ∈ lines text) :
    '\n' ∉ line.toList := by
  obtain ⟨chars, listed, rfl⟩ := List.mem_map.mp member
  rw [String.toList_ofList]
  rcases List.mem_append.mp listed with ended | last
  · obtain ⟨piece, known, rfl⟩ := List.mem_map.mp ended
    have absent := absent_of_mem_splitOn (List.mem_of_mem_dropLast known)
    split
    next => exact fun inside => absent (List.mem_of_mem_dropLast inside)
    next => exact absent
  · obtain ⟨known, -⟩ := List.mem_filter.mp last
    exact absent_of_mem_splitOn (List.mem_of_getLast? (Option.mem_toList.mp known))

/-- A text that ends in a line break is the text of its lines. -/
theorem unlines_lines {text : String} (ended : text.toList.getLast? = some '\n')
    (plain : '\r' ∉ text.toList) : unlines (lines text) = text := by
  obtain ⟨start, whole⟩ := List.getLast?_eq_some_iff.mp ended
  have pieces : text.toList.splitOn '\n' = start.splitOn '\n' ++ [[]] := by
    rw [whole, List.splitOn_append_cons_self, List.splitOn_nil]
  have kept : ∀ line ∈ start.splitOn '\n',
      (if line.getLast? = some '\r' then line.dropLast else line) = line := by
    intro line member
    refine if_neg fun last => plain ?_
    have inside : '\r' ∈ (start.splitOn '\n').flatMap fun line => line ++ ['\n'] :=
      List.mem_flatMap.mpr ⟨line, member, List.mem_append_left _ (List.mem_of_getLast? last)⟩
    rwa [flatMap_splitOn, ← whole] at inside
  refine String.toList_inj.mp ?_
  unfold lines
  dsimp only
  rw [pieces, List.dropLast_concat, List.getLast?_concat, List.map_congr_left kept, toList_unlines,
    whole]
  simp only [List.map_id', Option.toList_some, List.isEmpty_nil, Bool.not_true,
    Bool.false_eq_true, not_false_eq_true, List.filter_cons_of_neg, List.filter_nil,
    List.append_nil, List.flatMap_map, String.toList_ofList]
  exact flatMap_splitOn start

end Lines

section Keys

theorem takeWhile_front {separator : Char} {front : List Char} (absent : separator ∉ front)
    (rest : List Char) : (front ++ separator :: rest).takeWhile (· ≠ separator) = front := by
  have other : ∀ char ∈ front, decide (char ≠ separator) = true := by
    intro char member
    exact decide_eq_true fun same => absent (same ▸ member)
  rw [List.takeWhile_append_of_pos other]
  simp

/-- The key ends at the first separator, so no key holds one. -/
theorem splitOnce_eq_some {separator : Char} {text key value : String} :
    splitOnce separator text = some (key, value) ↔
      separator ∉ key.toList ∧ text.toList = key.toList ++ separator :: value.toList := by
  constructor
  · intro split
    unfold splitOnce at split
    split at split
    next member =>
      cases split
      obtain ⟨front, rest, whole, absent⟩ := List.eq_append_cons_of_mem member
      have taken : text.toList.takeWhile (· ≠ separator) = front := by
        rw [whole]
        exact takeWhile_front absent rest
      simp only [String.toList_ofList]
      rw [taken]
      exact ⟨absent, by rw [whole]; simp⟩
    next => cases split
  · rintro ⟨absent, whole⟩
    have member : separator ∈ text.toList := by simp [whole]
    unfold splitOnce
    rw [if_pos member, whole]
    dsimp only
    rw [takeWhile_front absent]
    simp

variable {K V : Type} [BEq K] [LawfulBEq K] {entries : List (K × V)} {key : K} {value : V}

/-- Among entries of different keys, the one that a lookup finds is the one that is there. -/
theorem lookup_iff_mem (distinct : (entries.map Prod.fst).Nodup) :
    entries.lookup key = some value ↔ (key, value) ∈ entries := by
  constructor
  · intro found
    obtain ⟨before, after, rfl, -⟩ := List.lookup_eq_some_iff.mp found
    simp
  · intro member
    obtain ⟨before, after, rfl⟩ := List.append_of_mem member
    refine List.lookup_eq_some_iff.mpr ⟨before, after, rfl, fun earlier listed => ?_⟩
    refine bne_iff_ne.mpr fun same => ?_
    rw [List.map_append, List.nodup_append] at distinct
    exact distinct.2.2 earlier.1 (List.mem_map_of_mem listed) key (by simp) same.symm

theorem lookup_isSome_iff_mem : (entries.lookup key).isSome = true ↔ key ∈ entries.map Prod.fst := by
  simp [List.lookup_isSome_iff]

end Keys

end Foundation.Records
