import Mathlib

/-! Lines: a sequence cut at a separator, and where the lines of interest begin. -/

set_option autoImplicit false

namespace Foundation.Lines

variable {A : Type}

section Offset

variable {marked : List A → Bool}

/-- How far into the sequence its first marked line begins. -/
def offset (marked : List A → Bool) : List (List A) → Option Nat
  | [] => none
  | line :: rest => if marked line then some 0 else (offset marked rest).map (· + (line.length + 1))

/-- The room lines take with a separator behind each. -/
def room (lines : List (List A)) : Nat := (lines.map fun line => line.length + 1).sum

theorem offset_append {front : List (List A)} (unmarked : ∀ line ∈ front, marked line = false)
    (back : List (List A)) :
    offset marked (front ++ back) = (offset marked back).map (· + room front) := by
  induction front with
  | nil => simp [room]
  | cons line rest ih =>
    rw [List.cons_append, offset, unmarked line List.mem_cons_self,
      ih fun line member => unmarked line (List.mem_cons_of_mem _ member)]
    simp only [Bool.false_eq_true, if_false, Option.map_map]
    congr 1
    funext start
    simp only [Function.comp_apply, room, List.map_cons, List.sum_cons]
    omega

theorem offset_lt {front : List (List A)} {line : List A} (member : line ∈ front)
    (found : marked line = true) (back : List (List A)) :
    ∃ start, offset marked (front ++ back) = some start ∧ start < room front := by
  induction front with
  | nil => cases member
  | cons first rest ih =>
    simp only [List.cons_append, offset, room, List.map_cons, List.sum_cons]
    split
    · exact ⟨0, rfl, by omega⟩
    next other =>
      rcases List.mem_cons.mp member with rfl | later
      · exact absurd found other
      · obtain ⟨start, begins, bounded⟩ := ih later
        rw [begins]
        refine ⟨start + (first.length + 1), rfl, ?_⟩
        rw [room] at bounded
        omega

end Offset

variable {separator : A}

/-- The place where a new line begins: the very start, or right after a separator. -/
def AtLineStart (separator : A) (before : List A) : Prop :=
  before = [] ∨ ∃ start, before = start ++ [separator]

/-- A mark without a separator that begins a sequence begins its first line. -/
theorem mark_prefix {mark line rest : List A} (plain : separator ∉ mark)
    (begins : mark <+: line ++ separator :: rest) : mark <+: line := by
  rcases Nat.lt_or_ge line.length mark.length with longer | fits
  · have inside : line ++ [separator] <+: mark := by
      have front : line ++ [separator] <+: line ++ separator :: rest := ⟨rest, by simp⟩
      exact List.prefix_of_prefix_length_le front begins (by simpa using Nat.succ_le_of_lt longer)
    exact absurd (inside.subset (by simp)) plain
  · exact List.prefix_of_prefix_length_le begins (List.prefix_append _ _) fits

variable [DecidableEq A]

/-- A sequence is one line, or its first line with the rest behind a separator. -/
theorem cut (separator : A) (bytes : List A) :
    (separator ∉ bytes ∧ bytes.splitOn separator = [bytes]) ∨
      ∃ line rest, separator ∉ line ∧ bytes = line ++ separator :: rest ∧
        bytes.splitOn separator = line :: rest.splitOn separator := by
  by_cases member : separator ∈ bytes
  · obtain ⟨line, rest, split, absent⟩ := List.eq_append_cons_of_mem member
    refine .inr ⟨line, rest, absent, split, ?_⟩
    rw [split, List.splitOn_append_cons_self, List.splitOn_eq_singleton absent]
    rfl
  · exact .inl ⟨member, List.splitOn_eq_singleton member⟩

/-- Induction on the lines of a sequence. -/
theorem induction (separator : A) {motive : List A → Prop}
    (last : ∀ line, separator ∉ line → motive line)
    (next : ∀ line rest, separator ∉ line → motive rest → motive (line ++ separator :: rest))
    (bytes : List A) : motive bytes := by
  induction size : bytes.length using Nat.strongRecOn generalizing bytes with
  | ind size ih =>
    rcases cut separator bytes with ⟨absent, -⟩ | ⟨line, rest, absent, split, -⟩
    · exact last bytes absent
    · rw [split]
      refine next line rest absent (ih rest.length ?_ rest rfl)
      rw [← size, split, List.length_append, List.length_cons]
      omega

theorem splitOn_next {line rest : List A} (absent : separator ∉ line) :
    (line ++ separator :: rest).splitOn separator = line :: rest.splitOn separator := by
  rw [List.splitOn_append_cons_self, List.splitOn_eq_singleton absent]
  rfl

/-- Some line begins with the mark exactly when the mark stands where a line begins. -/
theorem exists_marked_iff {mark : List A} (plain : separator ∉ mark) (bytes : List A) :
    (∃ line ∈ bytes.splitOn separator, mark <+: line) ↔
      ∃ before after, bytes = before ++ (mark ++ after) ∧ AtLineStart separator before := by
  constructor
  · induction bytes using induction separator with
    | last line absent =>
      rintro ⟨found, member, rest, rfl⟩
      rw [List.splitOn_eq_singleton absent, List.mem_singleton] at member
      exact ⟨[], rest, member.symm, .inl rfl⟩
    | next line rest absent ih =>
      rintro ⟨found, member, begins⟩
      rw [splitOn_next absent] at member
      rcases List.mem_cons.mp member with rfl | later
      · obtain ⟨after, rfl⟩ := begins
        exact ⟨[], after ++ separator :: rest, by simp, .inl rfl⟩
      · obtain ⟨before, after, rfl, start⟩ := ih ⟨found, later, begins⟩
        refine ⟨line ++ separator :: before, after, by simp, .inr ?_⟩
        rcases start with rfl | ⟨start, rfl⟩
        · exact ⟨line, rfl⟩
        · exact ⟨line ++ separator :: start, by simp⟩
  · rintro ⟨before, after, rfl, start⟩
    have first : ∃ line ∈ (mark ++ after).splitOn separator, mark <+: line := by
      rcases cut separator (mark ++ after) with ⟨-, whole⟩ | ⟨line, rest, -, split, lines⟩
      · exact ⟨_, whole ▸ List.mem_cons_self, List.prefix_append _ _⟩
      · exact ⟨line, lines ▸ List.mem_cons_self,
          mark_prefix plain (split ▸ List.prefix_append mark after)⟩
    rcases start with rfl | ⟨start, rfl⟩
    · exact first
    · obtain ⟨line, member, begins⟩ := first
      refine ⟨line, ?_, begins⟩
      rw [List.append_assoc, List.singleton_append, List.splitOn_append_cons_self]
      exact List.mem_append_right _ member

theorem room_splitOn (separator : A) (bytes : List A) :
    room (bytes.splitOn separator) = bytes.length + 1 := by
  induction bytes using induction separator with
  | last line absent => simp [room, List.splitOn_eq_singleton absent]
  | next line rest absent ih =>
    rw [splitOn_next absent, room, List.map_cons, List.sum_cons, ← room, ih]
    simp only [List.length_append, List.length_cons]
    omega

/-- Whole lines in front of a sequence are lines of their own. -/
theorem splitOn_whole_lines {before : List A} (start : AtLineStart separator before) :
    ∃ front, before.splitOn separator = front ++ [[]] ∧ room front = before.length ∧
      ∀ rest, (before ++ rest).splitOn separator = front ++ rest.splitOn separator := by
  rcases start with rfl | ⟨lines, rfl⟩
  · exact ⟨[], by simp, rfl, fun rest => rfl⟩
  · refine ⟨lines.splitOn separator, ?_, ?_, fun rest => ?_⟩
    · rw [List.splitOn_append_cons_self, List.splitOn_nil]
    · rw [room_splitOn, List.length_append, List.length_singleton]
    · rw [List.append_assoc, List.singleton_append, List.splitOn_append_cons_self]

end Foundation.Lines
