import Mathlib.Logic.Function.Basic

/-! Finite maps as functions: a value for some keys and none for the others. -/

set_option autoImplicit false

namespace Foundation

abbrev Table (K V : Type) : Type := K → Option V

namespace Table

variable {K V : Type} [DecidableEq K] {table : Table K V} {key other : K} {value : V}

def empty : Table K V := fun _ => none

def insert (table : Table K V) (key : K) (value : V) : Table K V :=
  Function.update table key (some value)

/-- Keeps the value that is there already. -/
def insertIfAbsent (table : Table K V) (key : K) (value : V) : Table K V :=
  match table key with
  | some _ => table
  | none => table.insert key value

@[simp] theorem insert_self : table.insert key value key = some value :=
  Function.update_self ..

theorem insert_of_ne (distinct : other ≠ key) : table.insert key value other = table other :=
  Function.update_of_ne distinct ..

@[simp] theorem insert_insert {later : V} :
    (table.insert key value).insert key later = table.insert key later :=
  Function.update_idem ..

theorem insert_eq_some {found : V} :
    table.insert key value other = some found ↔
      (other = key ∧ value = found) ∨ (other ≠ key ∧ table other = some found) := by
  by_cases same : other = key
  · subst same
    simp
  · simp [insert_of_ne same, same]

/-- An insertion over a missing value takes nothing away. -/
theorem insert_absent {old : V} (absent : table key = none) (found : table other = some old) :
    table.insert key value other = some old := by
  have distinct : other ≠ key := by
    rintro rfl
    rw [absent] at found
    cases found
  rw [insert_of_ne distinct, found]

theorem insertIfAbsent_of_some {old : V} (found : table other = some old) :
    table.insertIfAbsent key value other = some old := by
  unfold insertIfAbsent
  cases present : table key with
  | some _ => exact found
  | none => exact insert_absent present found

theorem of_insertIfAbsent {found : V}
    (present : table.insertIfAbsent key value other = some found) :
    table other = some found ∨ (other = key ∧ value = found) := by
  unfold insertIfAbsent at present
  cases known : table key with
  | some _ =>
    simp only [known] at present
    exact .inl present
  | none =>
    simp only [known] at present
    rcases insert_eq_some.mp present with new | ⟨-, old⟩
    · exact .inr new
    · exact .inl old

theorem insertIfAbsent_self (agrees : ∀ old, table key = some old → old = value) :
    table.insertIfAbsent key value key = some value := by
  unfold insertIfAbsent
  cases present : table key with
  | some old =>
    rw [agrees old present] at present
    simp only [present]
  | none => exact insert_self

end Table

end Foundation
