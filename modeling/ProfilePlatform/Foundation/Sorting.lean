import Mathlib.Data.List.Sort
import Mathlib.Order.Lattice

/-! Items sorted by a key, and how keys that occur twice show in the sorted list. -/

set_option autoImplicit false

namespace Foundation

variable {A K : Type} [LinearOrder K]

/-- A stable sort. -/
def sortBy (key : A → K) (items : List A) : List A :=
  items.insertionSort fun left right => key left ≤ key right

/-- Two neighbours are equal. -/
def adjacentEqual : List K → Bool
  | first :: second :: rest => first == second || adjacentEqual (second :: rest)
  | _ => false

variable {key : A → K} {items others : List A}

theorem perm_sortBy (key : A → K) (items : List A) : (sortBy key items).Perm items :=
  List.perm_insertionSort _ items

theorem sorted_sortBy (key : A → K) (items : List A) :
    (sortBy key items).Pairwise fun left right => key left ≤ key right := by
  have : Std.Total fun left right : A => key left ≤ key right := ⟨fun a b => le_total _ _⟩
  have : IsTrans A fun left right : A => key left ≤ key right := ⟨fun _ _ _ => le_trans⟩
  exact List.pairwise_insertionSort _ items

/-- Sorted keys without equal neighbours are all different. -/
theorem nodup_of_sorted {keys : List K} (sorted : keys.Pairwise (· ≤ ·))
    (apart : adjacentEqual keys = false) : keys.Nodup := by
  induction keys with
  | nil => exact List.nodup_nil
  | cons first rest ih =>
    cases rest with
    | nil => exact List.nodup_singleton first
    | cons second rest =>
      rw [adjacentEqual, Bool.or_eq_false_iff, beq_eq_false_iff_ne] at apart
      obtain ⟨least, later⟩ := List.pairwise_cons.mp sorted
      refine List.nodup_cons.mpr ⟨fun member => ?_, ih later apart.2⟩
      have second_least := least second List.mem_cons_self
      rcases List.mem_cons.mp member with same | further
      · exact apart.1 same
      · have between := (List.pairwise_cons.mp later).1 first further
        exact apart.1 (le_antisymm second_least between)

theorem not_adjacentEqual_of_nodup {keys : List K} (distinct : keys.Nodup) :
    adjacentEqual keys = false := by
  induction keys with
  | nil => rfl
  | cons first rest ih =>
    cases rest with
    | nil => rfl
    | cons second rest =>
      obtain ⟨absent, later⟩ := List.nodup_cons.mp distinct
      rw [adjacentEqual, ih later, Bool.or_false, beq_eq_false_iff_ne]
      exact fun same => absent (same ▸ List.mem_cons_self)

theorem adjacentEqual_sortBy :
    adjacentEqual ((sortBy key items).map key) = false ↔ (items.map key).Nodup := by
  have perm := (perm_sortBy key items).map key
  rw [← perm.nodup_iff]
  refine ⟨nodup_of_sorted ?_, not_adjacentEqual_of_nodup⟩
  exact List.pairwise_map.mpr (sorted_sortBy key items)

/-- Items of different keys are sorted in one way. -/
theorem sortBy_perm (perm : items.Perm others) (distinct : (items.map key).Nodup) :
    sortBy key items = sortBy key others := by
  have both : (sortBy key items).Perm (sortBy key others) :=
    (perm_sortBy key items).trans (perm.trans (perm_sortBy key others).symm)
  refine both.eq_of_pairwise ?_ (sorted_sortBy key items) (sorted_sortBy key others)
  intro left right inLeft inRight below above
  have listed := (perm_sortBy key items).mem_iff.mp inLeft
  have opposite := perm.mem_iff.mpr ((perm_sortBy key others).mem_iff.mp inRight)
  exact List.inj_on_of_nodup_map distinct listed opposite (le_antisymm below above)

/-- Where the key tells items apart, no two of them need to be different. -/
theorem sortBy_perm_of_injective (injective : Function.Injective key)
    (perm : items.Perm others) : sortBy key items = sortBy key others := by
  have both : (sortBy key items).Perm (sortBy key others) :=
    (perm_sortBy key items).trans (perm.trans (perm_sortBy key others).symm)
  exact both.eq_of_pairwise (fun _ _ _ _ below above => injective (le_antisymm below above))
    (sorted_sortBy key items) (sorted_sortBy key others)

theorem map_sortBy {B : Type} (convert : A → B) (other : B → K)
    (keeps : ∀ item, other (convert item) = key item) :
    (sortBy key items).map convert = sortBy other (items.map convert) := by
  refine List.map_insertionSort _ _ convert items fun left _ right _ => ?_
  rw [keeps, keeps]

end Foundation
