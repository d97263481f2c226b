import Mathlib.Data.List.Sort
import Mathlib.Order.Basic

/-! Finite maps as their entries in the order of the keys. A map says nothing of the order in which
it was filled.
-/

set_option autoImplicit false

namespace Foundation

/-- Entries in ascending order of their keys, so that each key stands once. -/
structure OrderedMap (K V : Type) [LinearOrder K] where
  entries : List (K × V)
  ascending : entries.Pairwise fun left right => left.1 < right.1

namespace OrderedMap

variable {K V : Type} [LinearOrder K]

@[ext] theorem ext {map other : OrderedMap K V} (same : map.entries = other.entries) : map = other := by
  cases map
  cases other
  cases same
  rfl

def empty : OrderedMap K V := ⟨[], List.Pairwise.nil⟩

def keys (map : OrderedMap K V) : List K := map.entries.map Prod.fst

def values (map : OrderedMap K V) : List V := map.entries.map Prod.snd

def get? (map : OrderedMap K V) (key : K) : Option V :=
  (map.entries.find? fun entry => entry.1 = key).map Prod.snd

/-- The entry at its place, unless the key is there. -/
def place (key : K) (value : V) : List (K × V) → Option (List (K × V))
  | [] => some [(key, value)]
  | entry :: rest =>
    if key < entry.1 then some ((key, value) :: entry :: rest)
    else if key = entry.1 then none
    else (place key value rest).map (entry :: ·)

section Placing

variable {key : K} {value : V} {entries placed : List (K × V)}

theorem place_perm (done : place key value entries = some placed) :
    placed.Perm ((key, value) :: entries) := by
  induction entries generalizing placed with
  | nil =>
    cases done
    exact List.Perm.refl _
  | cons entry rest ih =>
    rw [place] at done
    split at done
    · cases done
      exact List.Perm.refl _
    · split at done
      · cases done
      · obtain ⟨later, further, rfl⟩ := Option.map_eq_some_iff.mp done
        exact ((ih further).cons entry).trans (List.Perm.swap _ _ _)

theorem place_ascending (ascending : entries.Pairwise fun left right => left.1 < right.1)
    (done : place key value entries = some placed) :
    placed.Pairwise fun left right => left.1 < right.1 := by
  induction entries generalizing placed with
  | nil =>
    cases done
    exact List.pairwise_singleton _ _
  | cons entry rest ih =>
    obtain ⟨first, later⟩ := List.pairwise_cons.mp ascending
    rw [place] at done
    split at done
    next below =>
      cases done
      refine List.pairwise_cons.mpr ⟨?_, ascending⟩
      intro other member
      rcases List.mem_cons.mp member with rfl | further
      · exact below
      · exact below.trans (first other further)
    next notBelow =>
      split at done
      · cases done
      next apart =>
        obtain ⟨between, found, rfl⟩ := Option.map_eq_some_iff.mp done
        refine List.pairwise_cons.mpr ⟨?_, ih later found⟩
        intro other member
        rcases List.mem_cons.mp ((place_perm found).mem_iff.mp member) with rfl | further
        · exact lt_of_le_of_ne (not_lt.mp notBelow) (Ne.symm apart)
        · exact first other further

theorem place_eq_none : place key value entries = none → key ∈ entries.map Prod.fst := by
  induction entries with
  | nil => exact nofun
  | cons entry rest ih =>
    intro refused
    rw [place] at refused
    split at refused
    · cases refused
    · split at refused
      next same => exact List.mem_cons.mpr (.inl same)
      next => exact List.mem_cons_of_mem _ (ih (Option.map_eq_none_iff.mp refused))

end Placing

/-- The map with one more entry, unless the key is there. -/
def insertNew (map : OrderedMap K V) (key : K) (value : V) : Option (OrderedMap K V) :=
  match done : place key value map.entries with
  | some entries => some ⟨entries, place_ascending map.ascending done⟩
  | none => none

variable {map after : OrderedMap K V} {key : K} {value : V}

theorem keys_nodup (map : OrderedMap K V) : map.keys.Nodup := by
  rw [keys, List.Nodup, List.pairwise_map]
  exact map.ascending.imp ne_of_lt

theorem perm_of_insertNew (done : map.insertNew key value = some after) :
    after.entries.Perm ((key, value) :: map.entries) := by
  unfold insertNew at done
  split at done
  next entries placed =>
    cases done
    exact place_perm placed
  next => cases done

theorem insertNew_eq_none : map.insertNew key value = none ↔ key ∈ map.keys := by
  constructor
  · intro refused
    unfold insertNew at refused
    split at refused
    · cases refused
    · exact place_eq_none (by assumption)
  · intro member
    rw [← Option.not_isSome_iff_eq_none, Option.isSome_iff_exists]
    rintro ⟨after, done⟩
    have distinct := after.keys_nodup
    rw [keys, ((perm_of_insertNew done).map Prod.fst).nodup_iff] at distinct
    exact (List.nodup_cons.mp distinct).1 member

/-- The entries alone make the map. -/
theorem eq_of_perm {other : OrderedMap K V} (perm : map.entries.Perm other.entries) : map = other := by
  refine ext (perm.eq_of_pairwise ?_ map.ascending other.ascending)
  intro left right _ _ below above
  exact absurd below above.asymm

theorem get?_eq_some : map.get? key = some value ↔ (key, value) ∈ map.entries := by
  unfold get?
  constructor
  · intro found
    obtain ⟨entry, first, rfl⟩ := Option.map_eq_some_iff.mp found
    have same : entry.1 = key := by simpa using List.find?_some first
    exact same ▸ List.mem_of_find?_eq_some first
  · intro member
    cases found : map.entries.find? (fun entry => entry.1 = key) with
    | none =>
      have apart := List.find?_eq_none.mp found (key, value) member
      exact absurd (decide_eq_true rfl) apart
    | some entry =>
      have same : entry.1 = key := by simpa using List.find?_some found
      have listed := List.mem_of_find?_eq_some found
      have equal := List.inj_on_of_nodup_map map.keys_nodup listed member same
      rw [equal]
      rfl

theorem get?_eq_none : map.get? key = none ↔ key ∉ map.keys := by
  rw [Option.eq_none_iff_forall_ne_some]
  simp only [ne_eq, get?_eq_some, keys, List.mem_map, Prod.exists, exists_and_right, exists_eq_right,
    not_exists]

section Filling

variable {items : List (K × V)}

/-- All entries one after the other, unless a key comes twice. -/
def ofList? (items : List (K × V)) : Option (OrderedMap K V) :=
  items.foldlM (fun map entry => map.insertNew entry.1 entry.2) empty

theorem foldlM_insertNew :
    items.foldlM (fun map entry => map.insertNew entry.1 entry.2) map = some after ↔
      after.entries.Perm (items ++ map.entries) := by
  induction items generalizing map with
  | nil =>
    constructor
    · rintro ⟨⟩
      exact List.Perm.refl _
    · intro perm
      exact congrArg some (eq_of_perm perm.symm)
  | cons entry rest ih =>
    rw [List.foldlM_cons]
    cases placed : map.insertNew entry.1 entry.2 with
    | none =>
      constructor
      · intro impossible
        cases impossible
      · intro perm
        have member := insertNew_eq_none.mp placed
        have distinct := after.keys_nodup
        rw [keys, (perm.map Prod.fst).nodup_iff, List.cons_append, List.map_cons, List.map_append] at distinct
        exact absurd (List.mem_append_right _ member) (List.nodup_cons.mp distinct).1
    | some next =>
      have moved : (rest ++ next.entries).Perm (entry :: rest ++ map.entries) :=
        ((perm_of_insertNew placed).append_left rest).trans List.perm_middle
      exact ih.trans ⟨fun perm => perm.trans moved, fun perm => perm.trans moved.symm⟩

theorem ofList?_eq_some : ofList? items = some map ↔ map.entries.Perm items := by
  rw [ofList?, foldlM_insertNew]
  simp only [empty, List.append_nil]

/-- The order of the entries makes no difference. -/
theorem ofList?_perm {others : List (K × V)} (perm : items.Perm others) : ofList? items = ofList? others := by
  ext map
  rw [ofList?_eq_some, ofList?_eq_some]
  exact ⟨fun same => same.trans perm, fun same => same.trans perm.symm⟩

end Filling

end OrderedMap

end Foundation
