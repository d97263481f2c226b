import Mathlib.Data.List.Sort
import Mathlib.Order.Basic
import Mathlib.Order.Lattice
import Mathlib.Data.Finset.Sort
import Mathlib.Data.Finset.Card

/-! Descending listings of the wanted elements of an interval. -/

set_option autoImplicit false

namespace Foundation

variable {A : Type} [LinearOrder A]

/-- The items are the wanted elements from low on and below high, each once, the highest first. -/
structure Lists (wanted : A → Prop) (low high : A) (items : List A) : Prop where
  descending : items.Pairwise (· > ·)
  exact : ∀ item, item ∈ items ↔ wanted item ∧ low ≤ item ∧ item < high

/-- Runs of equal elements become one element each. -/
def dedupAdjacent : List A → List A
  | first :: second :: rest =>
    if first = second then dedupAdjacent (second :: rest)
    else first :: dedupAdjacent (second :: rest)
  | short => short

theorem mem_dedupAdjacent {items : List A} {item : A} :
    item ∈ dedupAdjacent items ↔ item ∈ items := by
  induction items using dedupAdjacent.induct with
  | case1 second rest ih => simp [dedupAdjacent, ih]
  | case2 first second rest apart ih => simp [dedupAdjacent, apart, ih]
  | case3 short other => cases short with
    | nil => rfl
    | cons only rest => cases rest with
      | nil => rfl
      | cons second rest => exact absurd rfl (other only second rest)

theorem dedupAdjacent_ascending {items : List A} (sorted : items.Pairwise (· ≤ ·)) :
    (dedupAdjacent items).Pairwise (· < ·) := by
  induction items using dedupAdjacent.induct with
  | case1 second rest ih => simpa [dedupAdjacent] using ih (List.pairwise_cons.mp sorted).2
  | case2 first second rest apart ih =>
    obtain ⟨least, sorted⟩ := List.pairwise_cons.mp sorted
    simp only [dedupAdjacent, apart, if_false]
    refine List.pairwise_cons.mpr ⟨fun item member => ?_, ih sorted⟩
    have below : first < second := lt_of_le_of_ne (least second List.mem_cons_self) apart
    rcases List.mem_cons.mp (mem_dedupAdjacent.mp member) with rfl | later
    · exact below
    · exact lt_of_lt_of_le below ((List.pairwise_cons.mp sorted).1 item later)
  | case3 short other => cases short with
    | nil => exact List.Pairwise.nil
    | cons only rest => cases rest with
      | nil => exact List.pairwise_singleton _ _
      | cons second rest => exact absurd rfl (other only second rest)

namespace Lists

variable {wanted : A → Prop} {low middle high : A} {front back items : List A}

theorem nil (point : A) : Lists wanted point point [] :=
  ⟨List.Pairwise.nil, fun _ =>
    iff_of_false List.not_mem_nil fun ⟨_, least, below⟩ => absurd below (not_lt.mpr least)⟩

/-- A listing goes on with the listing of the interval below. -/
theorem append (upper : Lists wanted middle high front) (lower : Lists wanted low middle back)
    (below : low ≤ middle) (above : middle ≤ high) : Lists wanted low high (front ++ back) := by
  constructor
  · refine List.pairwise_append.mpr ⟨upper.descending, lower.descending, ?_⟩
    intro item inFront other inBack
    exact lt_of_lt_of_le ((lower.exact other).mp inBack).2.2 ((upper.exact item).mp inFront).2.1
  · intro item
    rw [List.mem_append, upper.exact, lower.exact]
    constructor
    · rintro (⟨chosen, least, less⟩ | ⟨chosen, least, less⟩)
      · exact ⟨chosen, below.trans least, less⟩
      · exact ⟨chosen, least, lt_of_lt_of_le less above⟩
    · rintro ⟨chosen, least, less⟩
      rcases lt_or_ge item middle with under | beyond
      · exact .inr ⟨chosen, least, under⟩
      · exact .inl ⟨chosen, beyond, less⟩

/-- A listing that is cut short lists the interval down to its last item. -/
theorem cut (whole : Lists wanted low high (front ++ back)) {last : A}
    (ends : front.getLast? = some last) : Lists wanted last high front := by
  obtain ⟨ordered, -, apart⟩ := List.pairwise_append.mp whole.descending
  obtain ⟨before, rfl⟩ := List.getLast?_eq_some_iff.mp ends
  have least : ∀ item ∈ before ++ [last], last ≤ item := by
    intro item member
    rcases List.mem_append.mp member with earlier | same
    · exact ((List.pairwise_append.mp ordered).2.2 item earlier last List.mem_cons_self).le
    · exact (List.mem_singleton.mp same).ge
  have inside : ∀ item ∈ before ++ [last], wanted item ∧ low ≤ item ∧ item < high :=
    fun item member => (whole.exact item).mp (List.mem_append_left _ member)
  refine ⟨ordered, fun item => ⟨fun member => ?_, fun ⟨chosen, beyond, under⟩ => ?_⟩⟩
  · exact ⟨(inside item member).1, least item member, (inside item member).2.2⟩
  · have bound : low ≤ item :=
      (inside last (List.mem_append_right _ List.mem_cons_self)).2.1.trans beyond
    rcases List.mem_append.mp ((whole.exact item).mpr ⟨chosen, bound, under⟩) with listed | later
    · exact listed
    · exact absurd (apart last (List.mem_append_right _ List.mem_cons_self) item later)
        (not_lt.mpr beyond)

/-- As much of a listing as there is room for: all of it, or down to its last item. -/
theorem filled (whole : Lists wanted low high (front ++ back)) {size : Nat}
    (fits : front.length ≤ size) (filled : List A)
    (same : filled = front ++ back.take (size - front.length)) :
    filled.length ≤ size ∧ (filled.length < size → Lists wanted low high filled) ∧
      ∀ last, filled.getLast? = some last → Lists wanted last high filled := by
  have length : filled.length = front.length + min (size - front.length) back.length := by
    rw [same, List.length_append, List.length_take]
  have split : front ++ back = filled ++ back.drop (size - front.length) := by
    rw [same, List.append_assoc, List.take_append_drop]
  refine ⟨by omega, fun short => ?_, fun last ends => Lists.cut (split ▸ whole) ends⟩
  rw [same, List.take_of_length_le (by omega)]
  exact whole

/-- What is listed in any order, and any number of times, becomes a listing when it is sorted,
freed of repetitions, limited to the interval and turned round. -/
theorem arranged {found : List A} (inside : A → Bool)
    (limits : ∀ item, inside item = true ↔ low ≤ item ∧ item < high)
    (complete : ∀ item, low ≤ item → item < high → (item ∈ found ↔ wanted item)) :
    Lists wanted low high
      ((dedupAdjacent (found.mergeSort (fun left right => decide (left ≤ right)))).filter
        inside).reverse := by
  constructor
  · rw [List.pairwise_reverse]
    refine List.Pairwise.filter _ (dedupAdjacent_ascending ?_)
    simpa using @List.pairwise_mergeSort A (fun left right => decide (left ≤ right))
      (by simpa using fun a b c => le_trans) (by simpa using le_total) found
  · intro item
    rw [List.mem_reverse, List.mem_filter, mem_dedupAdjacent, List.mem_mergeSort, limits]
    constructor
    · rintro ⟨member, least, less⟩
      exact ⟨(complete item least less).mp member, least, less⟩
    · rintro ⟨chosen, least, less⟩
      exact ⟨(complete item least less).mpr chosen, least, less⟩

end Lists

end Foundation

/-! Pages of what is shown at the time, each going on behind the last key of the one before.

What is shown may change between the pages. It is ascending in its keys at all times, so that a
page never goes back.
-/

namespace Foundation.Pages

variable {Item Key : Type} [LinearOrder Key] (key : Item → Key)

def Ascending (shown : List Item) : Prop := shown.Pairwise fun first second => key first < key second

def behind (after : Key) (shown : List Item) : List Item :=
  shown.filter fun item => decide (after < key item)

/-- The items that pages yield from a key on, each page of what is shown then and of so many items
at most. The last page holds all that is left. -/
inductive Follows : Key → List (List Item × Nat) → List Item → Prop where
  | last {after : Key} {shown : List Item} {limit : Nat} :
      (behind key after shown).length ≤ limit → Follows after [(shown, limit)] (behind key after shown)
  | more {after : Key} {shown : List Item} {limit : Nat} {final : Item}
      {rest : List (List Item × Nat)} {items : List Item} :
      limit < (behind key after shown).length →
      ((behind key after shown).take limit).getLast? = some final → Follows (key final) rest items →
      Follows after ((shown, limit) :: rest) ((behind key after shown).take limit ++ items)

variable {key}
variable {after : Key} {shown : List Item} {steps : List (List Item × Nat)} {items : List Item}

@[simp] theorem mem_behind {item : Item} :
    item ∈ behind key after shown ↔ item ∈ shown ∧ after < key item := by
  simp [behind]

theorem behind_ascending (ascending : Ascending key shown) : Ascending key (behind key after shown) :=
  List.Pairwise.filter _ ascending

theorem Ascending.nodup (ascending : Ascending key shown) : (shown.map key).Nodup :=
  List.pairwise_map.mpr (ascending.imp fun before => ne_of_lt before)

theorem Ascending.eq_of_key (ascending : Ascending key shown) {first second : Item}
    (first_shown : first ∈ shown) (second_shown : second ∈ shown) (same : key first = key second) :
    first = second :=
  List.inj_on_of_nodup_map ascending.nodup first_shown second_shown same

/-- Ascending lists are known from their members. -/
theorem Ascending.eq {others : List Item} (ascending : Ascending key shown)
    (others_ascending : Ascending key others) (same : ∀ item, item ∈ shown ↔ item ∈ others) :
    shown = others := by
  have perm : shown.Perm others :=
    (List.perm_ext_iff_of_nodup (List.Nodup.of_map key ascending.nodup)
      (List.Nodup.of_map key others_ascending.nodup)).mpr same
  refine perm.eq_of_pairwise ?_ ascending others_ascending
  intro first second _ _ before after
  exact absurd after (lt_asymm before)

/-- The last item of a page has the greatest key on it. -/
theorem le_last (ascending : Ascending key shown) {limit : Nat} {final item : Item}
    (ends : (shown.take limit).getLast? = some final) (listed : item ∈ shown.take limit) :
    key item ≤ key final := by
  obtain ⟨front, split⟩ := List.getLast?_eq_some_iff.mp ends
  have sorted : Ascending key (front ++ [final]) :=
    split ▸ List.Pairwise.sublist (List.take_sublist limit shown) ascending
  rw [split, List.mem_append, List.mem_singleton] at listed
  rcases listed with before | rfl
  · exact le_of_lt ((List.pairwise_append.mp sorted).2.2 item before final List.mem_cons_self)
  · exact le_refl _

/-- What the page leaves out has greater keys than its last item. -/
theorem last_lt (ascending : Ascending key shown) {limit : Nat} {final item : Item}
    (ends : (shown.take limit).getLast? = some final) (left : item ∈ shown.drop limit) :
    key final < key item := by
  have whole : Ascending key (shown.take limit ++ shown.drop limit) := by
    rw [List.take_append_drop]
    exact ascending
  exact (List.pairwise_append.mp whole).2.2 final (List.mem_of_getLast? ends) item left

theorem behind_last (ascending : Ascending key shown) {limit : Nat} {final item : Item}
    (ends : ((behind key after shown).take limit).getLast? = some final) (member : item ∈ shown) :
    item ∈ behind key after shown ∧ item ∈ (behind key after shown).take limit ∨
      key item ≤ after ∨ key final < key item := by
  rcases le_or_gt (key item) after with reached | further
  · exact .inr (.inl reached)
  · have unread : item ∈ behind key after shown := mem_behind.mpr ⟨member, further⟩
    have split := List.take_append_drop limit (behind key after shown)
    rw [← split, List.mem_append] at unread
    rcases unread with listed | left
    · exact .inl ⟨List.mem_of_mem_take listed, listed⟩
    · exact .inr (.inr (last_lt (behind_ascending ascending) ends left))

section Runs

variable (run : Follows key after steps items) (sorted : ∀ step ∈ steps, Ascending key step.1)

include run sorted

/-- Every item is behind the key that the pages start from. -/
theorem Follows.further : ∀ item ∈ items, after < key item := by
  induction run with
  | last fits => exact fun item member => (mem_behind.mp member).2
  | more exceeds ends _ ih =>
    next after shown limit final rest items =>
    intro item member
    rcases List.mem_append.mp member with listed | later
    · exact (mem_behind.mp (List.mem_of_mem_take listed)).2
    · have start := (mem_behind.mp (List.mem_of_mem_take (List.mem_of_getLast? ends))).2
      have beyond := ih (fun step member => sorted step (List.mem_cons_of_mem _ member)) item later
      exact lt_trans start beyond

theorem Follows.ascending : Ascending key items := by
  induction run with
  | last fits => exact behind_ascending (sorted _ List.mem_cons_self)
  | more exceeds ends run ih =>
    next after shown limit final rest items =>
    have page : Ascending key (behind key after shown) := behind_ascending (sorted _ List.mem_cons_self)
    have rest_sorted := fun step member => sorted step (List.mem_cons_of_mem _ member)
    refine List.pairwise_append.mpr ⟨page.sublist (List.take_sublist _ _), ih rest_sorted, ?_⟩
    intro item listed other later
    exact lt_of_le_of_lt (le_last page ends listed) (run.further rest_sorted other later)

/-- An item was shown when its page was read. -/
theorem Follows.was_shown : ∀ item ∈ items, ∃ step ∈ steps, item ∈ step.1 := by
  induction run with
  | last fits => exact fun item member => ⟨_, List.mem_cons_self, (mem_behind.mp member).1⟩
  | more exceeds ends _ ih =>
    next after shown limit final rest items =>
    intro item member
    rcases List.mem_append.mp member with listed | later
    · exact ⟨_, List.mem_cons_self, (mem_behind.mp (List.mem_of_mem_take listed)).1⟩
    · obtain ⟨step, taken, held⟩ :=
        ih (fun step member => sorted step (List.mem_cons_of_mem _ member)) item later
      exact ⟨step, List.mem_cons_of_mem _ taken, held⟩

/-- A key that is shown at every page is on one of them. -/
theorem Follows.reaches {wanted : Key} (further : after < wanted)
    (throughout : ∀ step ∈ steps, ∃ item ∈ step.1, key item = wanted) :
    ∃ item ∈ items, key item = wanted := by
  induction run with
  | last fits =>
    obtain ⟨item, member, same⟩ := throughout _ List.mem_cons_self
    exact ⟨item, mem_behind.mpr ⟨member, same ▸ further⟩, same⟩
  | more exceeds ends _ ih =>
    next after shown limit final rest items =>
    obtain ⟨item, member, same⟩ := throughout _ List.mem_cons_self
    rcases behind_last (sorted _ List.mem_cons_self) ends member with ⟨-, listed⟩ | reached | beyond
    · exact ⟨item, List.mem_append_left _ listed, same⟩
    · exact absurd further (not_lt_of_ge (same ▸ reached))
    · obtain ⟨other, later, equal⟩ :=
        ih (fun step member => sorted step (List.mem_cons_of_mem _ member)) (same ▸ beyond)
          (fun step member => throughout step (List.mem_cons_of_mem _ member))
      exact ⟨other, List.mem_append_right _ later, equal⟩

end Runs

/-- The keys that are shown at any time are among these. -/
def Within (key : Item → Key) (keys : Finset Key) (steps : Nat → List Item × Nat) : Prop :=
  ∀ time, ∀ item ∈ (steps time).1, key item ∈ keys

/-- Where only so many keys are ever shown, the pages come to an end. -/
theorem ends (keys : Finset Key) (steps : Nat → List Item × Nat) (within : Within key keys steps)
    (sized : ∀ time, 0 < (steps time).2) (start : Nat) (after : Key) :
    ∃ count items, Follows key after ((List.range' start (count + 1)).map steps) items := by
  induction counted : (keys.filter fun wanted => after < wanted).card using Nat.strong_induction_on
    generalizing start after with
  | _ size ih =>
    rcases Nat.lt_or_ge (steps start).2 (behind key after (steps start).1).length with exceeds | fits
    · have filled : ((behind key after (steps start).1).take (steps start).2) ≠ [] := by
        have positive := sized start
        intro nothing
        have none_left := congrArg List.length nothing
        rw [List.length_take, List.length_nil] at none_left
        omega
      obtain ⟨final, ends⟩ := Option.isSome_iff_exists.mp (List.getLast?_isSome.mpr filled)
      obtain ⟨member, further⟩ := mem_behind.mp (List.mem_of_mem_take (List.mem_of_getLast? ends))
      have fewer : (keys.filter fun wanted => key final < wanted).card < size := by
        rw [← counted]
        refine Finset.card_lt_card (Finset.ssubset_iff_of_subset ?_ |>.mpr ⟨key final, ?_, ?_⟩)
        · intro wanted listed
          obtain ⟨known, beyond⟩ := Finset.mem_filter.mp listed
          exact Finset.mem_filter.mpr ⟨known, lt_trans further beyond⟩
        · exact Finset.mem_filter.mpr ⟨within start final member, further⟩
        · exact fun listed => lt_irrefl _ (Finset.mem_filter.mp listed).2
      obtain ⟨count, items, run⟩ := ih _ fewer (start + 1) (key final) rfl
      exact ⟨count + 1, _, Follows.more exceeds ends run⟩
    · exact ⟨0, _, Follows.last fits⟩

end Foundation.Pages
