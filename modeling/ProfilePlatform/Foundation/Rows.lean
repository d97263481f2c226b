import Mathlib.Data.List.Basic
import ProfilePlatform.Foundation.Fallible

/-! Tables of rows, as the statements of a relational store read and write them.

A key is a function of the row. Rows that share a key are the same row as long
as every insertion finds its key free and no update touches a key.
-/

set_option autoImplicit false

namespace Foundation.Rows

variable {R K : Type}

/-- No two rows share the key. -/
def Unique (key : R → K) (rows : List R) : Prop :=
  ∀ row ∈ rows, ∀ other ∈ rows, key row = key other → row = other

/-- An update with its where clause. -/
def amend (chosen : R → Prop) [DecidablePred chosen] (change : R → R) (rows : List R) : List R :=
  rows.map fun row => if chosen row then change row else row

/-- The row a query limited to one row returns. -/
def first (chosen : R → Prop) [DecidablePred chosen] (rows : List R) : Option R :=
  rows.find? fun row => chosen row

section Amend

variable {chosen : R → Prop} [DecidablePred chosen] {change : R → R} {rows : List R} {row : R}

theorem mem_amend :
    row ∈ amend chosen change rows ↔
      ∃ old ∈ rows, row = if chosen old then change old else old := by
  simp only [amend, List.mem_map, eq_comm]

theorem mem_amend_of_chosen (member : row ∈ rows) (holds : chosen row) :
    change row ∈ amend chosen change rows :=
  mem_amend.mpr ⟨row, member, (if_pos holds).symm⟩

theorem mem_amend_of_not_chosen (member : row ∈ rows) (fails : ¬chosen row) :
    row ∈ amend chosen change rows :=
  mem_amend.mpr ⟨row, member, (if_neg fails).symm⟩

theorem amend_congr {other : R → Prop} [DecidablePred other]
    (same : ∀ row ∈ rows, chosen row ↔ other row) :
    amend chosen change rows = amend other change rows :=
  List.map_congr_left fun row member => if_congr (same row member) rfl rfl

theorem map_amend {key : R → K} (keeps : ∀ row, key (change row) = key row) :
    (amend chosen change rows).map key = rows.map key := by
  unfold amend
  rw [List.map_map]
  refine List.map_congr_left fun row _ => ?_
  simp only [Function.comp]
  split
  · exact keeps row
  · rfl

theorem unique_amend {key : R → K} (keeps : ∀ row, key (change row) = key row)
    (unique : Unique key rows) : Unique key (amend chosen change rows) := by
  have kept (old : R) : key (if chosen old then change old else old) = key old := by
    split
    · exact keeps old
    · rfl
  intro row member other present same
  obtain ⟨old, known, rfl⟩ := mem_amend.mp member
  obtain ⟨rival, found, rfl⟩ := mem_amend.mp present
  rw [kept, kept] at same
  rw [unique old known rival found same]

end Amend

section Keyed

variable {key : R → K} {rows after : List R} {row later other : R}

/-- The rows after one row has given way to a later version of itself. -/
def Replaced (key : R → K) (row later : R) (rows after : List R) : Prop :=
  ∀ other, other ∈ after ↔ (other ∈ rows ∧ key other ≠ key row) ∨ other = later

/-- An update of one key leaves the other rows and changes the row it names. -/
theorem replaced_amend [DecidableEq K] (unique : Unique key rows) (member : row ∈ rows)
    (change : R → R) :
    Replaced key row (change row) rows (amend (fun old => key old = key row) change rows) := by
  intro other
  constructor
  · intro amended
    obtain ⟨old, known, rfl⟩ := mem_amend.mp amended
    split
    next same => exact .inr (congrArg change (unique old known row member same))
    next differs => exact .inl ⟨known, differs⟩
  · rintro (⟨known, differs⟩ | rfl)
    · exact mem_amend_of_not_chosen known differs
    · exact mem_amend_of_chosen member rfl

theorem Replaced.kept (replaced : Replaced key row later rows after) (known : other ∈ rows)
    (differs : key other ≠ key row) : other ∈ after :=
  (replaced other).mpr (.inl ⟨known, differs⟩)

theorem Replaced.installed (replaced : Replaced key row later rows after) : later ∈ after :=
  (replaced later).mpr (.inr rfl)

/-- A column that names the row keeps naming it, if the later version has the same value. -/
theorem Replaced.unique {L : Type} {name : R → L} (replaced : Replaced key row later rows after)
    (unique : Unique name rows) (member : row ∈ rows) (same : name later = name row) :
    Unique name after := by
  intro left memberLeft right memberRight equal
  rcases (replaced left).mp memberLeft with ⟨old, differs⟩ | rfl <;>
    rcases (replaced right).mp memberRight with ⟨old', differs'⟩ | rfl
  · exact unique left old right old' equal
  · cases unique left old row member (equal.trans same)
    exact absurd rfl differs
  · cases unique right old' row member (equal.symm.trans same)
    exact absurd rfl differs'
  · rfl

end Keyed

theorem unique_nil (key : R → K) : Unique key [] := by
  intro row member
  cases member

theorem unique_singleton (key : R → K) (row : R) : Unique key [row] := by
  intro left memberLeft right memberRight _
  rw [List.mem_singleton.mp memberLeft, List.mem_singleton.mp memberRight]

theorem unique_append {key : R → K} {rows added : List R} (unique : Unique key rows)
    (distinct : Unique key added) (fresh : ∀ row ∈ added, ∀ old ∈ rows, key old ≠ key row) :
    Unique key (rows ++ added) := by
  intro left memberLeft right memberRight same
  rcases List.mem_append.mp memberLeft with old | new <;>
    rcases List.mem_append.mp memberRight with old' | new'
  · exact unique left old right old' same
  · exact absurd same (fresh right new' left old)
  · exact absurd same.symm (fresh left new right old')
  · exact distinct left new right new' same

theorem unique_insert {key : R → K} {rows : List R} {row : R}
    (unique : Unique key rows) (fresh : ∀ old ∈ rows, key old ≠ key row) :
    Unique key (rows ++ [row]) :=
  unique_append unique (unique_singleton key row) fun _ added => by
    rw [List.mem_singleton.mp added]
    exact fresh

section Update

variable {E : Type} {chosen : R → Prop} [DecidablePred chosen] {change : R → R}
  {guard : R → R → Except E Unit} {clashes : R → R → Prop} [DecidableRel clashes] {clash : E}
  {visited rows after : List R}

/-- An update statement. It visits the rows in order, a guard may refuse each change, and at no
time may a changed row clash with another one. -/
def update (chosen : R → Prop) [DecidablePred chosen] (change : R → R)
    (guard : R → R → Except E Unit) (clashes : R → R → Prop) [DecidableRel clashes] (clash : E)
    (visited : List R) : List R → Except E (List R)
  | [] => .ok visited
  | row :: rest =>
    if chosen row then do
      guard row (change row)
      refuseIf (∃ other ∈ visited ++ rest, clashes other (change row)) clash
      update chosen change guard clashes clash (visited ++ [change row]) rest
    else update chosen change guard clashes clash (visited ++ [row]) rest

/-- An update that is not refused amends the rows it chose, and the guard let each of them pass. -/
theorem update_eq_ok (updated : update chosen change guard clashes clash visited rows = .ok after) :
    after = visited ++ amend chosen change rows ∧
      ∀ row ∈ rows, chosen row → guard row (change row) = .ok () := by
  induction rows generalizing visited with
  | nil =>
    cases updated
    exact ⟨(List.append_nil _).symm, nofun⟩
  | cons row rest ih =>
    unfold update at updated
    split at updated
    next holds =>
      obtain ⟨_, passed, updated⟩ := bind_eq_ok.mp updated
      obtain ⟨_, -, updated⟩ := bind_eq_ok.mp updated
      obtain ⟨same, guarded⟩ := ih updated
      refine ⟨by simp [same, amend, holds], List.forall_mem_cons.mpr ⟨fun _ => passed, guarded⟩⟩
    next fails =>
      obtain ⟨same, guarded⟩ := ih updated
      exact ⟨by simp [same, amend, fails],
        List.forall_mem_cons.mpr ⟨fun holds => absurd holds fails, guarded⟩⟩

/-- An update that every guard lets pass amends the rows, if they are told apart by a key and it
keeps the key. -/
theorem update_succeeds [DecidableEq K] {key : R → K} (keeps : ∀ row, key (change row) = key row)
    (guarded : ∀ row ∈ rows, chosen row → guard row (change row) = .ok ())
    (distinct : ((visited ++ rows).map key).Nodup) :
    update chosen change guard (fun other new => key other = key new) clash visited rows =
      .ok (visited ++ amend chosen change rows) := by
  induction rows generalizing visited with
  | nil => simp [update, amend]
  | cons row rest ih =>
    have passes : ∀ other ∈ rest, chosen other → guard other (change other) = .ok () :=
      fun other member => guarded other (List.mem_cons_of_mem _ member)
    have moved : ((visited ++ [change row] ++ rest).map key).Nodup := by
      simpa [keeps row] using distinct
    have stays : ((visited ++ [row] ++ rest).map key).Nodup := by simpa using distinct
    unfold update
    split
    next holds =>
      have free : ¬∃ other ∈ visited ++ rest, key other = key (change row) := by
        rintro ⟨other, member, same⟩
        rw [keeps row] at same
        have others : key row ∉ (visited ++ rest).map key := by
          simp only [List.map_append, List.map_cons, List.nodup_append, List.nodup_cons,
            List.mem_map, List.mem_append, List.mem_cons] at distinct ⊢
          grind
        exact others (List.mem_map.mpr ⟨other, member, same⟩)
      rw [guarded row List.mem_cons_self holds, refuseIf_passes free]
      simp only [bind, Except.bind]
      rw [ih passes moved]
      simp [amend, holds]
    next fails =>
      rw [ih passes stays]
      simp [amend, fails]

/-- An update that chooses no row keeps them all. -/
theorem update_none (unchosen : ∀ row ∈ rows, ¬chosen row) :
    update chosen change guard clashes clash visited rows = .ok (visited ++ rows) := by
  induction rows generalizing visited with
  | nil => rw [List.append_nil]; rfl
  | cons row rest ih =>
    obtain ⟨fails, later⟩ := List.forall_mem_cons.mp unchosen
    unfold update
    rw [if_neg fails, ih later, List.append_assoc, List.singleton_append]

/-- An update of the row with a key passes when the guard lets it and no other row clashes. -/
theorem update_key_eq_ok [DecidableEq K] {key : R → K} {row : R}
    (keyed : ((visited ++ rows).map key).Nodup) (member : row ∈ rows) :
    update (fun old => key old = key row) change guard clashes clash visited rows = .ok after ↔
      guard row (change row) = .ok () ∧
      (∀ other ∈ visited ++ rows, key other ≠ key row → ¬clashes other (change row)) ∧
      after = visited ++ amend (fun old => key old = key row) change rows := by
  induction rows generalizing visited with
  | nil => cases member
  | cons head rest ih =>
    have apart : ∀ other ∈ visited ++ rest, key other ≠ key head := by
      simp only [List.map_append, List.map_cons, List.nodup_append, List.nodup_cons,
        List.mem_map, List.mem_append, List.mem_cons] at keyed ⊢
      grind
    unfold update
    by_cases same : key head = key row
    · have found : head = row := by
        rcases List.mem_cons.mp member with rfl | later
        · rfl
        · exact absurd same.symm (apart row (List.mem_append_right _ later))
      subst found
      have unchosen : ∀ other ∈ rest, ¬key other = key head := fun other later =>
        apart other (List.mem_append_right _ later)
      have kept : amend (fun old => key old = key head) change (head :: rest) =
          change head :: rest := by
        have others : amend (fun old => key old = key head) change rest = rest :=
          (List.map_congr_left fun other later => if_neg (unchosen other later)).trans
            (List.map_id _)
        simpa [amend] using others
      have others : (∀ other ∈ visited ++ head :: rest, key other ≠ key head →
          ¬clashes other (change head)) ↔
          ¬∃ other ∈ visited ++ rest, clashes other (change head) := by
        constructor
        · rintro free ⟨other, among, clashing⟩
          refine free other ?_ (apart other among) clashing
          exact List.mem_append.mpr ((List.mem_append.mp among).imp_right (List.mem_cons_of_mem _))
        · rintro free other among differs clashing
          refine free ⟨other, ?_, clashing⟩
          rcases List.mem_append.mp among with early | late
          · exact List.mem_append_left _ early
          · rcases List.mem_cons.mp late with rfl | later
            · exact absurd rfl differs
            · exact List.mem_append_right _ later
      rw [if_pos rfl, kept, others, bind_eq_ok]
      simp only [bind_eq_ok, refuseIf_eq_ok, update_none unchosen, Except.ok.injEq,
        List.append_assoc, List.singleton_append]
      constructor
      · rintro ⟨⟨⟩, passes, ⟨⟩, free, rfl⟩
        exact ⟨passes, free, rfl⟩
      · rintro ⟨passes, free, rfl⟩
        exact ⟨(), passes, (), free, rfl⟩
    · have later : row ∈ rest := by
        rcases List.mem_cons.mp member with rfl | later
        · exact absurd rfl same
        · exact later
      rw [if_neg same, ih (by simpa using keyed) later]
      simp [amend, same]

/-- A key whose repetition is a clash stays a key. -/
theorem unique_update {key : R → K} (covers : ∀ row other, key row = key other → clashes row other)
    (updated : update chosen change guard clashes clash visited rows = .ok after)
    (unique : Unique key (visited ++ rows)) : Unique key after := by
  induction rows generalizing visited with
  | nil =>
    cases updated
    rwa [List.append_nil] at unique
  | cons row rest ih =>
    unfold update at updated
    split at updated
    next holds =>
      obtain ⟨_, -, updated⟩ := bind_eq_ok.mp updated
      obtain ⟨_, free, updated⟩ := bind_eq_ok.mp updated
      refine ih updated ?_
      have others : Unique key (visited ++ rest) := fun left memberLeft right memberRight =>
        unique left (by grind) right (by grind)
      have fresh : ∀ other ∈ visited ++ rest, key other ≠ key (change row) :=
        fun other member same => refuseIf_eq_ok.mp free ⟨other, member, covers _ _ same⟩
      intro left memberLeft right memberRight same
      have which (other : R) (member : other ∈ visited ++ [change row] ++ rest) :
          other ∈ visited ++ rest ∨ other = change row := by grind
      rcases which left memberLeft with old | rfl <;> rcases which right memberRight with old' | rfl
      · exact others left old right old' same
      · exact absurd same (fresh left old)
      · exact absurd same.symm (fresh right old')
      · rfl
    next fails => exact ih updated (by rwa [List.append_assoc, List.singleton_append])

end Update

section First

variable {chosen : R → Prop} [DecidablePred chosen] {rows : List R} {row : R}

theorem first_eq_some (found : first chosen rows = some row) : row ∈ rows ∧ chosen row :=
  ⟨List.mem_of_find?_eq_some found, by simpa using List.find?_some found⟩

theorem first_eq_none : first chosen rows = none ↔ ∀ row ∈ rows, ¬chosen row := by
  simp only [first, List.find?_eq_none, decide_eq_true_eq]

/-- A query that pins a key down finds the row that has it. -/
theorem first_of_unique {key : R → K} (unique : Unique key rows) (member : row ∈ rows)
    (holds : chosen row) (pins : ∀ other, chosen other → key other = key row) :
    first chosen rows = some row := by
  cases found : first chosen rows with
  | none => exact absurd holds (first_eq_none.mp found row member)
  | some other =>
    obtain ⟨present, selected⟩ := first_eq_some found
    rw [unique other present row member (pins other selected)]

end First

end Foundation.Rows
