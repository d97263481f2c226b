/-! Fallible computations taken apart one success at a time. -/

set_option autoImplicit false

namespace Foundation

variable {E F A B : Type}

theorem bind_eq_ok {first : Except E A} {next : A → Except E B} {result : B} :
    first >>= next = .ok result ↔ ∃ value, first = .ok value ∧ next value = .ok result := by
  cases first with
  | error why =>
    constructor
    · intro impossible
      cases impossible
    · rintro ⟨value, impossible, -⟩
      cases impossible
  | ok value =>
    constructor
    · intro succeeds
      exact ⟨value, rfl, succeeds⟩
    · rintro ⟨other, same, succeeds⟩
      cases same
      exact succeeds

theorem map_eq_ok {first : Except E A} {convert : A → B} {result : B} :
    first.map convert = .ok result ↔ ∃ value, first = .ok value ∧ convert value = result := by
  cases first <;> simp [Except.map]

theorem mapError_ok (value : A) (convert : E → F) :
    (Except.ok value : Except E A).mapError convert = .ok value := rfl

theorem mapError_eq_ok {first : Except E A} {convert : E → F} {result : A} :
    first.mapError convert = .ok result ↔ first = .ok result := by
  cases first with
  | error why => exact ⟨fun impossible => (nomatch impossible), fun impossible => (nomatch impossible)⟩
  | ok value =>
    constructor
    · rintro ⟨⟩
      rfl
    · rintro ⟨⟩
      rfl

/-- Fails with `why` when the condition holds. -/
def refuseIf (condition : Prop) [Decidable condition] (why : E) : Except E Unit :=
  if condition then .error why else .ok ()

theorem refuseIf_eq_ok {condition : Prop} [Decidable condition] {why : E} {done : Unit} :
    refuseIf condition why = .ok done ↔ ¬condition := by
  unfold refuseIf
  split
  next holds => exact ⟨fun impossible => (nomatch impossible), fun fails => absurd holds fails⟩
  next fails => exact ⟨fun _ => fails, fun _ => rfl⟩

theorem refuseIf_passes {condition : Prop} [Decidable condition] {why : E}
    (fails : ¬condition) : refuseIf condition why = .ok () := refuseIf_eq_ok.mpr fails

/-- Fails with `why` for want of a value. -/
def okOr (value : Option A) (why : E) : Except E A :=
  match value with
  | some value => .ok value
  | none => .error why

theorem okOr_eq_ok {value : Option A} {why : E} {result : A} :
    okOr value why = .ok result ↔ value = some result := by
  cases value <;> simp [okOr]

theorem forM_eq_ok {items : List A} {visit : A → Except E Unit} :
    items.forM visit = .ok () ↔ ∀ item ∈ items, visit item = .ok () := by
  induction items with
  | nil => simp [List.forM, pure, Except.pure]
  | cons item rest ih =>
    rw [List.forall_mem_cons, ← ih]
    refine Iff.trans bind_eq_ok ?_
    constructor
    · rintro ⟨⟨⟩, first, later⟩
      exact ⟨first, later⟩
    · rintro ⟨first, later⟩
      exact ⟨(), first, later⟩

/-- Visiting every item yields what each yields, if each does. -/
theorem mapM_succeeds {items : List A} {visit : A → Except E B} {holds : B → Prop}
    (yields : ∀ item ∈ items, ∃ value, visit item = .ok value ∧ holds value) :
    ∃ values, items.mapM visit = .ok values ∧ values.length = items.length ∧
      ∀ value ∈ values, holds value := by
  induction items with
  | nil => exact ⟨[], rfl, rfl, by simp⟩
  | cons item rest ih =>
    obtain ⟨first, later⟩ := List.forall_mem_cons.mp yields
    obtain ⟨value, visited, good⟩ := first
    obtain ⟨values, all, counted, goods⟩ := ih later
    refine ⟨value :: values, ?_, congrArg (· + 1) counted, List.forall_mem_cons.mpr ⟨good, goods⟩⟩
    rw [List.mapM_cons]
    exact bind_eq_ok.mpr ⟨value, visited, bind_eq_ok.mpr ⟨values, all, rfl⟩⟩

section Loops

variable {items : List B} {step : A → B → Except E A} {start final : A}

/-- What every turn of a loop that succeeds keeps of the items gone through. -/
theorem foldlM_keeps (loop : items.foldlM step start = .ok final) (invariant : List B → A → Prop)
    (initially : invariant [] start)
    (keeps : ∀ gone item later before after, items = gone ++ item :: later → invariant gone before →
      step before item = .ok after → invariant (gone ++ [item]) after) : invariant items final := by
  suffices holds : ∀ rest gone before, items = gone ++ rest → invariant gone before →
      rest.foldlM step before = .ok final → invariant items final from
    holds items [] start rfl initially loop
  intro rest
  induction rest with
  | nil =>
    intro gone before same holds done
    cases done
    rw [List.append_nil] at same
    exact same ▸ holds
  | cons item rest ih =>
    intro gone before same holds succeeds
    rw [List.foldlM_cons] at succeeds
    obtain ⟨after, turn, later⟩ := bind_eq_ok.mp succeeds
    exact ih _ after (by rw [same, ← List.append_cons])
      (keeps gone item rest before after same holds turn) later

/-- A loop succeeds when every turn does from what the turns before it leave behind. -/
theorem foldlM_succeeds (invariant : List B → A → Prop) (initially : invariant [] start)
    (turns : ∀ gone item later before, items = gone ++ item :: later → invariant gone before →
      ∃ after, step before item = .ok after ∧ invariant (gone ++ [item]) after) :
    ∃ final, items.foldlM step start = .ok final ∧ invariant items final := by
  suffices holds : ∀ rest gone before, items = gone ++ rest → invariant gone before →
      ∃ final, rest.foldlM step before = .ok final ∧ invariant items final from
    holds items [] start rfl initially
  intro rest
  induction rest with
  | nil =>
    rintro gone before same holds
    rw [List.append_nil] at same
    exact ⟨before, rfl, same ▸ holds⟩
  | cons item rest ih =>
    rintro gone before same holds
    obtain ⟨after, turn, kept⟩ := turns gone item rest before same holds
    obtain ⟨final, later, ends⟩ := ih _ after (by rw [same, ← List.append_cons]) kept
    exact ⟨final, by rw [List.foldlM_cons, turn]; exact later, ends⟩

end Loops

end Foundation
