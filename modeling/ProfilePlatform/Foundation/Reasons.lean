import Mathlib.Data.List.Basic
import ProfilePlatform.Foundation.Fallible

/-! Computations that fail only for reasons that apply, and succeed only where none does. Two of
them with the same reasons fail together, and for the same reason where there is but one.
-/

set_option autoImplicit false

namespace Foundation

variable {E A B : Type}

structure Settles (result : Except E A) (applies : E → Prop) : Prop where
  failed : ∀ why, result = .error why → applies why
  passed : ∀ value, result = .ok value → ∀ why, ¬applies why

/-- The same value, or an error for each; and the same error unless several apply. -/
structure SameOutcome (applies : E → Prop) (result other : Except E A) : Prop where
  value : ∀ value, result = .ok value ↔ other = .ok value
  reason : ∀ why, result = .error why → (∀ further, applies further → further = why) →
    other = .error why

namespace Settles

variable {result other : Except E A} {applies : E → Prop}

theorem ok {value : A} (none_ : ∀ why, ¬applies why) : Settles (Except.ok value) applies :=
  ⟨nofun, fun _ _ => none_⟩

theorem done (value : A) : Settles (Except.ok value : Except E A) fun _ => False := .ok fun _ => id

theorem error {why : E} (holds : applies why) : Settles (Except.error why : Except E A) applies := by
  refine ⟨fun other same => ?_, nofun⟩
  cases same
  exact holds

theorem self (result : Except E A) : Settles result fun why => result = .error why := by
  refine ⟨fun why failed => failed, fun value passed why failed => ?_⟩
  rw [passed] at failed
  cases failed

theorem mono {more : E → Prop} (settles : Settles result applies)
    (same : ∀ why, applies why ↔ more why) : Settles result more := by
  rwa [show more = applies from funext fun why => propext (same why).symm]

theorem refuseIf (condition : Prop) [Decidable condition] (why : E) :
    Settles (refuseIf condition why) fun reason => reason = why ∧ condition := by
  unfold Foundation.refuseIf
  split
  next holds => exact .error ⟨rfl, holds⟩
  next fails => exact .ok fun _ applies => fails applies.2

theorem bind {next : A → Except E B} {later : E → Prop} (settles : Settles result applies)
    (rest : ∀ value, result = .ok value → Settles (next value) later) :
    Settles (result >>= next) fun why => applies why ∨ later why := by
  cases first : result with
  | error why => exact .error (.inl (settles.failed why first))
  | ok value =>
    have settled := rest value first
    refine ⟨fun why failed => .inr (settled.failed why failed), ?_⟩
    rintro final passed why (before | after)
    · exact settles.passed value first why before
    · exact settled.passed final passed why after

theorem mapM {visit : A → Except E B} {reasons : A → E → Prop}
    (each : ∀ item, Settles (visit item) (reasons item)) (items : List A) :
    Settles (items.mapM visit) fun why => ∃ item ∈ items, reasons item why := by
  induction items with
  | nil => exact .ok fun _ ⟨_, member, _⟩ => List.not_mem_nil member
  | cons item rest ih =>
    rw [List.mapM_cons]
    have later : ∀ value, visit item = .ok value → Settles (do
        let values ← rest.mapM visit
        pure (value :: values)) fun why => ∃ item ∈ rest, reasons item why :=
      fun value _ => (ih.bind fun _ _ => .done _).mono fun why => iff_of_eq (or_false _)
    exact ((each item).bind later).mono fun why =>
      (List.exists_mem_cons_iff (fun item => reasons item why) item rest).symm

theorem forM {visit : A → Except E Unit} {reasons : A → E → Prop}
    (each : ∀ item, Settles (visit item) (reasons item)) (items : List A) :
    Settles (items.forM visit) fun why => ∃ item ∈ items, reasons item why := by
  induction items with
  | nil => exact .ok fun _ ⟨_, member, _⟩ => List.not_mem_nil member
  | cons item rest ih =>
    exact ((each item).bind fun _ _ => ih).mono fun why =>
      (List.exists_mem_cons_iff (fun item => reasons item why) item rest).symm

theorem sameOutcome (settles : Settles result applies) (opposite : Settles other applies)
    (agree : ∀ value more, result = .ok value → other = .ok more → value = more) :
    SameOutcome applies result other := by
  cases first : result with
  | error why =>
    cases second : other with
    | error also =>
      refine ⟨fun _ => ⟨nofun, nofun⟩, ?_⟩
      rintro _ ⟨⟩ single
      rw [single also (opposite.failed also second)]
    | ok value => exact absurd (settles.failed why first) (opposite.passed value second why)
  | ok value =>
    cases second : other with
    | error why => exact absurd (opposite.failed why second) (settles.passed value first why)
    | ok more =>
      rw [agree value more first second]
      exact ⟨fun _ => Iff.rfl, nofun⟩

end Settles

end Foundation
