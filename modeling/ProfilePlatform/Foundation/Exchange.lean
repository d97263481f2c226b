import ProfilePlatform.Foundation.Fallible

/-! Fallible computations on a state, with what they are sure to return from every state
that keeps an invariant. -/

set_option autoImplicit false

namespace Foundation

variable {State E A B C : Type}

/-- From a state that keeps the invariant the computation succeeds, leaves such a state behind
and returns a value with the property. -/
def Gives (kept : State → Prop) (run : StateT State (Except E) A) (returns : A → Prop) : Prop :=
  ∀ state, kept state → ∃ value after, run state = .ok (value, after) ∧ kept after ∧ returns value

namespace Gives

variable {kept : State → Prop} {returns : A → Prop} {results : B → Prop}

theorem pure {value : A} (holds : returns value) :
    Gives kept (Pure.pure value : StateT State (Except E) A) returns :=
  fun state valid => ⟨value, state, rfl, valid, holds⟩

theorem lift {outcome : Except E A} {value : A} (succeeds : outcome = .ok value)
    (holds : returns value) : Gives kept (StateT.lift outcome) returns := by
  intro state valid
  exact ⟨value, state, by rw [succeeds]; rfl, valid, holds⟩

theorem bind {first : StateT State (Except E) A} {next : A → StateT State (Except E) B}
    (gives : Gives kept first returns)
    (continues : ∀ value, returns value → Gives kept (next value) results) :
    Gives kept (first >>= next) results := by
  intro state valid
  obtain ⟨value, between, executed, valid, holds⟩ := gives state valid
  obtain ⟨result, after, finished, valid, ends⟩ := continues value holds between valid
  refine ⟨result, after, ?_, valid, ends⟩
  show (first state >>= fun moved => next moved.1 moved.2) = _
  rw [executed]
  exact finished

theorem weaken {run : StateT State (Except E) A} {less : A → Prop} (gives : Gives kept run returns)
    (implies : ∀ value, returns value → less value) : Gives kept run less := by
  intro state valid
  obtain ⟨value, after, executed, valid, holds⟩ := gives state valid
  exact ⟨value, after, executed, valid, implies value holds⟩

end Gives

end Foundation
