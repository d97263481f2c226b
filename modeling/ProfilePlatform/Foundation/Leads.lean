/-! Computations on a state that may fail and leave a state behind either way. -/

set_option autoImplicit false

namespace Foundation

variable {State E A B : Type}

/-- How a computation ends, and the state it leaves behind. -/
def outcome (run : ExceptT E (StateM State) A) (state : State) : Except E A × State := run state

/-- From a state as before, success returns as promised, and failure leaves behind what is said. -/
def Leads (before : State → Prop) (run : ExceptT E (StateM State) A)
    (returns : A → State → Prop) (fails : E → State → Prop) : Prop :=
  ∀ state, before state → match outcome run state with
    | (.ok value, after) => returns value after
    | (.error why, after) => fails why after

/-- Fails with `why` when the condition holds. -/
def refuseWhen (condition : Prop) [Decidable condition] (why : E) : ExceptT E (StateM State) Unit :=
  if condition then throw why else pure ()

/-- A result that does not depend on the state. -/
def given (result : Except E A) : ExceptT E (StateM State) A := ExceptT.mk (pure result)

/-- Goes on whatever the outcome is. -/
def ignored (run : ExceptT E (StateM State) A) : ExceptT E (StateM State) Unit :=
  fun state => (.ok (), (outcome run state).2)

theorem outcome_bind (first : ExceptT E (StateM State) A) (next : A → ExceptT E (StateM State) B)
    (state : State) : outcome (first >>= next) state = match outcome first state with
      | (.ok value, after) => outcome (next value) after
      | (.error why, after) => (.error why, after) := by
  have step : outcome (first >>= next) state =
      ExceptT.bindCont next (outcome first state).1 (outcome first state).2 := rfl
  rw [step]
  rcases outcome first state with ⟨moved, after⟩
  cases moved <;> rfl

section Steps

variable (next : A → ExceptT E (StateM State) B) (proceed : Unit → ExceptT E (StateM State) B)
  (state : State)

@[simp] theorem outcome_pure (value : A) :
    outcome (pure value : ExceptT E (StateM State) A) state = (.ok value, state) := rfl

@[simp] theorem outcome_get_bind (read : State → ExceptT E (StateM State) B) :
    outcome (get >>= read) state = outcome (read state) state := rfl

@[simp] theorem outcome_set (after : State) :
    outcome (set after : ExceptT E (StateM State) Unit) state = (.ok (), after) := rfl

@[simp] theorem outcome_set_bind (after : State) :
    outcome (set after >>= proceed) state = outcome (proceed ()) after := rfl

@[simp] theorem outcome_modify (change : State → State) :
    outcome (modify change : ExceptT E (StateM State) Unit) state = (.ok (), change state) := rfl

@[simp] theorem outcome_modify_bind (change : State → State) :
    outcome (modify change >>= proceed) state = outcome (proceed ()) (change state) := rfl

@[simp] theorem outcome_given (result : Except E A) :
    outcome (given result : ExceptT E (StateM State) A) state = (result, state) := rfl

@[simp] theorem outcome_given_ok_bind (value : A) :
    outcome (given (.ok value) >>= next) state = outcome (next value) state := rfl

@[simp] theorem outcome_given_error_bind (why : E) :
    outcome (given (.error why) >>= next) state = (.error why, state) := rfl

theorem outcome_refuseWhen (condition : Prop) [Decidable condition] (why : E) :
    outcome (refuseWhen condition why) state =
      if condition then (.error why, state) else (.ok (), state) := by
  unfold refuseWhen
  split <;> rfl

theorem outcome_refuseWhen_bind (condition : Prop) [Decidable condition] (why : E) :
    outcome (refuseWhen condition why >>= proceed) state =
      if condition then (.error why, state) else outcome (proceed ()) state := by
  unfold refuseWhen
  split <;> rfl

end Steps

namespace Leads

variable {before : State → Prop} {returns : A → State → Prop} {results : B → State → Prop}
  {fails : E → State → Prop}

theorem pure {value : A} (holds : ∀ state, before state → returns value state) :
    Leads before (Pure.pure value) returns fails := holds

theorem throw {why : E} (holds : ∀ state, before state → fails why state) :
    Leads before (MonadExcept.throw why) returns fails := holds

/-- A computation that leaves the state as it is. -/
theorem lift {result : Except E A}
    (succeeds : ∀ value, result = .ok value → ∀ state, before state → returns value state)
    (breaks : ∀ why, result = .error why → ∀ state, before state → fails why state) :
    Leads before (ExceptT.mk (Pure.pure result)) returns fails := by
  cases result with
  | ok value => exact succeeds value rfl
  | error why => exact breaks why rfl

theorem bind {first : ExceptT E (StateM State) A} {next : A → ExceptT E (StateM State) B}
    (leads : Leads before first returns fails)
    (continues : ∀ value, Leads (returns value) (next value) results fails) :
    Leads before (first >>= next) results fails := by
  intro state valid
  have ends := leads state valid
  rw [outcome_bind]
  generalize outcome first state = result at ends
  obtain ⟨moved, after⟩ := result
  cases moved with
  | ok value => exact continues value after ends
  | error why => exact ends

theorem refuseWhen {condition : Prop} [Decidable condition] {why : E} {proceeds : Unit → State → Prop}
    (passes : ¬condition → ∀ state, before state → proceeds () state)
    (stops : condition → ∀ state, before state → fails why state) :
    Leads before (Foundation.refuseWhen condition why) proceeds fails := by
  unfold Foundation.refuseWhen
  split
  next holds => exact throw (stops holds)
  next open_ => exact pure (passes open_)

theorem modify {change : State → State} {proceeds : Unit → State → Prop}
    (holds : ∀ state, before state → proceeds () (change state)) :
    Leads before (MonadStateOf.modifyGet fun state => ((), change state)) proceeds fails := holds

/-- What is read is the state as it stands. -/
theorem get_bind {next : State → ExceptT E (StateM State) B}
    (continues : ∀ read, before read → Leads (· = read) (next read) results fails) :
    Leads before (get >>= next) results fails := by
  intro state valid
  exact continues state valid state rfl

theorem weaken {run : ExceptT E (StateM State) A} {earlier : State → Prop}
    {less : A → State → Prop} {loses : E → State → Prop} (leads : Leads before run returns fails)
    (starts : ∀ state, earlier state → before state)
    (implies : ∀ value state, returns value state → less value state)
    (drops : ∀ why state, fails why state → loses why state) : Leads earlier run less loses := by
  intro state valid
  have ends := leads state (starts state valid)
  generalize outcome run state = result at ends ⊢
  obtain ⟨moved, after⟩ := result
  cases moved with
  | ok value => exact implies value after ends
  | error why => exact drops why after ends

theorem ignored {run : ExceptT E (StateM State) A} {kept : State → Prop} {never : E → State → Prop}
    (leads : Leads before run (fun _ => kept) fun _ => kept) :
    Leads before (ignored run) (fun _ => kept) never := by
  intro state valid
  have ends := leads state valid
  show kept (outcome run state).2
  generalize outcome run state = result at ends ⊢
  obtain ⟨moved, after⟩ := result
  cases moved with
  | ok value => exact ends
  | error why => exact ends

end Leads

end Foundation
