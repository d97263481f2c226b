import Mathlib.Data.List.Induction

/-! Deterministic machines and their finite runs.

A machine answers every input with an output and a next state. A refused input
is an output like any other, so a run never stops. The history of a run keeps
each input with the state it met, the answer it got and the state it left.
-/

set_option autoImplicit false

namespace Foundation

structure Machine (S I O : Type) where
  step : S → I → O × S

/-- One step of a run, with the states on both sides of it. -/
structure Entry (S I O : Type) where
  before : S
  input : I
  output : O
  after : S
  deriving DecidableEq

namespace Machine

variable {S I O : Type} (m : Machine S I O)

def entry (s : S) (input : I) : Entry S I O :=
  ⟨s, input, (m.step s input).1, (m.step s input).2⟩

def final (s : S) : List I → S
  | [] => s
  | input :: rest => final (m.step s input).2 rest

def history (s : S) : List I → List (Entry S I O)
  | [] => []
  | input :: rest => m.entry s input :: history (m.step s input).2 rest

@[simp] theorem history_nil (s : S) : m.history s [] = [] := rfl

theorem final_append (s : S) (first second : List I) :
    m.final s (first ++ second) = m.final (m.final s first) second := by
  induction first generalizing s with
  | nil => rfl
  | cons input rest ih => exact ih _

theorem history_append (s : S) (first second : List I) :
    m.history s (first ++ second) = m.history s first ++ m.history (m.final s first) second := by
  induction first generalizing s with
  | nil => rfl
  | cons input rest ih => simp only [List.cons_append, history, final, ih]

@[simp] theorem final_concat (s : S) (inputs : List I) (input : I) :
    m.final s (inputs ++ [input]) = (m.step (m.final s inputs) input).2 := by
  rw [final_append]
  rfl

@[simp] theorem history_concat (s : S) (inputs : List I) (input : I) :
    m.history s (inputs ++ [input]) = m.history s inputs ++ [m.entry (m.final s inputs) input] := by
  rw [history_append]
  rfl

theorem input_mem_of_mem_history {s : S} {inputs : List I} {entry : Entry S I O}
    (member : entry ∈ m.history s inputs) : entry.input ∈ inputs := by
  induction inputs generalizing s with
  | nil => cases member
  | cons input rest ih =>
    rcases List.mem_cons.mp member with rfl | later
    · exact List.mem_cons_self
    · exact List.mem_cons_of_mem _ (ih later)

theorem map_input_history (s : S) (inputs : List I) :
    (m.history s inputs).map Entry.input = inputs := by
  induction inputs generalizing s with
  | nil => rfl
  | cons input rest ih => rw [history, List.map_cons, ih]; rfl

/-- What holds at the start and survives every step holds after every run. -/
theorem invariant (Inv : S → Prop) (step : ∀ s input, Inv s → Inv (m.step s input).2)
    {s : S} (start : Inv s) (inputs : List I) : Inv (m.final s inputs) := by
  induction inputs generalizing s with
  | nil => exact start
  | cons input rest ih => exact ih (step s input start)

/-- The same rule with the history in hand: the invariant may relate the
present state to everything that happened before. -/
theorem history_invariant (Inv : List (Entry S I O) → S → Prop) {s : S} (start : Inv [] s)
    (step : ∀ past t input, Inv past t → Inv (past ++ [m.entry t input]) (m.step t input).2)
    (inputs : List I) : Inv (m.history s inputs) (m.final s inputs) := by
  induction inputs using List.reverseRecOn with
  | nil => exact start
  | append_singleton inputs input ih =>
    rw [history_concat, final_concat]
    exact step _ _ input ih

/-- A reflexive and transitive relation kept by every step relates the two ends of a run. -/
theorem monotone (R : S → S → Prop) (refl : ∀ s, R s s)
    (trans : ∀ s t u, R s t → R t u → R s u) (step : ∀ s input, R s (m.step s input).2)
    (s : S) (inputs : List I) : R s (m.final s inputs) := by
  induction inputs generalizing s with
  | nil => exact refl s
  | cons input rest ih => exact trans _ _ _ (step s input) (ih _)

/-- A relation that two machines keep step by step holds at the ends of their runs. -/
theorem lockstep {T P : Type} (n : Machine T I P) (R : S → T → Prop)
    (step : ∀ s t input, R s t → R (m.step s input).2 (n.step t input).2) {s : S} {t : T}
    (start : R s t) (inputs : List I) : R (m.final s inputs) (n.final t inputs) := by
  induction inputs generalizing s t with
  | nil => exact start
  | cons input rest ih => exact ih (step s t input start)

end Machine

/-- Every event of a trace is justified by the events before it. -/
def Justified {A : Type} (P : List A → A → Prop) (trace : List A) : Prop :=
  ∀ past event future, trace = past ++ event :: future → P past event

theorem justified_nil {A : Type} (P : List A → A → Prop) : Justified P [] := by
  intro past event future split
  cases past <;> cases split

/-- A trace grows at its end, so the last event is all there is to justify. -/
theorem justified_concat {A : Type} {P : List A → A → Prop} {trace : List A} {event : A}
    (before : Justified P trace) (last : P trace event) : Justified P (trace ++ [event]) := by
  intro past other future split
  rcases List.eq_nil_or_concat future with rfl | ⟨rest, final, rfl⟩
  · obtain ⟨rfl, same⟩ := List.append_inj' split rfl
    cases same
    exact last
  · have longer : trace ++ [event] = (past ++ other :: rest) ++ [final] := by simpa using split
    exact before past other rest (List.append_inj' longer rfl).1

theorem justified_of_append {A : Type} {P : List A → A → Prop} {trace later : List A}
    (justified : Justified P (trace ++ later)) : Justified P trace := by
  intro past event future split
  exact justified past event (future ++ later) (by rw [split, List.append_assoc, List.cons_append])

/-- What every event yields is related to all that the events before it have yielded. -/
theorem pairwise_of_justified {A B : Type} {P : List A → A → Prop} {R : B → B → Prop}
    {yields : A → Option B} {trace : List A} (justified : Justified P trace)
    (related : ∀ past event, P past event → ∀ value ∈ yields event,
      ∀ earlier ∈ past.filterMap yields, R earlier value) :
    (trace.filterMap yields).Pairwise R := by
  induction trace using List.reverseRecOn with
  | nil => exact List.Pairwise.nil
  | append_singleton past event ih =>
    rw [List.filterMap_append, List.pairwise_append]
    refine ⟨ih (justified_of_append justified), ?_, fun earlier known value last => ?_⟩
    · cases yielded : yields event <;> simp [yielded]
    · have yielded : value ∈ yields event := by simpa using last
      exact related past event (justified past event [] rfl) value yielded earlier known

end Foundation
