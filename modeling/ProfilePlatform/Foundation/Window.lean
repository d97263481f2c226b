import Mathlib.Data.List.DropRight

/-! Lists that remember only their most recent elements.

`pushBounded` is the queue an implementation keeps: append, then drop the oldest
element when the limit is exceeded. `List.rtake` is what such a queue holds: the
last elements of everything that was ever pushed.
-/

set_option autoImplicit false

namespace Foundation

variable {A : Type}

def pushBounded (limit : Nat) (kept : List A) (value : A) : List A :=
  let pushed := kept ++ [value]
  if pushed.length > limit then pushed.drop 1 else pushed

theorem mem_pushBounded {limit : Nat} {kept : List A} {value member : A}
    (found : member ∈ pushBounded limit kept value) : member ∈ kept ∨ member = value := by
  have pushed : member ∈ kept ++ [value] := by
    unfold pushBounded at found
    dsimp only at found
    split at found
    · exact List.mem_of_mem_drop found
    · exact found
  simpa using pushed

theorem pushBounded_map {B : Type} (f : A → B) (limit : Nat) (kept : List A) (value : A) :
    (pushBounded limit kept value).map f = pushBounded limit (kept.map f) (f value) := by
  simp only [pushBounded, List.length_append, List.length_map, List.length_singleton]
  split <;> simp

theorem pushBounded_length {limit : Nat} {kept : List A} (bounded : kept.length ≤ limit)
    (value : A) : (pushBounded limit kept value).length = min limit (kept.length + 1) := by
  unfold pushBounded
  dsimp only
  split
  · simp only [List.length_drop, List.length_append, List.length_singleton] at *
    omega
  · simp only [List.length_append, List.length_singleton] at *
    omega

theorem pushBounded_suffix_append (limit : Nat) (kept : List A) (value : A) :
    pushBounded limit kept value <:+ kept ++ [value] := by
  unfold pushBounded
  dsimp only
  split
  · exact List.drop_suffix _ _
  · exact List.suffix_refl _

/-- Two queues of which one is the recent end of the other: after a push the
shorter one has grown, or it has become the other. -/
theorem pushBounded_shorter {limit : Nat} {recent kept : List A} (suffix : recent <:+ kept)
    (bounded : kept.length ≤ limit) (value : A) :
    pushBounded limit recent value = pushBounded limit kept value ∨
      pushBounded limit recent value = recent ++ [value] := by
  by_cases same : recent = kept
  · exact .inl (by rw [same])
  · have shorter : recent.length < kept.length := by
      by_contra long
      exact same (suffix.eq_of_length_le (Nat.not_lt.mp long))
    refine .inr (if_neg ?_)
    simp only [List.length_append, List.length_singleton]
    omega

theorem pushBounded_suffix {limit : Nat} {recent kept : List A} (suffix : recent <:+ kept)
    (bounded : kept.length ≤ limit) (value : A) :
    pushBounded limit recent value <:+ pushBounded limit kept value := by
  obtain ⟨older, rfl⟩ := suffix
  have shorter : recent.length ≤ (older ++ recent).length := by simp
  have short : pushBounded limit recent value <:+ older ++ recent ++ [value] := by
    refine (pushBounded_suffix_append limit recent value).trans ⟨older, ?_⟩
    simp
  refine List.suffix_of_suffix_length_le short (pushBounded_suffix_append _ _ _) ?_
  rw [pushBounded_length bounded, pushBounded_length (Nat.le_trans shorter bounded)]
  omega

theorem rtake_length (values : List A) (limit : Nat) :
    (values.rtake limit).length = min limit values.length := by
  simp only [List.rtake, List.length_drop]
  omega

theorem rtake_of_length_le {values : List A} {limit : Nat} (short : values.length ≤ limit) :
    values.rtake limit = values := by
  simp [List.rtake, Nat.sub_eq_zero_of_le short]

/-- The bounded queue holds the most recent elements of the whole history. -/
theorem pushBounded_rtake (limit : Nat) (values : List A) (value : A) :
    pushBounded limit (values.rtake limit) value = (values ++ [value]).rtake limit := by
  have total : (values.rtake limit ++ [value]).length = min limit values.length + 1 := by
    rw [List.length_append, rtake_length, List.length_singleton]
  simp only [pushBounded, total]
  split
  · -- the window is full, so its first element leaves
    next full =>
    have room : values.length - limit ≤ values.length := Nat.sub_le _ _
    rw [List.rtake, ← List.drop_append_of_le_length room, List.drop_drop, List.rtake,
      List.length_append, List.length_singleton]
    congr 1
    omega
  · next spare =>
    have short : values.length < limit := by omega
    rw [rtake_of_length_le (Nat.le_of_lt short), rtake_of_length_le]
    rw [List.length_append, List.length_singleton]
    exact short

end Foundation

/-! Logs that are replayed from a snapshot.

A log is a run of a step relation. A snapshot forgets part of the state; what it
forgets are the traces of the most recent steps, so replaying enough recent
steps over a snapshot rebuilds the state in full.
-/

namespace Foundation

variable {S E : Type}

/-- A run of a step relation along a log. -/
inductive Run (step : S → E → S → Prop) : S → List E → S → Prop where
  | nil (s : S) : Run step s [] s
  | cons {s t u : S} {e : E} {log : List E} :
      step s e t → Run step t log u → Run step s (e :: log) u

namespace Run

variable {step : S → E → S → Prop}

theorem append {s t u : S} {first second : List E} (left : Run step s first t)
    (right : Run step t second u) : Run step s (first ++ second) u := by
  induction left with
  | nil => exact right
  | cons taken _ ih => exact .cons taken (ih right)

theorem concat {s t u : S} {log : List E} {e : E} (run : Run step s log t) (last : step t e u) :
    Run step s (log ++ [e]) u :=
  run.append (.cons last (.nil u))

theorem split {s u : S} {first second : List E} (run : Run step s (first ++ second) u) :
    ∃ t, Run step s first t ∧ Run step t second u := by
  induction first generalizing s with
  | nil => exact ⟨s, .nil s, run⟩
  | cons e first ih =>
    cases run with
    | cons taken rest =>
      obtain ⟨t, left, right⟩ := ih rest
      exact ⟨t, .cons taken left, right⟩

theorem invariant (Inv : S → Prop) (kept : ∀ s e t, step s e t → Inv s → Inv t) {s t : S}
    {log : List E} (run : Run step s log t) (start : Inv s) : Inv t := by
  induction run with
  | nil => exact start
  | cons taken _ ih => exact ih (kept _ _ _ taken start)

end Run

/-- Snapshots of a state. `agree k s t` says that `t` is the state `s` but for
what lies further back than its last `k` steps. -/
structure Snapshotting (step : S → E → S → Prop) where
  valid : S → Prop
  forget : S → S
  window : Nat
  agree : Nat → S → S → Prop
  valid_step {s : S} {e : E} {t : S} : step s e t → valid s → valid t
  agree_forget {s : S} : valid s → agree 0 s (forget s)
  agree_step {k : Nat} {s s' t : S} {e : E} : valid s → agree k s t → step s e s' →
    ∃ t', step t e t' ∧ agree (k + 1) s' t'
  agree_window {k : Nat} {s t : S} : valid s → window ≤ k → agree k s t → t = s

namespace Snapshotting

variable {step : S → E → S → Prop} (snapshots : Snapshotting step)

theorem run_agree {s u : S} {log : List E} (run : Run step s log u) :
    ∀ {k : Nat} {t : S}, snapshots.valid s → snapshots.agree k s t →
      ∃ v, Run step t log v ∧ snapshots.agree (k + log.length) u v := by
  induction run with
  | nil => exact fun {k t} _ agrees => ⟨t, .nil t, agrees⟩
  | @cons s next u e log taken rest ih =>
    intro k t valid agrees
    obtain ⟨t', follows, closer⟩ := snapshots.agree_step valid agrees taken
    obtain ⟨v, run, final⟩ := ih (snapshots.valid_step taken valid) closer
    refine ⟨v, .cons follows run, ?_⟩
    rwa [List.length_cons, Nat.add_comm log.length 1, ← Nat.add_assoc]

/-- A log at least as long as the window rebuilds the state from its snapshot. -/
theorem run_forget {s u : S} {log : List E} (run : Run step s log u) (valid : snapshots.valid s)
    (enough : snapshots.window ≤ log.length) : Run step (snapshots.forget s) log u := by
  obtain ⟨v, rebuilt, agrees⟩ := snapshots.run_agree run valid (snapshots.agree_forget valid)
  have reached : snapshots.valid u :=
    run.invariant snapshots.valid (fun _ _ _ => snapshots.valid_step) valid
  rw [Nat.zero_add] at agrees
  rwa [snapshots.agree_window reached enough agrees] at rebuilt

end Snapshotting

end Foundation
