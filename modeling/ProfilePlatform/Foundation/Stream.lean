import ProfilePlatform.Foundation.Fallible

/-! Byte streams behind a read or a write call.

A source may hand out fewer bytes than it was asked for; only an empty piece
means that nothing is left. What a well-behaved source still holds, and what a
well-behaved sink has taken, are the only things the laws speak of.
-/

set_option autoImplicit false

namespace Foundation

inductive IoError where
  | unexpectedEof
  | other
  deriving DecidableEq, Repr

structure ReadSource (σ : Type) where
  /-- One read into a buffer of the given size. -/
  read : σ → Nat → Except IoError (List UInt8 × σ)

structure WriteSink (τ : Type) where
  writeAll : τ → List UInt8 → Except IoError τ

/-- The source never fails, and hands out in order the bytes it holds. -/
structure ReadSource.Holds {σ : Type} (source : ReadSource σ) (held : σ → List UInt8) : Prop where
  reads : ∀ s size, ∃ piece rest, source.read s size = .ok (piece, rest) ∧
    held s = piece ++ held rest ∧ piece.length ≤ size ∧ (0 < size → held s ≠ [] → piece ≠ [])

/-- The sink never fails, and takes in order the bytes it is given. -/
structure WriteSink.Takes {τ : Type} (sink : WriteSink τ) (taken : τ → List UInt8) : Prop where
  writes : ∀ t bytes, ∃ after, sink.writeAll t bytes = .ok after ∧ taken after = taken t ++ bytes

/-- What the sink has taken is in order all it was given, as long as it does not fail. -/
structure WriteSink.Records {τ : Type} (sink : WriteSink τ) (taken : τ → List UInt8) : Prop where
  writes : ∀ t bytes after, sink.writeAll t bytes = .ok after → taken after = taken t ++ bytes

theorem WriteSink.Takes.records {τ : Type} {sink : WriteSink τ} {taken : τ → List UInt8}
    (takes : sink.Takes taken) : sink.Records taken where
  writes t bytes after wrote := by
    obtain ⟨_, writes, grown⟩ := takes.writes t bytes
    rw [wrote] at writes
    cases writes
    exact grown

/-- A source that behaves as long as it is in a sound state, and stays in one. -/
structure ReadSource.HoldsIn {σ : Type} (source : ReadSource σ) (sound : σ → Prop)
    (held : σ → List UInt8) : Prop where
  reads : ∀ s size, sound s → ∃ piece rest, source.read s size = .ok (piece, rest) ∧ sound rest ∧
    held s = piece ++ held rest ∧ piece.length ≤ size ∧ (0 < size → held s ≠ [] → piece ≠ [])

/-- A byte slice as a source. -/
def sliceSource : ReadSource (List UInt8) where
  read slice size := .ok (slice.take size, slice.drop size)

/-- A growing byte vector as a sink. -/
def vectorSink : WriteSink (List UInt8) where
  writeAll vector bytes := .ok (vector ++ bytes)

theorem sliceSource_holds : sliceSource.Holds id where
  reads slice size := by
    refine ⟨_, _, rfl, (List.take_append_drop size slice).symm, List.length_take_le size slice, ?_⟩
    intro asked left nothing
    rcases List.take_eq_nil_iff.mp nothing with none | done
    · omega
    · exact left done

theorem vectorSink_takes : vectorSink.Takes id where
  writes _ _ := ⟨_, rfl, rfl⟩

namespace ReadSource

variable {σ : Type}

/-- Reads until the buffer is full; an empty piece before that is an early end. -/
def readExact (source : ReadSource σ) (s : σ) (size : Nat) : Except IoError (List UInt8 × σ) :=
  if size = 0 then .ok ([], s)
  else
    match source.read s size with
    | .error why => .error why
    | .ok ([], _) => .error .unexpectedEof
    | .ok (byte :: piece, rest) =>
      (source.readExact rest (size - (byte :: piece).length)).map fun (more, after) =>
        (byte :: piece ++ more, after)
termination_by size
decreasing_by simp only [List.length_cons]; omega

variable {source : ReadSource σ} {held : σ → List UInt8}

namespace Holds

theorem readExact (holds : source.Holds held) {s : σ} {bytes more : List UInt8}
    (split : held s = bytes ++ more) :
    ∃ rest, source.readExact s bytes.length = .ok (bytes, rest) ∧ held rest = more := by
  induction h : bytes.length using Nat.strongRecOn generalizing s bytes with
  | ind size ih =>
    subst h
    unfold ReadSource.readExact
    split
    next none =>
      cases List.eq_nil_of_length_eq_zero none
      exact ⟨s, rfl, split⟩
    next some =>
      obtain ⟨piece, rest, read, heldEq, short, progress⟩ := holds.reads s bytes.length
      have left : held s ≠ [] := by
        rw [split]
        exact List.append_ne_nil_of_left_ne_nil (List.ne_nil_of_length_pos (by omega)) more
      -- a read may be short, but it never hands out bytes past the ones asked for
      obtain ⟨unread, rfl⟩ : piece <+: bytes :=
        List.prefix_of_prefix_length_le ⟨_, heldEq.symm⟩ ⟨_, split.symm⟩ short
      have remaining : held rest = unread ++ more := by
        rw [heldEq, List.append_assoc] at split
        exact List.append_cancel_left split
      rw [read]
      cases piece with
      | nil => exact absurd rfl (progress (by omega) left)
      | cons byte piece =>
        have shorter : (byte :: piece ++ unread).length - (byte :: piece).length = unread.length := by
          simp
        obtain ⟨after, readRest, heldAfter⟩ :=
          ih unread.length (by rw [List.length_append, List.length_cons]; omega) remaining rfl
        simp only [shorter, readRest]
        exact ⟨after, rfl, heldAfter⟩

theorem readExact_short (holds : source.Holds held) {s : σ} {size : Nat}
    (short : (held s).length < size) : source.readExact s size = .error .unexpectedEof := by
  induction size using Nat.strongRecOn generalizing s with
  | ind size ih =>
    obtain ⟨piece, rest, read, heldEq, -, -⟩ := holds.reads s size
    unfold ReadSource.readExact
    rw [if_neg (by omega), read]
    cases piece with
    | nil => rfl
    | cons byte piece =>
      have lengths : (held s).length = (byte :: piece).length + (held rest).length := by
        rw [heldEq, List.length_append]
      have still : (held rest).length < size - (byte :: piece).length := by omega
      have smaller : size - (byte :: piece).length < size := by
        rw [List.length_cons]
        omega
      have failed := ih (size - (byte :: piece).length) smaller still
      simp only [failed]
      rfl

theorem readExact_eq_ok (holds : source.Holds held) {s rest : σ} {size : Nat} {bytes : List UInt8}
    (read : source.readExact s size = .ok (bytes, rest)) :
    held s = bytes ++ held rest ∧ bytes.length = size := by
  rcases Nat.lt_or_ge (held s).length size with short | enough
  · rw [holds.readExact_short short] at read
    cases read
  · have full : ((held s).take size).length = size := List.length_take_of_le enough
    obtain ⟨after, reads, heldAfter⟩ :=
      holds.readExact (List.take_append_drop size (held s)).symm
    rw [full, read] at reads
    cases reads
    exact ⟨by rw [heldAfter, List.take_append_drop], full⟩

/-- A read into a buffer of one byte comes back empty exactly at the end. -/
theorem read_one (holds : source.Holds held) (s : σ) :
    ∃ piece rest, source.read s 1 = .ok (piece, rest) ∧ (piece = [] ↔ held s = []) := by
  obtain ⟨piece, rest, read, heldEq, -, progress⟩ := holds.reads s 1
  refine ⟨piece, rest, read, ?_, ?_⟩
  · intro empty
    exact Decidable.byContradiction fun left => progress Nat.one_pos left empty
  · intro done
    rw [done] at heldEq
    exact (List.append_eq_nil_iff.mp heldEq.symm).1

end Holds

/-- One read after another, into buffers of the given sizes. -/
def readPieces (source : ReadSource σ) (s : σ) : List Nat → Except IoError (List (List UInt8) × σ)
  | [] => .ok ([], s)
  | size :: sizes =>
    match source.read s size with
    | .error why => .error why
    | .ok (piece, rest) =>
      (source.readPieces rest sizes).map fun (pieces, after) => (piece :: pieces, after)

/-- Reads that make up all that is held, an empty piece behind a buffer with room coming only
at the end, and coming at the latest when there were more such buffers than bytes. -/
structure Drains (bytes : List UInt8) (sizes : List Nat) (pieces : List (List UInt8)) : Prop where
  inOrder : pieces.flatten <+: bytes
  answered : pieces.length = sizes.length
  fitting : ∀ size piece, (size, piece) ∈ sizes.zip pieces → piece.length ≤ size
  endsLast : ∀ size, 0 < size → (size, []) ∈ sizes.zip pieces → pieces.flatten = bytes
  ends : bytes.length < sizes.countP (0 < ·) → ∃ size, 0 < size ∧ (size, []) ∈ sizes.zip pieces

theorem HoldsIn.readPieces {sound : σ → Prop} (holds : source.HoldsIn sound held) {s : σ}
    (begins : sound s) (sizes : List Nat) :
    ∃ pieces rest, source.readPieces s sizes = .ok (pieces, rest) ∧ sound rest ∧
      held s = pieces.flatten ++ held rest ∧ Drains (held s) sizes pieces := by
  induction sizes generalizing s with
  | nil =>
    refine ⟨[], s, rfl, begins, rfl, List.nil_prefix, rfl, ?_, ?_, ?_⟩
    · intro size piece member
      cases member
    · intro size _ member
      cases member
    · intro more
      cases more
  | cons size sizes ih =>
    obtain ⟨piece, rest, read, still, split, short, progress⟩ := holds.reads s size begins
    obtain ⟨pieces, after, reads, sound, splitRest, drains⟩ := ih still
    have whole : held s = (piece :: pieces).flatten ++ held after := by
      rw [split, splitRest, List.flatten_cons, List.append_assoc]
    refine ⟨piece :: pieces, after, by simp only [ReadSource.readPieces, read, reads]; rfl, sound,
      whole, ⟨_, whole.symm⟩, congrArg Nat.succ drains.answered, ?_, ?_, ?_⟩
    · intro asked handed member
      rw [List.zip_cons_cons] at member
      rcases List.mem_cons.mp member with here | later
      · cases here
        exact short
      · exact drains.fitting asked handed later
    · intro asked room member
      rw [List.zip_cons_cons] at member
      rcases List.mem_cons.mp member with here | later
      · cases here
        have nothing : held s = [] := Decidable.byContradiction fun left => progress room left rfl
        rw [nothing] at whole ⊢
        exact (List.append_eq_nil_iff.mp whole.symm).1
      · rw [List.flatten_cons, drains.endsLast asked room later, ← split]
    · intro more
      rw [List.zip_cons_cons]
      rcases Decidable.em (0 < size ∧ piece = []) with ⟨room, empty⟩ | other
      · exact ⟨size, room, empty ▸ List.mem_cons_self⟩
      · have lengths : (held s).length = piece.length + (held rest).length := by
          rw [split, List.length_append]
        have fewer : (held rest).length < sizes.countP (0 < ·) := by
          rw [List.countP_cons] at more
          rcases Nat.eq_zero_or_pos size with rfl | room
          · simp only [Nat.lt_irrefl, decide_false, Bool.false_eq_true, if_false] at more
            omega
          · have nonempty : 0 < piece.length :=
              List.length_pos_iff.mpr fun empty => other ⟨room, empty⟩
            simp only [room, decide_true, if_true] at more
            omega
        obtain ⟨asked, room, member⟩ := drains.ends fewer
        exact ⟨asked, room, List.mem_cons_of_mem _ member⟩

end ReadSource

end Foundation
