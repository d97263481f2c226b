/-! Fixed-width byte strings: big-endian integers, blocks of a known length and
their hexadecimal text.
-/

set_option autoImplicit false

namespace Foundation

/-- A byte string whose length is part of its type. -/
abbrev Block (size : Nat) : Type := { bytes : List UInt8 // bytes.length = size }

/-- The number of values that fit in `width` bytes. -/
def capacity : Nat → Nat
  | 0 => 1
  | width + 1 => capacity width * 256

/-- The low `width` bytes of a number, most significant first. -/
def bigEndian : Nat → Nat → List UInt8
  | 0, _ => []
  | width + 1, value => bigEndian width (value / 256) ++ [UInt8.ofNat value]

def ofBigEndian (bytes : List UInt8) : Nat :=
  bytes.foldl (fun value byte => value * 256 + byte.toNat) 0

@[simp] theorem length_bigEndian (width value : Nat) : (bigEndian width value).length = width := by
  induction width generalizing value with
  | zero => rfl
  | succ width ih => simp [bigEndian, ih]

@[simp] theorem ofBigEndian_concat (bytes : List UInt8) (byte : UInt8) :
    ofBigEndian (bytes ++ [byte]) = ofBigEndian bytes * 256 + byte.toNat := by
  simp [ofBigEndian]

/-- A byte string of positive length has a last byte. -/
theorem exists_concat {width : Nat} {bytes : List UInt8} (sized : bytes.length = width + 1) :
    ∃ front last, bytes = front ++ [last] ∧ front.length = width := by
  have nonempty : bytes ≠ [] := by
    rintro rfl
    cases sized
  refine ⟨bytes.dropLast, bytes.getLast nonempty, ?_, ?_⟩
  · exact (List.dropLast_concat_getLast nonempty).symm
  · simp [sized]

theorem ofBigEndian_bigEndian {width value : Nat} (fits : value < capacity width) :
    ofBigEndian (bigEndian width value) = value := by
  induction width generalizing value with
  | zero =>
    have : value = 0 := by simpa [capacity] using fits
    simp [bigEndian, ofBigEndian, this]
  | succ width ih =>
    have high : value / 256 < capacity width :=
      Nat.div_lt_of_lt_mul (by simpa only [capacity, Nat.mul_comm] using fits)
    have low : (UInt8.ofNat value).toNat = value % 256 := by simp
    rw [bigEndian, ofBigEndian_concat, ih high, low]
    omega

/-- Reading back the bytes of a number that was itself read from bytes. -/
theorem bigEndian_ofBigEndian {width : Nat} {bytes : List UInt8} (sized : bytes.length = width) :
    bigEndian width (ofBigEndian bytes) = bytes := by
  induction width generalizing bytes with
  | zero => simp [bigEndian, List.eq_nil_of_length_eq_zero sized]
  | succ width ih =>
    obtain ⟨front, last, rfl, shorter⟩ := exists_concat sized
    have small : last.toNat < 256 := last.toNat_lt
    have high : (ofBigEndian front * 256 + last.toNat) / 256 = ofBigEndian front := by omega
    have low : UInt8.ofNat (ofBigEndian front * 256 + last.toNat) = last := by
      apply UInt8.toNat_inj.mp
      rw [UInt8.toNat_ofNat']
      omega
    rw [ofBigEndian_concat, bigEndian, high, low, ih shorter]

theorem ofBigEndian_lt {width : Nat} {bytes : List UInt8} (sized : bytes.length = width) :
    ofBigEndian bytes < capacity width := by
  induction width generalizing bytes with
  | zero => simp [List.eq_nil_of_length_eq_zero sized, ofBigEndian, capacity]
  | succ width ih =>
    obtain ⟨front, last, rfl, shorter⟩ := exists_concat sized
    have := ih shorter
    have small : last.toNat < 256 := last.toNat_lt
    rw [ofBigEndian_concat, capacity]
    omega

/-- Cuts a byte string into pieces of the given size; the last one may be shorter. -/
def chunks (size : Nat) (bytes : List UInt8) : List (List UInt8) :=
  if bytes = [] ∨ size = 0 then [] else bytes.take size :: chunks size (bytes.drop size)
termination_by bytes.length
decreasing_by
  rename_i more
  have nonempty := List.length_pos_iff.mpr fun empty => more (.inl empty)
  have positive : size ≠ 0 := fun zero => more (.inr zero)
  rw [List.length_drop]
  omega

@[simp] theorem chunks_nil (size : Nat) : chunks size [] = [] := by
  unfold chunks
  exact if_pos (.inl rfl)

theorem chunks_cons {size : Nat} {bytes : List UInt8} (positive : 0 < size) (more : bytes ≠ []) :
    chunks size bytes = bytes.take size :: chunks size (bytes.drop size) := by
  rw [chunks]
  exact if_neg (not_or.mpr ⟨more, Nat.ne_of_gt positive⟩)

/-- The first piece is full, or it is the last. -/
theorem chunks_append {size : Nat} {first more : List UInt8} (nonempty : 0 < first.length)
    (small : first.length ≤ size) (full : first.length = size ∨ more = []) :
    chunks size (first ++ more) = first :: chunks size more := by
  have left : first ++ more ≠ [] :=
    List.append_ne_nil_of_left_ne_nil (List.ne_nil_of_length_pos nonempty) more
  rw [chunks_cons (Nat.lt_of_lt_of_le nonempty small) left]
  rcases full with rfl | rfl
  · rw [List.take_left, List.drop_left]
  · rw [List.append_nil, List.take_of_length_le small, List.drop_eq_nil_of_le small]

theorem flatten_chunks {size : Nat} (positive : 0 < size) (bytes : List UInt8) :
    (chunks size bytes).flatten = bytes := by
  fun_induction chunks size bytes with
  | case1 bytes done =>
    rcases done with rfl | zero
    · rfl
    · omega
  | case2 bytes more ih => rw [List.flatten_cons, ih, List.take_append_drop]

theorem length_of_mem_chunks {size : Nat} {bytes piece : List UInt8}
    (member : piece ∈ chunks size bytes) : 0 < piece.length ∧ piece.length ≤ size := by
  fun_induction chunks size bytes with
  | case1 bytes done => cases member
  | case2 bytes more ih =>
    rcases List.mem_cons.mp member with rfl | later
    · have nonempty := List.length_pos_iff.mpr fun empty => more (.inl empty)
      have positive : size ≠ 0 := fun zero => more (.inr zero)
      rw [List.length_take]
      omega
    · exact ih later

/-- Only the last piece may be short. -/
theorem length_chunks_mul {size : Nat} (positive : 0 < size) (bytes : List UInt8) :
    (chunks size bytes).length * size < bytes.length + size := by
  fun_induction chunks size bytes with
  | case1 bytes done => simp only [List.length_nil]; omega
  | case2 bytes more ih =>
    have nonempty := List.length_pos_iff.mpr fun empty => more (.inl empty)
    rw [List.length_cons, Nat.succ_mul]
    by_cases last : bytes.length ≤ size
    · rw [List.drop_eq_nil_of_le last, chunks_nil]
      simp only [List.length_nil]
      omega
    · rw [List.length_drop] at ih
      omega

theorem length_chunks_le {size : Nat} (bytes : List UInt8) :
    (chunks size bytes).length ≤ bytes.length := by
  fun_induction chunks size bytes with
  | case1 bytes done => exact Nat.zero_le _
  | case2 bytes more ih =>
    have nonempty := List.length_pos_iff.mpr fun empty => more (.inl empty)
    have positive : size ≠ 0 := fun zero => more (.inr zero)
    rw [List.length_drop] at ih
    rw [List.length_cons]
    omega

def hexDigit (value : Nat) : Char :=
  if value < 10 then Char.ofNat (48 + value) else Char.ofNat (87 + value)

/-- Two lower-case digits for every byte. -/
def hexDigest (bytes : List UInt8) : String :=
  String.ofList (bytes.flatMap fun byte => [hexDigit (byte.toNat / 16), hexDigit (byte.toNat % 16)])

example : hexDigest [0, 10, 255] = "000aff" := by decide

end Foundation
