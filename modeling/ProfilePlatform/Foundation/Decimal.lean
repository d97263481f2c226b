import Mathlib.Algebra.Group.Nat.Defs
import Mathlib.Data.List.Basic
import Mathlib.Data.List.Induction

/-! Decimal numbers as ASCII bytes, and how a bounded number is read back from them. -/

set_option autoImplicit false

namespace Foundation.Decimal

def digits (number : Nat) : List UInt8 :=
  (Nat.toDigits 10 number).map fun digit => digit.toNat.toUInt8

def isDigit (byte : UInt8) : Bool := 48 ≤ byte && byte ≤ 57

def value (bytes : List UInt8) : Nat :=
  bytes.foldl (fun number byte => 10 * number + (byte.toNat - 48)) 0

/-- A plus sign may stand in front of the digits, of which there is at least one. -/
def parse (limit : Nat) (text : List UInt8) : Option Nat :=
  let numeral := if text.head? = some 43 then text.tail else text
  if numeral.isEmpty || !numeral.all isDigit then none
  else if value numeral < limit then some (value numeral) else none

theorem value_append (bytes : List UInt8) (byte : UInt8) :
    value (bytes ++ [byte]) = 10 * value bytes + (byte.toNat - 48) := by
  simp [value, List.foldl_append]

theorem digits_small {number : Nat} (small : number < 10) :
    digits number = [(48 + number).toUInt8] := by
  have all : ∀ digit : Fin 10,
      digit.val.digitChar.toNat.toUInt8 = (48 + digit.val).toUInt8 := by decide
  simp only [digits, Nat.toDigits_of_lt_base small, List.map_cons, List.map_nil, all ⟨number, small⟩]

theorem digits_large {number : Nat} (large : 10 ≤ number) :
    digits number = digits (number / 10) ++ [(48 + number % 10).toUInt8] := by
  have last := digits_small (Nat.mod_lt number (by decide : 0 < 10))
  simp only [digits, Nat.toDigits_of_lt_base (Nat.mod_lt number (by decide : 0 < 10))] at last
  simp only [digits, Nat.toDigits_of_base_le (by decide : 1 < 10) large, List.map_append,
    List.map_cons, List.map_nil]
  rw [← last]
  rfl

/-- Induction on the digits of a number. -/
theorem induction {motive : Nat → Prop} (small : ∀ digit < 10, motive digit)
    (large : ∀ number, 10 ≤ number → motive (number / 10) → motive number) (number : Nat) :
    motive number := by
  induction number using Nat.strongRecOn with
  | ind number ih =>
    rcases Nat.lt_or_ge number 10 with less | more
    · exact small number less
    · exact large number more (ih _ (by omega))

theorem toNat_digit {digit : Nat} (small : digit < 10) : (48 + digit).toUInt8.toNat = 48 + digit := by
  rw [Nat.toUInt8_eq, UInt8.toNat_ofNat', Nat.mod_eq_of_lt (by omega)]

theorem value_digits (number : Nat) : value (digits number) = number := by
  induction number using induction with
  | small digit less =>
    rw [digits_small less]
    show 10 * 0 + ((48 + digit).toUInt8.toNat - 48) = digit
    rw [toNat_digit less]
    omega
  | large number more ih =>
    rw [digits_large more, value_append, ih, toNat_digit (Nat.mod_lt _ (by decide))]
    omega

theorem isDigit_of_mem_digits {number : Nat} {byte : UInt8} (member : byte ∈ digits number) :
    isDigit byte = true := by
  have all : ∀ digit : Fin 10, isDigit (48 + digit.val).toUInt8 = true := by decide
  induction number using induction with
  | small digit less =>
    rw [digits_small less, List.mem_singleton] at member
    exact member ▸ all ⟨digit, less⟩
  | large number more ih =>
    rw [digits_large more] at member
    rcases List.mem_append.mp member with front | last
    · exact ih front
    · rw [List.mem_singleton.mp last]
      exact all ⟨number % 10, Nat.mod_lt _ (by decide)⟩

theorem digits_ne_nil (number : Nat) : digits number ≠ [] := by
  simp [digits, Nat.toDigits_ne_nil]

theorem length_digits_le {number places : Nat} (positive : 0 < places)
    (small : number < 10 ^ places) : (digits number).length ≤ places := by
  rw [digits, List.length_map]
  exact (Nat.length_toDigits_le_iff (by decide) positive).mpr small

theorem parse_digits {limit number : Nat} (within : number < limit) :
    parse limit (digits number) = some number := by
  have unsigned : (digits number).head? ≠ some 43 := by
    intro sign
    exact absurd (isDigit_of_mem_digits (List.mem_of_head? sign)) (by decide)
  have plain : ((digits number).isEmpty || !(digits number).all isDigit) = false := by
    have all : (digits number).all isDigit = true :=
      List.all_eq_true.mpr fun byte member => isDigit_of_mem_digits member
    simp [all, digits_ne_nil]
  simp only [parse, if_neg unsigned, plain, value_digits, within, if_true]
  simp

theorem parse_lt {limit number : Nat} {text : List UInt8} (read : parse limit text = some number) :
    number < limit := by
  simp only [parse] at read
  generalize (if text.head? = some 43 then text.tail else text) = numeral at read
  split at read
  · cases read
  · split at read
    next within =>
      cases read
      exact within
    · cases read

/-- Digits differ from those of the number they spell in nothing but leading zeros. -/
theorem digits_of_value {numeral : List UInt8} (nonempty : numeral ≠ [])
    (plain : ∀ byte ∈ numeral, isDigit byte = true) :
    ∃ zeros, numeral = List.replicate zeros 48 ++ digits (value numeral) := by
  induction numeral using List.reverseRecOn with
  | nil => exact absurd rfl nonempty
  | append_singleton front byte ih =>
    have digit : isDigit byte = true := plain byte (by simp)
    obtain ⟨low, high⟩ : 48 ≤ byte.toNat ∧ byte.toNat ≤ 57 := by
      simpa [isDigit, UInt8.le_iff_toNat_le] using digit
    have small : byte.toNat - 48 < 10 := by omega
    have last : (48 + (byte.toNat - 48)).toUInt8 = byte := by
      rw [Nat.add_sub_cancel' low]
      exact UInt8.ofNat_toNat
    rw [value_append]
    rcases Nat.eq_zero_or_pos (value front) with zero | positive
    · rw [zero, Nat.mul_zero, Nat.zero_add, digits_small small, last]
      by_cases empty : front = []
      · exact ⟨0, by rw [empty, List.replicate_zero]⟩
      · obtain ⟨zeros, spelled⟩ := ih empty fun byte member => plain byte (by simp [member])
        rw [zero, digits_small (by decide)] at spelled
        exact ⟨zeros + 1, by rw [List.replicate_succ']; exact congrArg (· ++ [byte]) spelled⟩
    · have filled : front ≠ [] := by
        rintro rfl
        exact absurd positive (by decide)
      obtain ⟨zeros, spelled⟩ := ih filled fun byte member => plain byte (by simp [member])
      refine ⟨zeros, ?_⟩
      rw [digits_large (by omega), show (10 * value front + (byte.toNat - 48)) / 10 = value front by
        omega, show (10 * value front + (byte.toNat - 48)) % 10 = byte.toNat - 48 by omega, last,
        ← List.append_assoc, ← spelled]

theorem value_zeros (zeros : Nat) (bytes : List UInt8) :
    value (List.replicate zeros 48 ++ bytes) = value bytes := by
  induction zeros with
  | zero => rfl
  | succ zeros ih =>
    rw [← ih]
    rfl

/-- A number is spelled with a plus sign or without one, and with any number of zeros in front. -/
theorem parse_eq_some {limit number : Nat} {text : List UInt8} :
    parse limit text = some number ↔ number < limit ∧ ∃ sign zeros, (sign = [] ∨ sign = [43]) ∧
      text = sign ++ (List.replicate zeros 48 ++ digits number) := by
  have digit_of_spelled : ∀ zeros, ∀ byte ∈ List.replicate zeros 48 ++ digits number,
      isDigit byte = true := by
    intro zeros byte member
    rcases List.mem_append.mp member with zero | digit
    · rw [List.eq_of_mem_replicate zero]
      rfl
    · exact isDigit_of_mem_digits digit
  constructor
  · intro read
    have within := parse_lt read
    have signed : ∃ sign, (sign = [] ∨ sign = [43]) ∧
        text = sign ++ (if text.head? = some 43 then text.tail else text) := by
      split
      next plus => exact ⟨[43], .inr rfl, (List.cons_head?_tail plus).symm⟩
      next => exact ⟨[], .inl rfl, rfl⟩
    simp only [parse] at read
    generalize (if text.head? = some 43 then text.tail else text) = numeral at read signed
    obtain ⟨sign, allowed, rfl⟩ := signed
    split at read
    · cases read
    next accepted =>
      simp only [Bool.or_eq_true, Bool.not_eq_true', not_or, Bool.not_eq_true,
        List.isEmpty_eq_false_iff, Bool.not_eq_false, List.all_eq_true] at accepted
      split at read <;> cases read
      obtain ⟨zeros, spelled⟩ := digits_of_value accepted.1 accepted.2
      exact ⟨within, sign, zeros, allowed, congrArg (sign ++ ·) spelled⟩
  · rintro ⟨within, sign, zeros, allowed, rfl⟩
    have nonempty : List.replicate zeros 48 ++ digits number ≠ [] := by
      simp [digits_ne_nil]
    have unsigned : (List.replicate zeros 48 ++ digits number).head? ≠ some 43 := fun plus =>
      absurd (digit_of_spelled zeros _ (List.mem_of_head? plus)) (by decide)
    have spelled := value_zeros zeros (digits number)
    rw [value_digits] at spelled
    have plain := List.all_eq_true.mpr (digit_of_spelled zeros)
    generalize List.replicate zeros 48 ++ digits number = numeral at nonempty unsigned spelled plain
    have stripped : (if (sign ++ numeral).head? = some 43 then (sign ++ numeral).tail
        else sign ++ numeral) = numeral := by
      rcases allowed with rfl | rfl
      · exact if_neg unsigned
      · rfl
    simp only [parse, stripped]
    simp [nonempty, plain, spelled, within]

section Padded

/-- A number in so many places, filled up with zeros. -/
def padded (places number : Nat) : List UInt8 :=
  List.replicate (places - (digits number).length) 48 ++ digits number

variable {places number : Nat}

theorem length_padded (positive : 0 < places) (small : number < 10 ^ places) :
    (padded places number).length = places := by
  have short := length_digits_le positive small
  rw [padded, List.length_append, List.length_replicate]
  omega

theorem isDigit_of_mem_padded : ∀ byte ∈ padded places number, isDigit byte = true := by
  intro byte member
  rcases List.mem_append.mp member with zero | digit
  · rw [List.eq_of_mem_replicate zero]
    rfl
  · exact isDigit_of_mem_digits digit

theorem padded_ne_nil : padded places number ≠ [] := by
  simp [padded, digits_ne_nil]

theorem parse_padded {limit : Nat} (within : number < limit) :
    parse limit (padded places number) = some number :=
  parse_eq_some.mpr ⟨within, [], _, .inl rfl, rfl⟩

end Padded

end Foundation.Decimal
