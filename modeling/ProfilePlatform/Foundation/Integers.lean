import ProfilePlatform.Foundation.Fields

/-! Integers as ASCII bytes, and which of their spellings is the canonical one. -/

set_option autoImplicit false

namespace Foundation.Decimal

/-- A minus sign may stand in front of digits, or a plus sign, as for a natural number. -/
def parseSigned (limit : Nat) (text : List UInt8) : Option Int :=
  if text.head? = some 45 then
    if text.tail.isEmpty || !text.tail.all isDigit then none
    else if value text.tail ≤ limit then some (-(value text.tail : Int)) else none
  else (parse limit text).map Int.ofNat

/-- Digits without a zero in front of others. -/
def canonical (text : List UInt8) : Bool :=
  !text.isEmpty && text.all isDigit && (text == [48] || text.head? != some 48)

/-- Canonical digits, or those of a number other than zero behind a minus sign. -/
def canonicalSigned (text : List UInt8) : Bool :=
  canonical text || (text.head? == some 45 && canonical text.tail && text.tail != [48])

theorem head_digits {number : Nat} (positive : 0 < number) : (digits number).head? ≠ some 48 := by
  induction number using induction with
  | small digit less =>
    have all : ∀ digit : Fin 10, 0 < digit.val → (48 + digit.val).toUInt8 ≠ 48 := by decide
    rw [digits_small less]
    simpa using all ⟨digit, less⟩ positive
  | large number more ih =>
    rw [digits_large more, List.head?_append_of_ne_nil _ (digits_ne_nil _)]
    exact ih (by omega)

theorem canonical_digits (number : Nat) : canonical (digits number) = true := by
  have all : (digits number).all isDigit = true :=
    List.all_eq_true.mpr fun byte member => isDigit_of_mem_digits member
  rcases Nat.eq_zero_or_pos number with rfl | positive
  · decide
  · simp [canonical, all, digits_ne_nil, head_digits positive]

/-- Canonical digits are the digits of the number they spell. -/
theorem digits_of_canonical {text : List UInt8} (holds : canonical text = true) :
    text = digits (value text) := by
  simp only [canonical, Bool.and_eq_true, Bool.not_eq_true', List.isEmpty_eq_false_iff,
    List.all_eq_true, Bool.or_eq_true, beq_iff_eq, bne_iff_ne] at holds
  obtain ⟨⟨nonempty, plain⟩, unpadded⟩ := holds
  rcases unpadded with rfl | unpadded
  · rfl
  · obtain ⟨zeros, spelled⟩ := digits_of_value nonempty plain
    cases zeros with
    | zero => exact spelled
    | succ zeros =>
      rw [spelled] at unpadded
      exact absurd rfl unpadded

theorem value_of_parse {limit number : Nat} {text : List UInt8} (plain : text.all isDigit = true)
    (read : parse limit text = some number) : value text = number := by
  have unsigned : text.head? ≠ some 43 := by
    intro sign
    exact absurd (List.all_eq_true.mp plain _ (List.mem_of_head? sign)) (by decide)
  simp only [parse, if_neg unsigned] at read
  split at read
  next => cases read
  next =>
    split at read
    next => exact Option.some.inj read
    next => cases read

theorem head_of_parse {limit number : Nat} {text : List UInt8}
    (read : parse limit text = some number) : text.head? ≠ some 45 := by
  obtain ⟨-, sign, zeros, allowed, rfl⟩ := parse_eq_some.mp read
  intro minus
  rcases allowed with rfl | rfl
  · rw [List.nil_append] at minus
    have member := List.mem_of_head? minus
    rcases List.mem_append.mp member with zero | digit
    · exact absurd (List.eq_of_mem_replicate zero) (by decide)
    · exact absurd (isDigit_of_mem_digits digit) (by decide)
  · cases minus

/-- Of all spellings of a natural number the canonical one is its digits. -/
theorem canonicalSigned_iff_digits {limit number : Nat} {text : List UInt8}
    (read : parse limit text = some number) :
    canonicalSigned text = true ↔ text = digits number := by
  have unsigned := head_of_parse read
  constructor
  · intro holds
    simp only [canonicalSigned, Bool.or_eq_true, Bool.and_eq_true, beq_iff_eq, unsigned,
      false_and, or_false] at holds
    have plain : text.all isDigit = true := by
      simp only [canonical, Bool.and_eq_true] at holds
      exact holds.1.2
    rw [← value_of_parse plain read]
    exact digits_of_canonical holds
  · rintro rfl
    simp [canonicalSigned, canonical_digits]

/-- How an integer is written. -/
def spelled : Int → List UInt8
  | .ofNat number => digits number
  | .negSucc number => 45 :: digits (number + 1)

theorem utf8_toString_int (number : Int) :
    (toString number).toUTF8.data.toList = spelled number := by
  cases number with
  | ofNat number => exact utf8_toString number
  | negSucc number =>
    show ("-" ++ toString (number + 1)).toUTF8.data.toList = _
    rw [utf8_append, utf8_toString]
    rfl

theorem parseSigned_spelled {limit : Nat} {number : Int} (low : -(limit : Int) ≤ number)
    (high : number < limit) : parseSigned limit (spelled number) = some number := by
  cases number with
  | ofNat number =>
    have within : number < limit := Int.ofNat_lt.mp high
    unfold parseSigned spelled
    rw [if_neg (head_of_parse (parse_digits within)), parse_digits within]
    rfl
  | negSucc number =>
    have all : (digits (number + 1)).all isDigit = true :=
      List.all_eq_true.mpr fun byte member => isDigit_of_mem_digits member
    have within : number + 1 ≤ limit := by omega
    have written : (digits (number + 1)).isEmpty = false := by simp [digits_ne_nil]
    have signed : (spelled (.negSucc number)).head? = some 45 := rfl
    have unsigned : (spelled (.negSucc number)).tail = digits (number + 1) := rfl
    unfold parseSigned
    rw [if_pos signed, unsigned, written, all, value_digits,
      if_neg (by decide : ¬(false || !true) = true), if_pos within]
    exact congrArg some (Int.neg_ofNat_succ number)

theorem parseSigned_bounds {limit : Nat} {number : Int} {text : List UInt8}
    (positive : 0 < limit) (read : parseSigned limit text = some number) :
    -(limit : Int) ≤ number ∧ number < limit := by
  unfold parseSigned at read
  split at read
  next =>
    split at read
    next => cases read
    next =>
      split at read
      next within =>
        cases read
        omega
      next => cases read
  next =>
    obtain ⟨natural, parsed, rfl⟩ := Option.map_eq_some_iff.mp read
    have within := parse_lt parsed
    have nonnegative : (0 : Int) ≤ Int.ofNat natural := Int.natCast_nonneg natural
    exact ⟨by omega, Int.ofNat_lt.mpr within⟩

theorem parse_sign {numeral : List UInt8} : canonical (45 :: numeral) = false := by
  have minus : isDigit 45 = false := by decide
  simp [canonical, minus]

/-- Digits behind a minus sign spell the integer canonically when they do so and are not zero. -/
theorem canonicalSigned_minus {numeral : List UInt8} :
    canonicalSigned (45 :: numeral) = true ↔
      45 :: numeral = spelled (-(value numeral : Int)) := by
  have step : canonicalSigned (45 :: numeral) = true ↔
      canonical numeral = true ∧ numeral ≠ [48] := by
    simp [canonicalSigned, parse_sign]
  rw [step]
  constructor
  · rintro ⟨holds, nonzero⟩
    have same := digits_of_canonical holds
    cases counted : value numeral with
    | zero =>
      rw [counted] at same
      exact absurd same nonzero
    | succ smaller =>
      rw [counted] at same
      exact congrArg (List.cons 45) same
  · intro same
    cases counted : value numeral with
    | zero =>
      rw [counted] at same
      cases (List.cons.inj same).1
    | succ smaller =>
      rw [counted] at same
      have digits_ : numeral = digits (smaller + 1) := (List.cons.inj same).2
      rw [digits_]
      refine ⟨canonical_digits _, fun zero => ?_⟩
      exact head_digits (Nat.succ_pos smaller) (by rw [zero]; rfl)

/-- Of all spellings of an integer the canonical one is how it is written. -/
theorem canonicalSigned_iff_spelled {limit : Nat} {number : Int} {text : List UInt8}
    (read : parseSigned limit text = some number) :
    canonicalSigned text = true ↔ text = spelled number := by
  unfold parseSigned at read
  split at read
  next minus =>
    obtain ⟨numeral, rfl⟩ := List.head?_eq_some_iff.mp minus
    split at read
    next => cases read
    next =>
      split at read
      next =>
        cases read
        exact canonicalSigned_minus
      next => cases read
  next =>
    obtain ⟨natural, parsed, rfl⟩ := Option.map_eq_some_iff.mp read
    exact canonicalSigned_iff_digits parsed

end Foundation.Decimal

/-! Integers of sixty-four bits with a sign. -/

namespace Foundation

def lowest64 : Int := -9223372036854775808
def highest64 : Int := 9223372036854775807

def Fits64 (value : Int) : Prop := lowest64 ≤ value ∧ value ≤ highest64

instance (value : Int) : Decidable (Fits64 value) := inferInstanceAs (Decidable (_ ∧ _))

/-- The result of an operation, if it is a number of sixty-four bits. -/
def i64 (value : Int) : Option Int := if Fits64 value then some value else none

theorem i64_fits {value : Int} (low : lowest64 ≤ value) (high : value ≤ highest64) :
    i64 value = some value := if_pos ⟨low, high⟩

theorem i64_eq_some {value result : Int} : i64 value = some result ↔ Fits64 value ∧ value = result := by
  unfold i64
  split
  next fits => simp [fits]
  next wide => simp [wide]

/-- A step of a computation whose result fits goes on with it. -/
theorem i64_step {value : Int} {more : Int → Option Int} {result : Option Int}
    (fits : -9223372036854775808 ≤ value ∧ value ≤ 9223372036854775807) (rest : more value = result) :
    (i64 value >>= more) = result := by
  rw [i64_fits fits.1 fits.2]
  exact rest

end Foundation
