import ProfilePlatform.Foundation.Bytes
import ProfilePlatform.Foundation.Fields
import ProfilePlatform.Foundation.QuotedPrintable

/-! Bytes written as pairs of hexadecimal digits, and how such pairs are read. -/

set_option autoImplicit false

namespace Foundation.Hex

open QuotedPrintable (digitValue digitValue_lt)

/-- One digit, a letter being a small one. -/
def digit (value : Nat) : UInt8 := if value < 10 then (48 + value).toUInt8 else (87 + value).toUInt8

def text (bytes : List UInt8) : List UInt8 :=
  bytes.flatMap fun byte => [digit (byte.toNat / 16), digit (byte.toNat % 16)]

def isDigit (byte : UInt8) : Bool := (digitValue byte).isSome

def isCapital (byte : UInt8) : Bool := 65 ≤ byte && byte ≤ 90

/-- Two characters as a number. There may be a sign in front of a single digit. -/
def pairValue (first second : UInt8) : Option Nat :=
  if first = 43 then digitValue second
  else do
    let high ← digitValue first
    let low ← digitValue second
    return 16 * high + low

/-- The bytes that pairs of characters stand for. -/
def bytes : List UInt8 → Option (List UInt8)
  | [] => some []
  | [_] => none
  | first :: second :: rest => do
    let value ← pairValue first second
    let more ← bytes rest
    return value.toUInt8 :: more

section Digits

theorem digitValue_digit {value : Nat} (small : value < 16) : digitValue (digit value) = some value := by
  have each : ∀ value < 16, digitValue (digit value) = some value := by decide
  exact each value small

theorem isCapital_digit {value : Nat} (small : value < 16) : isCapital (digit value) = false := by
  have each : ∀ value < 16, isCapital (digit value) = false := by decide
  exact each value small

/-- A digit that is no capital is the one its value is written with. -/
theorem digit_of_value {byte : UInt8} {value : Nat} (valued : digitValue byte = some value)
    (small : isCapital byte = false) : digit value = byte := by
  have bounded := byte.toNat_lt
  have same (number : Nat) (here : number = byte.toNat) : number.toUInt8 = byte := by
    subst here
    exact UInt8.ofNat_toNat
  unfold digitValue at valued
  unfold digit
  simp only [UInt8.le_iff_toNat_le] at valued
  split at valued
  next range =>
    cases valued
    change 48 ≤ _ ∧ _ ≤ 57 at range
    rw [if_pos (by omega)]
    exact same _ (by omega)
  split at valued
  next range =>
    cases valued
    change 97 ≤ _ ∧ _ ≤ 102 at range
    rw [if_neg (by omega)]
    exact same _ (by omega)
  split at valued
  next range =>
    have capital : isCapital byte = true := by
      simp only [isCapital, Bool.and_eq_true, decide_eq_true_eq, UInt8.le_iff_toNat_le]
      change 65 ≤ _ ∧ _ ≤ 70 at range
      exact ⟨range.1, Nat.le_trans range.2 (by decide)⟩
    rw [small] at capital
    cases capital
  next => cases valued

/-- A sign is no digit. -/
theorem digitValue_sign : digitValue 43 = none := rfl

theorem pairValue_digits {first second : UInt8} {high low : Nat} (front : digitValue first = some high)
    (back : digitValue second = some low) : pairValue first second = some (16 * high + low) := by
  have unsigned : first ≠ 43 := by
    rintro rfl
    rw [digitValue_sign] at front
    cases front
  rw [pairValue, if_neg unsigned, front, back]
  rfl

end Digits

section Texts

variable {pairs : List UInt8}

@[simp] theorem length_text (bytes : List UInt8) : (text bytes).length = 2 * bytes.length := by
  induction bytes with
  | nil => rfl
  | cons byte rest ih =>
    rw [text, List.flatMap_cons, List.length_append, ← text, ih]
    simp only [List.length_cons, List.length_nil]
    omega

theorem text_digits (bytes : List UInt8) : ∀ byte ∈ text bytes, isDigit byte = true ∧
    isCapital byte = false := by
  intro byte member
  obtain ⟨source, -, member⟩ := List.mem_flatMap.mp member
  have bounded := source.toNat_lt
  have each (value : Nat) (small : value < 16) :
      isDigit (digit value) = true ∧ isCapital (digit value) = false :=
    ⟨by rw [isDigit, digitValue_digit small]; rfl, isCapital_digit small⟩
  simp only [List.mem_cons, List.not_mem_nil, or_false] at member
  rcases member with rfl | rfl
  · exact each _ (by omega)
  · exact each _ (by omega)

theorem bytes_text (source : List UInt8) : bytes (text source) = some source := by
  induction source with
  | nil => rfl
  | cons byte rest ih =>
    have bounded := byte.toNat_lt
    have pair := pairValue_digits (digitValue_digit (show byte.toNat / 16 < 16 by omega))
      (digitValue_digit (show byte.toNat % 16 < 16 by omega))
    have whole : 16 * (byte.toNat / 16) + byte.toNat % 16 = byte.toNat := by omega
    rw [whole] at pair
    have spelled : text (byte :: rest) =
        digit (byte.toNat / 16) :: digit (byte.toNat % 16) :: text rest := rfl
    rw [spelled, bytes, pair, ih]
    exact congrArg (fun first => some (first :: rest)) UInt8.ofNat_toNat

theorem length_of_bytes {source : List UInt8} (read : bytes pairs = some source) :
    pairs.length = 2 * source.length := by
  fun_induction bytes pairs generalizing source with
  | case1 =>
    cases read
    rfl
  | case2 => cases read
  | case3 first second rest ih =>
    obtain ⟨value, -, read⟩ := Option.bind_eq_some_iff.mp read
    obtain ⟨more, later, same⟩ := Option.bind_eq_some_iff.mp read
    cases same
    simp only [List.length_cons, ih later]
    omega

/-- Digits without capitals are how the bytes they stand for are written. -/
theorem text_of_bytes {source : List UInt8} (read : bytes pairs = some source)
    (digits : ∀ byte ∈ pairs, isDigit byte = true) (small : ∀ byte ∈ pairs, isCapital byte = false) :
    text source = pairs := by
  fun_induction bytes pairs generalizing source with
  | case1 =>
    cases read
    rfl
  | case2 => cases read
  | case3 first second rest ih =>
    obtain ⟨high, front⟩ := Option.isSome_iff_exists.mp (digits first (by simp))
    obtain ⟨low, back⟩ := Option.isSome_iff_exists.mp (digits second (by simp))
    obtain ⟨value, paired, read⟩ := Option.bind_eq_some_iff.mp read
    rw [pairValue_digits front back] at paired
    cases paired
    obtain ⟨more, later, same⟩ := Option.bind_eq_some_iff.mp read
    cases same
    have highSmall := digitValue_lt front
    have lowSmall := digitValue_lt back
    have number : (16 * high + low).toUInt8.toNat = 16 * high + low := Nat.mod_eq_of_lt (by omega)
    have tail := ih later (fun byte member => digits byte (by simp [member]))
      fun byte member => small byte (by simp [member])
    have spelled : text ((16 * high + low).toUInt8 :: more) =
        digit ((16 * high + low).toUInt8.toNat / 16) ::
          digit ((16 * high + low).toUInt8.toNat % 16) :: text more := rfl
    rw [spelled, number, show (16 * high + low) / 16 = high by omega,
      show (16 * high + low) % 16 = low by omega, digit_of_value front (small first (by simp)),
      digit_of_value back (small second (by simp)), tail]

/-- A digest in hexadecimal, byte for byte. -/
theorem utf8_hexDigest (source : List UInt8) : (hexDigest source).toUTF8.data.toList = text source := by
  have each : ∀ value < 16, (hexDigit value).toNat < 128 ∧
      UInt8.ofNat (hexDigit value).toNat = digit value := by decide
  have pairs (byte : UInt8) (char : Char)
      (member : char ∈ [hexDigit (byte.toNat / 16), hexDigit (byte.toNat % 16)]) :
      char.toNat < 128 := by
    have bounded := byte.toNat_lt
    simp only [List.mem_cons, List.not_mem_nil, or_false] at member
    rcases member with rfl | rfl
    · exact (each _ (by omega)).1
    · exact (each _ (by omega)).1
  rw [hexDigest, utf8_ofList fun char member => by
    obtain ⟨byte, -, member⟩ := List.mem_flatMap.mp member
    exact pairs byte char member]
  rw [List.map_flatMap, text]
  congr 1
  funext byte
  have bounded := byte.toNat_lt
  simp only [List.map_cons, List.map_nil, (each _ (show byte.toNat / 16 < 16 by omega)).2,
    (each _ (show byte.toNat % 16 < 16 by omega)).2]

end Texts

end Foundation.Hex
