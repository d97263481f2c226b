import Mathlib.Data.List.Basic

/-! Quoted-printable texts, piece by piece. A byte stands for itself or is escaped by two
hexadecimal digits, a soft line break stands for nothing, and a hard one for itself. Spaces and
tabs in front of a line break, or at the end, were added in transport. -/

set_option autoImplicit false

namespace Foundation.QuotedPrintable

inductive Piece where
  | literal (byte : UInt8)
  | escape (high low : UInt8)
  | soft (padding lineBreak : List UInt8)
  | hard (padding lineBreak : List UInt8)
  | ending (padding : List UInt8)
  deriving DecidableEq

/-- The value of a hexadecimal digit, in either case. -/
def digitValue (digit : UInt8) : Option Nat :=
  if 48 ≤ digit ∧ digit ≤ 57 then some (digit.toNat - 48)
  else if 97 ≤ digit ∧ digit ≤ 102 then some (digit.toNat - 97 + 10)
  else if 65 ≤ digit ∧ digit ≤ 70 then some (digit.toNat - 65 + 10)
  else none

theorem digitValue_lt {digit : UInt8} {value : Nat} (valued : digitValue digit = some value) :
    value < 16 := by
  unfold digitValue at valued
  simp only [UInt8.le_iff_toNat_le] at valued
  split at valued
  next digit =>
    cases valued
    change 48 ≤ _ ∧ _ ≤ 57 at digit
    omega
  split at valued
  next lower =>
    cases valued
    change 97 ≤ _ ∧ _ ≤ 102 at lower
    omega
  split at valued
  next upper =>
    cases valued
    change 65 ≤ _ ∧ _ ≤ 70 at upper
    omega
  next => cases valued

def Piece.text : Piece → List UInt8
  | .literal byte => [byte]
  | .escape high low => [61, high, low]
  | .soft padding lineBreak => 61 :: padding ++ lineBreak
  | .hard padding lineBreak => padding ++ lineBreak
  | .ending padding => padding

def Piece.bytes : Piece → List UInt8
  | .literal byte => [byte]
  | .escape high low => [((digitValue high).getD 0 * 16 + (digitValue low).getD 0).toUInt8]
  | .hard _ lineBreak => lineBreak
  | .soft _ _ | .ending _ => []

def text (pieces : List Piece) : List UInt8 := pieces.flatMap Piece.text

def bytes (pieces : List Piece) : List UInt8 := pieces.flatMap Piece.bytes

section Legal

def IsBlank (byte : UInt8) : Prop := byte = 32 ∨ byte = 9

def IsLineBreak (lineBreak : List UInt8) : Prop := lineBreak = [13, 10] ∨ lineBreak = [10]

instance : DecidablePred IsBlank := fun byte => inferInstanceAs (Decidable (byte = 32 ∨ byte = 9))

instance : DecidablePred IsLineBreak := fun lineBreak =>
  inferInstanceAs (Decidable (lineBreak = [13, 10] ∨ lineBreak = [10]))

def Piece.padding : Piece → List UInt8
  | .soft padding _ | .hard padding _ | .ending padding => padding
  | .literal _ | .escape _ _ => []

/-- Literals are printable ASCII other than the equals sign, or blanks. -/
def Piece.WellFormed : Piece → Prop
  | .literal byte => IsBlank byte ∨ (33 ≤ byte ∧ byte ≤ 126 ∧ byte ≠ 61)
  | .escape high low => (digitValue high).isSome ∧ (digitValue low).isSome
  | .soft padding lineBreak | .hard padding lineBreak =>
    (∀ byte ∈ padding, IsBlank byte) ∧ IsLineBreak lineBreak
  | .ending padding => ∀ byte ∈ padding, IsBlank byte

instance : DecidablePred Piece.WellFormed
  | .literal byte =>
    inferInstanceAs (Decidable (IsBlank byte ∨ (33 ≤ byte ∧ byte ≤ 126 ∧ byte ≠ 61)))
  | .escape high low =>
    inferInstanceAs (Decidable ((digitValue high).isSome ∧ (digitValue low).isSome))
  | .soft padding lineBreak | .hard padding lineBreak =>
    have := List.decidableBAll IsBlank padding
    inferInstanceAs (Decidable ((∀ byte ∈ padding, IsBlank byte) ∧ IsLineBreak lineBreak))
  | .ending padding => List.decidableBAll IsBlank padding

/-- A literal blank may not be the last of its line, and no line is longer than the room. -/
def fits (room : Nat) : Nat → List Piece → Bool
  | used, [] => used ≤ room
  | used, .literal byte :: more =>
    fits room (used + 1) more && (!decide (IsBlank byte) || match more with
      | .literal _ :: _ | .escape _ _ :: _ | .soft _ _ :: _ => true
      | _ => false)
  | used, .escape _ _ :: more => fits room (used + 3) more
  | used, .soft _ _ :: more => (used + 1 ≤ room) && fits room 0 more
  | used, .hard _ _ :: more => (used ≤ room) && fits room 0 more
  | used, .ending _ :: more => (used ≤ room) && more.isEmpty

/-- The text is a quoted-printable encoding of the bytes. -/
structure Encodes (encoded decoded : List UInt8) (pieces : List Piece) : Prop where
  wellFormed : ∀ piece ∈ pieces, piece.WellFormed
  fits : fits 76 0 pieces = true
  text : text pieces = encoded
  bytes : bytes pieces = decoded

end Legal

section Spelling

/-- As in an encoding without padding, but every byte other than the equals sign may be
literal. -/
def Piece.Plain : Piece → Prop
  | .literal byte => byte ≠ 61
  | .escape high low => (digitValue high).isSome ∧ (digitValue low).isSome
  | .soft padding lineBreak | .hard padding lineBreak => padding = [] ∧ IsLineBreak lineBreak
  | .ending padding => padding = []

/-- The bytes are what the text stands for, piece by piece. -/
def Spells (encoded decoded : List UInt8) : Prop :=
  ∃ pieces : List Piece, (∀ piece ∈ pieces, piece.Plain) ∧ text pieces = encoded ∧
    bytes pieces = decoded

theorem Encodes.spells {encoded decoded : List UInt8} {pieces : List Piece}
    (encodes : Encodes encoded decoded pieces) (unpadded : ∀ piece ∈ pieces, piece.padding = []) :
    Spells encoded decoded := by
  refine ⟨pieces, fun piece member => ?_, encodes.text, encodes.bytes⟩
  have formed := encodes.wellFormed piece member
  have bare := unpadded piece member
  cases piece with
  | literal byte =>
    rcases formed with (rfl | rfl) | ⟨-, -, other⟩
    · exact fun same => absurd same (by decide)
    · exact fun same => absurd same (by decide)
    · exact other
  | escape high low => exact formed
  | soft padding lineBreak => exact ⟨bare, formed.2⟩
  | hard padding lineBreak => exact ⟨bare, formed.2⟩
  | ending padding => exact bare

theorem spells_nil : Spells [] [] := ⟨[], by simp, rfl, rfl⟩

theorem Spells.cons {encoded decoded : List UInt8} {piece : Piece} (plain : piece.Plain)
    (spells : Spells encoded decoded) :
    Spells (piece.text ++ encoded) (piece.bytes ++ decoded) := by
  obtain ⟨pieces, plains, rfl, rfl⟩ := spells
  exact ⟨piece :: pieces, List.forall_mem_cons.mpr ⟨plain, plains⟩, rfl, rfl⟩

end Spelling

end Foundation.QuotedPrintable
