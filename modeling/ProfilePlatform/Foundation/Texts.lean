import Mathlib.Data.List.TakeWhile

/-! The bytes of a text and the characters a database sees of it. -/

set_option autoImplicit false

namespace Foundation

section Encoding

theorem utf8_eq (text : String) :
    text.toUTF8.data.toList = text.toList.flatMap String.utf8EncodeChar := by
  unfold String.toUTF8
  rw [← String.utf8Encode_toList]
  induction text.toList with
  | nil => rfl
  | cons char rest ih =>
    rw [List.utf8Encode_cons, List.utf8Encode_singleton]
    simp [ih]

theorem length_le_utf8 (text : String) :
    text.toList.length ≤ text.toUTF8.data.toList.length := by
  rw [utf8_eq]
  induction text.toList with
  | nil => exact Nat.le_refl 0
  | cons char rest ih =>
    have encoded : 0 < (String.utf8EncodeChar char).length :=
      List.length_pos_iff.mpr String.utf8EncodeChar_ne_nil
    simp only [List.flatMap_cons, List.length_append, List.length_cons]
    omega

theorem continuation_not_ascii (value : Nat) : ¬UInt8.ofNat (value % 64 + 128) < 128 := by
  rw [UInt8.lt_iff_toNat_lt, UInt8.toNat_ofNat']
  simp only [UInt8.reduceToNat]
  omega

/-- A character whose bytes are all ASCII is its one byte. The last byte of a longer one is not. -/
theorem utf8EncodeChar_ascii {char : Char}
    (ascii : ∀ byte ∈ String.utf8EncodeChar char, byte < 128) :
    String.utf8EncodeChar char = [UInt8.ofNat char.toNat] ∧ char.toNat < 128 := by
  unfold String.utf8EncodeChar at ascii ⊢
  simp only [] at ascii ⊢
  split at ascii
  next small =>
    rw [if_pos small]
    exact ⟨rfl, Nat.lt_succ_of_le small⟩
  next =>
    refine absurd (ascii (UInt8.ofNat (char.val.toNat % 64 + 128)) ?_) (continuation_not_ascii _)
    split
    · simp
    · split <;> simp

/-- An ASCII byte is all there is of its character. -/
theorem utf8EncodeChar_byte {char : Char} {byte : UInt8} (ascii : byte < 128)
    (member : byte ∈ String.utf8EncodeChar char) :
    char.toNat < 128 ∧ byte = UInt8.ofNat char.toNat := by
  have long {lead : Nat} (high : 128 ≤ lead % 256) (same : byte = UInt8.ofNat lead) : False := by
    rw [same, UInt8.lt_iff_toNat_lt, UInt8.toNat_ofNat'] at ascii
    simp only [UInt8.reduceToNat] at ascii
    omega
  have bound : char.val.toNat < 0x110000 := by
    rcases char.valid with low | ⟨-, high⟩
    · exact Nat.lt_trans low (by decide)
    · exact high
  unfold String.utf8EncodeChar at member
  simp only [] at member
  split at member
  next small => exact ⟨Nat.lt_succ_of_le small, List.mem_singleton.mp member⟩
  next =>
    split at member
    · simp only [List.mem_cons, List.not_mem_nil, or_false] at member
      rcases member with same | same <;> exact (long (by omega) same).elim
    · split at member
      · simp only [List.mem_cons, List.not_mem_nil, or_false] at member
        rcases member with same | same | same <;> exact (long (by omega) same).elim
      · simp only [List.mem_cons, List.not_mem_nil, or_false] at member
        rcases member with same | same | same | same <;> exact (long (by omega) same).elim

/-- A text of ASCII bytes has one character for each of them. -/
theorem ascii_chars {text : String} (ascii : ∀ byte ∈ text.toUTF8.data.toList, byte < 128) :
    text.toUTF8.data.toList = text.toList.map (fun char => UInt8.ofNat char.toNat) ∧
      ∀ char ∈ text.toList, char.toNat < 128 := by
  rw [utf8_eq] at ascii ⊢
  generalize text.toList = chars at ascii ⊢
  induction chars with
  | nil => exact ⟨rfl, nofun⟩
  | cons char rest ih =>
    simp only [List.flatMap_cons, List.mem_append] at ascii
    obtain ⟨first, small⟩ := utf8EncodeChar_ascii fun byte member => ascii byte (.inl member)
    obtain ⟨others, smaller⟩ := ih fun byte member => ascii byte (.inr member)
    rw [List.flatMap_cons, first, others]
    exact ⟨rfl, List.forall_mem_cons.mpr ⟨small, smaller⟩⟩

end Encoding

section Sql

/-- The characters a text function of SQLite sees: those before the first NUL. -/
def sqlChars (text : String) : List Char := text.toList.takeWhile (· ≠ '\x00')

def sqlLength (text : String) : Nat := (sqlChars text).length

theorem sqlLength_le_utf8 (text : String) : sqlLength text ≤ text.toUTF8.data.toList.length :=
  Nat.le_trans (List.takeWhile_prefix _).length_le (length_le_utf8 text)

theorem sqlChars_of_plain {text : String} (plain : ∀ char ∈ text.toList, char ≠ '\x00') :
    sqlChars text = text.toList := by
  unfold sqlChars
  rw [List.takeWhile_eq_self_iff]
  simpa using plain

/-- A text whose bytes are all of an ASCII class, as the database sees it. -/
theorem sql_of_bytes {text : String} {byteClass : UInt8 → Bool} {charClass : Char → Bool}
    (ascii : ∀ byte, byteClass byte = true → byte < 128)
    (agrees : ∀ value < 128, byteClass (UInt8.ofNat value) = charClass (Char.ofNat value))
    (nul : charClass '\x00' = false)
    (plain : ∀ byte ∈ text.toUTF8.data.toList, byteClass byte = true) :
    sqlLength text = text.toUTF8.data.toList.length ∧ (sqlChars text).all charClass = true := by
  obtain ⟨encoded, small⟩ := ascii_chars fun byte member => ascii byte (plain byte member)
  have safe : ∀ char ∈ text.toList, charClass char = true := by
    intro char member
    have accepted := plain (UInt8.ofNat char.toNat) (by
      rw [encoded]
      exact List.mem_map_of_mem member)
    rwa [agrees _ (small char member), Char.ofNat_toNat] at accepted
  have seen : sqlChars text = text.toList := sqlChars_of_plain fun char member same => by
    rw [← same, safe char member] at nul
    cases nul
  rw [sqlLength, seen, encoded, List.length_map]
  exact ⟨rfl, List.all_eq_true.mpr safe⟩

end Sql

end Foundation
