import ProfilePlatform.Foundation.Decimal
import ProfilePlatform.Foundation.Texts

/-! Texts made of fields with a separator between them. -/

set_option autoImplicit false

namespace Foundation

namespace Fields

/-- The fields of a text. There is one more of them than there are separators. -/
def split (separator : Char) (text : String) : List String :=
  (text.toList.splitOn separator).map String.ofList

def join (separator : Char) (fields : List String) : String :=
  String.ofList ([separator].intercalate (fields.map String.toList))

variable {separator : Char}

theorem join_split (text : String) : join separator (split separator text) = text := by
  have fields : (split separator text).map String.toList = text.toList.splitOn separator := by
    simp [split, Function.comp_def]
  rw [join, fields, List.intercalate_splitOn, String.ofList_toList]

theorem split_join {fields : List String} (nonempty : fields ≠ [])
    (plain : ∀ field ∈ fields, separator ∉ field.toList) :
    split separator (join separator fields) = fields := by
  have lists : ∀ field ∈ fields.map String.toList, separator ∉ field := by
    simpa using plain
  rw [split, join, String.toList_ofList,
    List.splitOn_intercalate separator lists (by simpa using nonempty)]
  simp [Function.comp_def]

theorem eq_join_of_split {text : String} {fields : List String}
    (read : split separator text = fields) : text = join separator fields := by
  rw [← read, join_split]

theorem mem_join {fields : List String} {char : Char}
    (member : char ∈ (join separator fields).toList) :
    char = separator ∨ ∃ field ∈ fields, char ∈ field.toList := by
  rw [join, String.toList_ofList] at member
  induction fields with
  | nil => cases member
  | cons field rest ih =>
    cases rest with
    | nil => exact .inr ⟨field, List.mem_cons_self, by simpa using member⟩
    | cons next rest =>
      simp only [List.map_cons, List.intercalate_cons_cons, List.mem_append,
        List.mem_singleton] at member ih
      rcases member with (first | between) | later
      · exact .inr ⟨field, List.mem_cons_self, first⟩
      · exact .inl between
      · rcases ih later with between | ⟨other, member, inside⟩
        · exact .inl between
        · exact .inr ⟨other, List.mem_cons_of_mem _ member, inside⟩

end Fields

section Bytes

theorem utf8_append (left right : String) : (left ++ right).toUTF8.data.toList =
    left.toUTF8.data.toList ++ right.toUTF8.data.toList := by
  simp only [utf8_eq, String.toList_append, List.flatMap_append]

theorem eq_of_utf8 {left right : String}
    (same : left.toUTF8.data.toList = right.toUTF8.data.toList) : left = right :=
  String.toByteArray_inj.mp (ByteArray.ext (Array.toList_inj.mp same))

theorem utf8EncodeChar_of_ascii {char : Char} (ascii : char.toNat < 128) :
    String.utf8EncodeChar char = [UInt8.ofNat char.toNat] := by
  have small : char.toNat ≤ 127 := Nat.le_of_lt_succ ascii
  simp [String.utf8EncodeChar, small]

theorem utf8_ofList {chars : List Char} (ascii : ∀ char ∈ chars, char.toNat < 128) :
    (String.ofList chars).toUTF8.data.toList = chars.map fun char => UInt8.ofNat char.toNat := by
  rw [utf8_eq, String.toList_ofList]
  induction chars with
  | nil => rfl
  | cons char rest ih =>
    rw [List.flatMap_cons, utf8EncodeChar_of_ascii (ascii char List.mem_cons_self),
      ih fun other member => ascii other (List.mem_cons_of_mem _ member)]
    rfl

theorem utf8_toString (number : Nat) :
    (toString number).toUTF8.data.toList = Decimal.digits number := by
  refine utf8_ofList fun char member => ?_
  have digit := Nat.isDigit_of_mem_toDigits (by decide) (Nat.le_refl 10) member
  simp only [Char.isDigit, Bool.and_eq_true, decide_eq_true_eq, UInt32.le_iff_toNat_le] at digit
  exact Nat.lt_of_le_of_lt digit.2 (by decide)

/-- An ASCII character of a text is one of its bytes. -/
theorem byte_mem_of_char {text : String} {char : Char} (ascii : char.toNat < 128)
    (member : char ∈ text.toList) : UInt8.ofNat char.toNat ∈ text.toUTF8.data.toList := by
  rw [utf8_eq, List.mem_flatMap]
  exact ⟨char, member, by rw [utf8EncodeChar_of_ascii ascii]; exact List.mem_singleton_self _⟩

/-- And an ASCII byte of a text is one of its characters. -/
theorem char_of_byte {text : String} {byte : UInt8} (ascii : byte < 128)
    (member : byte ∈ text.toUTF8.data.toList) :
    ∃ char ∈ text.toList, char.toNat < 128 ∧ byte = UInt8.ofNat char.toNat := by
  rw [utf8_eq, List.mem_flatMap] at member
  obtain ⟨char, within, encoded⟩ := member
  exact ⟨char, within, utf8EncodeChar_byte ascii encoded⟩

end Bytes

end Foundation
