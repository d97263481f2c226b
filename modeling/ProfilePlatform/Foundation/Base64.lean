import Mathlib.Data.List.Forall2

/-! Base64 texts. Bytes taken three at a time are four groups of six bits, and a last one or two
bytes are two or three groups, filled up with zero bits. An alphabet has a character for each
group. Padding, where there is any, makes the number of characters a multiple of four, and
white space may stand anywhere. -/

set_option autoImplicit false

namespace Foundation.Base64

/-- The groups of six bits of some bytes. -/
def sextets : List UInt8 → List Nat
  | [] => []
  | [first] => [first.toNat / 4, first.toNat % 4 * 16]
  | [first, second] =>
    [first.toNat / 4, first.toNat % 4 * 16 + second.toNat / 16, second.toNat % 16 * 4]
  | first :: second :: third :: more =>
    first.toNat / 4 :: (first.toNat % 4 * 16 + second.toNat / 16) ::
      (second.toNat % 16 * 4 + third.toNat / 64) :: third.toNat % 64 :: sextets more

/-- The bytes whose groups these are, if the bits that fill up the last group are zero. -/
def octets : List Nat → Option (List UInt8)
  | [] => some []
  | [_] => none
  | [first, second] =>
    if second % 16 = 0 then some [(first * 4 + second / 16).toUInt8] else none
  | [first, second, third] =>
    if third % 4 = 0 then
      some [(first * 4 + second / 16).toUInt8, (second % 16 * 16 + third / 4).toUInt8]
    else none
  | first :: second :: third :: fourth :: more =>
    (octets more).map fun bytes =>
      (first * 4 + second / 16).toUInt8 :: (second % 16 * 16 + third / 4).toUInt8 ::
        (third % 4 * 64 + fourth).toUInt8 :: bytes

inductive Alphabet where
  | standard | urlSafe
  deriving DecidableEq, Repr

def Alphabet.character (alphabet : Alphabet) (sextet : Nat) : UInt8 :=
  if sextet < 26 then (65 + sextet).toUInt8
  else if sextet < 52 then (97 + (sextet - 26)).toUInt8
  else if sextet < 62 then (48 + (sextet - 52)).toUInt8
  else match alphabet with
    | .standard => if sextet = 62 then 43 else 47
    | .urlSafe => if sextet = 62 then 45 else 95

def padding (bytes : List UInt8) : List UInt8 := List.replicate ((3 - bytes.length % 3) % 3) 61

def encode (alphabet : Alphabet) (padded : Bool) (bytes : List UInt8) : List UInt8 :=
  (sextets bytes).map alphabet.character ++ if padded then padding bytes else []

/-- Each character is the one that one of the alphabets has for its group. -/
def Characters (characters : List UInt8) (groups : List Nat) : Prop :=
  List.Forall₂ (fun character group => ∃ alphabet : Alphabet, alphabet.character group = character)
    characters groups

/-- The text without white space is a base64 text of the bytes, in which the alphabets may be
mixed. -/
def Spells (isSpace : UInt8 → Bool) (text bytes : List UInt8) : Prop :=
  ∃ characters, Characters characters (sextets bytes) ∧
    ∃ padded : Bool, (text.filter fun byte => !isSpace byte) =
      characters ++ if padded then padding bytes else []

theorem spells_encode {isSpace : UInt8 → Bool} {text bytes : List UInt8} {alphabet : Alphabet}
    {padded : Bool} (encoded : (text.filter fun byte => !isSpace byte) = encode alphabet padded bytes) :
    Spells isSpace text bytes := by
  refine ⟨(sextets bytes).map alphabet.character, ?_, padded, encoded⟩
  rw [Characters, List.forall₂_map_left_iff]
  exact List.forall₂_same.mpr fun group _ => ⟨alphabet, rfl⟩

section Groups

theorem sextets_lt {bytes : List UInt8} : ∀ group ∈ sextets bytes, group < 64 := by
  fun_induction sextets bytes with
  | case1 => simp
  | case2 first =>
    have bounded := first.toNat_lt
    simp only [List.mem_cons, List.not_mem_nil, or_false, forall_eq_or_imp, forall_eq]
    omega
  | case3 first second =>
    have bounded := first.toNat_lt
    have bounded' := second.toNat_lt
    simp only [List.mem_cons, List.not_mem_nil, or_false, forall_eq_or_imp, forall_eq]
    omega
  | case4 first second third more ih =>
    have bounded := first.toNat_lt
    have bounded' := second.toNat_lt
    have bounded'' := third.toNat_lt
    simp only [List.mem_cons, forall_eq_or_imp]
    exact ⟨by omega, by omega, by omega, by omega, ih⟩

theorem toUInt8_eq {value : Nat} (byte : UInt8) (same : value = byte.toNat) :
    value.toUInt8 = byte := by
  subst same
  exact UInt8.ofNat_toNat

theorem toNat_toUInt8 {value : Nat} (small : value < 256) : value.toUInt8.toNat = value :=
  Nat.mod_eq_of_lt small

/-- The groups of some bytes lead back to them. -/
theorem octets_sextets (bytes : List UInt8) : octets (sextets bytes) = some bytes := by
  fun_induction sextets bytes with
  | case1 => rfl
  | case2 first =>
    have bounded := first.toNat_lt
    rw [octets, if_pos (by omega), toUInt8_eq first (by omega)]
  | case3 first second =>
    have bounded := first.toNat_lt
    have bounded' := second.toNat_lt
    rw [octets, if_pos (by omega), toUInt8_eq first (by omega),
      toUInt8_eq second (by omega)]
  | case4 first second third more ih =>
    have bounded := first.toNat_lt
    have bounded' := second.toNat_lt
    have bounded'' := third.toNat_lt
    rw [octets, ih, Option.map_some, toUInt8_eq first (by omega),
      toUInt8_eq second (by omega), toUInt8_eq third (by omega)]

/-- Groups that lead to bytes are the groups of these bytes. -/
theorem sextets_octets {groups : List Nat} {bytes : List UInt8} (small : ∀ group ∈ groups, group < 64)
    (grouped : octets groups = some bytes) : sextets bytes = groups := by
  fun_induction octets groups generalizing bytes with
  | case1 =>
    cases grouped
    rfl
  | case2 => cases grouped
  | case3 first second filled =>
    cases grouped
    simp only [List.mem_cons, List.not_mem_nil, or_false, forall_eq_or_imp, forall_eq] at small
    rw [sextets, toNat_toUInt8 (by omega), List.cons.injEq, List.cons.injEq]
    exact ⟨by omega, by omega, rfl⟩
  | case4 first second unfilled => cases grouped
  | case5 first second third filled =>
    cases grouped
    simp only [List.mem_cons, List.not_mem_nil, or_false, forall_eq_or_imp, forall_eq] at small
    rw [sextets, toNat_toUInt8 (by omega), toNat_toUInt8 (by omega), List.cons.injEq,
      List.cons.injEq, List.cons.injEq]
    exact ⟨by omega, by omega, by omega, rfl⟩
  | case6 first second third unfilled => cases grouped
  | case7 first second third fourth more ih =>
    obtain ⟨later, found, rfl⟩ := Option.map_eq_some_iff.mp grouped
    simp only [List.mem_cons, forall_eq_or_imp] at small
    rw [sextets, toNat_toUInt8 (by omega), toNat_toUInt8 (by omega), toNat_toUInt8 (by omega),
      ih small.2.2.2.2 found]
    simp only [List.cons.injEq, and_true]
    exact ⟨by omega, by omega, by omega, by omega⟩

theorem length_sextets (bytes : List UInt8) :
    (sextets bytes).length = bytes.length + (bytes.length + 2) / 3 := by
  fun_induction sextets bytes with
  | case1 => rfl
  | case2 => simp
  | case3 => simp
  | case4 first second third more ih =>
    simp only [List.length_cons, ih]
    omega

end Groups

end Foundation.Base64
