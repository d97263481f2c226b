import ProfilePlatform.Foundation.Bytes
import ProfilePlatform.Foundation.Decimal

/-! Parts of a byte string that say by themselves where they end: numbers of a fixed width, bytes
behind their length, and lines. What follows such a part is never taken for more of it. -/

set_option autoImplicit false

namespace Foundation

/-- The length in so many bytes, and the bytes. -/
def frame (width : Nat) (bytes : List UInt8) : List UInt8 := bigEndian width bytes.length ++ bytes

variable {width : Nat} {more other : List UInt8}

theorem bigEndian_cancel {left right : Nat} (fits : left < capacity width)
    (also : right < capacity width) (same : bigEndian width left ++ more = bigEndian width right ++ other) :
    left = right ∧ more = other := by
  obtain ⟨numbers, rest⟩ := List.append_inj same (by simp)
  rw [← ofBigEndian_bigEndian fits, numbers, ofBigEndian_bigEndian also]
  exact ⟨rfl, rest⟩

theorem frame_cancel {left right : List UInt8} (fits : left.length < capacity width)
    (also : right.length < capacity width) (same : frame width left ++ more = frame width right ++ other) :
    left = right ∧ more = other := by
  simp only [frame, List.append_assoc] at same
  obtain ⟨lengths, rest⟩ := bigEndian_cancel fits also same
  exact List.append_inj rest lengths

theorem block_cancel {size : Nat} {left right : Block size}
    (same : left.val ++ more = right.val ++ other) : left = right ∧ more = other := by
  obtain ⟨bytes, rest⟩ := List.append_inj same (left.property.trans right.property.symm)
  exact ⟨Subtype.ext bytes, rest⟩

/-- A line ends at the first byte that is the separator. -/
theorem line_cancel {A : Type} {separator : A} {left right more other : List A}
    (plain : separator ∉ left) (also : separator ∉ right)
    (same : left ++ separator :: more = right ++ separator :: other) : left = right ∧ more = other := by
  induction left generalizing right with
  | nil =>
    cases right with
    | nil => simpa using same
    | cons first rest =>
      simp only [List.nil_append, List.cons_append, List.cons.injEq] at same
      exact absurd (same.1 ▸ List.mem_cons_self) also
  | cons first rest ih =>
    cases right with
    | nil =>
      simp only [List.nil_append, List.cons_append, List.cons.injEq] at same
      exact absurd (same.1 ▸ List.mem_cons_self) plain
    | cons opposite back =>
      simp only [List.cons_append, List.cons.injEq, List.mem_cons, not_or] at same plain also
      obtain ⟨rfl, later⟩ := same
      obtain ⟨rfl, ends⟩ := ih plain.2 also.2 later
      exact ⟨rfl, ends⟩

end Foundation

/-! Components: bytes behind their length, which say by themselves where they end. -/

namespace Foundation

/-- The length in decimal, a colon, the bytes and a semicolon. -/
def component (bytes : List UInt8) : List UInt8 :=
  Decimal.digits bytes.length ++ 58 :: (bytes ++ [59])

/-- Digits end at the first byte that is none. -/
theorem digits_cancel {left right : Nat} {byte : UInt8} {more other : List UInt8}
    (plain : Decimal.isDigit byte = false)
    (same : Decimal.digits left ++ byte :: more = Decimal.digits right ++ byte :: other) :
    left = right ∧ more = other := by
  have taken : ∀ number : Nat, ∀ rest, (Decimal.digits number ++ byte :: rest).takeWhile
      Decimal.isDigit = Decimal.digits number := by
    intro number rest
    rw [List.takeWhile_append_of_pos fun item member => Decimal.isDigit_of_mem_digits member,
      List.takeWhile_cons_of_neg (by simp [plain]), List.append_nil]
  have digits : Decimal.digits left = Decimal.digits right := by
    rw [← taken left more, same, taken]
  have numbers : left = right := by
    rw [← Decimal.value_digits left, digits, Decimal.value_digits]
  rw [digits] at same
  exact ⟨numbers, (List.cons.inj (List.append_cancel_left same)).2⟩

theorem component_cancel {left right more other : List UInt8}
    (same : component left ++ more = component right ++ other) : left = right ∧ more = other := by
  simp only [component, List.append_assoc, List.cons_append] at same
  obtain ⟨length, rest⟩ := digits_cancel (by decide) same
  obtain ⟨bytes, ends⟩ := List.append_inj rest length
  exact ⟨bytes, (List.cons.inj ends).2⟩

/-- Codes of two lists of one length agree item by item, if the code of an item says where it
ends. -/
theorem forall₂_of_codes {A : Type} {code : A → List UInt8} {related : A → A → Prop}
    {lefts rights : List A} {more other : List UInt8}
    (cancel : ∀ left ∈ lefts, ∀ right ∈ rights, ∀ more other,
      code left ++ more = code right ++ other → related left right ∧ more = other)
    (length : lefts.length = rights.length)
    (same : lefts.flatMap code ++ more = rights.flatMap code ++ other) :
    List.Forall₂ related lefts rights ∧ more = other := by
  induction lefts generalizing rights with
  | nil =>
    cases rights with
    | nil => exact ⟨.nil, same⟩
    | cons => cases length
  | cons left lefts ih =>
    cases rights with
    | nil => cases length
    | cons right rights =>
      simp only [List.flatMap_cons, List.append_assoc] at same
      obtain ⟨first, later⟩ := cancel left List.mem_cons_self right List.mem_cons_self _ _ same
      have rest : ∀ item ∈ lefts, ∀ opposite ∈ rights, ∀ more other,
          code item ++ more = code opposite ++ other → related item opposite ∧ more = other :=
        fun item member opposite listed => cancel item (List.mem_cons_of_mem _ member) opposite
          (List.mem_cons_of_mem _ listed)
      obtain ⟨all, ends⟩ := ih rest (Nat.succ.inj length) later
      exact ⟨.cons first all, ends⟩

end Foundation
