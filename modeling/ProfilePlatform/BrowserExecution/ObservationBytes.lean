import ProfilePlatform.BrowserExecution.Observation
import ProfilePlatform.Foundation.Fields

/-! The bytes handed to the digester identify the observation. -/

set_option autoImplicit false

namespace ProfilePlatform.BrowserExecution

open Foundation

/-- Structural induction on a value, with the values of a list and of a map. -/
theorem BrowserValue.induction {motive : BrowserValue → Prop} (null : motive .null)
    (bool : ∀ value, motive (.bool value)) (number : ∀ text, motive (.number text))
    (text : ∀ value, motive (.text value))
    (list : ∀ values, (∀ value ∈ values, motive value) → motive (.list values))
    (map : ∀ values, (∀ row ∈ values, motive row.2) → motive (.map values))
    (value : BrowserValue) : motive value :=
  @BrowserValue.rec motive (fun values => ∀ value ∈ values, motive value)
    (fun rows => ∀ row ∈ rows, motive row.2) (fun row => motive row.2) null bool number text list map
    (fun _ impossible => absurd impossible List.not_mem_nil)
    (fun _ _ first rest => List.forall_mem_cons.mpr ⟨first, rest⟩)
    (fun _ impossible => absurd impossible List.not_mem_nil)
    (fun _ _ first rest => List.forall_mem_cons.mpr ⟨first, rest⟩)
    (fun _ _ holds => holds) value

section Rows

variable {parseF64 : ParseF64} {label : String} {allowEmpty : Bool}

theorem rowsOf_eq (values : List (String × BrowserValue)) :
    rowsOf parseF64 values =
      values.map fun row => (row.1, appendBrowserValue parseF64 row.2) := by
  induction values with
  | nil => rfl
  | cons row rest ih =>
    obtain ⟨name, value⟩ := row
    rw [rowsOf, ih, List.map_cons]

/-- What rows have to be before anything is appended for them. -/
structure Admissible (names : List String) (allowEmpty : Bool) : Prop where
  filled : ¬(allowEmpty = false ∧ names = [])
  few : names.length ≤ maxCollectionRows
  bounded : ∀ name ∈ names, boundedText name = true
  distinct : names.Nodup

def valueCode (parseF64 : ParseF64) (value : BrowserValue) : List UInt8 :=
  (appendBrowserValue parseF64 value).getD []

def rowCode (parseF64 : ParseF64) (row : String × BrowserValue) : List UInt8 :=
  textComponent row.1 ++ valueCode parseF64 row.2

/-- The value has bytes. -/
def Encodes (parseF64 : ParseF64) (value : BrowserValue) : Prop :=
  (appendBrowserValue parseF64 value).isSome = true

theorem mapM_eq_some {A B : Type} {code : A → Option (List B)} {items : List A}
    {codes : List (List B)} : items.mapM code = some codes ↔
      (∀ item ∈ items, (code item).isSome = true) ∧
        codes = items.map fun item => (code item).getD [] := by
  induction items generalizing codes with
  | nil =>
    constructor
    · intro done
      cases done
      exact ⟨fun _ impossible => absurd impossible List.not_mem_nil, rfl⟩
    · rintro ⟨-, rfl⟩
      rfl
  | cons item rest ih =>
    rw [List.mapM_cons, List.forall_mem_cons, List.map_cons]
    cases first : code item with
    | none => simp
    | some bytes =>
      cases later : rest.mapM code with
      | none =>
        constructor
        · intro impossible
          cases impossible
        · rintro ⟨⟨-, all⟩, -⟩
          have missing := ih.mpr ⟨all, rfl⟩
          rw [later] at missing
          cases missing
      | some others =>
        obtain ⟨all, rfl⟩ := ih.mp later
        constructor
        · intro done
          cases done
          exact ⟨⟨rfl, all⟩, rfl⟩
        · rintro ⟨-, rfl⟩
          rfl

theorem appendBrowserValues_eq (values : List BrowserValue) :
    appendBrowserValues parseF64 values =
      (values.mapM (appendBrowserValue parseF64)).map List.flatten := by
  induction values with
  | nil => rfl
  | cons value rest ih =>
    rw [appendBrowserValues, ih, List.mapM_cons]
    cases appendBrowserValue parseF64 value with
    | none => rfl
    | some code => cases rest.mapM (appendBrowserValue parseF64) <;> rfl

theorem appendBrowserValues_eq_some {values : List BrowserValue} {bytes : List UInt8} :
    appendBrowserValues parseF64 values = some bytes ↔
      (∀ value ∈ values, Encodes parseF64 value) ∧ bytes = values.flatMap (valueCode parseF64) := by
  rw [appendBrowserValues_eq, Option.map_eq_some_iff]
  constructor
  · rintro ⟨codes, all, rfl⟩
    obtain ⟨encodes, rfl⟩ := mapM_eq_some.mp all
    exact ⟨encodes, List.flatMap_def.symm⟩
  · rintro ⟨encodes, rfl⟩
    exact ⟨_, mapM_eq_some.mpr ⟨encodes, rfl⟩, List.flatMap_def.symm⟩

theorem not_refused_iff {names : List String} :
    ¬((allowEmpty = false ∧ names = []) ∨ maxCollectionRows < names.length ∨
      names.any (fun name => !boundedText name) = true) ↔
    ¬(allowEmpty = false ∧ names = []) ∧ names.length ≤ maxCollectionRows ∧
      ∀ name ∈ names, boundedText name = true := by
  rw [not_or, not_or, Nat.not_lt, List.any_eq_true]
  refine and_congr Iff.rfl (and_congr Iff.rfl ⟨fun absent name member => ?_, ?_⟩)
  · by_contra unbounded
    exact absent ⟨name, member, by simp [unbounded]⟩
  · rintro bounded ⟨name, member, unbounded⟩
    simp [bounded name member] at unbounded

/-- Rows that may be appended, all with bytes for their values, are appended in the order of their
names. -/
theorem appendKeyValues_eq_some {rows : List (String × Option (List UInt8))}
    {bytes : List UInt8} :
    appendKeyValues label rows allowEmpty = some bytes ↔
      Admissible (rows.map Prod.fst) allowEmpty ∧ (∀ row ∈ rows, row.2.isSome = true) ∧
        bytes = textComponent label ++ countComponent rows.length ++
          (sortBy Prod.fst rows).flatMap fun row => textComponent row.1 ++ row.2.getD [] := by
  have perm := perm_sortBy Prod.fst rows
  have refused := @not_refused_iff allowEmpty (rows.map Prod.fst)
  rw [List.map_eq_nil_iff, List.length_map, List.any_map] at refused
  unfold appendKeyValues
  split
  next holds =>
    refine ⟨fun impossible => (by cases impossible), fun described => ?_⟩
    refine absurd holds (refused.mpr ⟨?_, ?_, described.1.bounded⟩)
    · simpa using described.1.filled
    · simpa using described.1.few
  next passes =>
    obtain ⟨filled, few, bounded⟩ := refused.mp passes
    dsimp only
    split
    next twice =>
      refine ⟨fun impossible => (by cases impossible), fun described => ?_⟩
      rw [adjacentEqual_sortBy.mpr described.1.distinct] at twice
      cases twice
    next once =>
      have distinct := adjacentEqual_sortBy.mp (Bool.not_eq_true _ ▸ once)
      have ready : Admissible (rows.map Prod.fst) allowEmpty :=
        ⟨by simpa using filled, by simpa using few, bounded, distinct⟩
      have written : (∀ row ∈ rows, row.2.isSome = true) →
          ((sortBy Prod.fst rows).map fun row => (row.2.map fun code =>
            textComponent row.1 ++ code).getD []).flatten =
          (sortBy Prod.fst rows).flatMap fun row => textComponent row.1 ++ row.2.getD [] := by
        intro all
        rw [← List.flatMap_def]
        refine List.flatMap_congr fun row member => ?_
        obtain ⟨code, known⟩ := Option.isSome_iff_exists.mp (all row (perm.mem_iff.mp member))
        rw [known]
        rfl
      constructor
      · intro done
        obtain ⟨codes, all, same⟩ := Option.bind_eq_some_iff.mp done
        cases same
        obtain ⟨filledRows, rfl⟩ := mapM_eq_some.mp all
        have encodes : ∀ row ∈ rows, row.2.isSome = true := by
          intro row member
          have listed := filledRows row (perm.mem_iff.mpr member)
          rwa [Option.isSome_map] at listed
        exact ⟨ready, encodes, by rw [written encodes, perm.length_eq]⟩
      · rintro ⟨-, encodes, rfl⟩
        refine Option.bind_eq_some_iff.mpr ⟨_, mapM_eq_some.mpr ⟨fun row member => ?_, rfl⟩, ?_⟩
        · rw [Option.isSome_map]
          exact encodes row (perm.mem_iff.mp member)
        · rw [written encodes, perm.length_eq]
          rfl

/-- Sorting the entries first and appending their values then comes to the same. -/
theorem appendRows_eq_some {values : List (String × BrowserValue)} {bytes : List UInt8} :
    appendKeyValues label (rowsOf parseF64 values) allowEmpty = some bytes ↔
      Admissible (values.map Prod.fst) allowEmpty ∧ (∀ row ∈ values, Encodes parseF64 row.2) ∧
        bytes = textComponent label ++ countComponent values.length ++
          (sortBy Prod.fst values).flatMap (rowCode parseF64) := by
  have sorted := @map_sortBy _ _ _ Prod.fst values _
    (fun row : String × BrowserValue => (row.1, appendBrowserValue parseF64 row.2)) Prod.fst
    fun _ => rfl
  rw [rowsOf_eq, appendKeyValues_eq_some, ← sorted, List.map_map, List.length_map,
    List.forall_mem_map, List.flatMap_map]
  exact Iff.rfl

theorem appendKeyValues_perm {rows others : List (String × Option (List UInt8))}
    (perm : rows.Perm others) :
    appendKeyValues label rows allowEmpty = appendKeyValues label others allowEmpty := by
  have oneWay : ∀ {rows others : List (String × Option (List UInt8))} {bytes : List UInt8},
      rows.Perm others → appendKeyValues label rows allowEmpty = some bytes →
        appendKeyValues label others allowEmpty = some bytes := by
    intro rows others bytes perm appended
    obtain ⟨ready, all, rfl⟩ := appendKeyValues_eq_some.mp appended
    have names := perm.map Prod.fst
    refine appendKeyValues_eq_some.mpr ⟨⟨?_, ?_, ?_, names.nodup_iff.mp ready.distinct⟩, ?_, ?_⟩
    · rintro ⟨strict, empty⟩
      rw [empty] at names
      exact ready.filled ⟨strict, names.eq_nil⟩
    · rw [← names.length_eq]
      exact ready.few
    · exact fun name member => ready.bounded name (names.mem_iff.mpr member)
    · exact fun row member => all row (perm.mem_iff.mpr member)
    · rw [sortBy_perm perm ready.distinct, perm.length_eq]
  refine Option.ext fun bytes => ?_
  exact ⟨oneWay perm, oneWay perm.symm⟩

end Rows

section SameBytes

variable {parseF64 : ParseF64}

theorem SameValues.length_eq {lefts rights : List BrowserValue}
    (same : SameValues parseF64 lefts rights) : lefts.length = rights.length := by
  induction lefts generalizing rights with
  | nil =>
    cases same
    rfl
  | cons left rest ih =>
    cases same with
    | cons first later => exact congrArg (· + 1) (ih later)

theorem rowsOf_perm {values others : List (String × BrowserValue)} (perm : values.Perm others) :
    (rowsOf parseF64 values).Perm (rowsOf parseF64 others) := by
  rw [rowsOf_eq, rowsOf_eq]
  exact perm.map _

theorem appendRows_same {lefts arranged matching rights : List (String × BrowserValue)}
    {label : String} {allowEmpty : Bool} (left : lefts.Perm arranged)
    (rows : rowsOf parseF64 arranged = rowsOf parseF64 matching) (right : matching.Perm rights) :
    appendKeyValues label (rowsOf parseF64 lefts) allowEmpty =
      appendKeyValues label (rowsOf parseF64 rights) allowEmpty := by
  rw [appendKeyValues_perm (rowsOf_perm left), rows, appendKeyValues_perm (rowsOf_perm right)]

mutual

theorem SameValue.append_eq : ∀ {left right : BrowserValue}, SameValue parseF64 left right →
    appendBrowserValue parseF64 left = appendBrowserValue parseF64 right
  | _, _, .null => rfl
  | _, _, .bool _ => rfl
  | _, _, .number ⟨first, second, readLeft, readRight, same⟩ => by
    rw [appendBrowserValue, appendBrowserValue, readLeft, readRight, Option.bind_some,
      Option.bind_some, canonicalBrowserNumber_same same]
  | _, _, .text _ => rfl
  | _, _, .list same => by
    rw [appendBrowserValue, appendBrowserValue, SameValues.append_eq same,
      SameValues.length_eq same]
  | _, _, .map left same right => by
    rw [appendBrowserValue, appendBrowserValue,
      appendRows_same left (SameRows.rows_eq same) right]

theorem SameValues.append_eq : ∀ {lefts rights : List BrowserValue},
    SameValues parseF64 lefts rights →
      appendBrowserValues parseF64 lefts = appendBrowserValues parseF64 rights
  | _, _, .nil => rfl
  | _, _, .cons first rest => by
    rw [appendBrowserValues, appendBrowserValues, SameValue.append_eq first,
      SameValues.append_eq rest]

theorem SameRows.rows_eq : ∀ {lefts rights : List (String × BrowserValue)},
    SameRows parseF64 lefts rights → rowsOf parseF64 lefts = rowsOf parseF64 rights
  | _, _, .nil => rfl
  | _, _, .cons name first rest => by
    rw [rowsOf, rowsOf, SameValue.append_eq first, SameRows.rows_eq rest]

end

end SameBytes

section Texts

theorem textComponent_cancel {left right : String} {more other : List UInt8}
    (same : textComponent left ++ more = textComponent right ++ other) :
    left = right ∧ more = other := by
  obtain ⟨bytes, ends⟩ := component_cancel same
  exact ⟨eq_of_utf8 bytes, ends⟩

theorem toString_injective {left right : Nat} (same : toString left = toString right) :
    left = right := by
  have digits := congrArg (fun text : String => text.toUTF8.data.toList) same
  simp only [utf8_toString] at digits
  rw [← Decimal.value_digits left, digits, Decimal.value_digits]

theorem countComponent_cancel {left right : Nat} {more other : List UInt8}
    (same : countComponent left ++ more = countComponent right ++ other) :
    left = right ∧ more = other := by
  obtain ⟨counts, ends⟩ := textComponent_cancel same
  exact ⟨toString_injective counts, ends⟩

theorem flag_injective {left right : Bool}
    (same : (if left then "1" else "0") = if right then "1" else "0") : left = right := by
  cases left <;> cases right <;> first | rfl | exact absurd same (by decide)

end Texts

section Values

variable {parseF64 : ParseF64}

/-- The kind of a value, which stands in front of it. -/
def BrowserValue.tag : BrowserValue → String
  | .null => "null"
  | .bool _ => "bool"
  | .number _ => "number"
  | .text _ => "text"
  | .list _ => "list"
  | .map _ => "map"

theorem valueCode_number {text : String} (encodes : Encodes parseF64 (.number text)) :
    ∃ bits canonical, parseF64 text = some bits ∧ canonicalBrowserNumber bits = some canonical ∧
      valueCode parseF64 (.number text) = textComponent "number" ++ textComponent canonical := by
  unfold Encodes valueCode at *
  rw [appendBrowserValue] at *
  cases read : parseF64 text with
  | none => simp [read] at encodes
  | some bits =>
    cases spelled : canonicalBrowserNumber bits with
    | none => simp [read, spelled] at encodes
    | some canonical => exact ⟨bits, canonical, rfl, spelled, by simp [spelled]⟩

theorem valueCode_text {text : String} (encodes : Encodes parseF64 (.text text)) :
    valueCode parseF64 (.text text) = textComponent "text" ++ textComponent text := by
  unfold Encodes valueCode at *
  rw [appendBrowserValue] at *
  split at encodes
  next => cases encodes
  next passes => rw [if_neg passes]; rfl

theorem valueCode_list {values : List BrowserValue} (encodes : Encodes parseF64 (.list values)) :
    (∀ value ∈ values, Encodes parseF64 value) ∧
      valueCode parseF64 (.list values) = textComponent "list" ++
        (countComponent values.length ++ values.flatMap (valueCode parseF64)) := by
  unfold Encodes at encodes
  obtain ⟨bytes, appended⟩ := Option.isSome_iff_exists.mp encodes
  have whole := appended
  rw [appendBrowserValue] at appended
  split at appended
  next => cases appended
  next =>
    obtain ⟨codes, all, same⟩ := Option.bind_eq_some_iff.mp appended
    obtain ⟨each, rfl⟩ := appendBrowserValues_eq_some.mp all
    refine ⟨each, ?_⟩
    rw [valueCode, whole, ← same]
    simp

theorem valueCode_map {values : List (String × BrowserValue)}
    (encodes : Encodes parseF64 (.map values)) :
    (∀ row ∈ values, Encodes parseF64 row.2) ∧
      valueCode parseF64 (.map values) = textComponent "map" ++ (textComponent "entries" ++
        countComponent values.length ++ (sortBy Prod.fst values).flatMap (rowCode parseF64)) := by
  unfold Encodes at encodes
  obtain ⟨bytes, appended⟩ := Option.isSome_iff_exists.mp encodes
  have whole := appended
  rw [appendBrowserValue] at appended
  obtain ⟨rows, all, same⟩ := Option.bind_eq_some_iff.mp appended
  obtain ⟨-, each, rfl⟩ := appendRows_eq_some.mp all
  refine ⟨each, ?_⟩
  rw [valueCode, whole, ← same]
  rfl

theorem valueCode_tag {value : BrowserValue} (encodes : Encodes parseF64 value) :
    ∃ body, valueCode parseF64 value = textComponent value.tag ++ body := by
  cases value with
  | null => exact ⟨[], by simp [valueCode, appendBrowserValue, BrowserValue.tag]⟩
  | bool value => exact ⟨_, rfl⟩
  | number text =>
    obtain ⟨_, canonical, -, -, code⟩ := valueCode_number encodes
    exact ⟨_, code⟩
  | text value => exact ⟨_, valueCode_text encodes⟩
  | list values => exact ⟨_, (valueCode_list encodes).2⟩
  | map values => exact ⟨_, (valueCode_map encodes).2⟩

theorem sameValues_of_forall₂ {lefts rights : List BrowserValue}
    (all : List.Forall₂ (SameValue parseF64) lefts rights) :
    SameValues parseF64 lefts rights := by
  induction all with
  | nil => exact .nil
  | cons first _ ih => exact .cons first ih

theorem sameRows_of_forall₂ {lefts rights : List (String × BrowserValue)}
    (all : List.Forall₂ (fun left right => left.1 = right.1 ∧ SameValue parseF64 left.2 right.2)
      lefts rights) : SameRows parseF64 lefts rights := by
  induction all with
  | nil => exact .nil
  | @cons left right lefts rights first _ ih =>
    obtain ⟨name, value⟩ := left
    obtain ⟨other, opposite⟩ := right
    obtain ⟨rfl, same⟩ := first
    exact .cons name same ih

/-- A value that its code can be cut off in front of. -/
def Cancels (parseF64 : ParseF64) (left : BrowserValue) : Prop :=
  ∀ right more other, Encodes parseF64 left → Encodes parseF64 right →
    valueCode parseF64 left ++ more = valueCode parseF64 right ++ other →
      SameValue parseF64 left right ∧ more = other

theorem rows_cancel {lefts rights : List (String × BrowserValue)} {more other : List UInt8}
    (cancels : ∀ row ∈ lefts, Cancels parseF64 row.2)
    (encodes : ∀ row ∈ lefts, Encodes parseF64 row.2)
    (opposite : ∀ row ∈ rights, Encodes parseF64 row.2) (length : lefts.length = rights.length)
    (same : (sortBy Prod.fst lefts).flatMap (rowCode parseF64) ++ more =
      (sortBy Prod.fst rights).flatMap (rowCode parseF64) ++ other) :
    SameEntries parseF64 lefts rights ∧ more = other := by
  have first := perm_sortBy Prod.fst lefts
  have second := perm_sortBy Prod.fst rights
  have rows : ∀ left ∈ sortBy Prod.fst lefts, ∀ right ∈ sortBy Prod.fst rights, ∀ more other,
      rowCode parseF64 left ++ more = rowCode parseF64 right ++ other →
        (left.1 = right.1 ∧ SameValue parseF64 left.2 right.2) ∧ more = other := by
    intro left inLeft right inRight more other same
    simp only [rowCode, List.append_assoc] at same
    obtain ⟨names, rest⟩ := textComponent_cancel same
    have listed := first.mem_iff.mp inLeft
    have named := second.mem_iff.mp inRight
    obtain ⟨values, ends⟩ := cancels left listed right.2 more other (encodes left listed)
      (opposite right named) rest
    exact ⟨⟨names, values⟩, ends⟩
  obtain ⟨all, ends⟩ := forall₂_of_codes rows
    (by rw [first.length_eq, second.length_eq, length]) same
  exact ⟨⟨_, _, first.symm, sameRows_of_forall₂ all, second⟩, ends⟩

theorem tag_eq {left right : BrowserValue} {more other : List UInt8}
    (first : Encodes parseF64 left) (second : Encodes parseF64 right)
    (same : valueCode parseF64 left ++ more = valueCode parseF64 right ++ other) :
    left.tag = right.tag := by
  obtain ⟨body, leftCode⟩ := valueCode_tag first
  obtain ⟨opposite, rightCode⟩ := valueCode_tag second
  rw [leftCode, rightCode, List.append_assoc, List.append_assoc] at same
  exact (textComponent_cancel same).1

theorem value_cancels (left : BrowserValue) : Cancels parseF64 left := by
  induction left using BrowserValue.induction with
  | null =>
    intro right more other first second same
    have tags := tag_eq first second same
    cases right with
    | null => exact ⟨.null, List.append_cancel_left same⟩
    | _ => exact absurd tags (by simp [BrowserValue.tag])
  | bool value =>
    intro right more other first second same
    have tags := tag_eq first second same
    cases right with
    | bool opposite =>
      have codes : ∀ flag, valueCode parseF64 (.bool flag) =
          textComponent "bool" ++ textComponent (if flag then "1" else "0") := fun _ => rfl
      rw [codes, codes, List.append_assoc, List.append_assoc] at same
      obtain ⟨flags, ends⟩ := textComponent_cancel (textComponent_cancel same).2
      obtain rfl := flag_injective flags
      exact ⟨.bool value, ends⟩
    | _ => exact absurd tags (by simp [BrowserValue.tag])
  | number text =>
    intro right more other first second same
    have tags := tag_eq first second same
    cases right with
    | number opposite =>
      obtain ⟨bits, canonical, read, spelled, code⟩ := valueCode_number first
      obtain ⟨others, spelling, readToo, spelledToo, codeToo⟩ := valueCode_number second
      rw [code, codeToo, List.append_assoc, List.append_assoc] at same
      obtain ⟨rfl, ends⟩ := textComponent_cancel (textComponent_cancel same).2
      exact ⟨.number ⟨bits, others, read, readToo,
        same_of_canonicalBrowserNumber spelled spelledToo⟩, ends⟩
    | _ => exact absurd tags (by simp [BrowserValue.tag])
  | text value =>
    intro right more other first second same
    have tags := tag_eq first second same
    cases right with
    | text opposite =>
      rw [valueCode_text first, valueCode_text second, List.append_assoc, List.append_assoc] at same
      obtain ⟨rfl, ends⟩ := textComponent_cancel (textComponent_cancel same).2
      exact ⟨.text value, ends⟩
    | _ => exact absurd tags (by simp [BrowserValue.tag])
  | list values ih =>
    intro right more other first second same
    have tags := tag_eq first second same
    cases right with
    | list others =>
      obtain ⟨each, code⟩ := valueCode_list first
      obtain ⟨eachToo, codeToo⟩ := valueCode_list second
      rw [code, codeToo] at same
      simp only [List.append_assoc] at same
      obtain ⟨length, rest⟩ := countComponent_cancel (textComponent_cancel same).2
      obtain ⟨all, ends⟩ := forall₂_of_codes (fun left member right listed more other =>
        ih left member right more other (each left member) (eachToo right listed)) length rest
      exact ⟨.list (sameValues_of_forall₂ all), ends⟩
    | _ => exact absurd tags (by simp [BrowserValue.tag])
  | map values ih =>
    intro right more other first second same
    have tags := tag_eq first second same
    cases right with
    | map others =>
      obtain ⟨each, code⟩ := valueCode_map first
      obtain ⟨eachToo, codeToo⟩ := valueCode_map second
      rw [code, codeToo] at same
      simp only [List.append_assoc] at same
      obtain ⟨length, rest⟩ :=
        countComponent_cancel (textComponent_cancel (textComponent_cancel same).2).2
      obtain ⟨⟨arranged, matching, before, rows, after⟩, ends⟩ :=
        rows_cancel ih each eachToo length rest
      exact ⟨.map before rows after, ends⟩
    | _ => exact absurd tags (by simp [BrowserValue.tag])

end Values

end ProfilePlatform.BrowserExecution
