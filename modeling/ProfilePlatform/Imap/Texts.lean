import ProfilePlatform.Foundation.Decimal
import ProfilePlatform.Foundation.Lines
import ProfilePlatform.Imap.Session
import ProfilePlatform.Primitives

/-! Responses read as text. A text is its bytes in UTF-8. -/

set_option autoImplicit false

namespace ProfilePlatform.Imap

open Foundation

def ascii (text : String) : Bytes := text.toList.map fun char => char.toNat.toUInt8

def isAscii (text : Bytes) : Bool := text.all (· < 128)

section Decoding

def isContinuation (byte : UInt8) : Bool := 128 ≤ byte && byte ≤ 191

/-- The second bytes a first byte allows: none that spell a character too long, a surrogate,
or more than the largest character. -/
def allowsSecond (lead byte : UInt8) : Bool :=
  if lead = 224 then 160 ≤ byte && byte ≤ 191
  else if lead = 237 then 128 ≤ byte && byte ≤ 159
  else if lead = 240 then 144 ≤ byte && byte ≤ 191
  else if lead = 244 then 128 ≤ byte && byte ≤ 143
  else isContinuation byte

def characterWidth (lead : UInt8) : Nat :=
  if lead < 128 then 1
  else if 194 ≤ lead && lead ≤ 223 then 2
  else if 224 ≤ lead && lead ≤ 239 then 3
  else if 240 ≤ lead && lead ≤ 244 then 4
  else 0

/-- The length of the longest beginning that could be one character, and whether it is one. -/
def firstCharacter : Bytes → Nat × Bool
  | [] => (0, true)
  | lead :: rest =>
    if characterWidth lead = 1 then (1, true)
    else if characterWidth lead = 0 then (1, false)
    else match rest with
    | [] => (1, false)
    | second :: more =>
      if allowsSecond lead second then
        let following := (more.take (characterWidth lead - 2)).takeWhile isContinuation
        (2 + following.length, following.length == characterWidth lead - 2)
      else (1, false)

/-- Each such beginning in turn; the fuel is the number of bytes. -/
def decodeLossy : Nat → Bytes → Bytes
  | 0, _ => []
  | _, [] => []
  | fuel + 1, bytes =>
    let (length, whole) := firstCharacter bytes
    (if whole then bytes.take length else [239, 191, 189]) ++ decodeLossy fuel (bytes.drop length)

/-- `String::from_utf8_lossy`. -/
def fromUtf8Lossy (bytes : Bytes) : Bytes := decodeLossy bytes.length bytes

def ImapCommandResponse.textLossy (self : ImapCommandResponse) : Bytes := fromUtf8Lossy self.bytes

end Decoding

section Reading

/-- `str::lines`. -/
def lines (text : Bytes) : List Bytes :=
  let pieces := text.splitOn 10
  let ended := pieces.dropLast.map fun line =>
    if line.getLast? = some 13 then line.dropLast else line
  ended ++ (pieces.getLast?.toList.filter fun line => !line.isEmpty)

def splitAsciiWhitespace (text : Bytes) : List Bytes :=
  (text.splitOnP isAsciiWhitespace).filter fun word => !word.isEmpty

/-- What follows the first place where the marker, which is not empty, stands. -/
def behind (marker : Bytes) : Bytes → Option Bytes
  | [] => none
  | byte :: rest =>
    if marker.isPrefixOf (byte :: rest) then some ((byte :: rest).drop marker.length)
    else behind marker rest

/-- What stands before the first such byte, if there is one. -/
def upTo (byte : UInt8) (text : Bytes) : Option Bytes :=
  if byte ∈ text then some (text.takeWhile (· ≠ byte)) else none

def splitOnce (separator : UInt8) (text : Bytes) : Option (Bytes × Bytes) :=
  (upTo separator text).map fun front => (front, text.drop (front.length + 1))

def stripPrefix (front text : Bytes) : Option Bytes :=
  if front.isPrefixOf text then some (text.drop front.length) else none

/-- The characters with the property White_Space. -/
def whiteSpaces : List Bytes :=
  [[9], [10], [11], [12], [13], [32], [194, 133], [194, 160], [225, 154, 128]] ++
    ((List.range 11).map fun place => [226, 128, (128 + place).toUInt8]) ++
    [[226, 128, 168], [226, 128, 169], [226, 128, 175], [226, 129, 159], [227, 128, 128]]

def trimFront (spaces : List Bytes) : Nat → Bytes → Bytes
  | 0, text => text
  | fuel + 1, text =>
    match spaces.find? fun space => space.isPrefixOf text with
    | none => text
    | some space => trimFront spaces fuel (text.drop space.length)

/-- `str::trim`. -/
def trim (text : Bytes) : Bytes :=
  let front := trimFront whiteSpaces text.length text
  (trimFront (whiteSpaces.map List.reverse) front.length front.reverse).reverse

/-- Some character is a control character, of which those above ASCII take two bytes. -/
def hasControl : Bytes → Bool
  | [] => false
  | byte :: rest => byte < 32 || byte == 127 ||
    (byte == 194 && rest.head?.any fun second => 128 ≤ second && second ≤ 159) || hasControl rest

def parseU64 (text : Bytes) : Option Nat := Decimal.parse u64Limit text

def parseU32 (text : Bytes) : Option Nat := Decimal.parse (2 ^ 32) text

end Reading

section Lines

theorem lines_append {before : Bytes} (start : Lines.AtLineStart 10 before) (rest : Bytes) :
    lines (before ++ rest) = lines before ++ lines rest := by
  obtain ⟨front, whole, -, splits⟩ := Lines.splitOn_whole_lines start
  have pieces : rest.splitOn 10 ≠ [] := List.splitOn_ne_nil _ _
  unfold lines
  dsimp only
  rw [whole, splits rest, List.dropLast_append_of_ne_nil pieces, List.getLast?_append_of_ne_nil _ pieces]
  simp

theorem lines_next {line : Bytes} (plain : 10 ∉ line) (rest : Bytes) :
    lines (line ++ crlf ++ rest) = line :: lines rest := by
  have pieces : rest.splitOn 10 ≠ [] := List.splitOn_ne_nil _ _
  have splits : (line ++ crlf ++ rest).splitOn 10 = (line ++ [13]) :: rest.splitOn 10 := by
    have absent : (10 : UInt8) ∉ line ++ [13] := by simpa using plain
    rw [← Lines.splitOn_next absent]
    simp [crlf]
  unfold lines
  dsimp only
  rw [splits, List.dropLast_cons_of_ne_nil pieces, List.getLast?_cons_of_ne_nil pieces]
  simp

end Lines

section Parts

theorem upTo_eq {byte : UInt8} {front : Bytes} (plain : byte ∉ front) (rest : Bytes) :
    upTo byte (front ++ byte :: rest) = some front := by
  have other : ∀ item ∈ front, decide (item ≠ byte) = true := by
    intro item member
    exact decide_eq_true fun same => plain (same ▸ member)
  unfold upTo
  rw [if_pos (by simp), List.takeWhile_append_of_pos other]
  simp

theorem splitOnce_eq {byte : UInt8} {front : Bytes} (plain : byte ∉ front) (rest : Bytes) :
    splitOnce byte (front ++ byte :: rest) = some (front, rest) := by
  unfold splitOnce
  rw [upTo_eq plain]
  simp

theorem stripPrefix_eq (front rest : Bytes) : stripPrefix front (front ++ rest) = some rest := by
  simp [stripPrefix]

theorem hasControl_printable {text : Bytes} (printable : ∀ byte ∈ text, 32 ≤ byte ∧ byte < 127) :
    hasControl text = false := by
  have all : ∀ byte : UInt8, 32 ≤ byte → byte < 127 →
      (byte < 32 || byte == 127) = false ∧ (byte == 194) = false := by
    intro byte least most
    simp only [Bool.or_eq_false_iff, decide_eq_false_iff_not, beq_eq_false_iff_ne, ne_eq,
      ← UInt8.toNat_inj, UInt8.lt_iff_toNat_lt, UInt8.le_iff_toNat_le, UInt8.reduceToNat] at *
    omega
  induction text with
  | nil => rfl
  | cons byte rest ih =>
    obtain ⟨first, others⟩ := List.forall_mem_cons.mp printable
    obtain ⟨plain, single⟩ := all byte first.1 first.2
    rw [hasControl, plain, single, ih others]
    rfl

end Parts

section Numbers

theorem not_mem_digits {number : Nat} {byte : UInt8} (other : Decimal.isDigit byte = false) :
    byte ∉ Decimal.digits number := by
  intro member
  rw [Decimal.isDigit_of_mem_digits member] at other
  cases other

theorem digits_not_space {text space : Bytes} (digits : ∀ byte ∈ text, Decimal.isDigit byte = true)
    (member : space ∈ whiteSpaces) :
    space.isPrefixOf text = false ∧ space.reverse.isPrefixOf text.reverse = false := by
  have all : (whiteSpaces.all fun space =>
      !space.isEmpty && space.all fun byte => !Decimal.isDigit byte) = true := rfl
  have here := List.all_eq_true.mp all space member
  rw [Bool.and_eq_true, Bool.not_eq_true', List.isEmpty_eq_false_iff] at here
  have occupied : space ≠ [] := here.1
  have plain : ∀ byte ∈ space, Decimal.isDigit byte = false := fun byte member =>
    Bool.not_eq_true' _ ▸ List.all_eq_true.mp here.2 byte member
  have apart {text : Bytes} {marker : Bytes} (inside : ∀ byte ∈ text, Decimal.isDigit byte = true)
      (nonempty : marker ≠ []) (outside : ∀ byte ∈ marker, Decimal.isDigit byte = false) :
      marker.isPrefixOf text = false := by
    rw [← Bool.not_eq_true, List.isPrefixOf_iff_prefix]
    intro begins
    obtain ⟨first, rest, rfl⟩ := List.exists_cons_of_ne_nil nonempty
    have digit := inside first (begins.subset List.mem_cons_self)
    rw [outside first List.mem_cons_self] at digit
    cases digit
  refine ⟨apart digits occupied plain, ?_⟩
  refine apart (fun byte member => ?_) (by simpa using occupied) (fun byte member => ?_)
  · exact digits byte (List.mem_reverse.mp member)
  · exact plain byte (List.mem_reverse.mp member)

theorem trimFront_stays {spaces : List Bytes} {text : Bytes}
    (bare : ∀ space ∈ spaces, space.isPrefixOf text = false) (fuel : Nat) :
    trimFront spaces fuel text = text := by
  cases fuel with
  | zero => rfl
  | succ fuel =>
    have unfound : spaces.find? (fun space => space.isPrefixOf text) = none := by
      rw [List.find?_eq_none]
      intro space member
      rw [bare space member]
      exact Bool.false_ne_true
    rw [trimFront, unfound]

theorem trim_of_isDigit {text : Bytes} (digits : ∀ byte ∈ text, Decimal.isDigit byte = true) :
    trim text = text := by
  have front : trimFront whiteSpaces text.length text = text :=
    trimFront_stays (fun space member => (digits_not_space digits member).1) _
  unfold trim
  dsimp only
  rw [front, trimFront_stays ?_ _, List.reverse_reverse]
  intro space member
  obtain ⟨forward, listed, rfl⟩ := List.mem_map.mp member
  exact (digits_not_space digits listed).2

theorem trim_digits (number : Nat) : trim (Decimal.digits number) = Decimal.digits number :=
  trim_of_isDigit fun _ member => Decimal.isDigit_of_mem_digits member

theorem parseU64_digits {number : Nat} (small : number < u64Limit) :
    parseU64 (Decimal.digits number) = some number := Decimal.parse_digits small

theorem apart_of_isDigit {byte : UInt8} (digit : Decimal.isDigit byte = true) :
    isAsciiWhitespace byte = false ∧ byte ≠ 45 ∧ byte ≠ 58 := by
  simp only [Decimal.isDigit, Bool.and_eq_true, decide_eq_true_eq, UInt8.le_iff_toNat_le] at digit
  refine ⟨?_, ?_, ?_⟩
  · rw [← Bool.not_eq_true]
    intro space
    simp only [isAsciiWhitespace, Bool.or_eq_true, beq_iff_eq] at space
    rcases space with (((rfl | rfl) | rfl) | rfl) | rfl <;> exact absurd digit.1 (by decide)
  · rintro rfl
    exact absurd digit.1 (by decide)
  · rintro rfl
    exact absurd digit.2 (by decide)

end Numbers

section Words

theorem splitAsciiWhitespace_space (rest : Bytes) :
    splitAsciiWhitespace (32 :: rest) = splitAsciiWhitespace rest := by
  unfold splitAsciiWhitespace
  rw [List.splitOnP_cons_eq_if_modifyHead, if_pos (by rfl)]
  rfl

variable {word : Bytes} (nonempty : word ≠ [])
  (plain : ∀ byte ∈ word, isAsciiWhitespace byte = false)

include nonempty plain

theorem splitAsciiWhitespace_word (rest : Bytes) :
    splitAsciiWhitespace (word ++ 32 :: rest) = word :: splitAsciiWhitespace rest := by
  unfold splitAsciiWhitespace
  rw [List.splitOnP_append_cons_of_forall_mem plain 32 (by rfl),
    List.filter_cons_of_pos (by simpa using nonempty)]

theorem splitAsciiWhitespace_last : splitAsciiWhitespace word = [word] := by
  unfold splitAsciiWhitespace
  rw [List.splitOnP_eq_singleton plain, List.filter_cons_of_pos (by simpa using nonempty)]
  rfl

end Words

end ProfilePlatform.Imap
