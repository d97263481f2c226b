import Mathlib.Data.List.Basic
import ProfilePlatform.Foundation.Bytes
import ProfilePlatform.Foundation.Fallible

/-! Parsers of byte strings, and what it means for one to invert an encoder. -/

set_option autoImplicit false

namespace Foundation

/-- A parser over the bytes not read yet. -/
abbrev Cursor (E A : Type) := StateT (List UInt8) (Except E) A

namespace Cursor

variable {E A B : Type}

def take (short : E) (length : Nat) : Cursor E (Block length) := fun unread =>
  if enough : length ≤ unread.length then
    .ok (⟨unread.take length, List.length_take_of_le enough⟩, unread.drop length)
  else .error short

/-- Reads a big-endian number of `width` bytes. -/
def number (short : E) (width : Nat) : Cursor E Nat := do
  let bytes ← take short width
  return ofBigEndian bytes.val

/-- A check that reads nothing. -/
def lift (result : Except E A) : Cursor E A := fun unread => result.map fun value => (value, unread)

theorem lift_eq_ok {result : Except E A} {unread rest : List UInt8} {value : A} :
    lift result unread = .ok (value, rest) ↔ result = .ok value ∧ unread = rest := by
  unfold lift
  rw [map_eq_ok]
  constructor
  · rintro ⟨_, succeeds, ⟨⟩⟩
    exact ⟨succeeds, rfl⟩
  · rintro ⟨succeeds, rfl⟩
    exact ⟨_, succeeds, rfl⟩

theorem bind_eq_ok {parse : Cursor E A} {next : A → Cursor E B} {unread rest : List UInt8}
    {result : B} : (parse >>= next) unread = .ok (result, rest) ↔
      ∃ value more, parse unread = .ok (value, more) ∧ next value more = .ok (result, rest) := by
  refine Iff.trans Foundation.bind_eq_ok ?_
  constructor
  · rintro ⟨⟨value, more⟩, first, second⟩
    exact ⟨value, more, first, second⟩
  · rintro ⟨value, more, first, second⟩
    exact ⟨(value, more), first, second⟩

theorem take_eq_ok {short : E} {length : Nat} {unread rest : List UInt8} {block : Block length} :
    take short length unread = .ok (block, rest) ↔ unread = block.val ++ rest := by
  unfold take
  split
  next enough =>
    constructor
    · rintro ⟨⟩
      exact (List.take_append_drop length unread).symm
    · rintro rfl
      obtain ⟨bytes, rfl⟩ := block
      simp
  next short =>
    constructor
    · intro impossible
      cases impossible
    · rintro rfl
      exact absurd (by simp [block.property]) short

theorem number_eq_ok {short : E} {width value : Nat} {unread rest : List UInt8} :
    number short width unread = .ok (value, rest) ↔
      value < capacity width ∧ unread = bigEndian width value ++ rest := by
  constructor
  · intro read
    obtain ⟨block, after, taken, same⟩ := bind_eq_ok.mp read
    cases same
    rw [bigEndian_ofBigEndian block.property]
    exact ⟨ofBigEndian_lt block.property, take_eq_ok.mp taken⟩
  · rintro ⟨fits, rfl⟩
    have taken : take short width (bigEndian width value ++ rest) =
        .ok (⟨bigEndian width value, length_bigEndian width value⟩, rest) := take_eq_ok.mpr rfl
    refine bind_eq_ok.mpr ⟨_, _, taken, ?_⟩
    simp only [ofBigEndian_bigEndian fits]
    rfl

/-- The parser reads exactly this encoding of the value, whatever follows it. -/
def Reads (parse : Cursor E A) (encoding : List UInt8) (value : A) : Prop :=
  ∀ rest, parse (encoding ++ rest) = .ok (value, rest)

namespace Reads

theorem pure (value : A) : Reads (Pure.pure value : Cursor E A) [] value := fun _ => rfl

theorem take {short : E} {length : Nat} (block : Block length) :
    Reads (Cursor.take short length) block.val block := fun _ => take_eq_ok.mpr rfl

theorem number {short : E} {width value : Nat} (fits : value < capacity width) :
    Reads (Cursor.number short width) (bigEndian width value) value :=
  fun _ => number_eq_ok.mpr ⟨fits, rfl⟩

theorem lift {result : Except E A} {value : A} (succeeds : result = .ok value) :
    Reads (Cursor.lift result) [] value := fun _ => lift_eq_ok.mpr ⟨succeeds, rfl⟩

theorem bind {parse : Cursor E A} {next : A → Cursor E B} {first second : List UInt8} {value : A}
    {result : B} (reads : Reads parse first value) (more : Reads (next value) second result) :
    Reads (parse >>= next) (first ++ second) result := by
  intro rest
  rw [List.append_assoc]
  exact bind_eq_ok.mpr ⟨_, _, reads _, more rest⟩

/-- A check in the middle of a parser reads nothing. -/
theorem check {result : Except E A} {next : A → Cursor E B} {encoding : List UInt8} {value : A}
    {parsed : B} (succeeds : result = .ok value) (more : Reads (next value) encoding parsed) :
    Reads (Cursor.lift result >>= next) encoding parsed :=
  (lift succeeds).bind more

/-- The last step of a parser may read nothing of its own. -/
theorem finish {parse : Cursor E A} {next : A → Cursor E B} {encoding : List UInt8} {value : A}
    {result : B} (reads : Reads parse encoding value) (last : Reads (next value) [] result) :
    Reads (parse >>= next) encoding result := by
  have both := reads.bind last
  rwa [List.append_nil] at both

end Reads

/-- Whatever the parser reads is exactly this encoding of the value it returns. -/
def Spells (parse : Cursor E A) (encoding : A → List UInt8) : Prop :=
  ∀ unread value rest, parse unread = .ok (value, rest) → unread = encoding value ++ rest

namespace Spells

theorem take {short : E} {length : Nat} :
    Spells (Cursor.take short length) fun block => block.val :=
  fun _ _ _ read => take_eq_ok.mp read

theorem number {short : E} {width : Nat} : Spells (Cursor.number short width) (bigEndian width) :=
  fun _ _ _ read => (number_eq_ok.mp read).2

/-- A check of what was read, that the encoding of what it returns is the one that was read. -/
theorem check {parse : Cursor E A} {encoding : A → List UInt8} {result : A → Except E B}
    {spelling : B → List UInt8} (spells : Spells parse encoding)
    (same : ∀ value checked, result value = .ok checked → encoding value = spelling checked) :
    Spells (parse >>= fun value => Cursor.lift (result value)) spelling := by
  intro unread checked rest read
  obtain ⟨value, more, first, second⟩ := bind_eq_ok.mp read
  obtain ⟨checks, rfl⟩ := lift_eq_ok.mp second
  rw [spells _ _ _ first, same value checked checks]

end Spells

end Cursor

/-! Bytes read at a place in a file, and numbers written with their low bytes first. -/

/-- So many bytes from a place on, if the file has them. -/
def readAt (file : List UInt8) (offset length : Nat) : Option (List UInt8) :=
  if ((file.drop offset).take length).length = length then some ((file.drop offset).take length)
  else none

variable {file piece : List UInt8} {offset length : Nat}

def ofLittleEndian (bytes : List UInt8) : Nat := ofBigEndian bytes.reverse

end Foundation
