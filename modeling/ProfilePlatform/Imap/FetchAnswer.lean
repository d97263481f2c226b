import ProfilePlatform.Imap.InternalDate

/-! The answers a server may give to `UID FETCH`, and which of them are read as they are meant. -/

set_option autoImplicit false

namespace ProfilePlatform.Imap

open Foundation

section Places

variable {marker text tail : Bytes}

end Places

section Parts

variable {text : Bytes} {number : Nat}

theorem stripPrefix_eq_some {front rest : Bytes} :
    stripPrefix front text = some rest ↔ text = front ++ rest := by
  constructor
  · intro found
    unfold stripPrefix at found
    split at found
    next starts =>
      obtain ⟨tail, rfl⟩ := List.isPrefixOf_iff_prefix.mp starts
      rw [List.drop_left] at found
      rw [Option.some.inj found]
    next => cases found
  · rintro rfl
    exact stripPrefix_eq front rest

end Parts

section Answers

/-- A header field over the lines it is folded to. -/
structure HeaderField where
  name : Bytes
  lines : List Bytes
  deriving DecidableEq

def isBlank (byte : UInt8) : Bool := byte == 32 || byte == 9

def withoutBlanks (line : Bytes) : Bytes :=
  ((line.dropWhile isBlank).reverse.dropWhile isBlank).reverse

namespace HeaderField

def spelled (self : HeaderField) : Bytes := self.name ++ 58 :: (crlf.intercalate self.lines ++ crlf)

/-- Each fold is one space. -/
def value (self : HeaderField) : Bytes :=
  [32].intercalate ((self.lines.map withoutBlanks).filter fun line => !line.isEmpty)

structure Legal (self : HeaderField) : Prop where
  name : self.name ≠ [] ∧ (self.name.all fun byte => 33 ≤ byte && byte ≤ 126 && byte != 58) = true
  lines : self.lines ≠ [] ∧ ∀ line ∈ self.lines, 13 ∉ line ∧ 10 ∉ line
  folds : ∀ line ∈ self.lines.tail, line.head?.any isBlank = true ∧ withoutBlanks line ≠ []

end HeaderField

/-- What the first field of the name says, if it says anything. -/
def saidOf (fields : List HeaderField) (name : Bytes) : Option Bytes :=
  ((fields.find? fun field => eqIgnoreAsciiCase field.name name).map HeaderField.value).filter
    fun value => !value.isEmpty

def Numeral (text : Bytes) : Prop := text ≠ [] ∧ text.all Decimal.isDigit = true

/-- What a server tells of a message. Names may be in any case. -/
inductive FetchItem where
  | uid (name number : Bytes)
  | internalDate (name date : Bytes)
  | rfc822Size (name number : Bytes)
  | headers (section_ count : Bytes) (fields : List HeaderField)
  | other (name value : Bytes)
  deriving DecidableEq

namespace FetchItem

def block (fields : List HeaderField) : Bytes := fields.flatMap HeaderField.spelled ++ crlf

def spelled : FetchItem → Bytes
  | uid name number | rfc822Size name number => name ++ 32 :: number
  | internalDate name date => name ++ 32 :: 34 :: (date ++ [34])
  | headers section_ count fields =>
    section_ ++ 32 :: 123 :: (count ++ 125 :: (crlf ++ block fields))
  | other name value => name ++ 32 :: value

def Legal : FetchItem → Prop
  | uid name number => eqIgnoreAsciiCase name (ascii "uid") = true ∧ Numeral number ∧
    0 < Decimal.value number ∧ Decimal.value number < 4294967296
  | internalDate name date => eqIgnoreAsciiCase name (ascii "internaldate") = true ∧ 34 ∉ date
  | rfc822Size name number => eqIgnoreAsciiCase name (ascii "rfc822.size") = true ∧ Numeral number ∧
    Decimal.value number < 9223372036854775808
  | headers section_ count fields =>
    eqIgnoreAsciiCase (section_.take 18) (ascii "body[header.fields") = true ∧
      13 ∉ section_ ∧ 10 ∉ section_ ∧ 123 ∉ section_ ∧ Numeral count ∧
      Decimal.value count = (block fields).length ∧ ∀ field ∈ fields, field.Legal
  | other name value =>
    name ≠ [] ∧ 32 ∉ name ∧ (name.map toAsciiLowercase ∉
      [ascii "uid", ascii "internaldate", ascii "rfc822.size"]) ∧
      ∀ byte ∈ name ++ value, byte ≠ 13 ∧ byte ≠ 10

def date : FetchItem → Option Bytes
  | internalDate _ date => some date
  | _ => none

def size : FetchItem → Option Nat
  | rfc822Size _ number => some (Decimal.value number)
  | _ => none

def fields : FetchItem → Option (List HeaderField)
  | headers _ _ fields => some fields
  | _ => none

end FetchItem

inductive Untagged where
  | fetch (message : Nat) (keyword : Bytes) (items : List FetchItem)
  | other (text : Bytes)
  deriving DecidableEq

namespace Untagged

def spelled : Untagged → Bytes
  | fetch message keyword items => ascii "* " ++ (Decimal.digits message ++ 32 :: (keyword ++
    32 :: 40 :: ([32].intercalate (items.map FetchItem.spelled) ++ 41 :: crlf)))
  | other text => ascii "* " ++ (text ++ crlf)

def Legal : Untagged → Prop
  | fetch message keyword items => 0 < message ∧
    eqIgnoreAsciiCase keyword (ascii "fetch") = true ∧ items ≠ [] ∧ ∀ item ∈ items, item.Legal
  | other text => 13 ∉ text ∧ 10 ∉ text ∧
    ((splitAsciiWhitespace text)[1]?.all fun word => !eqIgnoreAsciiCase word (ascii "fetch")) = true

end Untagged

/-- A successful answer: any untagged responses, and a tagged one that says OK. -/
structure Answer where
  untagged : List Untagged
  tag : Bytes
  status : Bytes
  completion : Bytes
  deriving DecidableEq

namespace Answer

def spelled (self : Answer) : Bytes :=
  self.untagged.flatMap Untagged.spelled ++
    (self.tag ++ 32 :: (self.status ++ 32 :: (self.completion ++ crlf)))

structure Legal (self : Answer) : Prop where
  untagged : ∀ line ∈ self.untagged, line.Legal
  status : eqIgnoreAsciiCase self.status (ascii "ok") = true
  completion : 13 ∉ self.completion ∧ 10 ∉ self.completion

end Answer

/-- Each thing that was asked for is told once, and the record says what is told. -/
structure Tells (items : List FetchItem) (metadata : ImapMessageMetadata) : Prop where
  date : ∃ text date hour minute second zone, items.filterMap FetchItem.date = [text] ∧
    Denotes text date hour minute second zone ∧
    instantOf date hour minute second zone = (metadata.internalDate : Nat)
  size : ∃ size, items.filterMap FetchItem.size = [size] ∧ metadata.rfc822Size = some size
  headers : ∃ fields, items.filterMap FetchItem.fields = [fields] ∧
    metadata.subject = saidOf fields (ascii "subject") ∧
    metadata.sender = saidOf fields (ascii "from") ∧
    metadata.contentType = saidOf fields (ascii "content-type") ∧
    metadata.transferEncoding = saidOf fields (ascii "content-transfer-encoding") ∧
    metadata.contentDisposition = saidOf fields (ascii "content-disposition")

end Answers

section Exactness

namespace AnswerSamples

/-- A server that gives one answer to every command. -/
def server (answer : Answer) : ImapTransport Unit where
  execute session _ _ := (.ok ⟨answer.spelled, .ok⟩, session)
  executeWithLiteral session _ _ _ := (.ok ⟨answer.spelled, .ok⟩, session)

def terms : List HeaderField := [⟨ascii "Subject", [ascii " folded", ascii " terms"]⟩]

def literal : FetchItem := .headers (ascii "BODY[HEADER.FIELDS (SUBJECT)]") (ascii "27") terms

def answer (items : List FetchItem) : Answer :=
  ⟨[.other (ascii "23 EXISTS"), .fetch 12 (ascii "FETCH") items], ascii "p000004", ascii "OK",
    ascii "Success"⟩

def record : ImapMessageMetadata :=
  ⟨4713, 837596665000, some (ascii "folded terms"), none, none, none, none, some 4286⟩

theorem dated : ∃ date hour minute second zone,
    Denotes (ascii "17-Jul-1996 02:44:25 -0700") date hour minute second zone ∧
      instantOf date hour minute second zone = (837596665000 : Nat) := by
  refine ⟨⟨1996, 7, 17, by decide, by decide⟩, 2, 44, 25, -420, ⟨?_, by decide, by decide, by decide⟩,
    by decide +kernel⟩
  refine ⟨ascii "17-Jul-1996", ascii "02:44:25", ascii "-0700", ascii "17", ascii "Jul", ascii "1996",
    ascii "02", ascii "44", ascii "25", by decide +kernel, by decide +kernel, by decide +kernel,
    ⟨[], 0, .inl rfl, by decide +kernel⟩, by decide +kernel,
    ⟨by decide, [], 0, .inl rfl, by decide +kernel⟩, ⟨[], 1, .inl rfl, by decide +kernel⟩,
    ⟨[], 0, .inl rfl, by decide +kernel⟩, ⟨[], 0, .inl rfl, by decide +kernel⟩, 7, 0, by decide,
    by decide, .inr ⟨by decide +kernel, by decide⟩⟩

def gone : Answer := ⟨[], ascii "p000005", ascii "OK", ascii "UID FETCH completed"⟩

end AnswerSamples

end Exactness

end ProfilePlatform.Imap
