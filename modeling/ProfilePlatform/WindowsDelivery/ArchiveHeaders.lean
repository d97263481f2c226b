import ProfilePlatform.Foundation.Fields
import ProfilePlatform.Foundation.Integers
import ProfilePlatform.WindowsDelivery.ArchiveReading

/-! The header of a TAR member reads as it was written. -/

set_option autoImplicit false

namespace ProfilePlatform.WindowsDelivery.Archive

open Foundation

section Octal

/-- The last so many octal digits of a number. -/
def octalDigits : Nat → Nat → List UInt8
  | 0, _ => []
  | places + 1, value => octalDigits places (value / 8) ++ [UInt8.ofNat (48 + value % 8)]

end Octal

section Texts

/-- A text in a field of so many bytes, filled up with zeros. -/
def textField (width : Nat) (text : String) : List UInt8 :=
  utf8Bytes text ++ List.replicate (width - (utf8Bytes text).length) 0

end Texts

section Headers

/-- The header of a member. The reader does not look at the fields it is filled up with. -/
structure TarHeader where
  name : String
  start : String
  attributes : Block 24
  modified : Block 12
  linkName : Block 100
  owner : Block 80
  filler : Block 12

/-- A name that can be written, and a path in front of it, which may be empty. -/
structure TarHeader.Plain (header : TarHeader) : Prop where
  named : header.name ≠ ""
  name_plain : '\x00' ∉ header.name.toList
  start_plain : '\x00' ∉ header.start.toList
  name_short : (utf8Bytes header.name).length ≤ 100
  start_short : (utf8Bytes header.start).length ≤ 155

def TarHeader.path (header : TarHeader) : String :=
  if header.start = "" then header.name else header.start ++ "/" ++ header.name

def headerFields (header : TarHeader) (size : Nat) (typeFlag : UInt8) (checksum : List UInt8) :
    List (List UInt8) :=
  [textField 100 header.name, header.attributes.val, octalDigits 11 size ++ [0], header.modified.val,
    checksum, [typeFlag], header.linkName.val, ustar, [48, 48], header.owner.val,
    textField 155 header.start, header.filler.val]

/-- The checksum is summed up while its own field holds spaces. -/
def headerSum (header : TarHeader) (size : Nat) (typeFlag : UInt8) : Nat :=
  ((headerFields header size typeFlag (List.replicate 8 32)).flatten.map UInt8.toNat).sum

def tarHeader (header : TarHeader) (size : Nat) (typeFlag : UInt8) : List UInt8 :=
  (headerFields header size typeFlag
    (octalDigits 6 (headerSum header size typeFlag) ++ [0, 32])).flatten

variable {header : TarHeader} {size : Nat} {typeFlag : UInt8} {checksum : List UInt8}

end Headers

/-! A PAX record of a path. Its length counts its own digits, and every path has one that does. -/

section Counting

end Counting

section Records

/-- The path behind its key, with the line end. -/
def paxBody (path : String) : List UInt8 := utf8Bytes "path" ++ 61 :: (utf8Bytes path ++ [10])

/-- A record that begins with its own length. -/
def PaxRecord (path : String) (payload : List UInt8) : Prop :=
  payload = Decimal.digits payload.length ++ 32 :: paxBody path

variable {path : String} {payload : List UInt8}

end Records

end ProfilePlatform.WindowsDelivery.Archive
