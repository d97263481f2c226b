import ProfilePlatform.Primitives

/-! What an outbound mail is made of: addresses, recipients, a subject and a body. A value is one
that its constructor has accepted. -/

set_option autoImplicit false

namespace ProfilePlatform.Ports

def maxMailAddressBytes : Nat := 320
def maxMailRecipients : Nat := 100
def maxMailSubjectBytes : Nat := 998
def maxOutboundMailBodyBytes : Nat := 1048576

/-- `char::is_control` -/
def isControl (character : Char) : Bool :=
  character.toNat < 32 || (127 ≤ character.toNat && character.toNat < 160)

/-- `char::is_whitespace` -/
def isWhitespace (character : Char) : Bool :=
  character.toNat ∈ [9, 10, 11, 12, 13, 32, 133, 160, 5760, 8192, 8193, 8194, 8195, 8196, 8197, 8198,
    8199, 8200, 8201, 8202, 8232, 8233, 8239, 8287, 12288]

/-- The parts before and behind the last such character. -/
def rsplitOnce (separator : Char) (characters : List Char) : Option (List Char × List Char) :=
  if separator ∈ characters then
    let behind := (characters.reverse.takeWhile (· ≠ separator)).reverse
    some (characters.take (characters.length - behind.length - 1), behind)
  else none

def MailAddress.accepts (value : String) : Bool :=
  3 ≤ (utf8Bytes value).length && (utf8Bytes value).length ≤ maxMailAddressBytes &&
    !(value.toList.any fun character => isControl character || isWhitespace character) &&
    (rsplitOnce '@' value.toList).any fun parts => !parts.1.isEmpty && !parts.2.isEmpty

structure MailAddress where
  asStr : String
  accepted : MailAddress.accepts asStr = true
  deriving DecidableEq

structure MailRecipients where
  toAddresses : List MailAddress
  ccAddresses : List MailAddress
  bccAddresses : List MailAddress
  required : toAddresses.length + ccAddresses.length + bccAddresses.length ≠ 0
  limited : toAddresses.length + ccAddresses.length + bccAddresses.length ≤ maxMailRecipients

def MailSubject.accepts (value : String) : Bool :=
  (utf8Bytes value).length ≤ maxMailSubjectBytes && !value.toList.any isControl

structure MailSubject where
  asStr : String
  accepted : MailSubject.accepts asStr = true
  deriving DecidableEq

/-- There is a text or a part in HTML, and together they are not too long. -/
structure MailBody where
  text : Option String
  html : Option String
  required : text.any (· ≠ "") || html.any (· ≠ "")
  limited : (text.elim 0 fun value => (utf8Bytes value).length) +
    (html.elim 0 fun value => (utf8Bytes value).length) ≤ maxOutboundMailBodyBytes

end ProfilePlatform.Ports
