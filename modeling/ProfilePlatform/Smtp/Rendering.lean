import ProfilePlatform.Foundation.Base64
import ProfilePlatform.Foundation.Hex
import ProfilePlatform.Foundation.Fallible
import ProfilePlatform.Imap.Texts
import ProfilePlatform.Ports.MailContent

/-! The message that is sent over SMTP: its header fields and its body.

The hash is a parameter. What is written so far is handed on from field to field.
-/

set_option autoImplicit false

namespace ProfilePlatform.Smtp

open Foundation Ports
open Imap (Bytes ascii crlf isAscii splitAsciiWhitespace isAsciiWhitespace eqIgnoreAsciiCase)

def maxRenderedMessageBytes : Nat := 2 * 1024 * 1024
def maxReferenceHeaderBytes : Nat := 8 * 1024
def headerSoftLimit : Nat := 76
def headerHardLimit : Nat := 998

abbrev Sha256 : Type := Bytes → Block 32

/-- The errors of the renderer tell nothing. -/
abbrev Rendered : Type → Type := Except Unit

section Encoding

def validateHeaderValue (value : Bytes) : Rendered Unit :=
  refuseIf (value.any fun byte => byte == 13 || byte == 10 || byte == 0) ()

def pushHeader (output name value : Bytes) : Bytes := output ++ name ++ ascii ": " ++ value ++ crlf

/-- A header field that is being written, and how long its line is. -/
structure HeaderLine where
  output : Bytes
  lineLength : Nat

def HeaderLine.push (line : HeaderLine) (text : Bytes) : HeaderLine :=
  ⟨line.output ++ text, line.lineLength + text.length⟩

/-- The next line of the field, behind a space. -/
def HeaderLine.fold (line : HeaderLine) (last : Bytes) : HeaderLine :=
  ⟨line.output ++ last ++ crlf ++ [32], 1⟩

def startHeader (output name : Bytes) : HeaderLine := ⟨output ++ name ++ ascii ": ", name.length + 2⟩

def pushAddress (line : HeaderLine) (first : Bool) (address : MailAddress) : HeaderLine :=
  let text := utf8Bytes address.asStr
  let separator := if first then 0 else 2
  let projected := line.lineLength + separator + text.length
  let line :=
    if !first && headerSoftLimit < projected then line.fold (ascii ",")
    else if !first then line.push (ascii ", ")
    else line
  line.push text

def pushAddresses : HeaderLine → Bool → List MailAddress → HeaderLine
  | line, _, [] => line
  | line, first, address :: rest => pushAddresses (pushAddress line first address) false rest

def pushAddressHeader (output name : Bytes) (addresses : List MailAddress) : Bytes :=
  if addresses.isEmpty then output
  else (pushAddresses (startHeader output name) true addresses).output ++ crlf

/-- Where a line has seventy-six symbols the next one begins another line. -/
def pushBase64Symbol (wrapLines : Bool) (written : Bytes × Nat) (byte : UInt8) : Bytes × Nat :=
  let (output, column) := if wrapLines && written.2 == 76 then (written.1 ++ crlf, 0) else written
  (output ++ [byte], column + 1)

def encodeBase64 (bytes : Bytes) (wrapLines : Bool) : Bytes :=
  ((Base64.encode .standard true bytes).foldl (pushBase64Symbol wrapLines) ([], 0)).1

def subjectName : Bytes := ascii "Subject"

def pushEncodedWord (line : HeaderLine) (chunk : Bytes) : HeaderLine :=
  let word := ascii "=?UTF-8?B?" ++ encodeBase64 chunk false ++ ascii "?="
  let started := subjectName.length + 2 < line.lineLength
  let line :=
    if started && headerSoftLimit < line.lineLength + (1 + word.length) then line.fold []
    else if started then line.push [32]
    else line
  line.push word

/-- Characters are collected as long as their bytes are no more than thirty. -/
def pushChunks : HeaderLine → Bytes → List Char → HeaderLine
  | line, chunk, [] => if chunk.isEmpty then line else pushEncodedWord line chunk
  | line, chunk, character :: rest =>
    let bytes := String.utf8EncodeChar character
    if !chunk.isEmpty && 30 < chunk.length + bytes.length then
      pushChunks (pushEncodedWord line chunk) bytes rest
    else pushChunks line (chunk ++ bytes) rest

def pushSubjectHeader (output : Bytes) (subject : String) : Rendered Bytes := do
  validateHeaderValue (utf8Bytes subject)
  if isAscii (utf8Bytes subject) && (utf8Bytes subject).length + 9 ≤ headerSoftLimit then
    return pushHeader output subjectName (utf8Bytes subject)
  else
    return (pushChunks (startHeader output subjectName) [] subject.toList).output ++ crlf

def pushToken (name : Bytes) (line : HeaderLine) (token : Bytes) : Rendered HeaderLine := do
  refuseIf (headerHardLimit < token.length + 1) ()
  let started := name.length + 2 < line.lineLength
  let separator := if started then 1 else 0
  let projected := line.lineLength + separator + token.length
  let line :=
    if started && headerSoftLimit < projected then line.fold []
    else if separator == 1 then line.push [32]
    else line
  return line.push token

def pushReferenceHeader (output name value : Bytes) : Rendered Bytes := do
  validateHeaderValue value
  refuseIf ((splitAsciiWhitespace value).isEmpty) ()
  let line ← (splitAsciiWhitespace value).foldlM (pushToken name) (startHeader output name)
  return line.output ++ crlf

def pushSingleBody (output contentType : Bytes) (body : String) : Bytes :=
  output ++ ascii "Content-Type: " ++ contentType ++
    ascii "; charset=UTF-8\r\nContent-Transfer-Encoding: base64\r\n\r\n" ++
    encodeBase64 (utf8Bytes body) true ++ crlf

def pushAlternativePart (output boundary contentType : Bytes) (body : String) : Bytes :=
  output ++ ascii "--" ++ boundary ++ ascii "\r\nContent-Type: " ++ contentType ++
    ascii "; charset=UTF-8\r\nContent-Transfer-Encoding: base64\r\n\r\n" ++
    encodeBase64 (utf8Bytes body) true ++ crlf

end Encoding

section Rendering

structure RenderContext where
  sender : String
  recipients : MailRecipients
  subject : Option MailSubject
  fallbackSubject : Option String
  inReplyTo : Option String
  references : Option String

structure RenderedMessage where
  bytes : Bytes
  envelopeRecipients : List String

def validateAddress (value : String) : Rendered Unit :=
  refuseIf ((utf8Bytes value).isEmpty ||
    ((utf8Bytes value).any fun byte => byte < 32 || byte == 127 || isAsciiWhitespace byte) ||
    !(utf8Bytes value).contains 64) ()

/-- Each address once, whatever the case of its letters. -/
def addEnvelopeRecipient (output : List String) (address : MailAddress) : Rendered (List String) := do
  validateAddress address.asStr
  if output.any fun existing => eqIgnoreAsciiCase (utf8Bytes existing) (utf8Bytes address.asStr) then
    return output
  else return output ++ [address.asStr]

def envelopeRecipients (recipients : MailRecipients) : Rendered (List String) := do
  let output ← (recipients.toAddresses ++ recipients.ccAddresses ++ recipients.bccAddresses).foldlM addEnvelopeRecipient []
  refuseIf (output.isEmpty = true) ()
  return output

def validateReferenceHeader (value : String) : Rendered Unit := do
  refuseIf (maxReferenceHeaderBytes < (utf8Bytes value).length) ()
  validateHeaderValue (utf8Bytes value)

def RenderContext.subjectText (context : RenderContext) : String :=
  ((context.subject.map (·.asStr)).or context.fallbackSubject).getD ""

/-- What the boundary is made from. -/
def boundaryInput (context : RenderContext) (body : MailBody) : Bytes :=
  utf8Bytes context.sender ++
    ((context.recipients.toAddresses ++ context.recipients.ccAddresses ++ context.recipients.bccAddresses).flatMap fun address =>
      0 :: utf8Bytes address.asStr) ++
    0 :: utf8Bytes context.subjectText ++
    (body.text.elim [] fun text => 0 :: utf8Bytes text) ++
    (body.html.elim [] fun html => 0 :: utf8Bytes html)

def multipartBoundary (sha256 : Sha256) (context : RenderContext) (body : MailBody) : Bytes :=
  ascii "profile-alt-" ++ Hex.text ((sha256 (boundaryInput context body)).val.take 12)

def validateContext (context : RenderContext) : Rendered Unit := do
  (context.recipients.toAddresses ++ context.recipients.ccAddresses).forM fun address => validateAddress address.asStr
  validateHeaderValue (utf8Bytes context.subjectText)
  context.inReplyTo.forM validateReferenceHeader
  context.references.forM validateReferenceHeader

def pushOptional (output name : Bytes) : Option String → Rendered Bytes
  | none => .ok output
  | some value => pushReferenceHeader output name (utf8Bytes value)

def renderHeaders (context : RenderContext) : Rendered Bytes := do
  let output := pushHeader [] (ascii "From") (utf8Bytes context.sender)
  let output := pushAddressHeader output (ascii "To") context.recipients.toAddresses
  let output := pushAddressHeader output (ascii "Cc") context.recipients.ccAddresses
  let output ← pushSubjectHeader output context.subjectText
  let output ← pushOptional output (ascii "In-Reply-To") context.inReplyTo
  let output ← pushOptional output (ascii "References") context.references
  return output ++ ascii "MIME-Version: 1.0\r\n"

/-- Both parts, one of them, or none. -/
def renderBody (boundary output : Bytes) (body : MailBody) : Rendered Bytes :=
  match body.text.filter (· ≠ ""), body.html.filter (· ≠ "") with
  | some text, some html =>
    let output := output ++ ascii "Content-Type: multipart/alternative; boundary=\"" ++ boundary ++
      ascii "\"\r\n\r\n"
    let output := pushAlternativePart output boundary (ascii "text/plain") text
    let output := pushAlternativePart output boundary (ascii "text/html") html
    .ok (output ++ ascii "--" ++ boundary ++ ascii "--\r\n")
  | some text, none => .ok (pushSingleBody output (ascii "text/plain") text)
  | none, some html => .ok (pushSingleBody output (ascii "text/html") html)
  | none, none => .error ()

def renderMime (sha256 : Sha256) (context : RenderContext) (body : MailBody) :
    Rendered RenderedMessage := do
  validateAddress context.sender
  let recipients ← envelopeRecipients context.recipients
  validateContext context
  let headers ← renderHeaders context
  let output ← renderBody (multipartBoundary sha256 context body) headers body
  refuseIf (maxRenderedMessageBytes < output.length) ()
  return ⟨output, recipients⟩

end Rendering

end ProfilePlatform.Smtp
