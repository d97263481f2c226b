import ProfilePlatform.Foundation.Leads
import ProfilePlatform.Foundation.Decimal
import ProfilePlatform.Imap.Texts

/-! Sending one message over an SMTP session that is connected and authenticated.

The socket is what its reads will return and how its writes will end. It also keeps what
was written, one entry for each write, and the replies that were read.
-/

set_option autoImplicit false

namespace ProfilePlatform.Smtp

open Foundation
open Imap (Bytes ascii crlf isAsciiWhitespace eqIgnoreAsciiCase isAscii)

def maxReplyBytes : Nat := 64 * 1024

inductive SmtpSendFailure where
  | retryableNotSent | rejected | ambiguous | integrityFailure
  deriving DecidableEq, Repr

structure SmtpReply where
  code : Nat
  bytes : Bytes
  deriving DecidableEq

/-- Each read gives bytes, none of them at the end of the stream, or fails. Each write, with its
flush, succeeds or fails after so many bytes; a socket without writes left is closed. -/
structure SmtpSocket where
  reads : List (Option Bytes)
  writes : List (Option Nat)
  written : List Bytes
  heard : List SmtpReply
  deriving DecidableEq

abbrev Exchange : Type → Type := ExceptT SmtpSendFailure (StateM SmtpSocket)

section Replies

/-- Without the one carriage return at the end, if there is one. -/
def stripReturn (line : Bytes) : Bytes :=
  if line.getLast? = some 13 then line.dropLast else line

def SmtpReply.capability (self : SmtpReply) (capability : Bytes) : Bool :=
  (self.bytes.splitOn 10).any fun line =>
    (((stripReturn line).drop 4).splitOnP isAsciiWhitespace).any fun token =>
      eqIgnoreAsciiCase token capability

def parseReplyCode (line : Bytes) : Option Nat :=
  if line.length < 3 ∨ (line.take 3).all Decimal.isDigit = false then none
  else some (Decimal.value (line.take 3))

/-- The line ends the reply: the code, and a space behind it. -/
def endsReply (code : Bytes) (line : Bytes) : Bool :=
  let line := stripReturn line
  decide (4 ≤ line.length) && decide (line.take 3 = code) && decide ((line.drop 3).head? = some 32)

def completeReplyCode (response : Bytes) : Option Nat :=
  match parseReplyCode ((response.splitOn 10).headD []) with
  | none => none
  | some code =>
    if (response.splitOn 10).any (endsReply (Decimal.digits code)) then some code else none

/-- Reads on from the output so far. -/
def readReplyFrom (ioFailure protocolFailure : SmtpSendFailure) (output : Bytes) :
    List (Option Bytes) → Except SmtpSendFailure SmtpReply × List (Option Bytes)
  | [] => (.error ioFailure, [])
  | none :: rest => (.error ioFailure, rest)
  | some [] :: rest => (.error ioFailure, rest)
  | some chunk :: rest =>
    if maxReplyBytes < output.length + chunk.length then (.error protocolFailure, rest)
    else match completeReplyCode (output ++ chunk) with
    | some code => (.ok ⟨code, output ++ chunk⟩, rest)
    | none => readReplyFrom ioFailure protocolFailure (output ++ chunk) rest

def readReplyInner (ioFailure protocolFailure : SmtpSendFailure) : Exchange SmtpReply :=
  fun socket =>
    match readReplyFrom ioFailure protocolFailure [] socket.reads with
    | (.ok reply, reads) => (.ok reply, { socket with reads, heard := socket.heard ++ [reply] })
    | (.error why, reads) => (.error why, { socket with reads })

def readReply : Exchange SmtpReply := readReplyInner .retryableNotSent .integrityFailure

def readReplyAfterData : Exchange SmtpReply := readReplyInner .ambiguous .ambiguous

end Replies

section Commands

/-- Writes all bytes, or fails as it is said. -/
def writeAll (bytes : Bytes) (failure : SmtpSendFailure) : Exchange Unit := fun socket =>
  match socket.writes with
  | [] => (.error failure, { socket with written := socket.written ++ [[]] })
  | some count :: writes =>
    (.error failure, { socket with writes, written := socket.written ++ [bytes.take count] })
  | none :: writes => (.ok (), { socket with writes, written := socket.written ++ [bytes] })

def sendCommand (command : Bytes) : Exchange SmtpReply := do
  if command.any fun byte => byte == 13 || byte == 10 || byte == 0 then throw .integrityFailure
  else
    writeAll (command ++ crlf) .retryableNotSent
    readReply

def classifyPreAcceptance (code : Nat) : SmtpSendFailure :=
  if 400 ≤ code ∧ code ≤ 499 then .retryableNotSent
  else if 500 ≤ code ∧ code ≤ 599 then .rejected
  else .integrityFailure

def mailFromCommand (envelopeFrom : Bytes) (requiresSmtpUtf8 : Bool) : Bytes :=
  ascii "MAIL FROM:<" ++ envelopeFrom ++ (if requiresSmtpUtf8 then ascii "> SMTPUTF8" else ascii ">")

def requiresSmtpUtf8 (envelopeFrom : Bytes) (recipients : List Bytes) : Bool :=
  !isAscii envelopeFrom || recipients.any fun recipient => !isAscii recipient

def invalidPath (value : Bytes) : Bool :=
  value.isEmpty || value.any fun byte =>
    byte < 32 || byte == 127 || isAsciiWhitespace byte || byte == 60 || byte == 62

/-- A dot that begins a line is doubled. -/
def stuffed (lineStart : Bool) : Bytes → Bytes
  | [] => []
  | byte :: rest =>
    (if lineStart && byte == 46 then [46, byte] else [byte]) ++ stuffed (byte == 10) rest

def dotStuffedMessage (message : Bytes) : Except SmtpSendFailure Bytes :=
  if 0 ∈ message then .error .integrityFailure
  else
    let output := stuffed true message
    .ok ((if crlf.isSuffixOf output then output else output ++ crlf) ++ [46] ++ crlf)

/-- One command for each recipient. When one is refused the transaction is reset, whatever the
server says to that. -/
def announceRecipients : List Bytes → Exchange Unit
  | [] => return
  | recipient :: rest => do
    let reply ← sendCommand (ascii "RCPT TO:<" ++ recipient ++ [62])
    if reply.code = 250 ∨ reply.code = 251 then announceRecipients rest
    else do
      ignored (sendCommand (ascii "RSET"))
      throw (classifyPreAcceptance reply.code)

/-- What the reply to the end of the data says. -/
def conclude (code : Nat) : Except SmtpSendFailure Unit :=
  if 200 ≤ code ∧ code ≤ 299 then .ok ()
  else if 400 ≤ code ∧ code ≤ 499 then .error .retryableNotSent
  else if 500 ≤ code ∧ code ≤ 599 then .error .rejected
  else .error .ambiguous

def transferMessage (message : Bytes) : Exchange Unit := do
  let wire ← ExceptT.mk (pure (dotStuffedMessage message))
  writeAll wire .ambiguous
  let finalReply ← readReplyAfterData
  match conclude finalReply.code with
  | .ok () => ignored (sendCommand (ascii "QUIT"))
  | .error failure => throw failure

def sendMessage (ehlo : SmtpReply) (envelopeFrom : Bytes) (recipients : List Bytes)
    (message : Bytes) : Exchange Unit := do
  if recipients.isEmpty || invalidPath envelopeFrom || recipients.any invalidPath ||
      message.isEmpty then throw .integrityFailure
  else if requiresSmtpUtf8 envelopeFrom recipients && !ehlo.capability (ascii "SMTPUTF8") then
    throw .rejected
  else do
    let reply ← sendCommand
      (mailFromCommand envelopeFrom (requiresSmtpUtf8 envelopeFrom recipients))
    if reply.code ≠ 250 then throw (classifyPreAcceptance reply.code)
    else do
      announceRecipients recipients
      let data ← sendCommand (ascii "DATA")
      if data.code ≠ 354 then throw (classifyPreAcceptance data.code)
      else transferMessage message

end Commands

end ProfilePlatform.Smtp
