import Mathlib.Data.List.Infix

/-! The IMAP session: a command is written under a fresh tag, and the response is read
until a tagged line is in it.

The socket is what its reads will return, one after another: some bytes, or nothing
for a failed read. A socket without reads left is closed.
-/

set_option autoImplicit false

namespace ProfilePlatform.Imap

abbrev Bytes : Type := List UInt8

def maxCommandTag : Nat := 999999

inductive ImapTransportError where
  | authentication | providerPolicy | dependencyUnavailable | integrityFailure
  deriving DecidableEq, Repr

inductive ImapTaggedStatus where
  | ok | no | bad
  deriving DecidableEq, Repr

structure ImapCommandResponse where
  bytes : Bytes
  status : ImapTaggedStatus
  deriving DecidableEq

structure Socket where
  reads : List (Option Bytes)
  written : Bytes
  writable : Bool
  deriving DecidableEq

structure ImapSession where
  socket : Socket
  nextTag : Nat
  deriving DecidableEq

def crlf : Bytes := [13, 10]

def isAsciiWhitespace (byte : UInt8) : Bool :=
  byte == 32 || byte == 9 || byte == 10 || byte == 12 || byte == 13

def toAsciiLowercase (byte : UInt8) : UInt8 :=
  if 65 ≤ byte && byte ≤ 90 then byte + 32 else byte

def eqIgnoreAsciiCase (left right : Bytes) : Bool :=
  left.map toAsciiLowercase = right.map toAsciiLowercase

/-- The tag and a space begin the line. -/
def isTagged (tag row : Bytes) : Bool := tag.isPrefixOf row && row[tag.length]? == some 32

def responseHasTaggedLine (response tag : Bytes) : Bool :=
  (response.splitOn 10).any (isTagged tag)

def statusOfWord (word : Bytes) : Option ImapTaggedStatus :=
  if eqIgnoreAsciiCase word [79, 75] then some .ok
  else if eqIgnoreAsciiCase word [78, 79] then some .no
  else if eqIgnoreAsciiCase word [66, 65, 68] then some .bad
  else none

def taggedStatus (response tag : Bytes) : Option ImapTaggedStatus :=
  match (response.splitOn 10).find? (isTagged tag) with
  | none => none
  | some line =>
    let suffix := line.drop (tag.length + 1)
    statusOfWord ((suffix.splitOnP isAsciiWhitespace).headD [])

/-- The response is taken for complete: a tagged line has begun, or without a tag some line ended. -/
def isComplete (tag : Option Bytes) (output : Bytes) : Bool :=
  match tag with
  | some tag => responseHasTaggedLine output tag
  | none => output.tails.any fun tail => crlf.isPrefixOf tail

/-- Reads on from the output so far, and answers with the reads that are left. -/
def readBounded (tag : Option Bytes) (maximumResponseBytes : Nat) (output : Bytes) :
    List (Option Bytes) → Except ImapTransportError Bytes × List (Option Bytes)
  | [] => (.error .dependencyUnavailable, [])
  | none :: rest => (.error .dependencyUnavailable, rest)
  | some [] :: rest => (.error .dependencyUnavailable, rest)
  | some chunk :: rest =>
    if maximumResponseBytes < output.length + chunk.length then (.error .providerPolicy, rest)
    else if isComplete tag (output ++ chunk) then (.ok (output ++ chunk), rest)
    else readBounded tag maximumResponseBytes (output ++ chunk) rest

def readUntilTag (socket : Socket) (tag : Bytes) (maximumResponseBytes : Nat) :
    Except ImapTransportError Bytes × Socket :=
  let (answer, reads) := readBounded (some tag) maximumResponseBytes [] socket.reads
  (answer, { socket with reads })

def Socket.writeAll (self : Socket) (bytes : Bytes) : Except ImapTransportError Socket :=
  if self.writable then .ok { self with written := self.written ++ bytes }
  else .error .dependencyUnavailable

def invalidCommand (command : Bytes) : Bool :=
  command.isEmpty || command.any fun byte => byte == 13 || byte == 10 || byte == 0

/-- The letter p and the number in six decimal digits. -/
def commandTag (number : Nat) : Bytes :=
  112 :: [100000, 10000, 1000, 100, 10, 1].map fun place => (48 + number / place % 10).toUInt8

namespace ImapSession

def nextCommandTag (self : ImapSession) : Except ImapTransportError (Bytes × ImapSession) :=
  if maxCommandTag < self.nextTag then .error .integrityFailure
  else .ok (commandTag self.nextTag, { self with nextTag := self.nextTag + 1 })

def execute (self : ImapSession) (command : Bytes) (maximumResponseBytes : Nat) :
    Except ImapTransportError ImapCommandResponse × ImapSession :=
  if invalidCommand command || maximumResponseBytes == 0 then (.error .integrityFailure, self)
  else match self.nextCommandTag with
  | .error why => (.error why, self)
  | .ok (tag, after) =>
    match after.socket.writeAll (tag ++ [32] ++ command ++ crlf) with
    | .error why => (.error why, after)
    | .ok socket =>
      match readUntilTag socket tag maximumResponseBytes with
      | (.error why, socket) => (.error why, { after with socket })
      | (.ok bytes, socket) =>
        match taggedStatus bytes tag with
        | none => (.error .integrityFailure, { after with socket })
        | some status => (.ok ⟨bytes, status⟩, { after with socket })

end ImapSession

end ProfilePlatform.Imap
