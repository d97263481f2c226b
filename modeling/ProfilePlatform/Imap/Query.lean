import ProfilePlatform.Foundation.Pages
import ProfilePlatform.Imap.Metadata

/-! The search of the inbox, page by page.

A page is cut from windows of UIDs, the highest first, a few windows in each call. The
cursor says below which UID the next page goes on, and for which UIDVALIDITY it holds.
-/

set_option autoImplicit false

namespace ProfilePlatform.Imap

open Foundation

def maxQueryPageSize : Nat := 100
def maxQueryCursorLength : Nat := 512
def maxMailSearchTermLength : Nat := 200
def maxProviderMessageReferenceLength : Nat := 512
def maxImapQueryPageSize : Nat := 25
def imapSearchWindowUids : Nat := 500
def maxImapSearchWindows : Nat := 8
def maxImapControlResponseBytes : Nat := 64 * 1024

def imapCursorPrefix : Bytes := ascii "imap:"
def imapReferencePrefix : Bytes := ascii "imap:"

section Requests

structure QueryPageSize where
  value : Nat
  positive : 0 < value
  bounded : value ≤ maxQueryPageSize

def QueryCursor.accepts (value : Bytes) : Bool :=
  !value.isEmpty && value.length ≤ maxQueryCursorLength && !hasControl value

structure QueryCursor where
  asStr : Bytes
  accepted : QueryCursor.accepts asStr = true

def QueryCursor.parse (value : Bytes) : Option QueryCursor :=
  if accepted : QueryCursor.accepts value = true then some ⟨value, accepted⟩ else none

structure QueryPageRequest where
  limit : QueryPageSize
  cursor : Option QueryCursor

/-- A trimmed term. -/
structure MailSearchTerm where
  asStr : Bytes
  accepted : (!asStr.isEmpty && asStr.length ≤ maxMailSearchTermLength && !hasControl asStr) = true
  trimmed : trim asStr = asStr

structure SearchClientMailboxMessagesRequest where
  term : Option MailSearchTerm
  page : QueryPageRequest

def MailboxMessageReference.accepts (providerReference : Bytes) : Bool :=
  !providerReference.isEmpty && providerReference.length ≤ maxProviderMessageReferenceLength &&
    !hasControl providerReference

structure MailboxMessageReference where
  bindingId : MailboxBindingId
  providerReference : Bytes
  accepted : MailboxMessageReference.accepts providerReference = true

def MailboxMessageReference.new (bindingId : MailboxBindingId) (providerReference : Bytes) :
    Option MailboxMessageReference :=
  if accepted : MailboxMessageReference.accepts providerReference = true then
    some ⟨bindingId, providerReference, accepted⟩
  else none

structure MailMessageSummary where
  reference : MailboxMessageReference
  subject : Option Bytes
  sender : Option Bytes
  receivedAt : UnixMillis

structure QueryPage (A : Type) where
  items : List A
  nextCursor : Option QueryCursor

end Requests

section Cursors

/-- Two positive numbers behind the prefix, and a colon between them. -/
def parseNumberPair (prefixed value : Bytes) : Option (Nat × Nat) := do
  let numbers ← stripPrefix prefixed value
  let (first, second) ← splitOnce 58 numbers
  let left ← (parseU64 first).filter (0 < ·)
  let right ← (parseU64 second).filter (0 < ·)
  return (left, right)

def parseImapCursor (cursor : QueryCursor) (uidValidity : Nat) : Except QueryPortError Nat :=
  match parseNumberPair imapCursorPrefix cursor.asStr with
  | some (cursorValidity, beforeUid) =>
    if cursorValidity ≠ uidValidity then .error .invalidCursor else .ok beforeUid
  | none => .error .invalidCursor

def numberPair (prefixed : Bytes) (left right : Nat) : Bytes :=
  prefixed ++ Decimal.digits left ++ [58] ++ Decimal.digits right

def imapQueryCursor (uidValidity beforeUid : Nat) : Except QueryPortError QueryCursor :=
  orIntegrityFailure (QueryCursor.parse (numberPair imapCursorPrefix uidValidity beforeUid))

def summaryFromImap (bindingId : MailboxBindingId) (uidValidity : Nat)
    (metadata : ImapMessageMetadata) : Except QueryPortError MailMessageSummary := do
  let reference ← orIntegrityFailure
    (MailboxMessageReference.new bindingId
      (numberPair imapReferencePrefix uidValidity metadata.uid))
  return ⟨reference, metadata.subject, metadata.sender, metadata.internalDate⟩

end Cursors

section Commands

structure ImapMailboxSnapshot where
  uidValidity : Nat
  uidNext : Nat
  deriving DecidableEq

def parseBracketU64 (response name : Bytes) : Option Nat := do
  let tail ← behind ([91] ++ name ++ [32]) response
  let value ← upTo 93 tail
  parseU64 (trim value)

def readSnapshot (response : ImapCommandResponse) : Except QueryPortError ImapMailboxSnapshot := do
  let uidValidity ← orIntegrityFailure (parseBracketU64 response.textLossy (ascii "UIDVALIDITY"))
  let uidNext ← orIntegrityFailure (parseBracketU64 response.textLossy (ascii "UIDNEXT"))
  refuseIf (uidValidity = 0 ∨ uidNext = 0) .integrityFailure
  return ⟨uidValidity, uidNext⟩

def searchMark : Bytes := ascii "* SEARCH"

def parseSearchUids (response : Bytes) : Except QueryPortError (List Nat) :=
  match (lines response).find? fun line => searchMark.isPrefixOf line with
  | none => .ok []
  | some line => (splitAsciiWhitespace (line.drop searchMark.length)).mapM fun value =>
      orIntegrityFailure ((parseU64 value).filter (0 < ·))

def pushImapQuoted (output value : Bytes) : Bytes :=
  output ++ [34] ++
    value.flatMap (fun byte => if byte = 34 ∨ byte = 92 then [92, byte] else [byte]) ++ [34]

def windowBytes (start last : Nat) : Bytes :=
  ascii "UID " ++ Decimal.digits start ++ [58] ++ Decimal.digits last

def examineCommand : Bytes := ascii "EXAMINE INBOX"

variable {Session : Type} (transport : ImapTransport Session)

def examineInbox : Query Session ImapMailboxSnapshot := do
  let response ← answered fun session =>
    transport.execute session examineCommand maxImapControlResponseBytes
  readSnapshot response

/-- The command for a window, sent with the term quoted in it or as a literal behind it. -/
def sendSearch (start last : Nat) (term : Option MailSearchTerm) (session : Session) :
    Except ImapTransportError ImapCommandResponse × Session :=
  match term with
  | none => transport.execute session (ascii "UID SEARCH " ++ windowBytes start last)
      maxImapControlResponseBytes
  | some term =>
    if isAscii term.asStr then
      transport.execute session (pushImapQuoted (ascii "UID SEARCH " ++ windowBytes start last ++
        ascii " TEXT" ++ [32]) term.asStr) maxImapControlResponseBytes
    else transport.executeWithLiteral session (ascii "UID SEARCH " ++ ascii "CHARSET UTF-8 " ++
      windowBytes start last ++ ascii " TEXT") term.asStr maxImapControlResponseBytes

def searchUidWindow (start last : Nat) (term : Option MailSearchTerm) :
    Query Session (List Nat) :=
  if start = 0 ∨ last < start then StateT.lift (.error .integrityFailure)
  else do
    let response ← answered (sendSearch transport start last term)
    parseSearchUids response.textLossy

/-- The UIDs of a window, the highest first. -/
def arrangeWindow (start last : Nat) (uids : List Nat) : List Nat :=
  ((dedupAdjacent (uids.mergeSort fun left right => decide (left ≤ right))).filter fun uid =>
    decide (start ≤ uid) && decide (uid ≤ last)).reverse

/-- The variables of the loop over the windows. -/
structure Scan where
  beforeUid : Nat
  selected : List Nat
  continuationBeforeUid : Nat
  exhausted : Bool
  deriving DecidableEq

def Scan.start (beforeUid : Nat) : Scan := ⟨beforeUid, [], beforeUid, decide (beforeUid ≤ 1)⟩

def Scan.windowStart (self : Scan) : Nat :=
  max (self.beforeUid - 1 - (imapSearchWindowUids - 1)) 1

/-- The scan with the UIDs of its next window, as many as the page has room for. -/
def Scan.take (self : Scan) (pageSize : Nat) (uids : List Nat) : Scan :=
  ⟨self.windowStart,
    self.selected ++ (arrangeWindow self.windowStart (self.beforeUid - 1) uids).take
      (pageSize - self.selected.length),
    self.windowStart, decide (self.windowStart = 1)⟩

def scanWindows (term : Option MailSearchTerm) (pageSize : Nat) :
    Nat → Scan → Query Session Scan
  | 0, scan => return scan
  | windows + 1, scan =>
    if scan.beforeUid ≤ 1 ∨ pageSize ≤ scan.selected.length then
      return { scan with exhausted := decide (scan.beforeUid ≤ 1) }
    else do
      let uids ← searchUidWindow transport scan.windowStart (scan.beforeUid - 1) term
      scanWindows term pageSize windows (scan.take pageSize uids)

def Scan.nextBeforeUid (self : Scan) (pageSize : Nat) : Option Nat :=
  if self.selected.length = pageSize then self.selected.getLast?
  else if self.exhausted then none
  else some self.continuationBeforeUid

/-- A message that is gone by now is left out. -/
def summaries (bindingId : MailboxBindingId) (uidValidity : Nat) :
    List Nat → Query Session (List MailMessageSummary)
  | [] => return []
  | uid :: rest => do
    let metadata ← fetchMetadata transport uid
    match metadata with
    | none => summaries bindingId uidValidity rest
    | some metadata => do
      let item ← summaryFromImap bindingId uidValidity metadata
      let items ← summaries bindingId uidValidity rest
      return item :: items

def nextCursorOf (uidValidity : Nat) (nextBeforeUid : Option Nat) :
    Except QueryPortError (Option QueryCursor) :=
  match nextBeforeUid.filter (1 < ·) with
  | none => .ok none
  | some beforeUid => (imapQueryCursor uidValidity beforeUid).map some

/-- The place the cursor names, or the end of the mailbox. -/
def beforeUidOf (cursor : Option QueryCursor) (snapshot : ImapMailboxSnapshot) :
    Except QueryPortError Nat :=
  match cursor with
  | none => .ok snapshot.uidNext
  | some cursor => parseImapCursor cursor snapshot.uidValidity

def startOf (cursor : Option QueryCursor) (snapshot : ImapMailboxSnapshot) :
    Except QueryPortError Nat := do
  let beforeUid ← beforeUidOf cursor snapshot
  refuseIf (beforeUid = 0 ∨ snapshot.uidNext < beforeUid) .invalidCursor
  return beforeUid

/-- The search in a session that is connected. -/
def searchInSession (bindingId : MailboxBindingId) (request : SearchClientMailboxMessagesRequest) :
    Query Session (QueryPage MailMessageSummary) := do
  let pageSize := min request.page.limit.value maxImapQueryPageSize
  let snapshot ← examineInbox transport
  let beforeUid ← startOf request.page.cursor snapshot
  let scan ← scanWindows transport request.term pageSize maxImapSearchWindows (.start beforeUid)
  let items ← summaries transport bindingId snapshot.uidValidity scan.selected
  let nextCursor ← nextCursorOf snapshot.uidValidity (scan.nextBeforeUid pageSize)
  return ⟨items, nextCursor⟩

/-- Of the binding only its identifier is used; `connected` is what `ImapSession::connect` gives. -/
def searchImapMessages (bindingId : MailboxBindingId)
    (request : SearchClientMailboxMessagesRequest)
    (connected : Except ImapTransportError Session) :
    Except QueryPortError (QueryPage MailMessageSummary) := do
  let session ← connected.mapError mapTransportError
  let (page, _) ← searchInSession transport bindingId request session
  return page

end Commands

end ProfilePlatform.Imap
