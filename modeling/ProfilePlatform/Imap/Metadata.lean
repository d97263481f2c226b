import ProfilePlatform.Foundation.Exchange
import ProfilePlatform.Imap.Texts

/-! What the bridge reads of one message: `UID FETCH` and the parts of its answer.

The session is a parameter: it takes a command and the largest response to accept, and
goes on from the state it returns.
-/

set_option autoImplicit false

namespace ProfilePlatform.Imap

open Foundation

inductive QueryPortError where
  | invalidCursor | integrityFailure | dependencyUnavailable
  deriving DecidableEq, Repr

/-- What the queries use of a session. -/
structure ImapTransport (Session : Type) where
  execute : Session → Bytes → Nat → Except ImapTransportError ImapCommandResponse × Session
  executeWithLiteral :
    Session → Bytes → Bytes → Nat → Except ImapTransportError ImapCommandResponse × Session

/-- A query goes on in the session until something fails, which ends it. -/
abbrev Query (Session : Type) : Type → Type := StateT Session (Except QueryPortError)

structure ImapMessageMetadata where
  uid : Nat
  internalDate : UnixMillis
  subject : Option Bytes
  sender : Option Bytes
  contentType : Option Bytes
  transferEncoding : Option Bytes
  contentDisposition : Option Bytes
  rfc822Size : Option Nat
  deriving DecidableEq

def maxImapMetadataResponseBytes : Nat := 64 * 1024
def maxHeaderBlockBytes : Nat := 64 * 1024
def maxHeaderValueBytes : Nat := 8 * 1024

def mapTransportError : ImapTransportError → QueryPortError
  | .integrityFailure => .integrityFailure
  | .authentication | .providerPolicy | .dependencyUnavailable => .dependencyUnavailable

def requireOk (response : ImapCommandResponse) : Except QueryPortError Unit :=
  match response.status with
  | .ok => .ok ()
  | .no | .bad => .error .dependencyUnavailable

def orIntegrityFailure {A : Type} : Option A → Except QueryPortError A
  | some value => .ok value
  | none => .error .integrityFailure

theorem orIntegrityFailure_eq_ok {A : Type} {value : Option A} {result : A} :
    orIntegrityFailure value = .ok result ↔ value = some result := by
  cases value <;> simp [orIntegrityFailure]

/-- The answer to one command, if it is OK. -/
def answered {Session : Type}
    (exchange : Session → Except ImapTransportError ImapCommandResponse × Session) :
    Query Session ImapCommandResponse := fun session =>
  match exchange session with
  | (.error why, _) => .error (mapTransportError why)
  | (.ok response, after) => (requireOk response).map fun _ => (response, after)

section Dates

def parseMonth (value : Bytes) : Option Nat :=
  let months := ["jan", "feb", "mar", "apr", "may", "jun", "jul", "aug", "sep", "oct", "nov",
    "dec"].map ascii
  (months.idxOf? (value.map toAsciiLowercase)).map (· + 1)

def isLeapYear (year : Nat) : Bool := year % 4 == 0 && (year % 100 != 0 || year % 400 == 0)

def daysInMonth (year month : Nat) : Nat :=
  if month ∈ [1, 3, 5, 7, 8, 10, 12] then 31
  else if month ∈ [4, 6, 9, 11] then 30
  else if month = 2 then if isLeapYear year then 29 else 28
  else 0

/-- Days since 1970. Division rounds towards zero. -/
def daysFromCivil (year month day : Nat) : Option Int :=
  if month < 1 ∨ 12 < month ∨ day = 0 ∨ daysInMonth year month < day then none
  else
    let adjustedYear : Int := year - if month ≤ 2 then 1 else 0
    let era := (if 0 ≤ adjustedYear then adjustedYear else adjustedYear - 399).tdiv 400
    let yearOfEra := adjustedYear - era * 400
    let adjustedMonth : Int := month + if 2 < month then -3 else 9
    let dayOfYear := (153 * adjustedMonth + 2).tdiv 5 + day - 1
    let dayOfEra := yearOfEra * 365 + yearOfEra.tdiv 4 - yearOfEra.tdiv 100 + dayOfYear
    some (era * 146097 + dayOfEra - 719468)

/-- A number with a sign, read from at most two bytes. -/
def parseI64 (text : Bytes) : Option Int :=
  if text.head? = some 45 then
    if text[1]? = some 43 then none
    else (Decimal.parse (2 ^ 63 + 1) text.tail).map fun number => -(number : Int)
  else (Decimal.parse (2 ^ 63) text).map fun number => (number : Int)

def parseZone (zone : Bytes) : Option Int := do
  if zone.length ≠ 5 ∨ zone.head? ∉ [some 43, some 45] then none
  else do
    let hours ← parseI64 ((zone.drop 1).take 2)
    let minutes ← parseI64 ((zone.drop 3).take 2)
    if 23 < hours ∨ 59 < minutes then none
    else
      let seconds := hours * 3600 + minutes * 60
      some (if zone.head? = some 45 then -seconds else seconds)

/-- No sum on the way leaves the range of an i64, so that the checks of the source do not fail. -/
def parseImapInternalDate (value : Bytes) : Option UnixMillis :=
  match splitAsciiWhitespace value with
  | [date, time, zone] =>
    match date.splitOn 45, time.splitOn 58 with
    | [day, month, year], [hour, minute, second] => do
      let day ← parseU32 (trim day)
      let month ← parseMonth month
      let year ← Decimal.parse (2 ^ 31) year
      if day = 0 ∨ daysInMonth year month < day then none
      else do
        let hour ← parseU32 hour
        let minute ← parseU32 minute
        let second ← parseU32 second
        if 23 < hour ∨ 59 < minute ∨ 60 < second then none
        else do
          let zoneSeconds ← parseZone zone
          let days ← daysFromCivil year month day
          let utcSeconds : Int :=
            days * 86400 + hour * 3600 + minute * 60 + (min second 59 : Nat) - zoneSeconds
          if utcSeconds < 0 ∨ u64Limit ≤ utcSeconds.toNat * 1000 then none
          else some (utcSeconds.toNat * 1000)
    | _, _ => none
  | _ => none

end Dates

section Headers

/-- Every CRLF becomes one line feed. -/
def unifyLineEnds : Bytes → Bytes
  | [] => []
  | [byte] => [byte]
  | byte :: next :: rest =>
    if byte = 13 ∧ next = 10 then 10 :: unifyLineEnds rest
    else byte :: unifyLineEnds (next :: rest)

def isHeaderName (name : Bytes) : Bool :=
  !name.isEmpty && name.length ≤ 128 && name.all fun byte => 33 ≤ byte && byte ≤ 126 && byte != 58

/-- A line goes on with the header before it, or begins one. -/
def headerLine (headers : List (Bytes × Bytes)) (line : Bytes) :
    Except QueryPortError (List (Bytes × Bytes)) :=
  if line.head? = some 32 ∨ line.head? = some 9 then
    match headers.getLast? with
    | none => .error .integrityFailure
    | some (name, value) =>
      let started := if value.isEmpty then value else value ++ [32]
      .ok (headers.dropLast ++ [(name, started ++ trim line)])
  else if line.isEmpty then .ok headers
  else
    match splitOnce 58 line with
    | none => .error .integrityFailure
    | some (name, value) =>
      if isHeaderName name = false ∨ 256 < headers.length + 1 then .error .integrityFailure
      else .ok (headers ++ [(name.map toAsciiLowercase, trim value)])

def parseHeaderBlock (bytes : Bytes) : Except QueryPortError (List (Bytes × Bytes)) :=
  if maxHeaderBlockBytes < bytes.length then .error .integrityFailure
  else (lines (unifyLineEnds (fromUtf8Lossy bytes))).foldlM headerLine []

/-- The first header of the name, unless it is empty. Tabs are the only control characters in it. -/
def boundedHeaderValue (headers : List (Bytes × Bytes)) (name : Bytes) :
    Except QueryPortError (Option Bytes) :=
  let value := (headers.find? fun header => header.1 = name).map fun header => trim header.2
  if value.any fun value => maxHeaderValueBytes < value.length ||
      hasControl (value.filter (· ≠ 9)) then .error .integrityFailure
  else .ok (value.filter fun value => !value.isEmpty)

end Headers

section Fetch

def parseFetchAtomU64 (response name : Bytes) : Option Nat := do
  let tail ← behind (name ++ [32]) response
  parseU64 (tail.takeWhile Decimal.isDigit)

def parseInternalDateFromFetch (response : Bytes) : Except QueryPortError UnixMillis := do
  let tail ← orIntegrityFailure (behind (ascii "INTERNALDATE \"") response)
  let value ← orIntegrityFailure (upTo 34 tail)
  orIntegrityFailure (parseImapInternalDate value)

/-- The octets of the first literal, behind the line that ends with their count. -/
def extractFirstLiteral (response : Bytes) : Except QueryPortError (Option Bytes) :=
  match behind [123] response with
  | none => .ok none
  | some opened => do
    let count ← orIntegrityFailure (upTo 125 opened)
    let length ← orIntegrityFailure (parseU64 count)
    let closed := opened.drop (count.length + 1)
    let data ← orIntegrityFailure (stripPrefix crlf closed <|> stripPrefix [10] closed)
    if data.length < length then .error .integrityFailure else .ok (some (data.take length))

/-- What `fetch_metadata` makes of an OK response. -/
def readMetadata (uid : Nat) (response : ImapCommandResponse) :
    Except QueryPortError (Option ImapMessageMetadata) :=
  if (behind (ascii " FETCH ") response.bytes).isNone then .ok none
  else do
    let metadataPrefix := response.textLossy.takeWhile (· ≠ 123)
    let parsedUid ← orIntegrityFailure (parseFetchAtomU64 metadataPrefix (ascii "UID"))
    refuseIf (parsedUid ≠ uid) .integrityFailure
    let internalDate ← parseInternalDateFromFetch metadataPrefix
    let rfc822Size := parseFetchAtomU64 metadataPrefix (ascii "RFC822.SIZE")
    let literal ← extractFirstLiteral response.bytes
    refuseIf (maxHeaderBlockBytes < (literal.getD []).length) .integrityFailure
    let headers ← parseHeaderBlock (literal.getD [])
    let subject ← boundedHeaderValue headers (ascii "subject")
    let sender ← boundedHeaderValue headers (ascii "from")
    let contentType ← boundedHeaderValue headers (ascii "content-type")
    let transferEncoding ← boundedHeaderValue headers (ascii "content-transfer-encoding")
    let contentDisposition ← boundedHeaderValue headers (ascii "content-disposition")
    return some ⟨uid, internalDate, subject, sender, contentType, transferEncoding,
      contentDisposition, rfc822Size⟩

def fetchCommand (uid : Nat) : Bytes :=
  ascii "UID FETCH " ++ Decimal.digits uid ++ ascii " (UID INTERNALDATE RFC822.SIZE " ++
    ascii "BODY.PEEK[HEADER.FIELDS (SUBJECT FROM CONTENT-TYPE " ++
    ascii "CONTENT-TRANSFER-ENCODING CONTENT-DISPOSITION)])"

variable {Session : Type}

def fetchMetadata (transport : ImapTransport Session) (uid : Nat) :
    Query Session (Option ImapMessageMetadata) := do
  let response ← answered fun session =>
    transport.execute session (fetchCommand uid) maxImapMetadataResponseBytes
  readMetadata uid response

/-- Metadata is read for the message that was asked for, and for no other. -/
theorem readMetadata_uid {uid : Nat} {response : ImapCommandResponse}
    {metadata : ImapMessageMetadata} (read : readMetadata uid response = .ok (some metadata)) :
    metadata.uid = uid := by
  unfold readMetadata at read
  split at read
  · cases read
  next =>
    iterate 11 (obtain ⟨_, -, read⟩ := bind_eq_ok.mp read)
    cases read
    rfl

end Fetch

end ProfilePlatform.Imap
