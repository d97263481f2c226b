import Mathlib.Data.List.Sort
import Mathlib.Data.Prod.Lex
import Mathlib.Data.String.Basic
import ProfilePlatform.Foundation.Programs
import ProfilePlatform.Foundation.Rows
import ProfilePlatform.Resolver.Replay

/-! The encrypted records of the resolver: the table, the statements that read and change it, and
the operations of the store as programs that ask for these statements.

The database keeps a log of what it was asked, what it answered and which rows it changed.
-/

set_option autoImplicit false

namespace ProfilePlatform.Resolver

open Foundation Program

section Records

inductive CredentialLifecycleState where
  | active
  | reauthRequired
  deriving DecidableEq, Repr

inductive RecordStoreError where
  | invalidInput
  | notFound
  | expired
  | discarded
  | replayRejected
  | crypto
  | storageUnavailable
  | concurrentMutation
  deriving DecidableEq, Repr

structure EncryptedValue where
  keyVersion : Nat
  nonceHex : String
  ciphertextHex : String
  deriving DecidableEq

structure LookupDigest where
  version : Nat
  digest : String
  deriving DecidableEq

/-- The primary key of the table. -/
structure RecordKey where
  tenantId : String
  lookupDigest : String
  recordKind : String
  deriving DecidableEq

structure EncryptedRecord where
  key : RecordKey
  provider : String
  logicalId : String
  lookupHmacVersion : Nat
  encrypted : EncryptedValue
  createdAtMs : Nat
  updatedAtMs : Nat
  expiresAtMs : Option Nat
  consumedAtMs : Option Nat
  discardedAtMs : Option Nat
  mutationGeneration : Nat
  credentialState : CredentialLifecycleState
  refreshOwnerDigest : Option String
  refreshOwnerHmacVersion : Option Nat
  refreshStartedAtMs : Option Nat
  refreshExpiresAtMs : Option Nat
  deriving DecidableEq

/-- The checks of the table. A number that does not fit its column is refused as well. -/
def EncryptedRecord.checks (row : EncryptedRecord) : Prop :=
  sqlLength row.key.lookupDigest = 64 ∧ 0 < row.encrypted.keyVersion ∧
    sqlLength row.encrypted.nonceHex = 24 ∧
    (32 ≤ sqlLength row.encrypted.ciphertextHex ∧ sqlLength row.encrypted.ciphertextHex ≤ 65568) ∧
    row.createdAtMs ≤ row.updatedAtMs ∧
    (∀ expiry ∈ row.expiresAtMs, row.createdAtMs < expiry) ∧
    (∀ consumed ∈ row.consumedAtMs, row.createdAtMs ≤ consumed) ∧
    (∀ discarded ∈ row.discardedAtMs, row.createdAtMs ≤ discarded) ∧
    (0 < row.mutationGeneration ∧ row.mutationGeneration < sqliteLimit) ∧
    (∀ owner ∈ row.refreshOwnerDigest, sqlLength owner = 64) ∧
    0 < row.lookupHmacVersion ∧ ∀ version ∈ row.refreshOwnerHmacVersion, 0 < version

instance (row : EncryptedRecord) : Decidable row.checks := by
  unfold EncryptedRecord.checks
  infer_instance

/-- The columns of a refresh lease, emptied. -/
def EncryptedRecord.unowned (row : EncryptedRecord) : EncryptedRecord :=
  { row with
    refreshOwnerDigest := none
    refreshOwnerHmacVersion := none
    refreshStartedAtMs := none
    refreshExpiresAtMs := none }

end Records

section Statements

/-- The update statements of the store. Each names one record by its key. -/
inductive RecordStatement where
  | acquire (provider : String) (generation : Nat) (owner : LookupDigest) (now expires : Nat)
  | commit (provider : String) (encrypted : EncryptedValue) (generation : Nat)
      (owner : LookupDigest) (now : Nat)
  | release (provider : String) (generation : Nat) (owner : LookupDigest) (now : Nat)
  | markReauth (provider : String) (generation : Nat) (owner : LookupDigest) (now : Nat)
  | discard (now : Nat)
  | consume (provider : String) (now : Nat)
  | reencrypt (encrypted : EncryptedValue) (previousKeyVersion now : Nat)
  deriving DecidableEq

/-- The lease of the row is the one with this generation and this owner. -/
def EncryptedRecord.leasedTo (row : EncryptedRecord) (generation : Nat) (owner : LookupDigest) :
    Prop :=
  row.mutationGeneration = generation ∧ row.refreshOwnerDigest = some owner.digest ∧
    row.refreshOwnerHmacVersion = some owner.version

instance (row : EncryptedRecord) (generation : Nat) (owner : LookupDigest) :
    Decidable (row.leasedTo generation owner) := by
  unfold EncryptedRecord.leasedTo
  infer_instance

/-- What the where clause asks of the row beside its key. A comparison with null does not hold. -/
def RecordStatement.holds (row : EncryptedRecord) : RecordStatement → Prop
  | .acquire provider generation _ now _ =>
    row.provider = provider ∧ row.mutationGeneration = generation ∧
      row.credentialState = .active ∧ row.discardedAtMs = none ∧
      (row.refreshOwnerDigest = none ∨ ∃ expiry ∈ row.refreshExpiresAtMs, expiry ≤ now)
  | .commit provider encrypted generation owner now =>
    row.provider = provider ∧ row.leasedTo generation owner ∧ row.credentialState = .active ∧
      (∃ expiry ∈ row.refreshExpiresAtMs, now < expiry) ∧ row.discardedAtMs = none ∧
      row.encrypted.keyVersion ≤ encrypted.keyVersion
  | .release provider generation owner _ => row.provider = provider ∧ row.leasedTo generation owner
  | .markReauth provider generation owner now =>
    row.provider = provider ∧ row.leasedTo generation owner ∧ row.credentialState = .active ∧
      (∃ expiry ∈ row.refreshExpiresAtMs, now < expiry) ∧ row.discardedAtMs = none
  | .discard _ => True
  | .consume provider now =>
    row.provider = provider ∧ row.consumedAtMs = none ∧ row.discardedAtMs = none ∧
      ∀ expiry ∈ row.expiresAtMs, now < expiry
  | .reencrypt _ previousKeyVersion _ =>
    row.encrypted.keyVersion = previousKeyVersion ∧ row.discardedAtMs = none

instance (row : EncryptedRecord) (statement : RecordStatement) :
    Decidable (statement.holds row) := by
  cases statement <;> unfold RecordStatement.holds <;> infer_instance

/-- What the statement makes of the row. -/
def RecordStatement.sets (row : EncryptedRecord) : RecordStatement → EncryptedRecord
  | .acquire _ _ owner now expires =>
    { row with
      refreshOwnerDigest := some owner.digest
      refreshOwnerHmacVersion := some owner.version
      refreshStartedAtMs := some now
      refreshExpiresAtMs := some expires
      updatedAtMs := now }
  | .commit _ encrypted generation _ now =>
    { row.unowned with
      encrypted := encrypted
      updatedAtMs := now
      mutationGeneration := generation + 1 }
  | .release _ _ _ now => { row.unowned with updatedAtMs := now }
  | .markReauth _ generation _ now =>
    { row.unowned with
      credentialState := .reauthRequired
      mutationGeneration := generation + 1
      updatedAtMs := now }
  | .discard now =>
    { row.unowned with
      discardedAtMs := some (row.discardedAtMs.getD now)
      updatedAtMs := now }
  | .consume _ now => { row with consumedAtMs := some now, updatedAtMs := now }
  | .reencrypt encrypted _ now => { row with encrypted := encrypted, updatedAtMs := now }

/-- The values of the insertion statement. -/
structure RecordInsertion where
  key : RecordKey
  provider : String
  logicalId : String
  lookupHmacVersion : Nat
  encrypted : EncryptedValue
  nowMs : Nat
  expiresAtMs : Option Nat
  deriving DecidableEq

/-- The row that is inserted, with the defaults of the columns that the statement does not name. -/
def RecordInsertion.row (insertion : RecordInsertion) : EncryptedRecord where
  key := insertion.key
  provider := insertion.provider
  logicalId := insertion.logicalId
  lookupHmacVersion := insertion.lookupHmacVersion
  encrypted := insertion.encrypted
  createdAtMs := insertion.nowMs
  updatedAtMs := insertion.nowMs
  expiresAtMs := insertion.expiresAtMs
  consumedAtMs := none
  discardedAtMs := none
  mutationGeneration := 1
  credentialState := .active
  refreshOwnerDigest := none
  refreshOwnerHmacVersion := none
  refreshStartedAtMs := none
  refreshExpiresAtMs := none

/-- What is asked of the table. -/
inductive RecordRequest where
  | candidates (tenantId recordKind : String) (digests : List String)
  | select (key : RecordKey)
  | refreshState (key : RecordKey) (provider : String)
  | stale (activeKeyVersion limit : Nat)
  | remaining (activeKeyVersion : Nat)
  | upsert (insertion : RecordInsertion)
  | update (key : RecordKey) (statement : RecordStatement)
  deriving DecidableEq

/-- The rows that a statement has found, if it is answered. -/
abbrev RecordAnswer (_ : RecordRequest) : Type := Option (List EncryptedRecord)

/-- A row that stands there after a statement, and the one that stood there before it. -/
structure Touched where
  before : Option EncryptedRecord
  after : EncryptedRecord
  deriving DecidableEq

/-- What a conflicting insertion makes of the row that is there. -/
def EncryptedRecord.overwritten (row : EncryptedRecord) (insertion : RecordInsertion) :
    EncryptedRecord :=
  { row.unowned with
    provider := insertion.provider
    logicalId := insertion.logicalId
    lookupHmacVersion := insertion.lookupHmacVersion
    encrypted := insertion.encrypted
    updatedAtMs := insertion.nowMs
    expiresAtMs := insertion.expiresAtMs
    consumedAtMs := none
    discardedAtMs := none
    mutationGeneration := row.mutationGeneration + 1
    credentialState := .active }

/-- The order in which rows are taken up for another key. -/
def RecordKey.precedes (left right : Nat × RecordKey) : Prop :=
  toLex (left.1, toLex (left.2.tenantId, toLex (left.2.lookupDigest, left.2.recordKind))) ≤
    toLex (right.1, toLex (right.2.tenantId, toLex (right.2.lookupDigest, right.2.recordKind)))

instance : DecidableRel RecordKey.precedes := by
  unfold RecordKey.precedes
  infer_instance

def isStale (activeKeyVersion : Nat) (row : EncryptedRecord) : Bool :=
  row.encrypted.keyVersion ≠ activeKeyVersion ∧ row.discardedAtMs = none

/-- The rows that the statement answers with. -/
def RecordRequest.finds (rows : List EncryptedRecord) : RecordRequest → List EncryptedRecord
  | .candidates tenantId recordKind digests => rows.filter fun row =>
    row.key.tenantId = tenantId ∧ row.key.recordKind = recordKind ∧ row.key.lookupDigest ∈ digests
  | .select key => rows.filter fun row => row.key = key
  | .refreshState key provider => rows.filter fun row =>
    row.key = key ∧ row.provider = provider ∧ row.discardedAtMs = none
  | .stale activeKeyVersion limit =>
    ((rows.filter (isStale activeKeyVersion)).insertionSort fun left right =>
      RecordKey.precedes (left.encrypted.keyVersion, left.key)
        (right.encrypted.keyVersion, right.key)).take limit
  | .remaining activeKeyVersion => rows.filter (isStale activeKeyVersion)
  | .upsert _ => []
  | .update key statement =>
    (rows.filter fun row => row.key = key ∧ statement.holds row).map (statement.sets ·)

/-- The rows that the statement changes. -/
def RecordRequest.touches (rows : List EncryptedRecord) : RecordRequest → List Touched
  | .upsert insertion =>
    match rows.filter fun row => row.key = insertion.key with
    | [] => [⟨none, insertion.row⟩]
    | taken => taken.map fun row => ⟨some row, row.overwritten insertion⟩
  | .update key statement =>
    (rows.filter fun row => row.key = key ∧ statement.holds row).map fun row =>
      ⟨some row, statement.sets row⟩
  | _ => []

/-- What the checks of the table see. An insertion is checked even when it ends in an update. -/
def RecordRequest.checked (rows : List EncryptedRecord) (request : RecordRequest) :
    List EncryptedRecord :=
  match request with
  | .upsert insertion => insertion.row :: (request.touches rows).map Touched.after
  | _ => (request.touches rows).map Touched.after

/-- The table with the changed rows in their places. -/
def store (rows : List EncryptedRecord) (touched : List Touched) : List EncryptedRecord :=
  touched.foldl (fun rows touched =>
    match touched.before with
    | none => rows ++ [touched.after]
    | some _ => Rows.amend (fun row => row.key = touched.after.key) (fun _ => touched.after) rows)
    rows

structure RecordEvent where
  request : RecordRequest
  answer : Option (List EncryptedRecord)
  touched : List Touched

/-- The table, what becomes of the next statement, and the log of those before it. -/
structure RecordDatabase where
  rows : List EncryptedRecord
  fate : StatementFate
  log : List RecordEvent

def RecordDatabase.empty : RecordDatabase := ⟨[], .answered, []⟩

/-- Serves a statement. One that breaks a check changes nothing, and so does one that was lost
before it arrived. -/
def RecordDatabase.serve (database : RecordDatabase) (request : RecordRequest) :
    RecordAnswer request × RecordDatabase :=
  let answered (answer : Option (List EncryptedRecord)) (touched : List Touched) :
      RecordAnswer request × RecordDatabase :=
    (answer, ⟨store database.rows touched, .answered, database.log ++ [⟨request, answer, touched⟩]⟩)
  if ∀ row ∈ request.checked database.rows, row.checks then
    match database.fate with
    | .answered => answered (some (request.finds database.rows)) (request.touches database.rows)
    | .lost true => answered none (request.touches database.rows)
    | .lost false => answered none []
  else answered none []

end Statements

section Crypto

structure AuthenticatedContext where
  tenantId : String
  provider : String
  recordKind : String
  logicalId : String
  deriving DecidableEq

/-- The authenticated cipher, under the keys that the versions stand for. -/
structure RecordCipher where
  encrypt : Nat → AuthenticatedContext → String → List UInt8 → String
  decrypt : Nat → AuthenticatedContext → String → String → Option (List UInt8)
  inverse : ∀ version context nonce document,
    decrypt version context nonce (encrypt version context nonce document) = some document

/-- The versions of the keys that a worker holds. -/
structure ResolverCrypto where
  activeKeyVersion : Nat
  keyVersions : List Nat
  activeLookupHmacVersion : Nat
  lookupHmacVersions : List Nat
  activeKey : activeKeyVersion ∈ keyVersions
  activeHmac : activeLookupHmacVersion ∈ lookupHmacVersions

variable (cipher : RecordCipher) (handleHmac : Nat → String → String → String)

/-- Encrypts under the active key, if a nonce can be drawn. -/
def ResolverCrypto.encrypt (crypto : ResolverCrypto) (nonce : Option String)
    (document : List UInt8) (context : AuthenticatedContext) :
    Except RecordStoreError EncryptedValue := do
  let nonceHex ← okOr nonce .crypto
  return ⟨crypto.activeKeyVersion, nonceHex,
    cipher.encrypt crypto.activeKeyVersion context nonceHex document⟩

def ResolverCrypto.decrypt (crypto : ResolverCrypto) (value : EncryptedValue)
    (context : AuthenticatedContext) : Except RecordStoreError (List UInt8) := do
  refuseIf (crypto.activeKeyVersion < value.keyVersion) .crypto
  refuseIf (value.keyVersion ∉ crypto.keyVersions) .crypto
  okOr (cipher.decrypt value.keyVersion context value.nonceHex value.ciphertextHex) .crypto

def ResolverCrypto.activeLookupDigest (crypto : ResolverCrypto) (tenantId handle : String) :
    LookupDigest :=
  ⟨crypto.activeLookupHmacVersion, handleHmac crypto.activeLookupHmacVersion tenantId handle⟩

def ResolverCrypto.lookupCandidates (crypto : ResolverCrypto) (tenantId handle : String) :
    List LookupDigest :=
  crypto.lookupHmacVersions.map fun version => ⟨version, handleHmac version tenantId handle⟩

end Crypto

section Inputs

def refreshLeaseTtlMs : Nat := 30000

def maxLookupHmacCandidates : Nat := 4

def maxSecretDocumentBytes : Nat := 16 * 1024

def boundedIdentifier (value : String) (maximum : Nat) : Bool :=
  !(utf8Bytes value).isEmpty && (utf8Bytes value).length ≤ maximum && (utf8Bytes value).all
    fun byte => isAsciiAlphanumeric byte || byte == 95 || byte == 45 || byte == 46 || byte == 58

def sqliteMillis (value : Nat) : Except RecordStoreError Nat :=
  if value < sqliteLimit then .ok value else .error .invalidInput

structure RecordIdentity where
  tenantId : String
  rawHandle : String
  provider : String
  recordKind : String
  deriving DecidableEq

def validateIdentity (identity : RecordIdentity) : Except RecordStoreError Unit :=
  refuseIf (¬(boundedIdentifier identity.tenantId 128 ∧ boundedIdentifier identity.rawHandle 192 ∧
    boundedIdentifier identity.provider 64 ∧ boundedIdentifier identity.recordKind 64)) .invalidInput

def validateRecordInput (identity : RecordIdentity) (document : List UInt8) (nowMs : Nat)
    (expiresAtMs : Option Nat) : Except RecordStoreError Unit := do
  validateIdentity identity
  refuseIf (document = [] ∨ maxSecretDocumentBytes < document.length ∨ nowMs = 0 ∨
    ∃ expiry ∈ expiresAtMs, expiry ≤ nowMs) .invalidInput

/-- Up to four digests of as many versions, all of them different. -/
def candidateDigestSlots (candidates : List LookupDigest) : Except RecordStoreError Unit :=
  refuseIf (candidates = [] ∨ maxLookupHmacCandidates < candidates.length ∨
    (∃ candidate ∈ candidates, candidate.version = 0 ∨ 
      (utf8Bytes candidate.digest).length ≠ 64 ∨ ¬(utf8Bytes candidate.digest).all isHexDigit) ∨
    ¬(candidates.map LookupDigest.version).Nodup ∨ ¬(candidates.map LookupDigest.digest).Nodup)
    .crypto

/-- The candidate that the only row was found by. -/
def resolveLookupRows (candidates : List LookupDigest) :
    List EncryptedRecord → Option LookupDigest → Except RecordStoreError (Option LookupDigest)
  | [], resolved => .ok resolved
  | row :: rest, resolved => do
    let candidate ← okOr (candidates.find? fun candidate =>
      candidate.version = row.lookupHmacVersion ∧ candidate.digest = row.key.lookupDigest) .crypto
    refuseIf (row.logicalId ≠ candidate.digest ∨ resolved.isSome) .crypto
    resolveLookupRows candidates rest (some candidate)

end Inputs

structure StoredSecret where
  document : List UInt8
  reencrypted : Bool
  mutationGeneration : Nat
  lifecycle : CredentialLifecycleState
  deriving DecidableEq

structure RefreshLease where
  mutationGeneration : Nat
  owner : LookupDigest
  deriving DecidableEq

inductive RefreshAcquireError where
  | busy
  | reauthRequired
  | store (why : RecordStoreError)
  deriving DecidableEq, Repr

structure ReconciliationResult where
  activeKeyVersion : Nat
  scannedRecords : Nat
  reencryptedRecords : Nat
  remainingRecords : Nat
  deriving DecidableEq

/-- The operations of the store. -/
inductive RecordOperation where
  | store (identity : RecordIdentity) (document : List UInt8) (nowMs : Nat)
      (expiresAtMs : Option Nat)
  | load (identity : RecordIdentity) (nowMs : Nat)
  | acquireRefreshLease (identity : RecordIdentity) (expectedGeneration nowMs : Nat)
  | commitRefresh (identity : RecordIdentity) (lease : RefreshLease) (document : List UInt8)
      (nowMs : Nat)
  | releaseRefreshLease (identity : RecordIdentity) (lease : RefreshLease) (nowMs : Nat)
  | markReauthRequired (identity : RecordIdentity) (lease : RefreshLease) (nowMs : Nat)
  | discard (tenantId rawHandle recordKind : String) (nowMs : Nat)
  | consume (identity : RecordIdentity) (nowMs : Nat)
  | reconcileKeyRotation (nowMs limit : Nat)
  deriving DecidableEq

/-- An operation, the worker that carries it out, and what that one draws at random: nonces, and the
handle of a lease. -/
structure RecordCall where
  worker : Nat
  operation : RecordOperation
  nonces : Nat → Option String
  handle : Option String

inductive RecordOutcome where
  | done
  | secret (secret : StoredSecret)
  | lease (lease : RefreshLease)
  | generation (generation : Nat)
  | reconciled (result : ReconciliationResult)
  deriving DecidableEq

abbrev Operation (A : Type) : Type :=
  ExceptT RefreshAcquireError (Program RecordRequest RecordAnswer) A

section Operations

variable {A : Type} (cipher : RecordCipher) (handleHmac : Nat → String → String → String)
  (crypto : ResolverCrypto) (nonces : Nat → Option String) (handle : Option String)

def stored (result : Except RecordStoreError A) : Operation A :=
  decided (result.mapError .store)

def query (request : RecordRequest) : Operation (List EncryptedRecord) := do
  let answer ← asked request
  stored (okOr answer .storageUnavailable)

def requireOneChange (rows : List EncryptedRecord) : Operation Unit :=
  stored (refuseIf (rows.length ≠ 1) .concurrentMutation)

def resolveRecordLookup (tenantId rawHandle recordKind : String) :
    Operation (Option LookupDigest) := do
  stored (refuseIf (¬(boundedIdentifier tenantId 128 ∧ boundedIdentifier rawHandle 192 ∧
    boundedIdentifier recordKind 64)) .invalidInput)
  let candidates := crypto.lookupCandidates handleHmac tenantId rawHandle
  stored (candidateDigestSlots candidates)
  let rows ← query (.candidates tenantId recordKind (candidates.map LookupDigest.digest))
  stored (resolveLookupRows candidates rows none)

/-- The lookup of a record that has to be there. -/
def findRecord (identity : RecordIdentity) (missing : RecordStoreError) :
    Operation LookupDigest := do
  let lookup ← resolveRecordLookup handleHmac crypto identity.tenantId identity.rawHandle
    identity.recordKind
  stored (okOr lookup missing)

def RecordIdentity.key (identity : RecordIdentity) (digest : String) : RecordKey :=
  ⟨identity.tenantId, digest, identity.recordKind⟩

def RecordIdentity.context (identity : RecordIdentity) (logicalId : String) :
    AuthenticatedContext :=
  ⟨identity.tenantId, identity.provider, identity.recordKind, logicalId⟩

def storeRecord (identity : RecordIdentity) (document : List UInt8) (nowMs : Nat)
    (expiresAtMs : Option Nat) : Operation RecordOutcome := do
  stored (validateRecordInput identity document nowMs expiresAtMs)
  let existing ← resolveRecordLookup handleHmac crypto identity.tenantId identity.rawHandle
    identity.recordKind
  let lookup := existing.getD
    (crypto.activeLookupDigest handleHmac identity.tenantId identity.rawHandle)
  let encrypted ← stored (crypto.encrypt cipher (nonces 0) document (identity.context lookup.digest))
  let now ← stored (sqliteMillis nowMs)
  let expiresAt ← stored (expiresAtMs.mapM sqliteMillis)
  let _ ← query (.upsert ⟨identity.key lookup.digest, identity.provider, lookup.digest,
    lookup.version, encrypted, now, expiresAt⟩)
  return .done

def reencrypt (key : RecordKey) (context : AuthenticatedContext) (previousKeyVersion : Nat)
    (document : List UInt8) (nowMs : Nat) : Operation Unit := do
  let encrypted ← stored (crypto.encrypt cipher (nonces 0) document context)
  let now ← stored (sqliteMillis nowMs)
  let changed ← query (.update key (.reencrypt encrypted previousKeyVersion now))
  requireOneChange changed

/-- The row is the one that was looked for. -/
def checkRow (identity : RecordIdentity) (lookup : LookupDigest) (row : EncryptedRecord) :
    Except RecordStoreError Unit :=
  refuseIf (row.provider ≠ identity.provider ∨ row.logicalId ≠ lookup.digest ∨
    row.lookupHmacVersion ≠ lookup.version) .notFound

/-- What the row holds. -/
def readRow (identity : RecordIdentity) (row : EncryptedRecord) :
    Except RecordStoreError (List UInt8) := do
  refuseIf (row.mutationGeneration = 0) .crypto
  crypto.decrypt cipher row.encrypted (identity.context row.logicalId)

def loadRecord (identity : RecordIdentity) (nowMs : Nat) : Operation RecordOutcome := do
  stored (validateIdentity identity)
  let lookup ← findRecord handleHmac crypto identity .notFound
  let rows ← query (.select (identity.key lookup.digest))
  let row ← stored (okOr rows.head? .notFound)
  stored (checkRow identity lookup row)
  stored (refuseIf row.discardedAtMs.isSome .discarded)
  stored (refuseIf (∃ expiry ∈ row.expiresAtMs, expiry ≤ min nowMs (sqliteLimit - 1)) .expired)
  let document ← stored (readRow cipher crypto identity row)
  let reencrypted := row.encrypted.keyVersion ≠ crypto.activeKeyVersion
  if reencrypted then
    reencrypt cipher crypto nonces (identity.key lookup.digest) (identity.context row.logicalId)
      row.encrypted.keyVersion document nowMs
  return .secret ⟨document, reencrypted, row.mutationGeneration, row.credentialState⟩

/-- Why a lease was not acquired, as the row tells it. -/
def refusal (expectedGeneration now : Nat) (row : EncryptedRecord) : RefreshAcquireError :=
  if row.credentialState = .reauthRequired then .reauthRequired
  else if row.mutationGeneration ≠ expectedGeneration then .store .concurrentMutation
  else if row.refreshOwnerDigest.isSome ≠ row.refreshOwnerHmacVersion.any (0 < ·) ∨
      row.refreshOwnerDigest.isSome ≠ row.refreshOwnerHmacVersion.isSome then .store .crypto
  else if row.refreshOwnerDigest.isSome ∧ row.refreshExpiresAtMs.any (now < ·) then .busy
  else .store .concurrentMutation

def acquireRefreshLease (identity : RecordIdentity) (expectedGeneration nowMs : Nat) :
    Operation RecordOutcome := do
  stored (validateIdentity identity)
  stored (refuseIf (expectedGeneration = 0 ∨ nowMs = 0) .invalidInput)
  let lookup ← findRecord handleHmac crypto identity .notFound
  let owner ← stored (okOr handle .crypto)
  let owner := crypto.activeLookupDigest handleHmac identity.tenantId owner
  let now ← stored (sqliteMillis nowMs)
  let expires ← stored (sqliteMillis (saturatingAdd nowMs refreshLeaseTtlMs))
  let generation ← stored (sqliteMillis expectedGeneration)
  let key := identity.key lookup.digest
  let acquired ← query
    (.update key (.acquire identity.provider generation owner now expires))
  match acquired with
  | row :: _ => do
    stored (refuseIf (row.mutationGeneration ≠ expectedGeneration ∨
      row.refreshOwnerDigest ≠ some owner.digest ∨
      row.refreshOwnerHmacVersion ≠ some owner.version ∨ row.refreshExpiresAtMs ≠ some expires)
      .crypto)
    return .lease ⟨expectedGeneration, owner⟩
  | [] => do
    let rows ← query (.refreshState key identity.provider)
    let row ← stored (okOr rows.head? .notFound)
    decided (.error (refusal expectedGeneration now row))

def commitRefresh (identity : RecordIdentity) (lease : RefreshLease) (document : List UInt8)
    (nowMs : Nat) : Operation RecordOutcome := do
  stored (validateRecordInput identity document nowMs none)
  let lookup ← findRecord handleHmac crypto identity .notFound
  let encrypted ← stored (crypto.encrypt cipher (nonces 0) document (identity.context lookup.digest))
  let now ← stored (sqliteMillis nowMs)
  let generation ← stored (sqliteMillis lease.mutationGeneration)
  let nextGeneration ← stored (sqliteMillis (lease.mutationGeneration + 1))
  let changed ← query (.update (identity.key lookup.digest)
    (.commit identity.provider encrypted generation lease.owner now))
  requireOneChange changed
  return .generation nextGeneration

def releaseRefreshLease (identity : RecordIdentity) (lease : RefreshLease) (nowMs : Nat) :
    Operation RecordOutcome := do
  stored (validateIdentity identity)
  let lookup ← findRecord handleHmac crypto identity .notFound
  let now ← stored (sqliteMillis nowMs)
  let generation ← stored (sqliteMillis lease.mutationGeneration)
  let changed ← query (.update (identity.key lookup.digest)
    (.release identity.provider generation lease.owner now))
  requireOneChange changed
  return .done

def markReauthRequired (identity : RecordIdentity) (lease : RefreshLease) (nowMs : Nat) :
    Operation RecordOutcome := do
  stored (validateIdentity identity)
  let lookup ← findRecord handleHmac crypto identity .notFound
  let now ← stored (sqliteMillis nowMs)
  let generation ← stored (sqliteMillis lease.mutationGeneration)
  let nextGeneration ← stored (sqliteMillis (lease.mutationGeneration + 1))
  let changed ← query (.update (identity.key lookup.digest)
    (.markReauth identity.provider generation lease.owner now))
  requireOneChange changed
  return .generation nextGeneration

def discardRecord (tenantId rawHandle recordKind : String) (nowMs : Nat) :
    Operation RecordOutcome := do
  let lookup ← resolveRecordLookup handleHmac crypto tenantId rawHandle recordKind
  match lookup with
  | none => return .done
  | some lookup => do
    let now ← stored (sqliteMillis nowMs)
    let _ ← query (.update ⟨tenantId, lookup.digest, recordKind⟩ (.discard now))
    return .done

def consumeRecord (identity : RecordIdentity) (nowMs : Nat) : Operation RecordOutcome := do
  stored (validateIdentity identity)
  let lookup ← findRecord handleHmac crypto identity .replayRejected
  let now ← stored (sqliteMillis nowMs)
  let rows ← query (.update (identity.key lookup.digest) (.consume identity.provider now))
  let row ← stored (okOr rows.head? .replayRejected)
  stored (checkRow identity lookup row)
  let document ← stored (readRow cipher crypto identity row)
  return .secret ⟨document, false, row.mutationGeneration, row.credentialState⟩

/-- The rows are brought under the active key, and counted where nobody else was faster. -/
def reconcileRows (nowMs : Nat) : List EncryptedRecord → Nat → Operation Nat
  | [], reencrypted => return reencrypted
  | row :: rest, reencrypted => do
    stored (refuseIf (row.logicalId ≠ row.key.lookupDigest) .crypto)
    let context : AuthenticatedContext :=
      ⟨row.key.tenantId, row.provider, row.key.recordKind, row.logicalId⟩
    let document ← stored (crypto.decrypt cipher row.encrypted context)
    let encrypted ← stored (crypto.encrypt cipher (nonces rest.length) document context)
    let now ← stored (sqliteMillis nowMs)
    let changed ← query (.update row.key (.reencrypt encrypted row.encrypted.keyVersion now))
    reconcileRows nowMs rest (reencrypted + if changed.length = 1 then 1 else 0)

def reconcileKeyRotation (nowMs limit : Nat) : Operation RecordOutcome := do
  stored (refuseIf (nowMs = 0 ∨ limit = 0 ∨ 100 < limit) .invalidInput)
  let rows ← query (.stale crypto.activeKeyVersion limit)
  let reencrypted ← reconcileRows cipher crypto nonces nowMs rows 0
  let remaining ← query (.remaining crypto.activeKeyVersion)
  return .reconciled ⟨crypto.activeKeyVersion, rows.length, reencrypted, remaining.length⟩

def runOperation (operation : RecordOperation) : Operation RecordOutcome :=
  match operation with
  | .store identity document nowMs expiresAtMs =>
    storeRecord cipher handleHmac crypto nonces identity document nowMs expiresAtMs
  | .load identity nowMs => loadRecord cipher handleHmac crypto nonces identity nowMs
  | .acquireRefreshLease identity expectedGeneration nowMs =>
    acquireRefreshLease handleHmac crypto handle identity expectedGeneration nowMs
  | .commitRefresh identity lease document nowMs =>
    commitRefresh cipher handleHmac crypto nonces identity lease document nowMs
  | .releaseRefreshLease identity lease nowMs =>
    releaseRefreshLease handleHmac crypto identity lease nowMs
  | .markReauthRequired identity lease nowMs =>
    markReauthRequired handleHmac crypto identity lease nowMs
  | .discard tenantId rawHandle recordKind nowMs =>
    discardRecord handleHmac crypto tenantId rawHandle recordKind nowMs
  | .consume identity nowMs => consumeRecord cipher handleHmac crypto identity nowMs
  | .reconcileKeyRotation nowMs limit => reconcileKeyRotation cipher crypto nonces nowMs limit

end Operations

/-- The store as all workers use it, each with the keys it was given. An answer may get lost. -/
def recordStore (cipher : RecordCipher) (handleHmac : Nat → String → String → String)
    (fleet : Nat → ResolverCrypto) :
    Service RecordDatabase StatementFate RecordRequest RecordAnswer RecordCall
      (Except RefreshAcquireError RecordOutcome) where
  execute call := (runOperation cipher handleHmac (fleet call.worker) call.nonces call.handle
    call.operation).run
  serve := RecordDatabase.serve
  disturb database fate := { database with fate := fate }

end ProfilePlatform.Resolver
