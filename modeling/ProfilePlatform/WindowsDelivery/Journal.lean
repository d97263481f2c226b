import Mathlib.Data.List.Sort
import ProfilePlatform.Foundation.Bytes
import ProfilePlatform.Foundation.Calls
import ProfilePlatform.Foundation.Decimal
import ProfilePlatform.Foundation.Machine
import ProfilePlatform.WindowsDelivery.Handoff

/-! The journal of the delivery state: one file for every snapshot, each naming the digest of the
one before it.

A snapshot is written under a pending name and renamed. One process uses the journal at a time, so
a file is read as its listing met it. Names and digests are the bytes of their texts.
-/

set_option autoImplicit false

namespace ProfilePlatform.WindowsDelivery

open Foundation Foundation.Calls

section Names

def finalStart : List UInt8 := utf8Bytes "state-v1-"
def pendingStart : List UInt8 := utf8Bytes ".pending-state-v1-"
def stateEnd : List UInt8 := utf8Bytes ".json"

/-- The number with zeros in front of it up to twenty digits. -/
def revisionText (revision : Nat) : List UInt8 :=
  List.replicate (20 - (Decimal.digits revision).length) 48 ++ Decimal.digits revision

def snapshotName (start : List UInt8) (revision : Nat) (digest : List UInt8) : List UInt8 :=
  start ++ revisionText revision ++ 45 :: digest ++ stateEnd

def stripStart (start text : List UInt8) : Option (List UInt8) :=
  if start.isPrefixOf text then some (text.drop start.length) else none

def stripEnd (ending text : List UInt8) : Option (List UInt8) :=
  if ending.isSuffixOf text then some (text.take (text.length - ending.length)) else none

/-- What stands before the first hyphen, and what stands behind it. -/
def splitHyphen (text : List UInt8) : Option (List UInt8 × List UInt8) :=
  if 45 ∈ text then
    some (text.takeWhile (· != 45), (text.dropWhile (· != 45)).tail)
  else none

def parseSnapshotName (name start : List UInt8) : Option (Nat × List UInt8) := do
  let body ← stripStart start name
  let body ← stripEnd stateEnd body
  let parts ← splitHyphen body
  if parts.1.length ≠ 20 ∨ ¬parts.1.all Decimal.isDigit ∨ ¬isLowerHexOf 64 parts.2 then none
  else do
    let revision ← Decimal.parse u64Limit parts.1
    if revision = 0 ∨ revisionText revision ≠ parts.1 then none else some (revision, parts.2)

def lowerHex (nibble : Nat) : UInt8 :=
  if nibble < 10 then (48 + nibble).toUInt8 else (87 + nibble).toUInt8

def hexText (bytes : List UInt8) : List UInt8 :=
  bytes.flatMap fun byte => [lowerHex (byte.toNat / 16), lowerHex (byte.toNat % 16)]

end Names

structure File where
  name : List UInt8
  content : List UInt8
  deriving DecidableEq

/-- The files of the state root, if it was created. -/
abbrev Root := Option (List File)

def Root.has (root : Root) (name : List UInt8) : Bool :=
  root.any fun files => files.any fun file => file.name == name

/-- How a snapshot is written as JSON. What was written is read back, and a part of it is not. -/
structure SnapshotCodec where
  toVec : PersistedStateEnvelope → Option (List UInt8)
  fromSlice : List UInt8 → Option PersistedStateEnvelope
  reads : ∀ envelope bytes, toVec envelope = some bytes → fromSlice bytes = some envelope
  torn : ∀ envelope bytes, toVec envelope = some bytes →
    ∀ reached < bytes.length, fromSlice (bytes.take reached) = none

/-- The order in which a directory is listed, which may be any. -/
def Listing : Type := { list : List File → List File // ∀ files, (list files).Perm files }

abbrev StoreCalls := Calls Root DeliveryStateStoreError

section Files

def createDir : StoreCalls Unit := do
  let root ← look
  match root with
  | some _ => do
    observe .io
    told (.error .alreadyInitialized)
  | none =>
    perform (fun _ => some []) (fun reached root => if reached = 0 then root else some []) .io

def Root.create (name : List UInt8) (root : Root) : Root :=
  root.map fun files => files ++ [⟨name, []⟩]

def Root.fill (name content : List UInt8) (root : Root) : Root :=
  root.map fun files => files.map fun file => if file.name = name then ⟨name, content⟩ else file

def Root.rename (source target : List UInt8) (root : Root) : Root :=
  root.map fun files => (files.filter fun file => file.name ≠ target).map fun file =>
    if file.name = source then ⟨target, file.content⟩ else file

def createNew (name : List UInt8) : StoreCalls Unit := do
  let root ← look
  if root.has name then do
    observe .io
    told (.error .io)
  else
    perform (Root.create name)
      (fun reached root => if reached = 0 then root else root.create name) .io

/-- Writing a new file, or making sure of it. Short of that any first part of it may be there. -/
def fillFile (name content : List UInt8) : StoreCalls Unit :=
  perform (Root.fill name content) (fun reached => Root.fill name (content.take reached)) .io

def renameFile (source target : List UInt8) : StoreCalls Unit :=
  perform (Root.rename source target)
    (fun reached root => if reached = 0 then root else root.rename source target) .io

end Files

structure DeliveryStateStore where
  revision : Nat
  snapshotSha256 : List UInt8
  state : DeliveryState
  handoff : Option DeliveryHandoffEvidence
  deriving DecidableEq

/-- A file with what its name tells. -/
structure SnapshotFile where
  revision : Nat
  digest : List UInt8
  file : File
  deriving DecidableEq

structure Found where
  finals : List SnapshotFile
  pending : List SnapshotFile

/-- Where the chain stands after the snapshots read so far. -/
structure Loading where
  expectedRevision : Nat
  previousDigest : Option (List UInt8)
  loaded : Option (DeliveryState × Option DeliveryHandoffEvidence)

section Store

variable (codec : SnapshotCodec) (sha256 : List UInt8 → Block 32) (listing : Listing)

def sha256Hex (bytes : List UInt8) : List UInt8 := hexText (sha256 bytes).val

def readSnapshot (file : File) : StoreCalls (PersistedStateEnvelope × List UInt8) := do
  observe .io
  observe .io
  let envelope ← told (okOr (codec.fromSlice file.content) .corruptState)
  return (envelope, sha256Hex sha256 file.content)

def writeSnapshot (envelope : PersistedStateEnvelope) : StoreCalls (List UInt8) := do
  told (envelope.validate envelope.revision envelope.previousSnapshotSha256)
  let bytes ← told (okOr (codec.toVec envelope) .serialization)
  let digest := sha256Hex sha256 bytes
  let pendingPath := snapshotName pendingStart envelope.revision digest
  let finalPath := snapshotName finalStart envelope.revision digest
  let finalExists ← probe (·.has finalPath)
  let exists_ ← if finalExists then pure true else probe (·.has pendingPath)
  told (refuseIf (exists_ = true) .ambiguousState)
  createNew pendingPath
  fillFile pendingPath bytes
  fillFile pendingPath bytes
  renameFile pendingPath finalPath
  observe .io
  observe .io
  return digest

/-- The files of a listing, told apart by their names. -/
def scan : List File → StoreCalls Found
  | [] => return ⟨[], []⟩
  | file :: rest => do
    observe .io
    observe .io
    match parseSnapshotName file.name finalStart, parseSnapshotName file.name pendingStart with
    | some identity, _ => do
      let found ← scan rest
      return { found with finals := ⟨identity.1, identity.2, file⟩ :: found.finals }
    | none, some identity => do
      let found ← scan rest
      return { found with pending := ⟨identity.1, identity.2, file⟩ :: found.pending }
    | none, none => told (.error .ambiguousState)

def validateUniqueRevisions (snapshots : List SnapshotFile) :
    Except DeliveryStateStoreError Unit :=
  refuseIf (∃ pair ∈ snapshots.zip snapshots.tail, pair.1.revision = pair.2.revision)
    .ambiguousState

def loadNext (loading : Loading) (snapshot : SnapshotFile) : StoreCalls Loading := do
  told (refuseIf (snapshot.revision ≠ loading.expectedRevision) .ambiguousState)
  let read ← readSnapshot codec sha256 snapshot.file
  told (refuseIf (read.2 ≠ snapshot.digest) .corruptState)
  told (read.1.validate snapshot.revision loading.previousDigest)
  let expectedRevision ← told (okOr (checkedAdd loading.expectedRevision 1) .revisionExhausted)
  return ⟨expectedRevision, some read.2, some (read.1.state, read.1.handoff)⟩

def loadFinalChain (finals : List SnapshotFile) : StoreCalls DeliveryStateStore := do
  let loading ← finals.foldlM (loadNext codec sha256) ⟨1, none, none⟩
  let snapshotSha256 ← told (okOr loading.previousDigest .missingState)
  let loaded ← told (okOr loading.loaded .missingState)
  return ⟨loading.expectedRevision - 1, snapshotSha256, loaded.1, loaded.2⟩

/-- A pending snapshot becomes the last of the chain if it belongs there. -/
def finalizePending (loaded : DeliveryStateStore) (pending : SnapshotFile) :
    StoreCalls DeliveryStateStore := do
  let expectedRevision ← told (okOr (checkedAdd loaded.revision 1) .revisionExhausted)
  told (refuseIf (pending.revision ≠ expectedRevision) .ambiguousState)
  let read ← readSnapshot codec sha256 pending.file
  told (refuseIf (read.2 ≠ pending.digest) .corruptState)
  told (read.1.validate expectedRevision (some loaded.snapshotSha256))
  let finalPath := snapshotName finalStart expectedRevision pending.digest
  let exists_ ← probe (·.has finalPath)
  told (refuseIf (exists_ = true) .ambiguousState)
  renameFile pending.file.name finalPath
  observe .io
  observe .io
  return ⟨expectedRevision, pending.digest, read.1.state, read.1.handoff⟩

/-- What is done about pending snapshots once the chain is loaded. -/
def settlePending (allowPendingFinalization : Bool) (loaded : DeliveryStateStore) :
    List SnapshotFile → StoreCalls DeliveryStateStore
  | [] => return loaded
  | pending :: others => do
    told (refuseIf (allowPendingFinalization = false) .pendingRecoveryRequired)
    told (refuseIf (others ≠ []) .ambiguousState)
    finalizePending codec sha256 loaded pending

def loadChain (files : List File) (allowPendingFinalization : Bool) :
    StoreCalls DeliveryStateStore := do
  observe .io
  let found ← scan (listing.val files)
  told (refuseIf (found.finals = []) .missingState)
  let finals := found.finals.insertionSort fun left right => left.revision ≤ right.revision
  told (validateUniqueRevisions finals)
  let loaded ← loadFinalChain codec sha256 finals
  settlePending codec sha256 allowPendingFinalization loaded found.pending

namespace DeliveryStateStore

def initialize_ : StoreCalls DeliveryStateStore := do
  observe .io
  createDir
  let envelope ← told (PersistedStateEnvelope.new 1 none .default none)
  let snapshotSha256 ← writeSnapshot codec sha256 envelope
  return ⟨1, snapshotSha256, .default, none⟩

def openRoot (allowPendingFinalization : Bool) : StoreCalls DeliveryStateStore := do
  observe .io
  observe .io
  let root ← look
  match root with
  | none => told (.error .missingState)
  | some files => loadChain codec sha256 listing files allowPendingFinalization

def persistSnapshot (store : DeliveryStateStore) (state : DeliveryState)
    (handoff : Option DeliveryHandoffEvidence) : StoreCalls DeliveryStateStore := do
  told (PersistedStateEnvelope.validateContents state handoff)
  let revision ← told (okOr (checkedAdd store.revision 1) .revisionExhausted)
  let envelope ← told (PersistedStateEnvelope.new revision (some store.snapshotSha256) state handoff)
  let snapshotSha256 ← writeSnapshot codec sha256 envelope
  return ⟨revision, snapshotSha256, state, handoff⟩

end DeliveryStateStore

/-- The root, the store the process holds, and whether a call that persists has failed on it. -/
structure Process where
  root : Root
  store : Option DeliveryStateStore
  suspect : Bool
  deriving DecidableEq

inductive StoreCall where
  | initialize_
  | open_
  | openReadOnly
  | persist (state : DeliveryState)
  | persistPreservingHandoff (state : DeliveryState)
  | persistHandoff (state : DeliveryState) (handoff : DeliveryHandoffEvidence)
  deriving DecidableEq

/-- What a call that persists is to leave, if the process holds a store. -/
def StoreCall.persists (call : StoreCall) (store : DeliveryStateStore) :
    Option (DeliveryState × Option DeliveryHandoffEvidence) :=
  match call with
  | .persist state => some (state, none)
  | .persistPreservingHandoff state => some (state, store.handoff)
  | .persistHandoff state handoff => some (state, some handoff)
  | _ => none

structure Request where
  call : StoreCall
  fates : List CallFate
  deriving DecidableEq

/-- The calls of a request. A process without a store has nothing to persist with. -/
def StoreCall.run (call : StoreCall) (store : Option DeliveryStateStore) :
    Option (StoreCalls DeliveryStateStore) :=
  match call with
  | .initialize_ => some (DeliveryStateStore.initialize_ codec sha256)
  | .open_ => some (DeliveryStateStore.openRoot codec sha256 listing true)
  | .openReadOnly => some (DeliveryStateStore.openRoot codec sha256 listing false)
  | .persist _ | .persistPreservingHandoff _ | .persistHandoff _ _ =>
    store.bind fun store => (call.persists store).map fun next =>
      store.persistSnapshot codec sha256 next.1 next.2

/-- A crash leaves the root. After an error the process still has the store it had. -/
def journal : Machine Process Request (Option (Except (Stop DeliveryStateStoreError) Unit)) where
  step process request :=
    match request.call.run codec sha256 listing process.store with
    | none => (none, process)
    | some run =>
      match outcome run ⟨process.root, request.fates⟩ with
      | (.ok store, world) => (some (.ok ()), ⟨world.disk, some store, false⟩)
      | (.error .crashed, world) => (some (.error .crashed), ⟨world.disk, none, false⟩)
      | (.error (.failed why), world) =>
        (some (.error (.failed why)), ⟨world.disk, process.store,
          process.suspect || (process.store.bind request.call.persists).isSome⟩)

end Store

/-! The names of the journal say which revision a file holds, and under which digest. -/

open Foundation

section Texts

variable {start ending text front back : List UInt8}

theorem stripStart_append : stripStart start (start ++ text) = some text := by
  rw [stripStart, if_pos (List.isPrefixOf_iff_prefix.mpr (List.prefix_append _ _)),
    List.drop_left]

theorem stripEnd_append : stripEnd ending (text ++ ending) = some text := by
  rw [stripEnd, if_pos (List.isSuffixOf_iff_suffix.mpr (List.suffix_append _ _)),
    List.length_append, Nat.add_sub_cancel, List.take_left]

theorem splitHyphen_append (plain : 45 ∉ front) :
    splitHyphen (front ++ 45 :: back) = some (front, back) := by
  have stops : ∀ byte ∈ front, (byte != 45) = true := by
    intro byte member
    rw [bne_iff_ne]
    rintro rfl
    exact plain member
  rw [splitHyphen, if_pos (List.mem_append_right _ List.mem_cons_self),
    List.takeWhile_append_of_pos stops, List.dropWhile_append_of_pos stops]
  simp

end Texts

section Revisions

variable {revision : Nat}

theorem length_digits_of_lt (within : revision < u64Limit) :
    (Decimal.digits revision).length ≤ 20 := by
  refine Decimal.length_digits_le (by decide) (Nat.lt_trans within ?_)
  decide

theorem length_revisionText (within : revision < u64Limit) :
    (revisionText revision).length = 20 := by
  have short := length_digits_of_lt within
  rw [revisionText, List.length_append, List.length_replicate]
  omega

theorem isDigit_revisionText : (revisionText revision).all Decimal.isDigit = true := by
  refine List.all_eq_true.mpr fun byte member => ?_
  rcases List.mem_append.mp member with zero | digit
  · rw [(List.mem_replicate.mp zero).2]
    decide
  · exact Decimal.isDigit_of_mem_digits digit

theorem value_zeros (count : Nat) (bytes : List UInt8) :
    Decimal.value (List.replicate count 48 ++ bytes) = Decimal.value bytes := by
  induction count with
  | zero => rfl
  | succ count ih => exact ih

theorem parse_revisionText (within : revision < u64Limit) :
    Decimal.parse u64Limit (revisionText revision) = some revision := by
  have digits : (revisionText revision).all Decimal.isDigit = true := isDigit_revisionText
  have unsigned : (revisionText revision).head? ≠ some 43 := by
    intro sign
    exact absurd (List.all_eq_true.mp digits _ (List.mem_of_head? sign)) (by decide)
  have nonempty : (revisionText revision).isEmpty = false := by
    rw [List.isEmpty_eq_false_iff]
    intro empty
    exact Decimal.digits_ne_nil revision (List.append_eq_nil_iff.mp empty).2
  have read : Decimal.value (revisionText revision) = revision := by
    rw [revisionText, value_zeros, Decimal.value_digits]
  rw [Decimal.parse, if_neg unsigned, nonempty, digits, read]
  simp [within]

end Revisions

theorem isLowerHex_lowerHex {nibble : Nat} (small : nibble < 16) :
    isLowerHex (lowerHex nibble) = true := by
  have all : ∀ nibble : Fin 16, isLowerHex (lowerHex nibble.val) = true := by decide
  exact all ⟨nibble, small⟩

theorem isLowerHexOf_sha256Hex (sha256 : List UInt8 → Block 32) (bytes : List UInt8) :
    isLowerHexOf 64 (sha256Hex sha256 bytes) = true := by
  have length : (sha256Hex sha256 bytes).length = 64 := by
    simp [sha256Hex, hexText, List.length_flatMap, (sha256 bytes).property]
  have all : (sha256Hex sha256 bytes).all isLowerHex = true := by
    refine List.all_eq_true.mpr fun digit member => ?_
    obtain ⟨byte, -, among⟩ := List.mem_flatMap.mp member
    have small := byte.toNat_lt
    simp only [List.mem_cons, List.not_mem_nil, or_false] at among
    rcases among with rfl | rfl
    · exact isLowerHex_lowerHex (by omega)
    · exact isLowerHex_lowerHex (Nat.mod_lt _ (by decide))
  rw [isLowerHexOf, length, all]
  rfl

section Names

variable {start digest : List UInt8} {revision : Nat}

theorem parse_snapshotName (positive : 0 < revision) (within : revision < u64Limit)
    (hashed : isLowerHexOf 64 digest = true) :
    parseSnapshotName (snapshotName start revision digest) start = some (revision, digest) := by
  have plain : 45 ∉ revisionText revision := by
    intro member
    exact absurd (List.all_eq_true.mp isDigit_revisionText _ member) (by decide)
  have body : stripStart start (snapshotName start revision digest) =
      some ((revisionText revision ++ 45 :: digest) ++ stateEnd) := by
    rw [snapshotName, List.append_assoc, List.append_assoc, stripStart_append]
    simp
  simp only [parseSnapshotName, body, Option.bind_eq_bind, Option.bind_some, stripEnd_append,
    splitHyphen_append plain, length_revisionText within, isDigit_revisionText, hashed,
    parse_revisionText within]
  simp [Nat.ne_of_gt positive]

theorem parse_pendingName : parseSnapshotName (snapshotName pendingStart revision digest) finalStart =
    none := by
  have other : finalStart.isPrefixOf (snapshotName pendingStart revision digest) = false := by
    have letter : finalStart = 115 :: finalStart.tail := by decide
    have dot : pendingStart = 46 :: pendingStart.tail := by decide
    rw [snapshotName, letter, dot]
    rfl
  rw [parseSnapshotName, stripStart, other]
  rfl

end Names

end ProfilePlatform.WindowsDelivery
