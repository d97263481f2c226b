import ProfilePlatform.Foundation.Calls
import ProfilePlatform.Foundation.Decimal
import ProfilePlatform.Foundation.Fields
import ProfilePlatform.Foundation.Frames
import ProfilePlatform.Foundation.Programs
import ProfilePlatform.Primitives

/-! The writer locks of a materialisation root, and the guard that keeps every writer out.

A writer holds two locks of the operating system, the root's shared and its generation's
exclusively, and leaves a marker file that outlives it. Processes take their turns call by call, and
each may die at any call.
-/

set_option autoImplicit false

namespace ProfilePlatform.LocalProfile

open Foundation (CallFate Program Machine)

inductive IoErrorKind where
  | notFound | alreadyExists | invalidData | other
  deriving DecidableEq

/-- Those of `LocalProfileError` that the locks return. -/
inductive WorkspaceLockError where
  | symbolicLinkRejected | specialFileRejected | lockBusy | lockOwnershipMismatch | invalidPolicy
  | io (kind : IoErrorKind)
  deriving DecidableEq

/-- The files the locks are about. A generation is the number of its directory under the root. -/
inductive Place where
  | rootMarker
  | admission (generation : Nat)
  | marker (generation : Nat)
  | stage (generation : Nat) (name : String)
  | userData (generation : Nat)
  deriving DecidableEq

def Place.generation : Place → Option Nat
  | .rootMarker => none
  | .admission generation | .marker generation | .stage generation _ | .userData generation =>
    some generation

inductive Node where
  | file (content : List UInt8)
  | directory
  | link
  | special
  deriving DecidableEq

inductive FileType where
  | file | directory | link | special
  deriving DecidableEq

structure Metadata where
  fileType : FileType
  len : Nat

def Node.metadata : Node → Metadata
  | .file content => ⟨.file, content.length⟩
  | .directory => ⟨.directory, 0⟩
  | .link => ⟨.link, 0⟩
  | .special => ⟨.special, 0⟩

inductive LockMode where
  | shared | exclusive
  deriving DecidableEq

inductive TryLockError where
  | wouldBlock
  | error (kind : IoErrorKind)
  deriving DecidableEq

section Calls

inductive OsRequest where
  | symlinkMetadata (place : Place)
  | openReadWrite (place : Place)
  | createNew (place : Place)
  | writeAll (place : Place) (content : List UInt8)
  | syncAll (place : Place)
  | readToString (place : Place)
  | rename (source target : Place)
  | removeFile (place : Place)
  | tryLock (place : Place) (mode : LockMode)
  | unlock (place : Place)
  | close (place : Place)
  | readGenerations
  | browserWriterLocksAbsent (generation : Nat)

@[reducible] def OsReply : OsRequest → Type
  | .symlinkMetadata _ => Except IoErrorKind Metadata
  | .openReadWrite _ | .createNew _ | .writeAll _ _ | .syncAll _ | .rename _ _ | .removeFile _
  | .unlock _ => Except IoErrorKind Unit
  | .readToString _ => Except IoErrorKind (List UInt8)
  | .tryLock _ _ => Except TryLockError Unit
  | .close _ => Unit
  | .readGenerations => Except IoErrorKind (List Nat)
  | .browserWriterLocksAbsent _ => Option Bool

/-- A lock that the operating system keeps for an open file, as long as it is open. -/
structure FileLock where
  process : Nat
  place : Place
  mode : LockMode
  deriving DecidableEq

/-- A materialisation root with its generations, of which the directories are numbered as the
installer comes to them. -/
structure Root where
  nodes : Place → Option Node
  generations : Nat
  browserLocksAbsent : Nat → Option Bool
  locks : List FileLock

namespace Root

variable (root : Root)

/-- Nothing stands in a directory that is not there. -/
def within (place : Place) : Bool := place.generation.all (· < root.generations)

def node (place : Place) : Option Node := if root.within place then root.nodes place else none

def put (place : Place) (node : Option Node) : Root :=
  { root with nodes := Function.update root.nodes place node }

/-- What is written through a file that is open shows in the file, if it is still there. -/
def write (place : Place) (content : List UInt8) : Root :=
  match root.node place with
  | some (.file _) => root.put place (some (.file content))
  | _ => root

def blocks (place : Place) (mode : LockMode) (lock : FileLock) : Bool :=
  lock.place = place && (mode = .exclusive || lock.mode = .exclusive)

/-- The lock goes with the file it was taken on. -/
def released (process : Nat) (place : Place) : Root :=
  { root with locks := root.locks.filter fun lock => !(lock.process = process && lock.place = place) }

def serve (process : Nat) : (request : OsRequest) → OsReply request × Root
  | .symlinkMetadata place =>
    match root.node place with
    | none => (.error .notFound, root)
    | some node => (.ok node.metadata, root)
  | .openReadWrite place =>
    match root.node place with
    | none => (.error .notFound, root)
    | some (.file _) => (.ok (), root)
    | some _ => (.error .other, root)
  | .createNew place =>
    if root.within place then
      match root.nodes place with
      | none => (.ok (), root.put place (some (.file [])))
      | some _ => (.error .alreadyExists, root)
    else (.error .notFound, root)
  | .writeAll place content => (.ok (), root.write place content)
  | .syncAll _ => (.ok (), root)
  | .readToString place =>
    match root.node place with
    | none => (.error .notFound, root)
    | some (.file content) =>
      if (String.fromUTF8? content.toByteArray).isSome then (.ok content, root)
      else (.error .invalidData, root)
    | some _ => (.error .other, root)
  | .rename source target =>
    match root.node source, root.node target with
    | none, _ => (.error .notFound, root)
    | _, some .directory => (.error .other, root)
    | some node, _ =>
      if root.within target then (.ok (), (root.put source none).put target (some node))
      else (.error .notFound, root)
  | .removeFile place =>
    match root.node place with
    | none => (.error .notFound, root)
    | some .directory => (.error .other, root)
    | some _ => (.ok (), root.put place none)
  | .tryLock place mode =>
    if root.locks.any (blocks place mode) then (.error .wouldBlock, root)
    else (.ok (), { root with locks := ⟨process, place, mode⟩ :: root.locks })
  | .unlock place => (.ok (), root.released process place)
  | .close place => ((), root.released process place)
  | .readGenerations => (.ok (List.range root.generations), root)
  | .browserWriterLocksAbsent generation => (root.browserLocksAbsent generation, root)

/-- What a call says that fails. Closing a file cannot. -/
def refusal : (request : OsRequest) → OsReply request
  | .symlinkMetadata _ | .openReadWrite _ | .createNew _ | .writeAll _ _ | .syncAll _ | .rename _ _
  | .removeFile _ | .unlock _ | .readToString _ | .readGenerations => .error .other
  | .tryLock _ _ => .error (.error .other)
  | .close _ => ()
  | .browserWriterLocksAbsent _ => none

/-- What a call leaves that fails: of what was to be written, a part may be there. -/
def refused (process : Nat) (request : OsRequest) (reached : Nat) : Root :=
  match request with
  | .writeAll place content => root.write place (content.take reached)
  | .close place => root.released process place
  | _ => root

/-- What a call leaves in which the process dies. -/
def interrupted (process : Nat) (request : OsRequest) (reached : Nat) : Root :=
  match request with
  | .writeAll place content => root.write place (content.take reached)
  | request => if reached = 0 then root else (root.serve process request).2

/-- The files of a process that dies are closed. -/
def forgotten (process : Nat) : Root :=
  { root with locks := root.locks.filter fun lock => lock.process ≠ process }

end Root

end Calls

/-- A computation that calls the operating system. -/
abbrev Os (A : Type) := ExceptT WorkspaceLockError (Program OsRequest OsReply) A

namespace Os

variable {A : Type}

def call (request : OsRequest) : Os (OsReply request) := Program.asked request

/-- The question mark behind a call. -/
def io : Except IoErrorKind A → Os A
  | .ok value => pure value
  | .error kind => throw (.io kind)

def refuse (refused : Prop) [Decidable refused] (why : WorkspaceLockError) : Os Unit :=
  if refused then throw why else pure ()

/-- No link is followed, and nothing is taken for what it is not. -/
def checkType (metadata : Metadata) (fileType : FileType) : Os Unit := do
  refuse (metadata.fileType = .link) .symbolicLinkRejected
  refuse (metadata.fileType ≠ fileType) .specialFileRejected

/-- A computation with a file open, which is closed when it fails. -/
def dropping (place : Place) (body : Os A) : Os A := ExceptT.mk do
  match ← body.run with
  | .ok value => return .ok value
  | .error why => do
    let _ ← (call (.close place)).run
    return .error why

end Os

section Markers

/-- The device and the lease epoch under which a writer comes. -/
structure Owner where
  deviceId : DeviceId
  epoch : Nat
  bounded : epoch < u64Limit

inductive MarkerVersion where
  | v1 | v2

def MarkerVersion.digit : MarkerVersion → UInt8
  | .v1 => 49
  | .v2 => 50

def MarkerVersion.line (version : MarkerVersion) : List UInt8 :=
  utf8Bytes "profile-platform-bridge-lock-v" ++ [version.digit, 10]

def ownerPrefix (version : MarkerVersion) (deviceId : DeviceId) : List UInt8 :=
  version.line ++ utf8Bytes deviceId.asStr ++ [10]

def ownershipText (deviceId : DeviceId) (epoch : Nat) : List UInt8 :=
  ownerPrefix .v2 deviceId ++ Foundation.Decimal.digits epoch ++ [10]

def Owner.text (owner : Owner) : List UInt8 := ownershipText owner.deviceId owner.epoch

def stripPrefix (front text : List UInt8) : Option (List UInt8) :=
  if front.isPrefixOf text then some (text.drop front.length) else none

def stripLineFeed (text : List UInt8) : Option (List UInt8) :=
  if text.getLast? = some 10 then some text.dropLast else none

/-- The epoch that a marker of the device gives. -/
def previousEpoch (deviceId : DeviceId) (text : List UInt8) : Option Nat :=
  [MarkerVersion.v2, MarkerVersion.v1].findSome? fun version =>
    ((stripPrefix (ownerPrefix version deviceId) text).bind stripLineFeed).bind
      (Foundation.Decimal.parse u64Limit)

end Markers

section Texts

variable {owner other : Owner} {deviceId device : DeviceId} {epoch : Nat} {text rest more : List UInt8}

theorem stripPrefix_eq_some {front : List UInt8} :
    stripPrefix front text = some rest ↔ text = front ++ rest := by
  unfold stripPrefix
  split
  next begins =>
    obtain ⟨rest', rfl⟩ := List.isPrefixOf_iff_prefix.mp begins
    simp
  next other =>
    simp only [reduceCtorEq, false_iff]
    rintro rfl
    exact other (List.isPrefixOf_iff_prefix.mpr (List.prefix_append _ _))

theorem lineFeed_notMem (deviceId : DeviceId) : (10 : UInt8) ∉ utf8Bytes deviceId.asStr := by
  intro member
  have plain := deviceId.intoOpaque.accepted
  simp only [OpaqueId.accepts, Bool.and_eq_true, List.all_eq_true] at plain
  exact absurd (plain.2 10 member) (by decide)

theorem lineFeed_notMem_digits (number : Nat) : (10 : UInt8) ∉ Foundation.Decimal.digits number :=
  fun member => absurd (Foundation.Decimal.isDigit_of_mem_digits member) (by decide)

theorem ownerPrefix_cancel {version version' : MarkerVersion}
    (same : ownerPrefix version deviceId ++ rest = ownerPrefix version' device ++ more) :
    version = version' ∧ deviceId = device ∧ rest = more := by
  simp only [ownerPrefix, MarkerVersion.line, List.append_assoc, List.cons_append, List.nil_append,
    List.append_cancel_left_eq, List.cons.injEq, true_and] at same
  obtain ⟨digits, lines⟩ := same
  obtain ⟨names, ends⟩ := Foundation.line_cancel (lineFeed_notMem _) (lineFeed_notMem _) lines
  refine ⟨?_, ?_, ends⟩
  · cases version <;> cases version' <;> first | rfl | exact absurd digits (by decide)
  · exact TypedId.ext_asStr (Foundation.eq_of_utf8 names)

theorem stripLineFeed_concat (line : List UInt8) : stripLineFeed (line ++ [10]) = some line := by
  simp [stripLineFeed]

theorem stripLineFeed_eq_some {line : List UInt8} :
    stripLineFeed text = some line ↔ text = line ++ [10] := by
  constructor
  · intro stripped
    unfold stripLineFeed at stripped
    split at stripped
    next ends =>
      cases stripped
      exact (List.dropLast_append_getLast? 10 ends).symm
    next => cases stripped
  · rintro rfl
    exact stripLineFeed_concat line

theorem previousEpoch_text (owner : Owner) :
    previousEpoch owner.deviceId owner.text = some owner.epoch := by
  have stripped : stripPrefix (ownerPrefix .v2 owner.deviceId) owner.text =
      some (Foundation.Decimal.digits owner.epoch ++ [10]) := by
    rw [stripPrefix_eq_some, Owner.text, ownershipText, List.append_assoc]
  simp [previousEpoch, stripped, stripLineFeed_concat, Foundation.Decimal.parse_digits owner.bounded]

/-- What gives an epoch of a device begins with its name, and ends with a line. -/
theorem lines_of_previousEpoch (read : previousEpoch deviceId text = some epoch) :
    ∃ version line, text = ownerPrefix version deviceId ++ (line ++ [10]) ∧
      Foundation.Decimal.parse u64Limit line = some epoch := by
  obtain ⟨version, -, found⟩ := List.exists_of_findSome?_eq_some read
  obtain ⟨line, stripped, parsed⟩ := Option.bind_eq_some_iff.mp found
  obtain ⟨rest, begun, ended⟩ := Option.bind_eq_some_iff.mp stripped
  exact ⟨version, line, stripLineFeed_eq_some.mp ended ▸ stripPrefix_eq_some.mp begun, parsed⟩

theorem owner_of_previousEpoch (read : previousEpoch deviceId owner.text = some epoch) :
    deviceId = owner.deviceId ∧ epoch = owner.epoch := by
  obtain ⟨version, line, same, parsed⟩ := lines_of_previousEpoch read
  rw [Owner.text, ownershipText, List.append_assoc] at same
  obtain ⟨-, rfl, ends⟩ := ownerPrefix_cancel same
  obtain rfl := List.append_cancel_right ends
  rw [Foundation.Decimal.parse_digits owner.bounded] at parsed
  exact ⟨rfl, (Option.some.inj parsed).symm⟩

theorem owner_of_text (same : owner.text = other.text) :
    owner.deviceId = other.deviceId ∧ owner.epoch = other.epoch := by
  have read := previousEpoch_text owner
  rw [same] at read
  exact owner_of_previousEpoch read

/-- A marker that was cut short gives no epoch, because its last line does not end. -/
theorem cut_unreadable (owner : Owner) {length : Nat} (cut : length < owner.text.length)
    (deviceId : DeviceId) : previousEpoch deviceId (owner.text.take length) = none := by
  by_contra readable
  obtain ⟨epoch, read⟩ := Option.ne_none_iff_exists'.mp readable
  obtain ⟨version, line, same, -⟩ := lines_of_previousEpoch read
  have missing : owner.text.drop length ≠ [] := by
    intro nothing
    exact absurd (List.drop_eq_nil_iff.mp nothing) (Nat.not_le.mpr cut)
  obtain ⟨front, last, split⟩ := (List.eq_nil_or_concat _).resolve_left missing
  rw [List.concat_eq_append] at split
  have whole : ownerPrefix version deviceId ++ (line ++ [10] ++ (front ++ [last])) =
      ownerPrefix .v2 owner.deviceId ++ (Foundation.Decimal.digits owner.epoch ++ [10]) := by
    rw [← List.append_assoc, ← same, ← split, List.take_append_drop, Owner.text, ownershipText,
      List.append_assoc]
  obtain ⟨-, -, ends⟩ := ownerPrefix_cancel whole
  rw [← List.append_assoc] at ends
  have digits := (List.append_inj' ends rfl).1
  apply lineFeed_notMem_digits owner.epoch
  rw [← digits]
  simp

end Texts

section Nodes

variable {root : Root} {place other : Place} {node : Option Node} {content : List UInt8}

@[simp] theorem node_put : (root.put place node).node other =
    if other = place then (if root.within place then node else none) else root.node other := by
  by_cases same : other = place
  · subst same
    show (if root.within other then Function.update root.nodes other node other else none) = _
    rw [Function.update_self, if_pos rfl]
  · show (if root.within other then Function.update root.nodes place node other else none) = _
    rw [Function.update_of_ne same, if_neg same]
    rfl

theorem node_put_of_ne (apart : other ≠ place) :
    (root.put place node).node other = root.node other := by
  rw [node_put, if_neg apart]

theorem within_of_node (found : root.node place ≠ none) : root.within place = true := by
  unfold Root.node at found
  by_contra outside
  simp [outside] at found

theorem node_write : (root.write place content).node other = root.node other ∨
    other = place ∧ (∃ before, root.node place = some (.file before)) ∧
      (root.write place content).node other = some (.file content) := by
  unfold Root.write
  split
  next before found =>
    by_cases same : other = place
    · right
      refine ⟨same, ⟨before, found⟩, ?_⟩
      rw [node_put, if_pos same, if_pos (within_of_node (by simp [found]))]
    · left
      rw [node_put, if_neg same]
  next => exact .inl rfl

theorem node_write_of_ne (apart : other ≠ place) :
    (root.write place content).node other = root.node other :=
  node_write.resolve_right fun there => apart there.1

theorem write_of_file {before : List UInt8} (found : root.node place = some (.file before)) :
    (root.write place content).node place = some (.file content) := by
  unfold Root.write
  rw [found]
  simp [within_of_node (show root.node place ≠ none by simp [found])]

@[simp] theorem locks_write : (root.write place content).locks = root.locks := by
  unfold Root.write
  split <;> rfl

end Nodes

/-- The calls that only look. -/
def OsRequest.reads : OsRequest → Bool
  | .symlinkMetadata _ | .openReadWrite _ | .syncAll _ | .readToString _ | .readGenerations
  | .browserWriterLocksAbsent _ => true
  | _ => false

theorem serve_reads {root : Root} {process : Nat} {request : OsRequest}
    (reads : request.reads = true) : (root.serve process request).2 = root := by
  cases request with
  | symlinkMetadata place =>
    simp only [Root.serve]
    split <;> rfl
  | openReadWrite place =>
    simp only [Root.serve]
    split <;> rfl
  | readToString place =>
    simp only [Root.serve]
    split
    · rfl
    · split <;> rfl
    · rfl
  | syncAll place | readGenerations | browserWriterLocksAbsent generation => rfl
  | createNew | writeAll | rename | removeFile | tryLock | unlock | close => cases reads

open Os

section MarkerFiles

def readControlText (path : Place) : Os (List UInt8) := do
  let metadata ← io (← call (.symlinkMetadata path))
  checkType metadata .file
  io (← call (.readToString path))

namespace Filesystem

structure BridgeWorkspaceLock where
  lockPath : Place
  ownership : List UInt8

namespace BridgeWorkspaceLock

def acquire (workspace : Nat) (deviceId : DeviceId) (epoch : Nat) : Os BridgeWorkspaceLock := do
  refuse (epoch = 0) .invalidPolicy
  let lockPath := Place.marker workspace
  let ownership := ownershipText deviceId epoch
  match ← call (.createNew lockPath) with
  | .ok () => pure ()
  | .error .alreadyExists => throw .lockBusy
  | .error kind => throw (.io kind)
  io (← call (.writeAll lockPath ownership))
  io (← call (.syncAll lockPath))
  return ⟨lockPath, ownership⟩

/-- The new marker is written beside the old one, and then takes its place. -/
def replaceInterruptedWithPrePublish (workspace : Nat) (deviceId : DeviceId) (freshEpoch : Nat)
    (lockPath : Place) (previous : List UInt8) (stageName : String) : Os BridgeWorkspaceLock := do
  let ownership := ownershipText deviceId freshEpoch
  let staged := Place.stage workspace stageName
  io (← call (.createNew staged))
  io (← call (.writeAll staged ownership))
  io (← call (.syncAll staged))
  refuse ((← readControlText lockPath) ≠ previous) .lockBusy
  io (← call (.rename staged lockPath))
  return ⟨lockPath, ownership⟩

def replaceInterrupted (workspace : Nat) (deviceId : DeviceId) (freshEpoch : Nat)
    (stageName : String) : Os BridgeWorkspaceLock := do
  let lockPath := Place.marker workspace
  let metadata ← io (← call (.symlinkMetadata lockPath))
  refuse (metadata.fileType ≠ .file) .lockBusy
  refuse (512 < metadata.len ∨ freshEpoch ≤ 1) .lockBusy
  let previous ← readControlText lockPath
  match previousEpoch deviceId previous with
  | none => throw .lockBusy
  | some previousEpoch =>
    refuse (previousEpoch = 0 ∨ freshEpoch ≤ previousEpoch) .lockBusy
    replaceInterruptedWithPrePublish workspace deviceId freshEpoch lockPath previous stageName

def release (lock : BridgeWorkspaceLock) : Os Unit := do
  refuse ((← readControlText lock.lockPath) ≠ lock.ownership) .lockOwnershipMismatch
  io (← call (.removeFile lock.lockPath))

end BridgeWorkspaceLock

end Filesystem

end MarkerFiles

section Admission

def mapTryLockError : TryLockError → WorkspaceLockError
  | .wouldBlock => .lockBusy
  | .error kind => .io kind

def tryLock (place : Place) (mode : LockMode) : Os Unit := do
  match ← call (.tryLock place mode) with
  | .ok () => pure ()
  | .error why => throw (mapTryLockError why)

def openRootMarker : Os Unit := do
  let metadata ← io (← call (.symlinkMetadata .rootMarker))
  checkType metadata .file
  io (← call (.openReadWrite .rootMarker))

def generationAdmissionExists (workspace : Nat) : Os Bool := do
  match ← call (.symlinkMetadata (.admission workspace)) with
  | .ok metadata =>
    checkType metadata .file
    return true
  | .error .notFound => return false
  | .error kind => throw (.io kind)

/-- Whether the marker is one that was made under the generation's lock. -/
def generationScopedMarkerPresent (workspace : Nat) : Os Bool := do
  let metadata ← io (← call (.symlinkMetadata (.marker workspace)))
  checkType metadata .file
  refuse (512 < metadata.len) .lockBusy
  let text ← io (← call (.readToString (.marker workspace)))
  return MarkerVersion.v2.line.isPrefixOf text

def openPresentAdmission (workspace : Nat) : Os Unit := do
  let metadata ← io (← call (.symlinkMetadata (.admission workspace)))
  checkType metadata .file
  io (← call (.openReadWrite (.admission workspace)))

def openGenerationAdmission (workspace : Nat) : Os Unit := do
  match ← call (.symlinkMetadata (.admission workspace)) with
  | .error .notFound =>
    match ← call (.createNew (.admission workspace)) with
    | .ok () => io (← call (.syncAll (.admission workspace)))
    | .error .alreadyExists => openPresentAdmission workspace
    | .error kind => throw (.io kind)
  | .error kind => throw (.io kind)
  | .ok _ => openPresentAdmission workspace

/-- A marker where there was never an admission file is that of a writer that holds no lock of its
generation. -/
def refuseLegacyWriter (workspace : Nat) : Os Unit := do
  if ← generationAdmissionExists workspace then return ()
  else refuse ((← call (.symlinkMetadata (.marker workspace))).isOk) .lockBusy

def legacyGeneration (workspace : Nat) : Os Bool := do
  if ← generationAdmissionExists workspace then
    return !(← generationScopedMarkerPresent workspace)
  else return true

/-- A writer's lock, with the files it keeps open: the root's marker and its generation's admission
file. -/
structure BridgeWorkspaceLock where
  inner : Filesystem.BridgeWorkspaceLock
  generation : Nat

namespace BridgeWorkspaceLock

def acquire (workspace : Nat) (deviceId : DeviceId) (epoch : Nat) : Os BridgeWorkspaceLock := do
  openRootMarker
  dropping .rootMarker do
    tryLock .rootMarker .shared
    refuseLegacyWriter workspace
    openGenerationAdmission workspace
    dropping (.admission workspace) do
      tryLock (.admission workspace) .exclusive
      let inner ← Filesystem.BridgeWorkspaceLock.acquire workspace deviceId epoch
      return ⟨inner, workspace⟩

/-- The root's lock is given back and taken anew, shared now, when it had to be exclusive. -/
def shareRoot (legacy : Bool) (inner : Filesystem.BridgeWorkspaceLock) : Os Unit := do
  if legacy then
    let _ ← call (.close .rootMarker)
    openRootMarker
    match ← call (.tryLock .rootMarker .shared) with
    | .ok () => pure ()
    | .error why => do
      inner.release
      throw (mapTryLockError why)
  else return ()

def recoverInterruptedLaunch (workspace : Nat) (deviceId : DeviceId) (freshEpoch : Nat)
    (stageName : String) : Os BridgeWorkspaceLock := do
  let legacy ← legacyGeneration workspace
  openRootMarker
  dropping .rootMarker do
    tryLock .rootMarker (if legacy then .exclusive else .shared)
    openGenerationAdmission workspace
    dropping (.admission workspace) do
      tryLock (.admission workspace) .exclusive
      refuse ((← call (.browserWriterLocksAbsent workspace)) ≠ some true) .lockBusy
      let inner ← Filesystem.BridgeWorkspaceLock.replaceInterrupted workspace deviceId freshEpoch
        stageName
      shareRoot legacy inner
      return ⟨inner, workspace⟩

def release (lock : BridgeWorkspaceLock) : Os Unit := ExceptT.mk do
  let result ← lock.inner.release.run
  let _ ← (call (.close (.admission lock.generation))).run
  let _ ← (call (.close .rootMarker)).run
  return result

end BridgeWorkspaceLock

def recoveryMarkerStagePrefix : String := ".profile-platform.lock.recovery-"

/-- How the operator opens a workspace: a lock that is busy is taken for one that was left behind. -/
def openWorkspace (workspace : Nat) (owner : Owner) (processId sequence : Nat) :
    Os BridgeWorkspaceLock := ExceptT.mk do
  match ← (BridgeWorkspaceLock.acquire workspace owner.deviceId owner.epoch).run with
  | .error .lockBusy =>
    (BridgeWorkspaceLock.recoverInterruptedLaunch workspace owner.deviceId owner.epoch
      s!"{recoveryMarkerStagePrefix}{processId}-{owner.epoch}-{sequence}").run
  | result => return result

end Admission

section Activation

/-- The platform decides how the guard looks for writers. -/
inductive Platform where
  | windows | unix
  deriving DecidableEq

def generationAdmissionHeldAt (workspace : Nat) : Os Bool := do
  match ← call (.symlinkMetadata (.admission workspace)) with
  | .error .notFound => return false
  | .error kind => throw (.io kind)
  | .ok metadata =>
    checkType metadata .file
    io (← call (.openReadWrite (.admission workspace)))
    dropping (.admission workspace) do
      match ← call (.tryLock (.admission workspace) .exclusive) with
      | .ok () => do
        io (← call (.unlock (.admission workspace)))
        let _ ← call (.close (.admission workspace))
        return false
      | .error .wouldBlock => do
        let _ ← call (.close (.admission workspace))
        return true
      | .error (.error kind) => throw (.io kind)

/-- What stands at a place must be of the type, if anything does. -/
def expectType (place : Place) (fileType : FileType) : Os Unit := do
  match ← call (.symlinkMetadata place) with
  | .ok metadata =>
    checkType metadata fileType
  | .error .notFound => pure ()
  | .error kind => throw (.io kind)

def writerLockPresent : Platform → Nat → Os Bool
  | .windows, generation => do
    expectType (.marker generation) .file
    expectType (.userData generation) .directory
    if ← generationAdmissionHeldAt generation then return true
    else return (← call (.browserWriterLocksAbsent generation)) ≠ some true
  | .unix, generation => do
    match ← call (.symlinkMetadata (.marker generation)) with
    | .ok _ => return true
    | .error .notFound => return false
    | .error kind => throw (.io kind)

def anyWriterLockPresent (platform : Platform) : List Nat → Os Bool
  | [] => return false
  | generation :: rest => do
    if ← writerLockPresent platform generation then return true
    else anyWriterLockPresent platform rest

def bridgeWriterLockPresent (platform : Platform) : Os Bool := do
  anyWriterLockPresent platform (← io (← call .readGenerations))

def DeliveryActivationGuard.acquire (platform : Platform) : Os Unit := do
  openRootMarker
  dropping .rootMarker do
    tryLock .rootMarker .exclusive
    refuse (← bridgeWriterLockPresent platform) .lockBusy

/-- The guard is dropped. -/
def DeliveryActivationGuard.drop : Os Unit := do
  let _ ← call (.close .rootMarker)

end Activation

section Processes

/-- What a process has set out to do. -/
inductive Attempt where
  | openWorkspace (generation : Nat) (owner : Owner) (processId sequence : Nat)
  | activateDelivery

inductive Held where
  | writer (lock : BridgeWorkspaceLock)
  | guard

def Attempt.opening (platform : Platform) : Attempt → Os Held
  | .openWorkspace generation owner processId sequence =>
    Held.writer <$> LocalProfile.openWorkspace generation owner processId sequence
  | .activateDelivery => do
    DeliveryActivationGuard.acquire platform
    return .guard

def Held.closing : Held → Os Unit
  | .writer lock => lock.release
  | .guard => DeliveryActivationGuard.drop

inductive Phase where
  | opening (program : Program OsRequest OsReply (Except WorkspaceLockError Held))
  | holding (held : Held)
  | closing (program : Program OsRequest OsReply (Except WorkspaceLockError Unit))
  | gone

structure Process where
  attempt : Attempt
  phase : Phase

/-- A root and all the processes that work in it. -/
structure Workplace where
  root : Root
  processes : List Process

inductive WorkplaceInput where
  | start (attempt : Attempt)
  | turn (process : Nat) (fate : CallFate)
  | close (process : Nat)
  | die (process : Nat)
  | materialize
  | browse (generation : Nat) (userData : Option Node) (locksAbsent : Option Bool)

/-- A program's next call with its fate. None is left of a program that dies. -/
def Root.turn {A : Type} (root : Root) (process : Nat) (fate : CallFate) (request : OsRequest)
    (resume : OsReply request → Program OsRequest OsReply A) :
    Option (Program OsRequest OsReply A) × Root :=
  match fate with
  | .done => (some (resume (root.serve process request).1), (root.serve process request).2)
  | .failed reached => (some (resume (Root.refusal request)), root.refused process request reached)
  | .crashed reached => (none, (root.interrupted process request reached).forgotten process)

namespace Workplace

variable (workplace : Workplace)

def enter (process : Nat) (running : Process) (phase : Phase) (root : Root) : Workplace where
  root := root
  processes := workplace.processes.set process { running with phase := phase }

/-- The process goes on with what is left of its program, or is gone. -/
def proceed {A : Type} (process : Nat) (running : Process)
    (phase : Program OsRequest OsReply A → Phase) :
    Option (Program OsRequest OsReply A) × Root → Workplace
  | (some program, root) => workplace.enter process running (phase program) root
  | (none, root) => workplace.enter process running .gone root

def turn (process : Nat) (fate : CallFate) : Workplace :=
  match workplace.processes[process]? with
  | none => workplace
  | some running =>
    match running.phase with
    | .opening (.done (.ok held)) => workplace.enter process running (.holding held) workplace.root
    | .opening (.done (.error _)) => workplace.enter process running .gone workplace.root
    | .opening (.ask request resume) =>
      workplace.proceed process running .opening (workplace.root.turn process fate request resume)
    | .closing (.done _) => workplace.enter process running .gone workplace.root
    | .closing (.ask request resume) =>
      workplace.proceed process running .closing (workplace.root.turn process fate request resume)
    | .holding _ | .gone => workplace

def admits : Attempt → Bool
  | .openWorkspace generation _ _ _ => generation < workplace.root.generations
  | .activateDelivery => true

/-- A new generation's directory is empty. -/
def materialized : Root where
  nodes place := if place.generation = some workplace.root.generations then none
    else workplace.root.nodes place
  generations := workplace.root.generations + 1
  browserLocksAbsent := workplace.root.browserLocksAbsent
  locks := workplace.root.locks

def step (platform : Platform) : WorkplaceInput → Workplace
  | .start attempt =>
    if workplace.admits attempt then
      { workplace with
        processes := workplace.processes ++ [⟨attempt, .opening (attempt.opening platform).run⟩] }
    else workplace
  | .turn process fate => workplace.turn process fate
  | .close process =>
    match workplace.processes[process]? with
    | some ⟨attempt, .holding held⟩ =>
      workplace.enter process ⟨attempt, .holding held⟩ (.closing held.closing.run) workplace.root
    | _ => workplace
  | .die process =>
    match workplace.processes[process]? with
    | some running =>
      workplace.enter process running .gone (workplace.root.forgotten process)
    | none => workplace
  | .materialize => { workplace with root := workplace.materialized }
  | .browse generation userData locksAbsent =>
    { workplace with root := { workplace.root.put (.userData generation) userData with
        browserLocksAbsent := Function.update workplace.root.browserLocksAbsent generation
          locksAbsent } }

end Workplace

def workplaces (platform : Platform) : Machine Workplace WorkplaceInput Unit where
  step workplace input := ((), workplace.step platform input)

/-- Whatever was left behind, nobody is at work. -/
def Workplace.fresh (nodes : Place → Option Node) (generations : Nat)
    (browserLocksAbsent : Nat → Option Bool) : Workplace :=
  ⟨⟨nodes, generations, browserLocksAbsent, []⟩, []⟩

end Processes

end ProfilePlatform.LocalProfile
