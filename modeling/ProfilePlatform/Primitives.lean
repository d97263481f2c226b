/-! Typed identifiers, aggregate versions and clock readings shared by every domain.

Unsigned 64-bit integers are natural numbers; the operations that can overflow
are the checked ones, and they refuse at two to the sixty-four.
-/

set_option autoImplicit false

namespace ProfilePlatform

def u64Limit : Nat := 0x10000000000000000

def checkedAdd (value delta : Nat) : Option Nat :=
  if value + delta < u64Limit then some (value + delta) else none

theorem checkedAdd_eq_some {value delta sum : Nat} :
    checkedAdd value delta = some sum ↔ sum = value + delta ∧ value + delta < u64Limit := by
  unfold checkedAdd
  split
  next fits => simp [fits, eq_comm]
  next overflow => simp [overflow]

theorem checkedAdd_eq_none {value delta : Nat} :
    checkedAdd value delta = none ↔ u64Limit ≤ value + delta := by
  unfold checkedAdd
  split
  next fits => simp [fits]
  next overflow => simpa using overflow

def minIdLength : Nat := 8
def maxIdLength : Nat := 96

def utf8Bytes (value : String) : List UInt8 := value.toUTF8.data.toList

def isAsciiAlphanumeric (byte : UInt8) : Bool :=
  (48 ≤ byte && byte ≤ 57) || (65 ≤ byte && byte ≤ 90) || (97 ≤ byte && byte ≤ 122)

/-- ASCII letters, digits, '-' and '_'. -/
def isIdByte (byte : UInt8) : Bool := isAsciiAlphanumeric byte || byte == 45 || byte == 95

def OpaqueId.accepts (value : String) : Bool :=
  minIdLength ≤ (utf8Bytes value).length && (utf8Bytes value).length ≤ maxIdLength &&
    (utf8Bytes value).all isIdByte

/-- Stable opaque identifier safe for API, metric and storage segments. -/
structure OpaqueId where
  asStr : String
  accepted : OpaqueId.accepts asStr = true
  deriving DecidableEq

structure ParseOpaqueIdError where
  deriving DecidableEq, Repr

/-- Parse an identifier without assigning business meaning to its contents. -/
def OpaqueId.parse (value : String) : Except ParseOpaqueIdError OpaqueId :=
  if accepted : OpaqueId.accepts value = true then .ok ⟨value, accepted⟩ else .error ⟨⟩

/-- The typed identifiers wrap one opaque identifier each and differ in nothing else. -/
inductive IdKind where
  | tenant | actor | profile | generation | session | device | launchIntent | correlation
  | idempotencyKey | outboxEvent | fencingToken | deviceJob | deviceClaim
  deriving DecidableEq, Repr

structure TypedId (kind : IdKind) where
  intoOpaque : OpaqueId
  deriving DecidableEq

namespace TypedId

variable {kind : IdKind}

def asStr (id : TypedId kind) : String := id.intoOpaque.asStr

def parse (value : String) : Except ParseOpaqueIdError (TypedId kind) :=
  match OpaqueId.parse value with
  | .ok id => .ok ⟨id⟩
  | .error why => .error why

theorem ext_asStr {left right : TypedId kind} (same : left.asStr = right.asStr) :
    left = right := by
  obtain ⟨⟨leftText, _⟩⟩ := left
  obtain ⟨⟨rightText, _⟩⟩ := right
  cases (show leftText = rightText from same)
  rfl

@[simp] theorem parse_asStr (id : TypedId kind) : parse id.asStr = .ok id := by
  obtain ⟨⟨text, accepted⟩⟩ := id
  simp [parse, OpaqueId.parse, asStr, accepted]

theorem asStr_of_parse {value : String} {id : TypedId kind} (parsed : parse value = .ok id) :
    id.asStr = value := by
  unfold parse OpaqueId.parse at parsed
  split at parsed
  next plain found =>
    split at found
    · cases found; cases parsed; rfl
    · cases found
  next => cases parsed

end TypedId

abbrev TenantId := TypedId .tenant
abbrev ActorId := TypedId .actor
abbrev ProfileId := TypedId .profile
abbrev GenerationId := TypedId .generation
abbrev SessionId := TypedId .session
abbrev DeviceId := TypedId .device
abbrev LaunchIntentId := TypedId .launchIntent
abbrev CorrelationId := TypedId .correlation
abbrev IdempotencyKey := TypedId .idempotencyKey
abbrev OutboxEventId := TypedId .outboxEvent
abbrev FencingToken := TypedId .fencingToken
abbrev DeviceJobId := TypedId .deviceJob
abbrev DeviceClaimId := TypedId .deviceClaim

abbrev TenantId.parse : String → Except ParseOpaqueIdError TenantId := TypedId.parse
abbrev ActorId.parse : String → Except ParseOpaqueIdError ActorId := TypedId.parse
abbrev ProfileId.parse : String → Except ParseOpaqueIdError ProfileId := TypedId.parse
abbrev GenerationId.parse : String → Except ParseOpaqueIdError GenerationId := TypedId.parse
abbrev SessionId.parse : String → Except ParseOpaqueIdError SessionId := TypedId.parse
abbrev DeviceId.parse : String → Except ParseOpaqueIdError DeviceId := TypedId.parse
abbrev LaunchIntentId.parse : String → Except ParseOpaqueIdError LaunchIntentId := TypedId.parse
abbrev CorrelationId.parse : String → Except ParseOpaqueIdError CorrelationId := TypedId.parse
abbrev IdempotencyKey.parse : String → Except ParseOpaqueIdError IdempotencyKey := TypedId.parse
abbrev FencingToken.parse : String → Except ParseOpaqueIdError FencingToken := TypedId.parse
abbrev DeviceJobId.parse : String → Except ParseOpaqueIdError DeviceJobId := TypedId.parse
abbrev DeviceClaimId.parse : String → Except ParseOpaqueIdError DeviceClaimId := TypedId.parse

def sha256HexLength : Nat := 64

def isLowerHex (byte : UInt8) : Bool := (48 ≤ byte && byte ≤ 57) || (97 ≤ byte && byte ≤ 102)

def PayloadFingerprint.accepts (value : String) : Bool :=
  (utf8Bytes value).length == sha256HexLength && (utf8Bytes value).all isLowerHex

/-- Lowercase hexadecimal SHA-256 of a decoded command. -/
structure PayloadFingerprint where
  asStr : String
  accepted : PayloadFingerprint.accepts asStr = true
  deriving DecidableEq

structure ClientId where
  intoOpaque : OpaqueId
  deriving DecidableEq

structure MailboxBindingId where
  intoOpaque : OpaqueId
  deriving DecidableEq

structure MailboxJobId where
  intoOpaque : OpaqueId
  deriving DecidableEq

structure ContactPointId where
  intoOpaque : OpaqueId
  deriving DecidableEq

structure AssignmentId where
  intoOpaque : OpaqueId
  deriving DecidableEq

structure AuditEventId where
  intoOpaque : OpaqueId
  deriving DecidableEq

/-- Required scope for every tenant-owned repository operation. -/
structure TenantScope where
  tenantId : TenantId
  deriving DecidableEq

/-- Verified identity and tenant context passed to every application command. -/
structure ActorContext where
  tenantScope : TenantScope
  actorId : ActorId
  correlationId : CorrelationId
  deriving DecidableEq

structure ZeroAggregateVersion where
  deriving DecidableEq, Repr

/-- A strictly positive aggregate version. -/
structure AggregateVersion where
  value : Nat
  positive : value ≠ 0
  deriving DecidableEq

namespace AggregateVersion

def initial : AggregateVersion := ⟨1, by decide⟩

def new (value : Nat) : Except ZeroAggregateVersion AggregateVersion :=
  if positive : value ≠ 0 then .ok ⟨value, positive⟩ else .error ⟨⟩

/-- The next version; none is the overflow of the stored integer. -/
def next (version : AggregateVersion) : Option AggregateVersion :=
  if version.value + 1 < u64Limit then some ⟨version.value + 1, Nat.succ_ne_zero _⟩ else none

@[simp] theorem new_value (version : AggregateVersion) : new version.value = .ok version := by
  simp [new, version.positive]

theorem value_of_new {value : Nat} {version : AggregateVersion} (made : new value = .ok version) :
    version.value = value := by
  unfold new at made
  split at made
  · cases made; rfl
  · cases made

theorem next_eq_some {version after : AggregateVersion} (made : version.next = some after) :
    after.value = version.value + 1 ∧ after.value < u64Limit := by
  unfold next at made
  split at made
  next fits => cases made; exact ⟨rfl, fits⟩
  next => cases made

end AggregateVersion

/-- Milliseconds since the epoch, an unsigned 64-bit integer in the source. -/
abbrev UnixMillis := Nat

/-- Stored integers are signed. -/
def sqliteLimit : Nat := 0x8000000000000000

end ProfilePlatform
