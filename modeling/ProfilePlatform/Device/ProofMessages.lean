import ProfilePlatform.Foundation.Fallible
import ProfilePlatform.Foundation.Fields
import ProfilePlatform.Foundation.Frames
import ProfilePlatform.Primitives

/-! The messages that a device signs with its own key: the answer to a challenge, and a request of
the bridge. -/

set_option autoImplicit false

namespace ProfilePlatform.Device

open Foundation

abbrev Bytes : Type := List UInt8

def deviceProofNonceBytes : Nat := 32
def bridgeRequestProofMaxPathBytes : Nat := 512

/-- The largest length that two bytes tell, and one. -/
def u16Limit : Nat := 0x10000

section Challenge

inductive DeviceProofMessageError where
  | invalidNonceLength | invalidIdentifierLength
  deriving DecidableEq, Repr

def deviceProofContextV1 : Bytes := utf8Bytes "part-crm/device-proof/v1\x00"

/-- Fails with `why` where the length does not fit. -/
def appendFrame {E : Type} (why : E) (message value : Bytes) : Except E Bytes := do
  refuseIf (u16Limit ≤ value.length) why
  return message ++ frame 2 value

def appendIdentifier (message : Bytes) (value : String) : Except DeviceProofMessageError Bytes :=
  appendFrame .invalidIdentifierLength message (utf8Bytes value)

def deviceProofMessageV1 (tenantId : TenantId) (actorId : ActorId) (deviceId : DeviceId)
    (nonce : Bytes) (expiresAt : UnixMillis) : Except DeviceProofMessageError Bytes := do
  refuseIf (nonce.length ≠ deviceProofNonceBytes) .invalidNonceLength
  let message ← appendIdentifier deviceProofContextV1 tenantId.asStr
  let message ← appendIdentifier message actorId.asStr
  let message ← appendIdentifier message deviceId.asStr
  return message ++ bigEndian 8 expiresAt ++ nonce

end Challenge

section Request

inductive BridgeRequestProofMessageError where
  | invalidPath | invalidFieldLength
  deriving DecidableEq, Repr

inductive BridgeRequestProofMethod where
  | get | postJson
  deriving DecidableEq, Repr

def bridgeRequestProofContextV1 : Bytes := utf8Bytes "part-crm/bridge-request-proof/v1\x00"

def BridgeRequestProofMethod.canonicalBytes : BridgeRequestProofMethod → Bytes
  | .get => utf8Bytes "GET"
  | .postJson => utf8Bytes "POST"

def validPath (path : Bytes) : Bool :=
  path.head? == some 47 && path.length ≤ bridgeRequestProofMaxPathBytes && path.all (· < 128) &&
    !path.any (fun byte => [63, 35, 92, 13, 10].contains byte) &&
    !(path.tails.any fun rest => [47, 47].isPrefixOf rest) &&
    !((path.splitOn 47).any fun segment => segment == [46] || segment == [46, 46])

def appendBytes (message value : Bytes) : Except BridgeRequestProofMessageError Bytes :=
  appendFrame .invalidFieldLength message value

def bridgeRequestProofMessageV1 (tenantId : TenantId) (actorId : ActorId) (deviceId : DeviceId)
    (sessionDigest : Block 32) (method : BridgeRequestProofMethod) (path : String)
    (correlationId : CorrelationId) (bodyDigest : Block 32) (expiresAt : UnixMillis) :
    Except BridgeRequestProofMessageError Bytes := do
  refuseIf (validPath (utf8Bytes path) = false) .invalidPath
  let message ← appendBytes bridgeRequestProofContextV1 (utf8Bytes tenantId.asStr)
  let message ← appendBytes message (utf8Bytes actorId.asStr)
  let message ← appendBytes message (utf8Bytes deviceId.asStr)
  let message ← appendBytes (message ++ sessionDigest.val) method.canonicalBytes
  let message ← appendBytes message (utf8Bytes path)
  let message ← appendBytes message (utf8Bytes correlationId.asStr)
  return message ++ bodyDigest.val ++ bigEndian 8 expiresAt

end Request

section Fields

theorem appendFrame_eq_ok {E : Type} {why : E} {message value after : Bytes} :
    appendFrame why message value = .ok after ↔
      value.length < u16Limit ∧ after = message ++ frame 2 value := by
  unfold appendFrame
  rw [bind_eq_ok]
  constructor
  · rintro ⟨_, fits, same⟩
    cases same
    exact ⟨Nat.not_le.mp (refuseIf_eq_ok.mp fits), rfl⟩
  · rintro ⟨fits, rfl⟩
    exact ⟨(), refuseIf_passes (Nat.not_le.mpr fits), rfl⟩

theorem u16Limit_eq : u16Limit = capacity 2 := rfl

/-- An identifier behind its length is told apart from every other one, whatever follows. -/
theorem identifier_cancel {left right : String} {more other : Bytes}
    (fits : (utf8Bytes left).length < u16Limit) (also : (utf8Bytes right).length < u16Limit)
    (same : frame 2 (utf8Bytes left) ++ more = frame 2 (utf8Bytes right) ++ other) :
    left = right ∧ more = other := by
  obtain ⟨bytes, rest⟩ := frame_cancel (u16Limit_eq ▸ fits) (u16Limit_eq ▸ also) same
  exact ⟨eq_of_utf8 bytes, rest⟩

end Fields

/-- What the answer to a challenge is made of. Times have sixty-four bits. -/
structure DeviceProof where
  tenantId : TenantId
  actorId : ActorId
  deviceId : DeviceId
  nonce : Bytes
  expiresAt : UnixMillis
  bounded : expiresAt < u64Limit

/-- What the proof of a request is made of. -/
structure BridgeRequestProof where
  tenantId : TenantId
  actorId : ActorId
  deviceId : DeviceId
  sessionDigest : Block 32
  method : BridgeRequestProofMethod
  path : String
  correlationId : CorrelationId
  bodyDigest : Block 32
  expiresAt : UnixMillis
  bounded : expiresAt < u64Limit

def DeviceProof.message (proof : DeviceProof) : Except DeviceProofMessageError Bytes :=
  deviceProofMessageV1 proof.tenantId proof.actorId proof.deviceId proof.nonce proof.expiresAt

def BridgeRequestProof.message (proof : BridgeRequestProof) :
    Except BridgeRequestProofMessageError Bytes :=
  bridgeRequestProofMessageV1 proof.tenantId proof.actorId proof.deviceId proof.sessionDigest
    proof.method proof.path proof.correlationId proof.bodyDigest proof.expiresAt

section Injectivity

variable {signed : Bytes}

theorem DeviceProof.message_eq_ok {proof : DeviceProof} (made : proof.message = .ok signed) :
    (utf8Bytes proof.tenantId.asStr).length < u16Limit ∧
      (utf8Bytes proof.actorId.asStr).length < u16Limit ∧
      (utf8Bytes proof.deviceId.asStr).length < u16Limit ∧
      signed = deviceProofContextV1 ++ (frame 2 (utf8Bytes proof.tenantId.asStr) ++
        (frame 2 (utf8Bytes proof.actorId.asStr) ++ (frame 2 (utf8Bytes proof.deviceId.asStr) ++
          (bigEndian 8 proof.expiresAt ++ proof.nonce)))) := by
  unfold message deviceProofMessageV1 appendIdentifier at made
  obtain ⟨_, -, made⟩ := bind_eq_ok.mp made
  obtain ⟨_, tenant, made⟩ := bind_eq_ok.mp made
  obtain ⟨_, actor, made⟩ := bind_eq_ok.mp made
  obtain ⟨_, device, made⟩ := bind_eq_ok.mp made
  obtain ⟨tenantFits, rfl⟩ := appendFrame_eq_ok.mp tenant
  obtain ⟨actorFits, rfl⟩ := appendFrame_eq_ok.mp actor
  obtain ⟨deviceFits, rfl⟩ := appendFrame_eq_ok.mp device
  cases made
  refine ⟨tenantFits, actorFits, deviceFits, ?_⟩
  simp only [List.append_assoc]

theorem DeviceProof.eq_of_message {first second : DeviceProof} (made : first.message = .ok signed)
    (also : second.message = .ok signed) : first = second := by
  obtain ⟨tenant, actor, device, rfl⟩ := first.message_eq_ok made
  obtain ⟨tenant', actor', device', same⟩ := second.message_eq_ok also
  obtain ⟨tenants, same⟩ := identifier_cancel tenant tenant' (List.append_cancel_left same)
  obtain ⟨actors, same⟩ := identifier_cancel actor actor' same
  obtain ⟨devices, same⟩ := identifier_cancel device device' same
  obtain ⟨times, nonces⟩ := bigEndian_cancel first.bounded second.bounded same
  cases first
  cases second
  cases TypedId.ext_asStr tenants
  cases TypedId.ext_asStr actors
  cases TypedId.ext_asStr devices
  cases times
  cases nonces
  rfl

theorem BridgeRequestProof.message_eq_ok {proof : BridgeRequestProof}
    (made : proof.message = .ok signed) :
    (utf8Bytes proof.tenantId.asStr).length < u16Limit ∧
      (utf8Bytes proof.actorId.asStr).length < u16Limit ∧
      (utf8Bytes proof.deviceId.asStr).length < u16Limit ∧
      proof.method.canonicalBytes.length < u16Limit ∧
      (utf8Bytes proof.path).length < u16Limit ∧
      (utf8Bytes proof.correlationId.asStr).length < u16Limit ∧
      signed = bridgeRequestProofContextV1 ++ (frame 2 (utf8Bytes proof.tenantId.asStr) ++
        (frame 2 (utf8Bytes proof.actorId.asStr) ++ (frame 2 (utf8Bytes proof.deviceId.asStr) ++
          (proof.sessionDigest.val ++ (frame 2 proof.method.canonicalBytes ++
            (frame 2 (utf8Bytes proof.path) ++ (frame 2 (utf8Bytes proof.correlationId.asStr) ++
              (proof.bodyDigest.val ++ bigEndian 8 proof.expiresAt)))))))) := by
  unfold message bridgeRequestProofMessageV1 appendBytes at made
  obtain ⟨_, -, made⟩ := bind_eq_ok.mp made
  obtain ⟨_, tenant, made⟩ := bind_eq_ok.mp made
  obtain ⟨_, actor, made⟩ := bind_eq_ok.mp made
  obtain ⟨_, device, made⟩ := bind_eq_ok.mp made
  obtain ⟨_, method, made⟩ := bind_eq_ok.mp made
  obtain ⟨_, path, made⟩ := bind_eq_ok.mp made
  obtain ⟨_, correlation, made⟩ := bind_eq_ok.mp made
  obtain ⟨tenantFits, rfl⟩ := appendFrame_eq_ok.mp tenant
  obtain ⟨actorFits, rfl⟩ := appendFrame_eq_ok.mp actor
  obtain ⟨deviceFits, rfl⟩ := appendFrame_eq_ok.mp device
  obtain ⟨methodFits, rfl⟩ := appendFrame_eq_ok.mp method
  obtain ⟨pathFits, rfl⟩ := appendFrame_eq_ok.mp path
  obtain ⟨correlationFits, rfl⟩ := appendFrame_eq_ok.mp correlation
  cases made
  refine ⟨tenantFits, actorFits, deviceFits, methodFits, pathFits, correlationFits, ?_⟩
  simp only [List.append_assoc]

theorem canonicalBytes_injective {left right : BridgeRequestProofMethod}
    (same : left.canonicalBytes = right.canonicalBytes) : left = right := by
  cases left <;> cases right <;> first | rfl | exact absurd same (by decide)

theorem BridgeRequestProof.eq_of_message {first second : BridgeRequestProof}
    (made : first.message = .ok signed) (also : second.message = .ok signed) : first = second := by
  obtain ⟨tenant, actor, device, method, path, correlation, rfl⟩ := first.message_eq_ok made
  obtain ⟨tenant', actor', device', method', path', correlation', same⟩ := second.message_eq_ok also
  obtain ⟨tenants, same⟩ := identifier_cancel tenant tenant' (List.append_cancel_left same)
  obtain ⟨actors, same⟩ := identifier_cancel actor actor' same
  obtain ⟨devices, same⟩ := identifier_cancel device device' same
  obtain ⟨sessions, same⟩ := block_cancel same
  obtain ⟨methods, same⟩ := frame_cancel (u16Limit_eq ▸ method) (u16Limit_eq ▸ method') same
  obtain ⟨paths, same⟩ := identifier_cancel path path' same
  obtain ⟨correlations, same⟩ := identifier_cancel correlation correlation' same
  obtain ⟨bodies, same⟩ := block_cancel same
  have ends : bigEndian 8 first.expiresAt ++ [] = bigEndian 8 second.expiresAt ++ [] := by
    rw [same]
  obtain ⟨times, -⟩ := bigEndian_cancel first.bounded second.bounded ends
  cases first
  cases second
  cases TypedId.ext_asStr tenants
  cases TypedId.ext_asStr actors
  cases TypedId.ext_asStr devices
  cases sessions
  cases canonicalBytes_injective methods
  cases paths
  cases TypedId.ext_asStr correlations
  cases bodies
  cases times
  rfl

theorem messages_apart {challenge : DeviceProof} {request : BridgeRequestProof}
    (made : challenge.message = .ok signed) : request.message ≠ .ok signed := by
  intro also
  obtain ⟨-, -, -, rfl⟩ := challenge.message_eq_ok made
  obtain ⟨-, -, -, -, -, -, same⟩ := request.message_eq_ok also
  have front := congrArg (List.take 10) same
  rw [List.take_append_of_le_length (by decide), List.take_append_of_le_length (by decide)] at front
  exact absurd front (by decide)

end Injectivity

end ProfilePlatform.Device
