import ProfilePlatform.Device.ProofMessages
import ProfilePlatform.Generation.KeyDerivation
import ProfilePlatform.Resolver.CanonicalInput

/-! Whatever is signed, or hashed under a key, says which parts it was made of. -/

set_option autoImplicit false

namespace ProfilePlatform

open Device Generation Resolver Foundation

theorem signed_bytes_injective (sha256 : List UInt8 → List UInt8) :
    (∀ (first second : DeviceProof) (signed : Bytes),
      first.message = .ok signed → second.message = .ok signed → first = second) ∧
    (∀ (first second : BridgeRequestProof) (signed : Bytes),
      first.message = .ok signed → second.message = .ok signed → first = second) ∧
    (∀ (challenge : DeviceProof) (request : BridgeRequestProof) (signed : Bytes),
      challenge.message = .ok signed → request.message ≠ .ok signed) ∧
    (∀ (root other : GenerationRootKey) (purpose asked inner : Bytes)
        (context about : GenerationKeyDerivationContext),
      root.bytes = other.bytes → innerBytes root purpose context = .ok inner →
      innerBytes other asked about = .ok inner →
      purpose = asked ∧ root.version = other.version ∧ context.tenantId = about.tenantId ∧
        context.profileId = about.profileId ∧ context.generationId = about.generationId ∧
        context.plaintextDigest = about.plaintextDigest) ∧
    ∀ (input other : SignatureInput) (version another : String) (keyId also : Option String)
        (signed : Bytes),
      validateMetadata input = .ok () → admitsRequest input = true →
      validateMetadata other = .ok () → admitsRequest other = true →
      canonicalSignatureInput version keyId (bodyDigestHex sha256 input.body) input = .ok signed →
      canonicalSignatureInput another also (bodyDigestHex sha256 other.body) other = .ok signed →
      version = another ∧ keyId = also ∧ input.method = other.method ∧ input.path = other.path ∧
        bodyDigestHex sha256 input.body = bodyDigestHex sha256 other.body ∧
        input.tenantId = other.tenantId ∧ input.timestampMs = other.timestampMs ∧
        input.nonce = other.nonce := by
  refine ⟨?_, ?_, ?_, ?_, ?_⟩
  · intro first second signed made also
    exact DeviceProof.eq_of_message made also
  · intro first second signed made also
    exact BridgeRequestProof.eq_of_message made also
  · intro challenge request signed made
    exact messages_apart made
  · intro root other purpose asked inner context about bytes made also
    obtain ⟨purposes, versions, rfl⟩ := eq_of_innerBytes bytes made also
    exact ⟨purposes, versions, rfl, rfl, rfl, rfl⟩
  · intro input other version another keyId also signed valid admitted validToo admittedToo made
    exact eq_of_canonicalSignatureInput valid admitted validToo admittedToo made

namespace SignedSamples

def tenantId : TenantId := ⟨⟨"tenant-signed-bytes", by decide⟩⟩
def actorId : ActorId := ⟨⟨"actor-signed-bytes", by decide⟩⟩
def deviceId : DeviceId := ⟨⟨"device-signed-bytes", by decide⟩⟩
def anotherDevice : DeviceId := ⟨⟨"device-signed-bytes-2", by decide⟩⟩

/-- One challenge, answered by one device or by another. -/
def challenge (device : DeviceId) : DeviceProof :=
  ⟨tenantId, actorId, device, List.replicate 32 71, 1790000000071, by decide⟩

/-- One request, by the route it takes. -/
def request (path : String) : SignatureInput :=
  ⟨"POST", path, [123, 125], "tenant-signed-bytes", 1790000000072, "0123456789abcdef0123456789abcdef"⟩

def resolve : SignatureInput := request "/v1/mailbox-credentials/resolve"
def discard : SignatureInput := request "/v1/mailbox-credentials/discard"

def canonical (input : SignatureInput) : Except ServiceAuthContractError Bytes :=
  canonicalSignatureInput keyedSignatureVersion (some "key-2026-09")
    (bodyDigestHex (List.take 32) input.body) input

theorem routes_apart :
    (∃ signed, (challenge deviceId).message = .ok signed ∧
      (challenge anotherDevice).message ≠ .ok signed) ∧
    ∃ signed, canonical resolve = .ok signed ∧ canonical discard ≠ .ok signed := by
  obtain ⟨challenges, -, -, -, requests⟩ := signed_bytes_injective (List.take 32)
  constructor
  · refine ⟨_, rfl, ?_⟩
    intro also
    have same := challenges (challenge deviceId) (challenge anotherDevice) _ rfl also
    have devices : deviceId = anotherDevice := congrArg DeviceProof.deviceId same
    exact absurd devices (by decide)
  · refine ⟨_, rfl, ?_⟩
    intro also
    have same := requests resolve discard keyedSignatureVersion keyedSignatureVersion
      (some "key-2026-09") (some "key-2026-09") _ (by decide) (by decide) (by decide) (by decide) rfl also
    exact absurd same.2.2.2.1 (by decide)

end SignedSamples

end ProfilePlatform
