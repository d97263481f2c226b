import ProfilePlatform.Foundation.Fallible
import ProfilePlatform.Foundation.Fields
import ProfilePlatform.Foundation.Frames
import ProfilePlatform.Primitives

/-! What the key material of a generation is derived from. -/

set_option autoImplicit false

namespace ProfilePlatform.Generation

open Foundation

inductive GenerationKeyDerivationError where
  | invalidRootKeyVersion | invalidKeyIdentity | invalidContext
  deriving DecidableEq, Repr

def kdfContextDomain : List UInt8 := utf8Bytes "profile-generation-kdf-context-v1"
def hmacSha256BlockBytes : Nat := 64

/-- Root keys have versions of thirty-two bits, from one on. -/
structure GenerationRootKey where
  version : Nat
  positive : version ≠ 0
  bounded : version < 0x100000000
  bytes : Block 32

structure GenerationKeyDerivationContext where
  tenantId : TenantId
  profileId : ProfileId
  generationId : GenerationId
  plaintextDigest : Block 32
  deriving DecidableEq

def updateFrame (hashed value : List UInt8) : Except GenerationKeyDerivationError (List UInt8) := do
  refuseIf (u64Limit ≤ value.length) .invalidContext
  return hashed ++ frame 8 value

/-- The block of the byte, with the key laid over its beginning. -/
def pad (byte : UInt8) (root : GenerationRootKey) : List UInt8 :=
  root.bytes.val.map (byte ^^^ ·) ++ List.replicate (hmacSha256BlockBytes - 32) byte

/-- What the inner digest is taken of. -/
def innerBytes (root : GenerationRootKey) (purpose : List UInt8)
    (context : GenerationKeyDerivationContext) :
    Except GenerationKeyDerivationError (List UInt8) := do
  let inner ← updateFrame (pad 0x36 root) kdfContextDomain
  let inner ← updateFrame inner purpose
  let inner ← updateFrame inner (bigEndian 4 root.version)
  let inner ← updateFrame inner (utf8Bytes context.tenantId.asStr)
  let inner ← updateFrame inner (utf8Bytes context.profileId.asStr)
  let inner ← updateFrame inner (utf8Bytes context.generationId.asStr)
  updateFrame inner context.plaintextDigest.val

def derivePrf (sha256 : List UInt8 → Block 32) (root : GenerationRootKey) (purpose : List UInt8)
    (context : GenerationKeyDerivationContext) : Except GenerationKeyDerivationError (Block 32) := do
  let inner ← innerBytes root purpose context
  return sha256 (pad 0x5c root ++ (sha256 inner).val)

section Injectivity

theorem updateFrame_eq_ok {hashed value after : List UInt8} :
    updateFrame hashed value = .ok after ↔
      value.length < capacity 8 ∧ after = hashed ++ frame 8 value := by
  unfold updateFrame
  rw [bind_eq_ok]
  constructor
  · rintro ⟨_, fits, same⟩
    cases same
    exact ⟨Nat.not_le.mp (refuseIf_eq_ok.mp fits), rfl⟩
  · rintro ⟨fits, rfl⟩
    exact ⟨(), refuseIf_passes (Nat.not_le.mpr fits), rfl⟩

variable {root : GenerationRootKey} {purpose inner : List UInt8}
  {context : GenerationKeyDerivationContext}

theorem innerBytes_eq_ok (made : innerBytes root purpose context = .ok inner) :
    purpose.length < capacity 8 ∧ (utf8Bytes context.tenantId.asStr).length < capacity 8 ∧
      (utf8Bytes context.profileId.asStr).length < capacity 8 ∧
      (utf8Bytes context.generationId.asStr).length < capacity 8 ∧
      inner = pad 0x36 root ++ (frame 8 kdfContextDomain ++ (frame 8 purpose ++
        (frame 8 (bigEndian 4 root.version) ++ (frame 8 (utf8Bytes context.tenantId.asStr) ++
          (frame 8 (utf8Bytes context.profileId.asStr) ++
            (frame 8 (utf8Bytes context.generationId.asStr) ++
              frame 8 context.plaintextDigest.val)))))) := by
  unfold innerBytes at made
  obtain ⟨_, domain, made⟩ := bind_eq_ok.mp made
  obtain ⟨_, asked, made⟩ := bind_eq_ok.mp made
  obtain ⟨_, version, made⟩ := bind_eq_ok.mp made
  obtain ⟨_, tenant, made⟩ := bind_eq_ok.mp made
  obtain ⟨_, profile, made⟩ := bind_eq_ok.mp made
  obtain ⟨_, generation, made⟩ := bind_eq_ok.mp made
  obtain ⟨-, rfl⟩ := updateFrame_eq_ok.mp domain
  obtain ⟨purposeFits, rfl⟩ := updateFrame_eq_ok.mp asked
  obtain ⟨-, rfl⟩ := updateFrame_eq_ok.mp version
  obtain ⟨tenantFits, rfl⟩ := updateFrame_eq_ok.mp tenant
  obtain ⟨profileFits, rfl⟩ := updateFrame_eq_ok.mp profile
  obtain ⟨generationFits, rfl⟩ := updateFrame_eq_ok.mp generation
  obtain ⟨-, rfl⟩ := updateFrame_eq_ok.mp made
  refine ⟨purposeFits, tenantFits, profileFits, generationFits, ?_⟩
  simp only [List.append_assoc]

theorem length_version (root : GenerationRootKey) : (bigEndian 4 root.version).length < capacity 8 := by
  rw [length_bigEndian]
  decide

theorem eq_of_innerBytes {other : GenerationRootKey} {asked : List UInt8}
    {about : GenerationKeyDerivationContext} (bytes : root.bytes = other.bytes)
    (made : innerBytes root purpose context = .ok inner) (also : innerBytes other asked about = .ok inner) :
    purpose = asked ∧ root.version = other.version ∧ context = about := by
  obtain ⟨purposeFits, tenantFits, profileFits, generationFits, rfl⟩ := innerBytes_eq_ok made
  obtain ⟨askedFits, tenantFits', profileFits', generationFits', same⟩ := innerBytes_eq_ok also
  have pads : pad 0x36 root = pad 0x36 other := by rw [pad, pad, bytes]
  rw [pads] at same
  have framed := List.append_cancel_left (List.append_cancel_left same)
  obtain ⟨purposes, framed⟩ := frame_cancel purposeFits askedFits framed
  obtain ⟨versions, framed⟩ := frame_cancel (length_version root) (length_version other) framed
  obtain ⟨tenants, framed⟩ := frame_cancel tenantFits tenantFits' framed
  obtain ⟨profiles, framed⟩ := frame_cancel profileFits profileFits' framed
  obtain ⟨generations, framed⟩ := frame_cancel generationFits generationFits' framed
  have digests : context.plaintextDigest = about.plaintextDigest := by
    have sized (digest : Block 32) : digest.val.length < capacity 8 := by
      rw [digest.property]
      decide
    have ends : frame 8 context.plaintextDigest.val ++ [] = frame 8 about.plaintextDigest.val ++ [] := by
      rw [framed]
    exact Subtype.ext (frame_cancel (sized _) (sized _) ends).1
  refine ⟨purposes, ?_, ?_⟩
  · rw [← ofBigEndian_bigEndian (show root.version < capacity 4 from root.bounded), versions,
      ofBigEndian_bigEndian (show other.version < capacity 4 from other.bounded)]
  · cases context
    cases about
    cases TypedId.ext_asStr (eq_of_utf8 tenants)
    cases TypedId.ext_asStr (eq_of_utf8 profiles)
    cases TypedId.ext_asStr (eq_of_utf8 generations)
    cases digests
    rfl

end Injectivity

end ProfilePlatform.Generation
