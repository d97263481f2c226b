import ProfilePlatform.Foundation.Residues
import ProfilePlatform.Foundation.Fields
import ProfilePlatform.Notifications.Delivery
import Mathlib.Tactic.NormNum.Prime

/-! Which jitter samples there are.

Every residue of the modulus is the hash of some event id: the ids of fifteen characters, in five
blocks of three, reach them all.
-/

set_option autoImplicit false

namespace ProfilePlatform.Notifications

open Foundation

abbrev Residue : Type := ZMod jitterHashModulus

instance jitterHashModulus_prime : Fact jitterHashModulus.Prime :=
  ⟨by unfold jitterHashModulus; norm_num⟩

section Blocks

/-- The bytes of ids, and those that begin a block: few enough that no two blocks have one hash. -/
def idBytes : Finset Nat := (Finset.range 128).filter fun byte => isIdByte (UInt8.ofNat byte) = true

def leadingBytes : Finset Nat := idBytes.filter fun byte => 65 ≤ byte

theorem mem_leadingBytes {byte : Nat} : byte ∈ leadingBytes ↔ byte ∈ idBytes ∧ 65 ≤ byte :=
  Finset.mem_filter

theorem card_idBytes : idBytes.card = 64 := by decide

theorem card_leadingBytes : leadingBytes.card = 53 := by decide

theorem idBytes_bounds : ∀ byte ∈ idBytes,
    isIdByte (UInt8.ofNat byte) = true ∧ 45 ≤ byte ∧ byte ≤ 122 := by decide

-- From here on only these facts count: nobody lists the bytes again.
attribute [irreducible] idBytes leadingBytes

def blockBytes (block : Nat × Nat × Nat) : List UInt8 :=
  [UInt8.ofNat block.1, UInt8.ofNat block.2.1, UInt8.ofNat block.2.2]

def blockValue (block : Nat × Nat × Nat) : Nat := (block.1 * 131 + block.2.1) * 131 + block.2.2

@[irreducible] def idBlocks : Finset (Nat × Nat × Nat) := leadingBytes ×ˢ idBytes ×ˢ idBytes

theorem mem_idBlocks {block : Nat × Nat × Nat} :
    block ∈ idBlocks ↔ block.1 ∈ leadingBytes ∧ block.2.1 ∈ idBytes ∧ block.2.2 ∈ idBytes := by
  rw [idBlocks, Finset.mem_product, Finset.mem_product]

def blockHashes : Finset Residue := idBlocks.image fun block => (blockValue block : Residue)

theorem blockValue_bounds {block : Nat × Nat × Nat} (member : block ∈ idBlocks) :
    1121405 ≤ blockValue block ∧ blockValue block ≤ 2109746 := by
  obtain ⟨first, middle, last⟩ := mem_idBlocks.mp member
  obtain ⟨leading, from65⟩ := mem_leadingBytes.mp first
  have firsts := idBytes_bounds _ leading
  have middles := idBytes_bounds _ middle
  have lasts := idBytes_bounds _ last
  unfold blockValue
  omega

/-- The bytes can be read off the value, since they differ by less than the base. -/
theorem eq_of_blockValue {block other : Nat × Nat × Nat} (member : block ∈ idBlocks)
    (also : other ∈ idBlocks) (same : blockValue block = blockValue other) : block = other := by
  obtain ⟨-, middle, last⟩ := mem_idBlocks.mp member
  obtain ⟨-, middle', last'⟩ := mem_idBlocks.mp also
  have middles := idBytes_bounds _ middle
  have middles' := idBytes_bounds _ middle'
  have lasts := idBytes_bounds _ last
  have lasts' := idBytes_bounds _ last'
  unfold blockValue at same
  have leads : block.1 = other.1 := by omega
  have seconds : block.2.1 = other.2.1 := by omega
  have thirds : block.2.2 = other.2.2 := by omega
  exact Prod.ext leads (Prod.ext seconds thirds)

theorem blockValue_injOn :
    Set.InjOn (fun block => (blockValue block : Residue)) (idBlocks : Set (Nat × Nat × Nat)) := by
  intro block member other also same
  have congruent : blockValue block % jitterHashModulus = blockValue other % jitterHashModulus :=
    (ZMod.natCast_eq_natCast_iff' _ _ _).mp same
  obtain ⟨low, high⟩ := blockValue_bounds member
  obtain ⟨low', high'⟩ := blockValue_bounds also
  refine eq_of_blockValue member also ?_
  generalize blockValue block = value at congruent low high
  generalize blockValue other = opposite at congruent low' high'
  unfold jitterHashModulus at congruent
  omega

theorem card_blockHashes : blockHashes.card = 217088 := by
  calc blockHashes.card
      = idBlocks.card := Finset.card_image_of_injOn blockValue_injOn
    _ = 53 * (64 * 64) := by
        rw [idBlocks, Finset.card_product, Finset.card_product, card_leadingBytes, card_idBytes]
    _ = 217088 := rfl

theorem horner_blockBytes {p : Nat} {block : Nat × Nat × Nat} (member : block ∈ idBlocks) :
    horner ((131 : Nat) : ZMod p) 0 (blockBytes block) = (blockValue block : ZMod p) := by
  obtain ⟨first, middle, last⟩ := mem_idBlocks.mp member
  have spelled (byte : Nat) (within : byte ∈ idBytes) : (UInt8.ofNat byte).toNat = byte := by
    have bounds := idBytes_bounds byte within
    rw [UInt8.toNat_ofNat']
    omega
  simp only [blockBytes, horner, List.foldl_cons, List.foldl_nil,
    spelled _ (mem_leadingBytes.mp first).1, spelled _ middle, spelled _ last, blockValue]
  push_cast
  ring

theorem isIdByte_blockBytes {block : Nat × Nat × Nat} (member : block ∈ idBlocks) :
    ∀ byte ∈ blockBytes block, isIdByte byte = true := by
  obtain ⟨first, middle, last⟩ := mem_idBlocks.mp member
  simp only [blockBytes, List.mem_cons, List.not_mem_nil, or_false]
  rintro byte (rfl | rfl | rfl)
  · exact (idBytes_bounds _ (mem_leadingBytes.mp first).1).1
  · exact (idBytes_bounds _ middle).1
  · exact (idBytes_bounds _ last).1

theorem spelled_of_mem_blockHashes {hash : Residue} (member : hash ∈ blockHashes) :
    ∃ bytes : List UInt8, bytes.length = 3 ∧ (∀ byte ∈ bytes, isIdByte byte = true) ∧
      horner ((131 : Nat) : Residue) 0 bytes = hash := by
  obtain ⟨block, within, rfl⟩ := Finset.mem_image.mp member
  exact ⟨blockBytes block, rfl, isIdByte_blockBytes within, horner_blockBytes within⟩

end Blocks

section Ids

theorem exists_id {bytes : List UInt8} (long : minIdLength ≤ bytes.length)
    (short : bytes.length ≤ maxIdLength) (plain : ∀ byte ∈ bytes, isIdByte byte = true) :
    ∃ eventId : OutboxEventId, utf8Bytes eventId.asStr = bytes := by
  have ascii (byte : UInt8) (id : isIdByte byte = true) : byte.toNat < 128 := by
    simp only [isIdByte, isAsciiAlphanumeric, Bool.or_eq_true, Bool.and_eq_true, decide_eq_true_eq,
      beq_iff_eq, UInt8.le_iff_toNat_le] at id
    rcases id with (((⟨-, small⟩ | ⟨-, small⟩) | ⟨-, small⟩) | rfl) | rfl
    · exact Nat.lt_of_le_of_lt small (by decide)
    · exact Nat.lt_of_le_of_lt small (by decide)
    · exact Nat.lt_of_le_of_lt small (by decide)
    · decide
    · decide
  let chars : List Char := bytes.map fun byte => Char.ofNat byte.toNat
  have code (byte : UInt8) (id : isIdByte byte = true) :
      (Char.ofNat byte.toNat).toNat = byte.toNat := by
    have small := ascii byte id
    rw [Char.ofNat, dif_pos (Or.inl (by omega))]
    rfl
  have spelled : utf8Bytes (String.ofList chars) = bytes := by
    refine (utf8_ofList ?_).trans ?_
    · intro char member
      obtain ⟨byte, within, rfl⟩ := List.mem_map.mp member
      rw [code byte (plain byte within)]
      exact ascii byte (plain byte within)
    · rw [List.map_map]
      refine (List.map_congr_left ?_).trans (List.map_id bytes)
      intro byte within
      simp only [Function.comp, code byte (plain byte within), UInt8.ofNat_toNat, id]
  refine ⟨⟨⟨String.ofList chars, ?_⟩⟩, spelled⟩
  simp only [OpaqueId.accepts, spelled, Bool.and_eq_true, decide_eq_true_eq]
  exact ⟨⟨long, short⟩, List.all_eq_true.mpr plain⟩

theorem blocks_reach_all (value : Residue) :
    value ∈ reached (((131 : Nat) : Residue) ^ 3) blockHashes 5 := by
  refine reached_all ?_ ?_ ?_ value
  · refine pow_ne_zero 3 fun divides => ?_
    rw [ZMod.natCast_eq_zero_iff] at divides
    exact absurd (Nat.le_of_dvd (by decide) divides) (by decide)
  · rw [← Finset.card_pos, card_blockHashes]
    decide
  · rw [card_blockHashes]
    decide

theorem exists_hash {value : Nat} (small : value < jitterHashModulus) : ∃ eventId : OutboxEventId,
    polynomialHash jitterHashModulus 131 (utf8Bytes eventId.asStr) = value := by
  obtain ⟨bytes, long, plain, hashed⟩ := exists_of_mem_reached
    (fun hash member => spelled_of_mem_blockHashes member) (blocks_reach_all (value : Residue))
  obtain ⟨eventId, spelled⟩ := exists_id (by rw [long]; decide) (by rw [long]; decide) plain
  refine ⟨eventId, ?_⟩
  have same : (polynomialHash jitterHashModulus 131 bytes : Residue) = (value : Residue) :=
    (cast_polynomialHash 131 bytes).trans hashed
  rw [spelled, ← Nat.mod_eq_of_lt small, ← (ZMod.natCast_eq_natCast_iff' _ _ _).mp same]
  exact (Nat.mod_eq_of_lt (polynomialHash_lt (by decide) 131 bytes)).symm

theorem exists_sample (failedAttempt : Nat) {value : Nat} (small : value < jitterHashModulus) :
    ∃ eventId : OutboxEventId, ∀ width,
      deterministicJitterSample eventId failedAttempt width = value % width := by
  let wanted : Residue := ((value : Residue) - (failedAttempt : Residue)) * ((257 : Nat) : Residue)⁻¹
  obtain ⟨eventId, hashed⟩ := exists_hash (ZMod.val_lt wanted)
  refine ⟨eventId, fun width => ?_⟩
  have drawn : (polynomialHash jitterHashModulus 131 (utf8Bytes eventId.asStr) * 257 + failedAttempt) %
      jitterHashModulus = value := by
    rw [hashed, ← Nat.mod_eq_of_lt small]
    refine (ZMod.natCast_eq_natCast_iff' _ _ _).mp ?_
    have invertible : ((257 : Nat) : Residue) ≠ 0 := by
      intro divides
      rw [ZMod.natCast_eq_zero_iff] at divides
      exact absurd (Nat.le_of_dvd (by decide) divides) (by decide)
    rw [Nat.cast_add, Nat.cast_mul, ZMod.natCast_zmod_val, inv_mul_cancel_right₀ invertible,
      sub_add_cancel]
  exact congrArg (· % width) drawn

end Ids

end ProfilePlatform.Notifications
