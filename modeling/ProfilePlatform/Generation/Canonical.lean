import ProfilePlatform.Generation.InMemory

/-! The encoding of metadata is canonical: what decodes is the encoding of what it decodes to. -/

set_option autoImplicit false

namespace ProfilePlatform.Generation

open Foundation

namespace GenerationMetadata

theorem utf8Bytes_of_fromUtf8 {bytes : List UInt8} {value : String}
    (read : fromUtf8 bytes = .ok value) : utf8Bytes value = bytes := by
  unfold fromUtf8 at read
  split at read
  next found text =>
    cases read
    unfold String.fromUTF8? at text
    split at text
    next valid =>
      cases text
      show bytes.toByteArray.data.toList = bytes
      rw [List.data_toByteArray]
    next => cases text
  next => cases read

theorem readString_spells : Cursor.Spells readString stringBytes := by
  intro unread value rest read
  obtain ⟨length, _, first, read⟩ := Cursor.bind_eq_ok.mp read
  obtain ⟨bytes, _, second, read⟩ := Cursor.bind_eq_ok.mp read
  obtain ⟨text, rfl⟩ := Cursor.lift_eq_ok.mp read
  rw [Cursor.Spells.number _ _ _ first, Cursor.Spells.take _ _ _ second, stringBytes,
    utf8Bytes_of_fromUtf8 text, bytes.property, List.append_assoc]

theorem readId_spells {kind : IdKind} :
    Cursor.Spells readId fun id : TypedId kind => stringBytes id.asStr := by
  refine readString_spells.check fun value id parsed => ?_
  rw [TypedId.asStr_of_parse (mapError_eq_ok.mp parsed)]

theorem readKeyId_spells : Cursor.Spells readKeyId fun keyId => stringBytes keyId.val := by
  refine readString_spells.check fun value keyId parsed => ?_
  unfold KeyId.parse at parsed
  split at parsed <;> cases parsed
  rfl

theorem readBase_spells : Cursor.Spells readBase baseBytes := by
  intro unread base rest read
  obtain ⟨tag, _, first, read⟩ := Cursor.bind_eq_ok.mp read
  rw [Cursor.Spells.number _ _ _ first]
  -- any tag but the two is refused
  split at read
  next absent =>
    cases read
    rw [absent]
    rfl
  next =>
    split at read
    next present =>
      obtain ⟨generationId, _, second, same⟩ := Cursor.bind_eq_ok.mp read
      cases same
      rw [present, readId_spells _ _ _ second]
      rfl
    next => cases read

theorem expectNumber_spells (expected : Nat) :
    Cursor.Spells (expectNumber expected) fun _ => bigEndian 2 expected := by
  refine Cursor.Spells.number.check fun value _ equal => ?_
  rw [Decidable.not_not.mp (refuseIf_eq_ok.mp equal)]

theorem readChunkSize_spells : Cursor.Spells readChunkSize fun size => bigEndian 4 size.val := by
  refine Cursor.Spells.number.check fun value size valid => ?_
  unfold validateChunkSize at valid
  split at valid <;> cases valid
  rfl

theorem readStreamLength_spells :
    Cursor.Spells readStreamLength fun bytes => bigEndian 8 bytes.val := by
  refine Cursor.Spells.number.check fun value bytes valid => ?_
  unfold validateStreamLength at valid
  split at valid <;> cases valid
  rfl

theorem decodeFields_spells : Cursor.Spells decodeFields encoding := by
  intro unread metadata rest read
  obtain ⟨_, _, version, read⟩ := Cursor.bind_eq_ok.mp read
  obtain ⟨_, _, algorithm, read⟩ := Cursor.bind_eq_ok.mp read
  obtain ⟨tenantId, _, tenant, read⟩ := Cursor.bind_eq_ok.mp read
  obtain ⟨profileId, _, profile, read⟩ := Cursor.bind_eq_ok.mp read
  obtain ⟨generationId, _, generation, read⟩ := Cursor.bind_eq_ok.mp read
  obtain ⟨baseGenerationId, _, base, read⟩ := Cursor.bind_eq_ok.mp read
  obtain ⟨keyId, _, key, read⟩ := Cursor.bind_eq_ok.mp read
  obtain ⟨noncePrefix, _, nonce, read⟩ := Cursor.bind_eq_ok.mp read
  obtain ⟨chunkSize, _, size, read⟩ := Cursor.bind_eq_ok.mp read
  obtain ⟨plaintextBytes, _, length, read⟩ := Cursor.bind_eq_ok.mp read
  obtain ⟨plaintextDigest, _, digest, same⟩ := Cursor.bind_eq_ok.mp read
  cases same
  rw [expectNumber_spells _ _ _ _ version, expectNumber_spells _ _ _ _ algorithm,
    readId_spells _ _ _ tenant, readId_spells _ _ _ profile, readId_spells _ _ _ generation,
    readBase_spells _ _ _ base, readKeyId_spells _ _ _ key, Cursor.Spells.take _ _ _ nonce,
    readChunkSize_spells _ _ _ size, readStreamLength_spells _ _ _ length,
    Cursor.Spells.take _ _ _ digest]
  simp only [encoding, List.append_assoc]

theorem eq_encoding_of_decode {bytes : List UInt8} {metadata : GenerationMetadata}
    (decoded : decode bytes = .ok metadata) : bytes = metadata.encoding := by
  unfold decode at decoded
  split at decoded
  · cases decoded
  next read =>
    cases decoded
    rw [decodeFields_spells _ _ _ read, List.append_nil]
  · cases decoded

end GenerationMetadata

end ProfilePlatform.Generation
