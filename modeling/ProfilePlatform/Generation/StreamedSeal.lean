import ProfilePlatform.Generation.Metadata
import ProfilePlatform.Generation.Records
import ProfilePlatform.Generation.Streaming

/-! The streaming writer over a source and a sink that do not fail, followed
against the in-memory writer record by record.
-/

set_option autoImplicit false

namespace ProfilePlatform.Generation

open Foundation

variable {σ τ : Type} {source : ReadSource σ} {sink : WriteSink τ} {held : σ → List UInt8}
  {taken : τ → List UInt8} {cipher : RecordCipher} {chunkSize : ChunkSize}

/-- The sink has taken `written` since the call began, and hash and count agree with it. -/
structure Outflow.At (taken : τ → List UInt8) (before : List UInt8) (out : Outflow τ)
    (written : List UInt8) : Prop where
  sink : taken out.sink = before ++ written
  hashed : out.hashed = written
  bytes : out.bytes = written.length
  bounded : written.length ≤ maxStreamContainerBytes

section Write

variable {before : List UInt8}

theorem streamWrite_sound (takes : sink.Takes taken) {out after : Outflow τ}
    {written data : List UInt8} (aligned : out.At taken before written)
    (wrote : streamWrite sink out data = .ok after) : after.At taken before (written ++ data) := by
  obtain ⟨next, counted, wrote⟩ := bind_eq_ok.mp wrote
  obtain ⟨received, sent, same⟩ := bind_eq_ok.mp wrote
  cases same
  obtain ⟨expected, writes, contents⟩ := takes.writes out.sink data
  cases writes.symm.trans (io_eq_ok.mp sent)
  obtain ⟨rfl, bounded⟩ := streamBytes_eq_ok.mp (crypto_eq_ok.mp counted)
  rw [aligned.bytes, ← List.length_append] at bounded ⊢
  exact ⟨by rw [contents, aligned.sink, List.append_assoc], by rw [aligned.hashed], rfl, bounded⟩

theorem streamWrite_complete (takes : sink.Takes taken) {out : Outflow τ}
    {written data : List UInt8} (aligned : out.At taken before written)
    (bounded : (written ++ data).length ≤ maxStreamContainerBytes) :
    ∃ after, streamWrite sink out data = .ok after ∧ after.At taken before (written ++ data) := by
  obtain ⟨received, writes, contents⟩ := takes.writes out.sink data
  have counted : streamBytes out.bytes data.length = .ok (written ++ data).length := by
    rw [aligned.bytes]
    exact streamBytes_eq_ok.mpr ⟨List.length_append, bounded⟩
  refine ⟨_, bind_eq_ok.mpr ⟨_, crypto_eq_ok.mpr counted,
    bind_eq_ok.mpr ⟨_, io_eq_ok.mpr writes, rfl⟩⟩, ?_⟩
  exact ⟨by rw [contents, aligned.sink, List.append_assoc], by rw [aligned.hashed], rfl, bounded⟩

theorem streamWrites_sound (takes : sink.Takes taken) {out after : Outflow τ}
    {written : List UInt8} {pieces : List (List UInt8)} (aligned : out.At taken before written)
    (wrote : streamWrites sink out pieces = .ok after) :
    after.At taken before (written ++ pieces.flatten) := by
  induction pieces generalizing out written with
  | nil =>
    cases wrote
    rwa [List.flatten_nil, List.append_nil]
  | cons piece rest ih =>
    obtain ⟨middle, first, wrote⟩ := bind_eq_ok.mp wrote
    rw [List.flatten_cons, ← List.append_assoc]
    exact ih (streamWrite_sound takes aligned first) wrote

theorem streamWrites_complete (takes : sink.Takes taken) {out : Outflow τ} {written : List UInt8}
    {pieces : List (List UInt8)} (aligned : out.At taken before written)
    (bounded : (written ++ pieces.flatten).length ≤ maxStreamContainerBytes) :
    ∃ after, streamWrites sink out pieces = .ok after ∧
      after.At taken before (written ++ pieces.flatten) := by
  induction pieces generalizing out written with
  | nil =>
    rw [List.flatten_nil, List.append_nil]
    exact ⟨out, rfl, aligned⟩
  | cons piece rest ih =>
    rw [List.flatten_cons, ← List.append_assoc] at bounded ⊢
    have first : (written ++ piece).length ≤ maxStreamContainerBytes := by
      rw [List.length_append] at bounded
      omega
    obtain ⟨middle, wrote, atMiddle⟩ := streamWrite_complete takes aligned first
    obtain ⟨after, rests, atAfter⟩ := ih atMiddle bounded
    exact ⟨after, bind_eq_ok.mpr ⟨middle, wrote, rests⟩, atAfter⟩

theorem streamRecord_sound (takes : sink.Takes taken) {out after : Outflow τ}
    {written ciphertext : List UInt8} {recordType index plaintextLength : Nat}
    {tooLong : EncryptedGenerationError} (aligned : out.At taken before written)
    (wrote : streamRecord sink out recordType index plaintextLength ciphertext tooLong = .ok after) :
    ∃ pushed, pushRecord written recordType index plaintextLength ciphertext tooLong = .ok pushed ∧
      after.At taken before pushed := by
  obtain ⟨middle, first, wrote⟩ := bind_eq_ok.mp wrote
  obtain ⟨_, short, second⟩ := bind_eq_ok.mp wrote
  have short := Nat.lt_of_not_le (crypto_refuseIf_eq_ok.mp short)
  have atAfter := streamWrites_sound takes (streamWrites_sound takes aligned first) second
  refine ⟨_, pushRecord_eq_ok.mpr ⟨short, rfl⟩, ?_⟩
  simpa only [List.flatten_cons, List.flatten_nil, List.append_nil, List.append_assoc,
    RecordHeader.bytes] using atAfter

theorem streamRecord_complete (takes : sink.Takes taken) {out : Outflow τ}
    {written ciphertext pushed : List UInt8} {recordType index plaintextLength : Nat}
    {tooLong : EncryptedGenerationError} (aligned : out.At taken before written)
    (pushes : pushRecord written recordType index plaintextLength ciphertext tooLong = .ok pushed)
    (bounded : pushed.length ≤ maxStreamContainerBytes) :
    ∃ after, streamRecord sink out recordType index plaintextLength ciphertext tooLong = .ok after ∧
      after.At taken before pushed := by
  obtain ⟨short, rfl⟩ := pushRecord_eq_ok.mp pushes
  have split : written ++ ((⟨recordType, index, plaintextLength, ciphertext.length⟩ :
      RecordHeader).bytes ++ ciphertext) =
      (written ++ [bigEndian 1 recordType, bigEndian 8 index, bigEndian 4 plaintextLength].flatten) ++
        [bigEndian 4 ciphertext.length, ciphertext].flatten := by
    simp only [List.flatten_cons, List.flatten_nil, List.append_nil, List.append_assoc,
      RecordHeader.bytes]
  rw [split] at bounded ⊢
  have first := bounded
  rw [List.length_append] at first
  obtain ⟨middle, wrote, atMiddle⟩ :=
    streamWrites_complete takes aligned (Nat.le_trans (Nat.le_add_right _ _) first)
  obtain ⟨after, rests, atAfter⟩ := streamWrites_complete takes atMiddle bounded
  exact ⟨after, bind_eq_ok.mpr ⟨middle, wrote, bind_eq_ok.mpr ⟨(),
    crypto_passes (Nat.not_le.mpr short), rests⟩⟩, atAfter⟩

theorem Outflow.start (taken : τ → List UInt8) (t : τ) :
    Outflow.At taken (taken t) ⟨t, [], 0⟩ [] :=
  ⟨(List.append_nil _).symm, rfl, rfl, Nat.zero_le _⟩

theorem flatten_prelude (metadataBytes : List UInt8) :
    [] ++ [magic, bigEndian 4 metadataBytes.length, metadataBytes].flatten =
      preludeBytes metadataBytes := by
  simp only [List.flatten_cons, List.flatten_nil, List.append_nil, List.nil_append, preludeBytes]

theorem streamPrelude_sound (takes : sink.Takes taken) {t : τ} {metadataBytes : List UInt8}
    {out : Outflow τ}
    (wrote : streamWrites sink ⟨t, [], 0⟩
      [magic, bigEndian 4 metadataBytes.length, metadataBytes] = .ok out) :
    out.At taken (taken t) (preludeBytes metadataBytes) := by
  have aligned := streamWrites_sound takes (Outflow.start taken t) wrote
  rwa [flatten_prelude] at aligned

theorem streamPrelude_complete (takes : sink.Takes taken) (t : τ) (metadataBytes : List UInt8)
    (bounded : (preludeBytes metadataBytes).length ≤ maxStreamContainerBytes) :
    ∃ out, streamWrites sink ⟨t, [], 0⟩
        [magic, bigEndian 4 metadataBytes.length, metadataBytes] = .ok out ∧
      out.At taken (taken t) (preludeBytes metadataBytes) := by
  rw [← flatten_prelude] at bounded ⊢
  exact streamWrites_complete takes (Outflow.start taken t) bounded

end Write

section Seal

variable {before : List UInt8}

theorem sealChunks_grows {container after : List UInt8} {index next : Nat}
    {pieces : List (List UInt8)}
    (sealed : sealChunks cipher container index pieces = .ok (after, next)) :
    container <+: after := by
  induction pieces generalizing container index with
  | nil =>
    cases sealed
    exact List.prefix_rfl
  | cons piece rest ih =>
    obtain ⟨ciphertext, -, sealed⟩ := bind_eq_ok.mp sealed
    obtain ⟨pushed, push, sealed⟩ := bind_eq_ok.mp sealed
    obtain ⟨_, -, sealed⟩ := bind_eq_ok.mp sealed
    obtain ⟨-, rfl⟩ := pushRecord_eq_ok.mp push
    exact (List.prefix_append _ _).trans (ih sealed)

theorem streamChunks_sound (holds : source.Holds held) (takes : sink.Takes taken)
    {remaining : Nat} {progress last : SealProgress σ τ} {written : List UInt8}
    (aligned : progress.out.At taken before written)
    (streamed : streamChunks source sink cipher chunkSize remaining progress = .ok last) :
    ∃ text after, held progress.source = text ++ held last.source ∧ text.length = remaining ∧
      last.originalHashed = progress.originalHashed ++ text ∧
      sealChunks cipher written progress.index (chunks chunkSize.val text) =
        .ok (after, last.index) ∧
      last.out.At taken before after := by
  have positive : 0 < chunkSize.val := Nat.lt_of_lt_of_le (by decide) chunkSize.property.1
  induction remaining using Nat.strongRecOn generalizing progress written with
  | ind remaining ih =>
    rw [streamChunks] at streamed
    split at streamed
    next none =>
      cases streamed
      refine ⟨[], written, rfl, none.symm, (List.append_nil _).symm, ?_, aligned⟩
      rw [chunks_nil]
      rfl
    next some =>
      obtain ⟨middle, first, streamed⟩ := bind_eq_ok.mp streamed
      obtain ⟨⟨chunk, rest⟩, read, first⟩ := bind_eq_ok.mp first
      obtain ⟨ciphertext, encrypted, first⟩ := bind_eq_ok.mp first
      obtain ⟨out, wrote, first⟩ := bind_eq_ok.mp first
      obtain ⟨index, indexed, same⟩ := bind_eq_ok.mp first
      cases same
      obtain ⟨split, sized⟩ := holds.readExact_eq_ok (io_eq_ok.mp read)
      rw [← sized] at wrote
      obtain ⟨pushed, push, atPushed⟩ := streamRecord_sound takes aligned wrote
      obtain ⟨text, after, left, total, hashed, sealed, atAfter⟩ :=
        ih (remaining - min remaining chunkSize.val) (by omega) atPushed streamed
      refine ⟨chunk ++ text, after, ?_, ?_, ?_, ?_, atAfter⟩
      · rw [split, left, List.append_assoc]
      · rw [List.length_append]
        omega
      · rw [hashed, List.append_assoc]
      -- a short chunk is the last one, so cutting the whole text gives the same pieces
      · have full : chunk.length = chunkSize.val ∨ text = [] := by
          by_cases more : chunkSize.val ≤ remaining
          · exact .inl (by omega)
          · exact .inr (List.eq_nil_of_length_eq_zero (by omega))
        rw [chunks_append (by omega) (by omega) full]
        exact bind_eq_ok.mpr ⟨_, crypto_eq_ok.mp encrypted, bind_eq_ok.mpr ⟨_, push,
          bind_eq_ok.mpr ⟨_, crypto_eq_ok.mp indexed, sealed⟩⟩⟩

theorem streamChunks_complete (holds : source.Holds held) (takes : sink.Takes taken)
    {progress : SealProgress σ τ} {written text more after : List UInt8} {next : Nat}
    (aligned : progress.out.At taken before written) (split : held progress.source = text ++ more)
    (sealed : sealChunks cipher written progress.index (chunks chunkSize.val text) =
      .ok (after, next))
    (bounded : after.length ≤ maxStreamContainerBytes) :
    ∃ last, streamChunks source sink cipher chunkSize text.length progress = .ok last ∧
      held last.source = more ∧ last.index = next ∧
      last.originalHashed = progress.originalHashed ++ text ∧ last.out.At taken before after := by
  have positive : 0 < chunkSize.val := Nat.lt_of_lt_of_le (by decide) chunkSize.property.1
  induction size : text.length using Nat.strongRecOn generalizing progress written text with
  | ind size ih =>
    subst size
    rw [streamChunks]
    split
    next none =>
      cases List.eq_nil_of_length_eq_zero none
      rw [chunks_nil] at sealed
      cases sealed
      exact ⟨progress, rfl, split, rfl, (List.append_nil _).symm, aligned⟩
    next some =>
      rw [chunks_cons positive (List.ne_nil_of_length_pos (Nat.pos_of_ne_zero some))] at sealed
      obtain ⟨ciphertext, encrypted, sealed⟩ := bind_eq_ok.mp sealed
      obtain ⟨pushed, push, sealed⟩ := bind_eq_ok.mp sealed
      obtain ⟨index, indexed, sealed⟩ := bind_eq_ok.mp sealed
      have firstFits := Nat.le_trans (sealChunks_grows sealed).length_le bounded
      have cut : (text.take chunkSize.val).length = min text.length chunkSize.val := by
        rw [List.length_take, Nat.min_comm]
      have splitFirst : held progress.source =
          text.take chunkSize.val ++ (text.drop chunkSize.val ++ more) := by
        rw [split, ← List.append_assoc, List.take_append_drop]
      obtain ⟨rest, read, left⟩ := holds.readExact splitFirst
      obtain ⟨out, wrote, atOut⟩ := streamRecord_complete takes aligned push firstFits
      rw [cut] at read wrote
      have count : (text.drop chunkSize.val).length =
          text.length - min text.length chunkSize.val := by
        rw [List.length_drop]
        omega
      let advanced : SealProgress σ τ :=
        ⟨rest, out, progress.originalHashed ++ text.take chunkSize.val, index⟩
      obtain ⟨last, streamed, heldLast, indexLast, hashed, atLast⟩ :=
        @ih _ (by omega) advanced pushed (text.drop chunkSize.val) atOut left sealed count
      refine ⟨last, ?_, heldLast, indexLast, ?_, atLast⟩
      · refine bind_eq_ok.mpr ⟨advanced, ?_, streamed⟩
        exact bind_eq_ok.mpr ⟨_, io_eq_ok.mpr read, bind_eq_ok.mpr ⟨_, crypto_eq_ok.mpr encrypted,
          bind_eq_ok.mpr ⟨_, wrote, bind_eq_ok.mpr ⟨_, crypto_eq_ok.mpr indexed, rfl⟩⟩⟩⟩
      · rw [hashed, List.append_assoc, List.take_append_drop]

theorem sealRecords_eq_ok {prelude container : List UInt8} {pieces : List (List UInt8)} :
    sealRecords cipher prelude pieces = .ok container ↔
      ∃ chunked count tag, sealChunks cipher prelude 0 pieces = .ok (chunked, count) ∧
        cipher.encrypt recordFinal count [] = .ok tag ∧
        pushRecord chunked recordFinal count 0 tag .invalidContainer = .ok container := by
  constructor
  · intro sealed
    obtain ⟨⟨chunked, count⟩, chunks, sealed⟩ := bind_eq_ok.mp sealed
    obtain ⟨tag, encrypted, push⟩ := bind_eq_ok.mp sealed
    exact ⟨chunked, count, tag, chunks, encrypted, push⟩
  · rintro ⟨chunked, count, tag, chunks, encrypted, push⟩
    exact bind_eq_ok.mpr ⟨_, chunks, bind_eq_ok.mpr ⟨_, encrypted, push⟩⟩

/-- A streamed container is the one the in-memory writer would seal of what the source held. -/
theorem sealGenerationStreaming_sound (holds : source.Holds held) (takes : sink.Takes taken)
    {aead : Aead} {sha256 : Sha256} {metadata : GenerationMetadata} {key : GenerationDek} {s : σ}
    {t after : τ} {report : StreamingGenerationReport}
    (streamed : sealGenerationStreaming source sink aead sha256 metadata key s t =
      .ok (report, after)) :
    Sealable sha256 metadata key (held s) ∧
      ∃ container, sealRecords (metadata.cipher aead key (sha256 metadata.encoding))
          (preludeBytes metadata.encoding) (chunks metadata.chunkSize.val (held s)) =
            .ok container ∧
        container.length ≤ maxStreamContainerBytes ∧
        report = .of sha256 metadata metadata.encoding container ∧
        taken after = taken t ++ container := by
  obtain ⟨_, keyed, streamed⟩ := bind_eq_ok.mp streamed
  obtain ⟨_, -, streamed⟩ := bind_eq_ok.mp streamed
  obtain ⟨metadataBytes, encoded, streamed⟩ := bind_eq_ok.mp streamed
  obtain ⟨out, prelude, streamed⟩ := bind_eq_ok.mp streamed
  obtain ⟨progress, chunked, streamed⟩ := bind_eq_ok.mp streamed
  obtain ⟨⟨trailing, exhausted⟩, probe, streamed⟩ := bind_eq_ok.mp streamed
  obtain ⟨_, checked, streamed⟩ := bind_eq_ok.mp streamed
  obtain ⟨tag, encrypted, streamed⟩ := bind_eq_ok.mp streamed
  obtain ⟨closed, final, same⟩ := bind_eq_ok.mp streamed
  cases same
  cases metadata.encode_eq.symm.trans (crypto_eq_ok.mp encoded)
  have atPrelude := streamPrelude_sound takes prelude
  obtain ⟨text, sealedChunks, split, total, hashed, sealed, atChunks⟩ :=
    streamChunks_sound holds takes atPrelude chunked
  obtain ⟨container, push, atEnd⟩ := streamRecord_sound takes atChunks final
  obtain ⟨piece, _, read, ended⟩ := holds.read_one progress.source
  cases read.symm.trans (io_eq_ok.mp probe)
  have checked := not_or.mp (crypto_refuseIf_eq_ok.mp checked)
  -- the probe came back empty, so the source held the chunks and nothing else
  rw [ended.mp (Decidable.not_not.mp checked.1), List.append_nil] at split
  have whole : progress.originalHashed = text := hashed
  have split : held s = text := split
  rw [whole] at checked
  rw [split]
  refine ⟨⟨Decidable.not_not.mp (crypto_refuseIf_eq_ok.mp keyed), total,
    Decidable.not_not.mp checked.2⟩, container, ?_, atEnd.bounded, ?_, atEnd.sink⟩
  · exact sealRecords_eq_ok.mpr ⟨_, _, _, sealed, crypto_eq_ok.mp encrypted, push⟩
  · rw [StreamingGenerationReport.of, atEnd.hashed, atEnd.bytes]

/-- Whatever can be sealed in memory can be streamed, while it fits the larger limit. -/
theorem sealGenerationStreaming_complete (holds : source.Holds held) (takes : sink.Takes taken)
    {aead : Aead} {sha256 : Sha256} {metadata : GenerationMetadata} {key : GenerationDek} {s : σ}
    (t : τ) {container : List UInt8} (sealable : Sealable sha256 metadata key (held s))
    (sealed : sealRecords (metadata.cipher aead key (sha256 metadata.encoding))
      (preludeBytes metadata.encoding) (chunks metadata.chunkSize.val (held s)) = .ok container)
    (bounded : container.length ≤ maxStreamContainerBytes) :
    ∃ after, sealGenerationStreaming source sink aead sha256 metadata key s t =
        .ok (.of sha256 metadata metadata.encoding container, after) ∧
      taken after = taken t ++ container := by
  obtain ⟨chunked, count, tag, chunks, encrypted, push⟩ := sealRecords_eq_ok.mp sealed
  have grown := (sealChunks_grows chunks).length_le
  have pushed : chunked.length ≤ container.length := by
    obtain ⟨-, rfl⟩ := pushRecord_eq_ok.mp push
    rw [List.length_append]
    exact Nat.le_add_right _ _
  obtain ⟨out, prelude, atPrelude⟩ :=
    streamPrelude_complete takes t metadata.encoding (by omega)
  let begun : SealProgress σ τ := ⟨s, out, [], 0⟩
  obtain ⟨progress, streamed, left, indexed, hashed, atChunks⟩ :=
    @streamChunks_complete _ _ _ _ _ _ _ _ _ holds takes begun _ (held s) [] _ _ atPrelude
      (List.append_nil _).symm chunks (by omega)
  obtain ⟨closed, final, atEnd⟩ := streamRecord_complete takes atChunks push bounded
  obtain ⟨piece, rest, read, ended⟩ := holds.read_one progress.source
  have whole : progress.originalHashed = held s := hashed
  have unchanged : ¬(piece ≠ [] ∨ sha256 progress.originalHashed ≠ metadata.plaintextDigest) := by
    rw [whole]
    exact not_or.mpr ⟨not_not_intro (ended.mpr left), not_not_intro sealable.digest⟩
  rw [sealable.total] at streamed
  rw [← indexed] at encrypted final
  refine ⟨closed.sink, ?_, atEnd.sink⟩
  refine bind_eq_ok.mpr ⟨(), crypto_passes (not_not_intro sealable.keyed), ?_⟩
  refine bind_eq_ok.mpr ⟨(), crypto_passes (Nat.not_lt.mpr metadata.plaintextBytes.property), ?_⟩
  refine bind_eq_ok.mpr ⟨_, crypto_eq_ok.mpr metadata.encode_eq, ?_⟩
  refine bind_eq_ok.mpr ⟨out, prelude, ?_⟩
  refine bind_eq_ok.mpr ⟨progress, streamed, ?_⟩
  refine bind_eq_ok.mpr ⟨(piece, rest), io_eq_ok.mpr read, ?_⟩
  refine bind_eq_ok.mpr ⟨(), crypto_passes unchanged, ?_⟩
  refine bind_eq_ok.mpr ⟨tag, crypto_eq_ok.mpr encrypted, ?_⟩
  refine bind_eq_ok.mpr ⟨closed, final, ?_⟩
  simp only [StreamingGenerationReport.of, atEnd.hashed, atEnd.bytes]
  rfl

end Seal

end ProfilePlatform.Generation
