import ProfilePlatform.Generation.Metadata
import ProfilePlatform.Generation.Records

/-! The in-memory reader accepts exactly the containers that open, up to its two
size limits; the in-memory writer, exactly the plaintext its metadata describes.
-/

set_option autoImplicit false

namespace ProfilePlatform.Generation

open Foundation

variable {cipher : RecordCipher} {chunkSize : ChunkSize}

/-- What a record that passed every check does to the progress of the reader. -/
inductive Accepted (chunkSize : ChunkSize) (progress : OpenProgress) (header : RecordHeader) :
    List UInt8 → OpenProgress → Prop where
  | chunk {opened : List UInt8} (shape : header = .chunk header.index opened.length)
      (positive : 0 < opened.length) (small : opened.length ≤ chunkSize.val)
      (within : progress.plaintext.length + opened.length ≤ maxPlaintextBytes)
      (fits : progress.expectedIndex + 1 < capacity 8) :
      Accepted chunkSize progress header opened
        ⟨progress.plaintext ++ opened, progress.expectedIndex + 1, progress.finalSeen⟩
  | final (shape : header = .final header.index) :
      Accepted chunkSize progress header [] { progress with finalSeen := true }

theorem accept_eq_ok {progress next : OpenProgress} {header : RecordHeader} {opened : List UInt8} :
    progress.accept chunkSize.val header opened = .ok next ↔
      Accepted chunkSize progress header opened next := by
  obtain ⟨recordType, index, plaintextLength, ciphertextLength⟩ := header
  constructor
  · intro accepted
    unfold OpenProgress.accept at accepted
    split at accepted
    next isChunk =>
      obtain ⟨_, lengths, accepted⟩ := bind_eq_ok.mp accepted
      obtain ⟨_, within, accepted⟩ := bind_eq_ok.mp accepted
      obtain ⟨_, indexed, same⟩ := bind_eq_ok.mp accepted
      have lengths := refuseIf_eq_ok.mp lengths
      have within := refuseIf_eq_ok.mp within
      obtain ⟨rfl, fits⟩ := nextIndex_eq_ok.mp indexed
      simp only [not_or, Decidable.not_not] at lengths
      obtain ⟨positive, small, sized, rfl⟩ := lengths
      cases same
      cases isChunk
      cases sized
      exact .chunk rfl (Nat.pos_of_ne_zero positive) (Nat.le_of_not_lt small)
        (Nat.le_of_not_lt within) fits
    next =>
      split at accepted
      next isFinal =>
        obtain ⟨_, lengths, same⟩ := bind_eq_ok.mp accepted
        have lengths := refuseIf_eq_ok.mp lengths
        simp only [not_or, Decidable.not_not] at lengths
        obtain ⟨rfl, rfl, rfl⟩ := lengths
        cases same
        cases isFinal
        exact .final rfl
      next => cases accepted
  · intro accepted
    unfold OpenProgress.accept
    cases accepted with
    | chunk shape positive small within fits =>
      rw [shape]
      refine bind_eq_ok.mpr ⟨(), refuseIf_passes ?_, ?_⟩
      · simp only [RecordHeader.chunk, not_or, Decidable.not_not]
        exact ⟨Nat.ne_of_gt positive, Nat.not_lt.mpr small, trivial, trivial⟩
      · refine bind_eq_ok.mpr ⟨(), refuseIf_passes (Nat.not_lt.mpr within), ?_⟩
        exact bind_eq_ok.mpr ⟨_, nextIndex_eq_ok.mpr ⟨rfl, fits⟩, rfl⟩
    | final shape =>
      rw [shape]
      refine bind_eq_ok.mpr ⟨(), refuseIf_passes ?_, rfl⟩
      simp [RecordHeader.final]

theorem openRecords_nil (progress : OpenProgress) :
    openRecords cipher chunkSize.val progress [] = .ok progress := by
  unfold openRecords
  exact if_pos rfl

theorem openRecords_cons {progress next : OpenProgress} {unread rest : List UInt8}
    (record : openRecord cipher chunkSize.val progress unread = .ok (next, rest)) :
    openRecords cipher chunkSize.val progress unread =
      openRecords cipher chunkSize.val next rest := by
  have shorter := openRecord_shrinks record
  rw [openRecords, if_neg (List.ne_nil_of_length_pos (by omega))]
  split
  next failed =>
    rw [record] at failed
    cases failed
  next found =>
    rw [record] at found
    cases found
    rfl

theorem openRecords_finished {progress last : OpenProgress} {unread : List UInt8}
    (finished : progress.finalSeen = true)
    (opened : openRecords cipher chunkSize.val progress unread = .ok last) :
    unread = [] ∧ last = progress := by
  unfold openRecords at opened
  split at opened
  next done =>
    cases opened
    exact ⟨done, rfl⟩
  next =>
    split at opened
    next => cases opened
    next record =>
      obtain ⟨header, ciphertext, plaintext, record⟩ := openRecord_eq_ok.mp record
      exact absurd finished record.unfinished

theorem records_of_openRecords {progress last : OpenProgress} {unread : List UInt8}
    (unfinished : progress.finalSeen = false) (fits : progress.expectedIndex < capacity 8)
    (opened : openRecords cipher chunkSize.val progress unread = .ok last)
    (complete : last.finalSeen = true) :
    ∃ text, Records cipher chunkSize progress.expectedIndex unread text ∧
      last.plaintext = progress.plaintext ++ text := by
  induction size : unread.length using Nat.strongRecOn generalizing progress unread with
  | ind size ih =>
    subst size
    rw [openRecords] at opened
    split at opened
    next =>
      cases opened
      rw [unfinished] at complete
      cases complete
    next =>
      split at opened
      next => cases opened
      next next rest found =>
        have shorter := openRecord_shrinks found
        obtain ⟨header, ciphertext, plaintext, record⟩ := openRecord_eq_ok.mp found
        obtain ⟨-, headerFits, rfl, inOrder, length, decrypted, accepted⟩ := record
        rw [inOrder] at decrypted
        cases accept_eq_ok.mp accepted with
        | chunk shape positive small within nextFits =>
          rw [shape, inOrder] at length decrypted ⊢
          let advanced : OpenProgress :=
            ⟨progress.plaintext ++ plaintext, progress.expectedIndex + 1, progress.finalSeen⟩
          obtain ⟨text, records, whole⟩ :=
            @ih rest.length shorter advanced rest unfinished nextFits opened rfl
          refine ⟨plaintext ++ text, .chunk nextFits positive small length decrypted records, ?_⟩
          rw [whole]
          exact List.append_assoc _ _ _
        -- after the final record an accepted run has read everything
        | final shape =>
          rw [shape, inOrder] at length decrypted ⊢
          obtain ⟨rfl, rfl⟩ := openRecords_finished rfl opened
          rw [List.append_nil]
          exact ⟨[], .final fits length decrypted, (List.append_nil _).symm⟩

/-- Every sequence of records is accepted, while the plaintext stays within the limit. -/
theorem openRecords_of_records {index : Nat} {body text : List UInt8}
    (records : Records cipher chunkSize index body text) {progress : OpenProgress}
    (inOrder : progress.expectedIndex = index) (unfinished : progress.finalSeen = false)
    (within : progress.plaintext.length + text.length ≤ maxPlaintextBytes) :
    ∃ last, openRecords cipher chunkSize.val progress body = .ok last ∧
      last.finalSeen = true ∧ last.plaintext = progress.plaintext ++ text := by
  have going : ¬progress.finalSeen = true := by rw [unfinished]; decide
  induction records generalizing progress with
  | @final index tag fits length opens =>
    have accepted : Accepted chunkSize progress (.final index) [] _ := .final rfl
    have record : Opened cipher chunkSize.val progress _ _ [] (.final index) tag [] :=
      ⟨going, RecordHeader.final_fits fits, by rw [List.append_nil], inOrder.symm, length, opens,
        accept_eq_ok.mpr accepted⟩
    have opened := openRecords_cons (openRecord_eq_ok.mpr ⟨_, _, _, record⟩)
    exact ⟨_, opened.trans (openRecords_nil _), rfl, (List.append_nil _).symm⟩
  | @chunk index opened ciphertext body rest fits positive small length opens more ih =>
    rw [List.length_append] at within
    have accepted : Accepted chunkSize progress (.chunk index opened.length) opened _ :=
      .chunk rfl positive small (by omega) (by rw [inOrder]; exact fits)
    have record : Opened cipher chunkSize.val progress _ _ body (.chunk index opened.length)
        ciphertext opened :=
      ⟨going, RecordHeader.chunk_fits (Nat.lt_of_succ_lt fits) small, rfl, inOrder.symm, length,
        opens, accept_eq_ok.mpr accepted⟩
    let advanced : OpenProgress :=
      ⟨progress.plaintext ++ opened, progress.expectedIndex + 1, progress.finalSeen⟩
    obtain ⟨last, rests, finished, whole⟩ :=
      @ih advanced (congrArg Nat.succ inOrder) unfinished
        (by simp only [advanced, List.length_append]; omega) going
    have first := openRecords_cons (openRecord_eq_ok.mpr ⟨_, _, _, record⟩)
    refine ⟨last, first.trans rests, finished, ?_⟩
    rw [whole]
    exact List.append_assoc _ _ _

theorem readMetadata_eq_ok {container metadataBytes body : List UInt8} :
    readMetadata container = .ok (metadataBytes, body) ↔
      container = preludeBytes metadataBytes ++ body ∧ metadataBytes.length ≠ 0 ∧
        metadataBytes.length ≤ maxMetadataBytes := by
  constructor
  · intro read
    obtain ⟨start, _, first, read⟩ := Cursor.bind_eq_ok.mp read
    obtain ⟨_, _, isMagic, read⟩ := Cursor.bind_eq_ok.mp read
    obtain ⟨length, _, second, read⟩ := Cursor.bind_eq_ok.mp read
    obtain ⟨_, _, sized, read⟩ := Cursor.bind_eq_ok.mp read
    obtain ⟨bytes, _, third, same⟩ := Cursor.bind_eq_ok.mp read
    cases same
    obtain ⟨starts, rfl⟩ := Cursor.lift_eq_ok.mp isMagic
    obtain ⟨bounded, rfl⟩ := Cursor.lift_eq_ok.mp sized
    obtain ⟨-, rfl⟩ := Cursor.number_eq_ok.mp second
    cases Cursor.take_eq_ok.mp first
    cases Cursor.take_eq_ok.mp third
    have starts := Decidable.not_not.mp (refuseIf_eq_ok.mp starts)
    have bounded := not_or.mp (refuseIf_eq_ok.mp bounded)
    rw [starts, bytes.property]
    refine ⟨?_, bounded.1, Nat.le_of_not_lt bounded.2⟩
    simp only [preludeBytes, bytes.property, List.append_assoc]
  · rintro ⟨rfl, nonempty, short⟩
    have wide : maxMetadataBytes < capacity 4 := by decide
    have reads : Cursor.Reads readMetadata (preludeBytes metadataBytes) metadataBytes := by
      refine (Cursor.Reads.take ⟨magic, rfl⟩).bind ?_
      refine Cursor.Reads.check (refuseIf_passes (not_not_intro rfl)) ?_
      refine (Cursor.Reads.number (Nat.lt_of_le_of_lt short wide)).bind ?_
      refine Cursor.Reads.check
        (refuseIf_passes (not_or.mpr ⟨nonempty, Nat.not_lt.mpr short⟩)) ?_
      exact (Cursor.Reads.take ⟨metadataBytes, rfl⟩).finish (Cursor.Reads.pure metadataBytes)
    exact reads body

theorem inspectGenerationMetadataPrelude_eq_ok {sha256 : Sha256} {container : List UInt8}
    {inspected : InspectedGenerationMetadataPrelude} :
    inspectGenerationMetadataPrelude sha256 container = .ok inspected ↔
      container.length ≤ maxContainerBytes ∧ ∃ metadataBytes body metadata,
        readMetadata container = .ok (metadataBytes, body) ∧
        GenerationMetadata.decode metadataBytes = .ok metadata ∧
        inspected = ⟨metadata, sha256 metadataBytes, container.length - body.length⟩ := by
  constructor
  · intro inspection
    obtain ⟨_, fits, inspection⟩ := bind_eq_ok.mp inspection
    obtain ⟨⟨metadataBytes, body⟩, read, inspection⟩ := bind_eq_ok.mp inspection
    obtain ⟨metadata, decoded, same⟩ := bind_eq_ok.mp inspection
    cases same
    exact ⟨Nat.le_of_not_lt (refuseIf_eq_ok.mp fits), metadataBytes, body, metadata, read, decoded,
      rfl⟩
  · rintro ⟨fits, metadataBytes, body, metadata, read, decoded, rfl⟩
    exact bind_eq_ok.mpr ⟨(), refuseIf_passes (Nat.not_lt.mpr fits),
      bind_eq_ok.mpr ⟨_, read, bind_eq_ok.mpr ⟨_, decoded, rfl⟩⟩⟩

/-- The in-memory reader accepts a container that fits, opens, and announces a
plaintext that fits; nothing else. -/
theorem openGeneration_eq_ok {aead : Aead} {sha256 : Sha256} {container : List UInt8}
    {key : GenerationDek} {metadata : GenerationMetadata} {plaintext : List UInt8} :
    openGeneration aead sha256 container key = .ok ⟨metadata, plaintext⟩ ↔
      container.length ≤ maxContainerBytes ∧ metadata.plaintextBytes.val ≤ maxPlaintextBytes ∧
        ∃ metadataBytes body, Opens aead sha256 key container metadata plaintext metadataBytes body := by
  constructor
  · intro opened
    obtain ⟨inspected, inspection, opened⟩ := bind_eq_ok.mp opened
    obtain ⟨_, keyed, opened⟩ := bind_eq_ok.mp opened
    obtain ⟨_, small, opened⟩ := bind_eq_ok.mp opened
    obtain ⟨last, records, opened⟩ := bind_eq_ok.mp opened
    obtain ⟨_, complete, opened⟩ := bind_eq_ok.mp opened
    obtain ⟨_, total, opened⟩ := bind_eq_ok.mp opened
    obtain ⟨_, digest, same⟩ := bind_eq_ok.mp opened
    cases same
    obtain ⟨fits, metadataBytes, body, metadata, read, decoded, rfl⟩ :=
      inspectGenerationMetadataPrelude_eq_ok.mp inspection
    obtain ⟨rfl, nonempty, short⟩ := readMetadata_eq_ok.mp read
    simp only [List.length_append, Nat.add_sub_cancel, List.drop_left] at records
    obtain ⟨text, records, whole⟩ := records_of_openRecords rfl (by decide) records
      (Decidable.not_not.mp (refuseIf_eq_ok.mp complete))
    have same : last.plaintext = text := whole
    rw [same] at total digest ⊢
    exact ⟨fits, Nat.le_of_not_lt (refuseIf_eq_ok.mp small), metadataBytes, body, rfl, nonempty, short, decoded,
      Decidable.not_not.mp (refuseIf_eq_ok.mp keyed), records,
      Decidable.not_not.mp (refuseIf_eq_ok.mp total),
      Decidable.not_not.mp (refuseIf_eq_ok.mp digest)⟩
  · rintro ⟨fits, small, metadataBytes, body, opens⟩
    have total : ([] : List UInt8).length + plaintext.length ≤ maxPlaintextBytes := by
      rw [List.length_nil, Nat.zero_add, opens.total]
      exact small
    obtain ⟨last, records, complete, whole⟩ :=
      @openRecords_of_records _ _ _ _ _ opens.records ⟨[], 0, false⟩ rfl rfl total
    have whole : last.plaintext = plaintext := whole
    have read := readMetadata_eq_ok.mpr ⟨opens.framed, opens.nonempty, opens.short⟩
    have inspected : inspectGenerationMetadataPrelude sha256 container =
        .ok ⟨metadata, sha256 metadataBytes, container.length - body.length⟩ :=
      inspectGenerationMetadataPrelude_eq_ok.mpr
        ⟨fits, metadataBytes, body, metadata, read, opens.decoded, rfl⟩
    have rest : container.drop (container.length - body.length) = body := by
      rw [opens.framed, List.length_append, Nat.add_sub_cancel, List.drop_left]
    rw [← rest] at records
    refine bind_eq_ok.mpr ⟨_, inspected, ?_⟩
    refine bind_eq_ok.mpr ⟨(), refuseIf_passes (not_not_intro opens.keyed), ?_⟩
    refine bind_eq_ok.mpr ⟨(), refuseIf_passes (Nat.not_lt.mpr small), ?_⟩
    refine bind_eq_ok.mpr ⟨last, records, ?_⟩
    refine bind_eq_ok.mpr ⟨(), refuseIf_passes (not_not_intro complete), ?_⟩
    rw [whole]
    refine bind_eq_ok.mpr ⟨(), refuseIf_passes (not_not_intro opens.total), ?_⟩
    exact bind_eq_ok.mpr ⟨(), refuseIf_passes (not_not_intro opens.digest), rfl⟩

/-- The in-memory writer accepts the plaintext its metadata describes, under the
right key, when the sealed records fit. -/
theorem sealGeneration_eq_ok {aead : Aead} {sha256 : Sha256} {metadata : GenerationMetadata}
    {key : GenerationDek} {plaintext : List UInt8} {sealed : SealedGeneration} :
    sealGeneration aead sha256 metadata key plaintext = .ok sealed ↔
      Sealable sha256 metadata key plaintext ∧
        ∃ container, sealRecords (metadata.cipher aead key (sha256 metadata.encoding))
            (preludeBytes metadata.encoding) (chunks metadata.chunkSize.val plaintext) =
              .ok container ∧
          container.length ≤ maxContainerBytes ∧
          sealed = ⟨metadata, sha256 metadata.encoding, container, sha256 container⟩ := by
  constructor
  · intro succeeded
    obtain ⟨_, keyed, succeeded⟩ := bind_eq_ok.mp succeeded
    obtain ⟨_, described, succeeded⟩ := bind_eq_ok.mp succeeded
    obtain ⟨metadataBytes, encoded, succeeded⟩ := bind_eq_ok.mp succeeded
    obtain ⟨container, records, succeeded⟩ := bind_eq_ok.mp succeeded
    obtain ⟨_, fits, same⟩ := bind_eq_ok.mp succeeded
    cases same
    cases metadata.encode_eq.symm.trans encoded
    have described := not_or.mp (refuseIf_eq_ok.mp described)
    exact ⟨⟨Decidable.not_not.mp (refuseIf_eq_ok.mp keyed), Decidable.not_not.mp described.1,
      Decidable.not_not.mp described.2⟩, container, records,
      Nat.le_of_not_lt (refuseIf_eq_ok.mp fits), rfl⟩
  · rintro ⟨⟨keyed, total, digest⟩, container, records, fits, rfl⟩
    refine bind_eq_ok.mpr ⟨(), refuseIf_passes (not_not_intro keyed), ?_⟩
    refine bind_eq_ok.mpr ⟨(), refuseIf_passes
      (not_or.mpr ⟨not_not_intro total, not_not_intro digest⟩), ?_⟩
    refine bind_eq_ok.mpr ⟨_, metadata.encode_eq, ?_⟩
    refine bind_eq_ok.mpr ⟨container, records, ?_⟩
    exact bind_eq_ok.mpr ⟨(), refuseIf_passes (Nat.not_lt.mpr fits), rfl⟩

end ProfilePlatform.Generation
