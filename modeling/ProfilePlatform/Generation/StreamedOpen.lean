import ProfilePlatform.Generation.Records
import ProfilePlatform.Generation.Streaming

/-! The streaming reader over a source and a sink that do not fail accepts exactly
the containers that open, up to its size limit.
-/

set_option autoImplicit false

namespace ProfilePlatform.Generation

open Foundation

variable {σ τ : Type} {source : ReadSource σ} {sink : WriteSink τ} {held : σ → List UInt8}
  {taken : τ → List UInt8} {cipher : RecordCipher} {chunkSize : ChunkSize} {sha256 : Sha256}
  {metadata : GenerationMetadata}

/-- The source has given `consumed` since the call began and holds `unread`. -/
structure Intake.At (held : σ → List UInt8) (intake : Intake σ) (consumed unread : List UInt8) :
    Prop where
  source : held intake.source = unread
  hashed : intake.hashed = consumed
  bytes : intake.bytes = consumed.length
  bounded : consumed.length ≤ maxStreamContainerBytes

theorem Intake.start (held : σ → List UInt8) (s : σ) : Intake.At held ⟨s, [], 0⟩ [] (held s) :=
  ⟨rfl, rfl, rfl, Nat.zero_le _⟩

theorem streamRead_sound (holds : source.Holds held) {intake after : Intake σ} {length : Nat}
    {consumed unread data : List UInt8} (aligned : intake.At held consumed unread)
    (read : streamRead source intake length = .ok (data, after)) :
    ∃ rest, unread = data ++ rest ∧ data.length = length ∧ after.At held (consumed ++ data) rest := by
  obtain ⟨next, counted, read⟩ := bind_eq_ok.mp read
  obtain ⟨⟨bytes, left⟩, taken, same⟩ := bind_eq_ok.mp read
  cases same
  obtain ⟨split, sized⟩ := holds.readExact_eq_ok (io_eq_ok.mp taken)
  obtain ⟨rfl, bounded⟩ := streamBytes_eq_ok.mp (crypto_eq_ok.mp counted)
  rw [aligned.source] at split
  rw [aligned.bytes, ← sized, ← List.length_append] at bounded
  refine ⟨held left, split, sized, rfl, by rw [aligned.hashed], ?_, bounded⟩
  rw [aligned.bytes, ← sized, List.length_append]

theorem streamRead_complete (holds : source.Holds held) {intake : Intake σ}
    {consumed data rest : List UInt8} (aligned : intake.At held consumed (data ++ rest))
    (bounded : (consumed ++ data).length ≤ maxStreamContainerBytes) :
    ∃ after, streamRead source intake data.length = .ok (data, after) ∧
      after.At held (consumed ++ data) rest := by
  obtain ⟨left, read, heldLeft⟩ := holds.readExact aligned.source
  have counted : streamBytes intake.bytes data.length = .ok (consumed ++ data).length := by
    rw [aligned.bytes]
    exact streamBytes_eq_ok.mpr ⟨List.length_append, bounded⟩
  refine ⟨_, bind_eq_ok.mpr ⟨_, crypto_eq_ok.mpr counted,
    bind_eq_ok.mpr ⟨_, io_eq_ok.mpr read, rfl⟩⟩, ?_⟩
  exact ⟨heldLeft, by rw [aligned.hashed], rfl, bounded⟩

theorem RecordHeader.ofBlock_bytes {header : RecordHeader} (fits : header.Fits) :
    ofBlock header.bytes = header := by
  have type : (bigEndian 1 header.recordType).length = 1 := length_bigEndian _ _
  have index : (bigEndian 8 header.index).length = 8 := length_bigEndian _ _
  have plaintext : (bigEndian 4 header.plaintextLength).length = 4 := length_bigEndian _ _
  have ciphertext : (bigEndian 4 header.ciphertextLength).length = 4 := length_bigEndian _ _
  have first : header.bytes.drop 1 = _ := List.drop_left' type
  have second : header.bytes.drop 9 = bigEndian 4 header.plaintextLength ++
      bigEndian 4 header.ciphertextLength := by
    rw [show 9 = 1 + 8 from rfl, ← List.drop_drop, first, List.drop_left' index]
  have third : header.bytes.drop 13 = bigEndian 4 header.ciphertextLength := by
    rw [show 13 = 9 + 4 from rfl, ← List.drop_drop, second, List.drop_left' plaintext]
  unfold ofBlock
  rw [first, second, third, List.take_left' index, List.take_left' plaintext,
    List.take_of_length_le (Nat.le_of_eq ciphertext), ofBigEndian_bigEndian fits.index,
    ofBigEndian_bigEndian fits.plaintextLength, ofBigEndian_bigEndian fits.ciphertextLength]
  rw [show header.bytes.take 1 = _ from List.take_left' type, ofBigEndian_bigEndian fits.recordType]

theorem RecordHeader.bytes_ofBlock {block : List UInt8} (sized : block.length = headerBytes) :
    (ofBlock block).bytes = block ∧ (ofBlock block).Fits := by
  have sized : block.length = 17 := sized
  have type : (block.take 1).length = 1 := by rw [List.length_take]; omega
  have index : ((block.drop 1).take 8).length = 8 := by
    rw [List.length_take, List.length_drop]; omega
  have plaintext : ((block.drop 9).take 4).length = 4 := by
    rw [List.length_take, List.length_drop]; omega
  have ciphertext : ((block.drop 13).take 4).length = 4 := by
    rw [List.length_take, List.length_drop]; omega
  refine ⟨?_, ofBigEndian_lt type, ofBigEndian_lt index, ofBigEndian_lt plaintext,
    ofBigEndian_lt ciphertext⟩
  simp only [bytes, ofBlock, bigEndian_ofBigEndian type, bigEndian_ofBigEndian index,
    bigEndian_ofBigEndian plaintext, bigEndian_ofBigEndian ciphertext]
  have last : (block.drop 13).take 4 = block.drop 13 :=
    List.take_of_length_le (by rw [List.length_drop]; omega)
  have third : (block.drop 9).take 4 ++ block.drop 13 = block.drop 9 := by
    rw [show 13 = 9 + 4 from rfl, ← List.drop_drop, List.take_append_drop]
  have second : (block.drop 1).take 8 ++ block.drop 9 = block.drop 1 := by
    rw [show 9 = 1 + 8 from rfl, ← List.drop_drop, List.take_append_drop]
  rw [last, third, second, List.take_append_drop]

/-- The two shapes of a header that is not refused. -/
inductive RecordHeader.Shaped (chunkSize : Nat) (header : RecordHeader) : Prop where
  | chunk (length : Nat) (positive : 0 < length) (small : length ≤ chunkSize)
      (shape : header = .chunk header.index length)
  | final (shape : header = .final header.index)

theorem RecordHeader.not_malformed {chunkSize : Nat} {header : RecordHeader} :
    ¬header.Malformed chunkSize ↔ header.Shaped chunkSize := by
  obtain ⟨recordType, index, plaintextLength, ciphertextLength⟩ := header
  constructor
  · intro wellFormed
    by_cases isChunk : recordType = recordChunk
    · have lengths := fun bad => wellFormed (.inr (.inl ⟨isChunk, bad⟩))
      obtain ⟨positive, small⟩ := not_or.mp lengths
      obtain ⟨small, sized⟩ := not_or.mp small
      have agrees : ciphertextLength = plaintextLength + tagBytes := Decidable.not_not.mp sized
      subst isChunk agrees
      exact .chunk plaintextLength (Nat.pos_of_ne_zero positive) (Nat.le_of_not_lt small) rfl
    · by_cases isFinal : recordType = recordFinal
      · have lengths := fun bad => wellFormed (.inr (.inr ⟨isFinal, bad⟩))
        obtain ⟨empty, sized⟩ := not_or.mp lengths
        have none : plaintextLength = 0 := Decidable.not_not.mp empty
        have agrees : ciphertextLength = tagBytes := Decidable.not_not.mp sized
        subst isFinal none agrees
        exact .final rfl
      · exact absurd (.inl (not_or.mpr ⟨isChunk, isFinal⟩)) wellFormed
  · rintro (⟨length, positive, small, ⟨⟩⟩ | ⟨⟨⟩⟩)
    · rintro (unknown | ⟨-, zero | large | sized⟩ | ⟨isFinal, -⟩)
      · exact unknown (.inl rfl)
      · exact Nat.ne_of_gt positive zero
      · exact Nat.not_lt.mpr small large
      · exact sized rfl
      · exact absurd isFinal (by decide : recordChunk ≠ recordFinal)
    · rintro (unknown | ⟨isChunk, -⟩ | ⟨-, empty | sized⟩)
      · exact unknown (.inr rfl)
      · exact absurd isChunk (by decide : recordFinal ≠ recordChunk)
      · exact empty rfl
      · exact sized rfl

theorem readRecord_sound (holds : source.Holds held) {progress : StreamProgress σ τ}
    {consumed unread ciphertext : List UInt8} {header : RecordHeader} {intake : Intake σ}
    {chunkSize : Nat} (aligned : progress.intake.At held consumed unread)
    (read : readRecord source chunkSize progress = .ok (header, ciphertext, intake)) :
    ∃ rest, unread = header.bytes ++ (ciphertext ++ rest) ∧ header.Fits ∧
      header.index = progress.index ∧ header.Shaped chunkSize ∧
      ciphertext.length = header.ciphertextLength ∧
      intake.At held (consumed ++ header.bytes ++ ciphertext) rest := by
  obtain ⟨⟨block, first⟩, readBlock, read⟩ := bind_eq_ok.mp read
  obtain ⟨_, inOrder, read⟩ := bind_eq_ok.mp read
  obtain ⟨_, wellFormed, read⟩ := bind_eq_ok.mp read
  obtain ⟨⟨bytes, second⟩, readCiphertext, same⟩ := bind_eq_ok.mp read
  cases same
  obtain ⟨more, rfl, sized, atFirst⟩ := streamRead_sound holds aligned readBlock
  obtain ⟨rest, rfl, length, atSecond⟩ := streamRead_sound holds atFirst readCiphertext
  obtain ⟨blockEq, fits⟩ := RecordHeader.bytes_ofBlock sized
  refine ⟨rest, by rw [blockEq], fits, Decidable.not_not.mp (crypto_refuseIf_eq_ok.mp inOrder),
    RecordHeader.not_malformed.mp (crypto_refuseIf_eq_ok.mp wellFormed), length, ?_⟩
  rw [blockEq]
  exact atSecond

theorem readRecord_complete (holds : source.Holds held) {progress : StreamProgress σ τ}
    {consumed ciphertext rest : List UInt8} {header : RecordHeader} {chunkSize : Nat}
    (aligned : progress.intake.At held consumed (header.bytes ++ (ciphertext ++ rest)))
    (fits : header.Fits) (inOrder : header.index = progress.index)
    (shaped : header.Shaped chunkSize) (length : ciphertext.length = header.ciphertextLength)
    (bounded : (consumed ++ header.bytes ++ ciphertext).length ≤ maxStreamContainerBytes) :
    ∃ intake, readRecord source chunkSize progress = .ok (header, ciphertext, intake) ∧
      intake.At held (consumed ++ header.bytes ++ ciphertext) rest := by
  have firstBounded := bounded
  rw [List.length_append] at firstBounded
  obtain ⟨first, readBlock, atFirst⟩ :=
    streamRead_complete holds aligned (Nat.le_trans (Nat.le_add_right _ _) firstBounded)
  obtain ⟨second, readCiphertext, atSecond⟩ := streamRead_complete holds atFirst bounded
  rw [header.length_bytes] at readBlock
  rw [length] at readCiphertext
  refine ⟨second, bind_eq_ok.mpr ⟨_, readBlock, ?_⟩, atSecond⟩
  simp only [RecordHeader.ofBlock_bytes fits]
  refine bind_eq_ok.mpr ⟨(), crypto_passes (not_not_intro inOrder), ?_⟩
  refine bind_eq_ok.mpr ⟨(), crypto_passes (RecordHeader.not_malformed.mpr shaped), ?_⟩
  exact bind_eq_ok.mpr ⟨_, readCiphertext, rfl⟩

theorem plainBytesAfter_eq_ok {bytes length next : Nat} :
    plainBytesAfter metadata bytes length = .ok next ↔
      next = bytes + length ∧ next ≤ metadata.plaintextBytes.val := by
  have fits : maxStreamPlaintextBytes < u64Limit := by decide
  have announced := metadata.plaintextBytes.property
  unfold plainBytesAfter
  split
  next overflow =>
    have overflow := checkedAdd_eq_none.mp overflow
    exact ⟨fun impossible => (nomatch impossible), fun ⟨same, small⟩ => by omega⟩
  next sum added =>
    obtain ⟨rfl, -⟩ := checkedAdd_eq_some.mp added
    split
    next beyond =>
      exact ⟨fun impossible => (nomatch impossible), fun ⟨same, small⟩ => by omega⟩
    next within =>
      constructor
      · rintro ⟨⟩
        exact ⟨rfl, Nat.le_of_not_lt fun large => within (.inl large)⟩
      · rintro ⟨rfl, -⟩
        rfl

/-- The reader is where it should be: its source, its two counts and its hash agree. -/
structure StreamProgress.At (held : σ → List UInt8) (progress : StreamProgress σ τ)
    (consumed unread : List UInt8) : Prop where
  intake : progress.intake.At held consumed unread
  counted : progress.plainBytes = progress.plainHashed.length

/-- The plaintext of a complete container is the announced one. -/
structure Announced (sha256 : Sha256) (metadata : GenerationMetadata) (plaintext : List UInt8) :
    Prop where
  total : plaintext.length = metadata.plaintextBytes.val
  digest : sha256 plaintext = metadata.plaintextDigest

/-- The final record of a container that is accepted, and the end of the source after it. -/
theorem finishStream_sound (holds : source.Holds held) {progress : StreamProgress σ τ}
    {intake after : Intake σ} {opened : List UInt8} {written : τ}
    (finished : finishStream source sha256 metadata progress intake opened =
      .ok (.finished after written)) :
    opened = [] ∧ progress.plainBytes = metadata.plaintextBytes.val ∧
      sha256 progress.plainHashed = metadata.plaintextDigest ∧ held intake.source = [] ∧
      after = intake ∧ written = progress.sink := by
  obtain ⟨_, agrees, finished⟩ := bind_eq_ok.mp finished
  obtain ⟨⟨trailing, _⟩, probe, finished⟩ := bind_eq_ok.mp finished
  obtain ⟨_, exhausted, same⟩ := bind_eq_ok.mp finished
  cases same
  have agrees := not_or.mp (crypto_refuseIf_eq_ok.mp agrees)
  have counted := not_or.mp agrees.2
  obtain ⟨piece, _, read, ended⟩ := holds.read_one intake.source
  cases read.symm.trans (io_eq_ok.mp probe)
  exact ⟨Decidable.not_not.mp agrees.1, Decidable.not_not.mp counted.1,
    Decidable.not_not.mp counted.2,
    ended.mp (Decidable.not_not.mp (crypto_refuseIf_eq_ok.mp exhausted)), rfl, rfl⟩

theorem writeOpened_sound (takes : sink.Takes taken) {progress next : StreamProgress σ τ}
    {intake : Intake σ} {plaintextLength : Nat} {opened consumed unread : List UInt8}
    (counted : progress.plainBytes = progress.plainHashed.length)
    (atIntake : intake.At held consumed unread)
    (wrote : writeOpened sink metadata progress intake plaintextLength opened =
      .ok (.more next)) :
    opened.length = plaintextLength ∧ progress.index + 1 < capacity 8 ∧
      next.index = progress.index + 1 ∧ next.plainHashed = progress.plainHashed ++ opened ∧
      taken next.sink = taken progress.sink ++ opened ∧ next.At held consumed unread := by
  obtain ⟨_, sized, wrote⟩ := bind_eq_ok.mp wrote
  obtain ⟨plainBytes, summed, wrote⟩ := bind_eq_ok.mp wrote
  obtain ⟨written, sent, wrote⟩ := bind_eq_ok.mp wrote
  obtain ⟨index, indexed, same⟩ := bind_eq_ok.mp wrote
  cases same
  obtain ⟨expected, writes, contents⟩ := takes.writes progress.sink opened
  cases writes.symm.trans (io_eq_ok.mp sent)
  have sized := Decidable.not_not.mp (crypto_refuseIf_eq_ok.mp sized)
  obtain ⟨rfl, -⟩ := plainBytesAfter_eq_ok.mp (crypto_eq_ok.mp summed)
  obtain ⟨rfl, fits⟩ := nextIndex_eq_ok.mp (crypto_eq_ok.mp indexed)
  refine ⟨sized, fits, rfl, rfl, contents, atIntake, ?_⟩
  rw [List.length_append, sized, counted]

theorem writeOpened_not_finished {sink : WriteSink τ} {progress : StreamProgress σ τ}
    {intake after : Intake σ} {plaintextLength : Nat} {opened : List UInt8} {written : τ} :
    writeOpened sink metadata progress intake plaintextLength opened ≠
      .ok (.finished after written) := by
  intro wrote
  obtain ⟨_, -, wrote⟩ := bind_eq_ok.mp wrote
  obtain ⟨_, -, wrote⟩ := bind_eq_ok.mp wrote
  obtain ⟨_, -, wrote⟩ := bind_eq_ok.mp wrote
  obtain ⟨_, -, same⟩ := bind_eq_ok.mp wrote
  cases same

/-- The reader stops at a final record that closes the announced plaintext and the source. -/
theorem openStreamRecord_finished (holds : source.Holds held) {progress : StreamProgress σ τ}
    {consumed unread : List UInt8} {intake : Intake σ} {written : τ}
    (aligned : progress.At held consumed unread)
    (step : openStreamRecord source sink sha256 cipher metadata progress =
      .ok (.finished intake written)) :
    ∃ tag, unread = (RecordHeader.final progress.index).bytes ++ tag ∧
      progress.index < capacity 8 ∧ tag.length = tagBytes ∧
      cipher.decrypt recordFinal progress.index 0 tag = .ok [] ∧
      intake.At held (consumed ++ unread) [] ∧ written = progress.sink ∧
      Announced sha256 metadata progress.plainHashed := by
  obtain ⟨⟨header, tag, atEnd⟩, read, step⟩ := bind_eq_ok.mp step
  obtain ⟨opened, decrypted, step⟩ := bind_eq_ok.mp step
  obtain ⟨rest, rfl, fits, inOrder, shaped, length, atIntake⟩ :=
    readRecord_sound holds aligned.intake read
  split at step
  next isFinal =>
    obtain ⟨rfl, total, digest, ended, rfl, rfl⟩ := finishStream_sound holds step
    cases atIntake.source.symm.trans ended
    rw [aligned.counted] at total
    cases shaped with
    -- a header of the final kind has the final shape
    | chunk count _ _ shape =>
      rw [shape] at isFinal
      exact absurd isFinal (by decide : recordChunk ≠ recordFinal)
    | final shape =>
      have decrypted := crypto_eq_ok.mp decrypted
      rw [shape, inOrder] at length decrypted fits atIntake
      rw [shape, inOrder, List.append_nil]
      rw [List.append_assoc] at atIntake
      exact ⟨tag, rfl, fits.index, length, decrypted, atIntake, rfl, total, digest⟩
  next => exact absurd step writeOpened_not_finished

theorem openStreamRecord_more (holds : source.Holds held) (takes : sink.Takes taken)
    {progress next : StreamProgress σ τ} {consumed unread : List UInt8}
    (aligned : progress.At held consumed unread)
    (step : openStreamRecord source sink sha256 cipher metadata progress = .ok (.more next)) :
    ∃ opened ciphertext rest,
      unread = (RecordHeader.chunk progress.index opened.length).bytes ++ (ciphertext ++ rest) ∧
      0 < opened.length ∧ opened.length ≤ metadata.chunkSize.val ∧
      ciphertext.length = opened.length + tagBytes ∧
      cipher.decrypt recordChunk progress.index opened.length ciphertext = .ok opened ∧
      progress.index + 1 < capacity 8 ∧ next.index = progress.index + 1 ∧
      next.plainHashed = progress.plainHashed ++ opened ∧
      taken next.sink = taken progress.sink ++ opened ∧
      next.At held
        (consumed ++ (RecordHeader.chunk progress.index opened.length).bytes ++ ciphertext) rest := by
  obtain ⟨⟨header, ciphertext, atNext⟩, read, step⟩ := bind_eq_ok.mp step
  obtain ⟨opened, decrypted, step⟩ := bind_eq_ok.mp step
  obtain ⟨rest, rfl, fits, inOrder, shaped, length, atIntake⟩ :=
    readRecord_sound holds aligned.intake read
  split at step
  next => exact absurd step finishStream_not_more
  next notFinal =>
    obtain ⟨sized, nextFits, indexed, hashed, sent, atRest⟩ :=
      writeOpened_sound takes aligned.counted atIntake step
    cases shaped with
    | final shape =>
      rw [shape] at notFinal
      exact absurd rfl notFinal
    | chunk count positive small shape =>
      have decrypted := crypto_eq_ok.mp decrypted
      obtain rfl : opened.length = count := by
        rw [sized, shape]
        rfl
      rw [shape, inOrder] at length decrypted atRest
      rw [shape, inOrder]
      exact ⟨opened, ciphertext, rest, rfl, positive, small, length, decrypted, nextFits, indexed,
        hashed, sent, atRest⟩

/-- What the streaming reader accepts is a sequence of records, read to the end. -/
theorem openStreamRecords_sound (holds : source.Holds held) (takes : sink.Takes taken)
    {progress : StreamProgress σ τ} {consumed unread : List UInt8} {intake : Intake σ} {written : τ}
    (aligned : progress.At held consumed unread)
    (opened : openStreamRecords source sink sha256 cipher metadata progress =
      .ok (intake, written)) :
    ∃ text, Records cipher metadata.chunkSize progress.index unread text ∧
      intake.At held (consumed ++ unread) [] ∧ taken written = taken progress.sink ++ text ∧
      Announced sha256 metadata (progress.plainHashed ++ text) := by
  induction size : unread.length using Nat.strongRecOn generalizing progress consumed unread with
  | ind size ih =>
    subst size
    rw [openStreamRecords] at opened
    split at opened
    next => cases opened
    next last sent step =>
      cases opened
      obtain ⟨tag, rfl, fits, length, opens, atEnd, rfl, announced⟩ :=
        openStreamRecord_finished holds aligned step
      refine ⟨[], .final fits length opens, atEnd, (List.append_nil _).symm, ?_⟩
      rwa [List.append_nil]
    next next step =>
      obtain ⟨plain, ciphertext, rest, rfl, positive, small, length, opens, fits, indexed, hashed,
        sent, atRest⟩ := openStreamRecord_more holds takes aligned step
      have shorter : rest.length <
          ((RecordHeader.chunk progress.index plain.length).bytes ++ (ciphertext ++ rest)).length := by
        rw [List.length_append, List.length_append, RecordHeader.length_bytes, headerBytes]
        omega
      -- the rest of the source is shorter by this record
      obtain ⟨text, records, atEnd, delivered, announced⟩ := ih _ shorter atRest opened rfl
      rw [indexed] at records
      rw [sent, List.append_assoc] at delivered
      rw [hashed, List.append_assoc] at announced
      rw [List.append_assoc, List.append_assoc] at atEnd
      exact ⟨plain ++ text, .chunk fits positive small length opens records, atEnd, delivered,
        announced⟩

theorem openStreamRecords_stop {source : ReadSource σ} {sink : WriteSink τ}
    {progress : StreamProgress σ τ} {intake : Intake σ} {written : τ}
    (step : openStreamRecord source sink sha256 cipher metadata progress =
      .ok (.finished intake written)) :
    openStreamRecords source sink sha256 cipher metadata progress = .ok (intake, written) := by
  rw [openStreamRecords]
  split
  next failed => cases step.symm.trans failed
  next found =>
    cases step.symm.trans found
    rfl
  next found => cases step.symm.trans found

theorem openStreamRecords_step {source : ReadSource σ} {sink : WriteSink τ}
    {progress next : StreamProgress σ τ}
    (step : openStreamRecord source sink sha256 cipher metadata progress = .ok (.more next)) :
    openStreamRecords source sink sha256 cipher metadata progress =
      openStreamRecords source sink sha256 cipher metadata next := by
  rw [openStreamRecords]
  split
  next failed => cases step.symm.trans failed
  next found => cases step.symm.trans found
  next found =>
    cases step.symm.trans found
    rfl

theorem finishStream_complete (holds : source.Holds held) {progress : StreamProgress σ τ}
    {intake : Intake σ} (ended : held intake.source = [])
    (counted : progress.plainBytes = progress.plainHashed.length)
    (announced : Announced sha256 metadata progress.plainHashed) :
    finishStream source sha256 metadata progress intake [] =
      .ok (.finished intake progress.sink) := by
  obtain ⟨piece, rest, read, atEnd⟩ := holds.read_one intake.source
  have agrees : ¬(([] : List UInt8) ≠ [] ∨ progress.plainBytes ≠ metadata.plaintextBytes.val ∨
      sha256 progress.plainHashed ≠ metadata.plaintextDigest) :=
    not_or.mpr ⟨not_not_intro rfl, not_or.mpr
      ⟨not_not_intro (counted.trans announced.total), not_not_intro announced.digest⟩⟩
  exact bind_eq_ok.mpr ⟨(), crypto_passes agrees, bind_eq_ok.mpr ⟨_, io_eq_ok.mpr read,
    bind_eq_ok.mpr ⟨(), crypto_passes (not_not_intro (atEnd.mpr ended)), rfl⟩⟩⟩

theorem writeOpened_complete (takes : sink.Takes taken) {progress : StreamProgress σ τ}
    {intake : Intake σ} {opened consumed unread : List UInt8}
    (counted : progress.plainBytes = progress.plainHashed.length)
    (atIntake : intake.At held consumed unread) (fits : progress.index + 1 < capacity 8)
    (within : (progress.plainHashed ++ opened).length ≤ metadata.plaintextBytes.val) :
    ∃ next, writeOpened sink metadata progress intake opened.length opened = .ok (.more next) ∧
      next.index = progress.index + 1 ∧ next.plainHashed = progress.plainHashed ++ opened ∧
      taken next.sink = taken progress.sink ++ opened ∧ next.At held consumed unread := by
  obtain ⟨written, writes, contents⟩ := takes.writes progress.sink opened
  have summed : plainBytesAfter metadata progress.plainBytes opened.length =
      .ok (progress.plainHashed ++ opened).length := by
    rw [counted]
    exact plainBytesAfter_eq_ok.mpr ⟨List.length_append, within⟩
  refine ⟨_, bind_eq_ok.mpr ⟨(), crypto_passes (not_not_intro rfl),
    bind_eq_ok.mpr ⟨_, crypto_eq_ok.mpr summed, bind_eq_ok.mpr ⟨_, io_eq_ok.mpr writes,
      bind_eq_ok.mpr ⟨_, crypto_eq_ok.mpr (nextIndex_eq_ok.mpr ⟨rfl, fits⟩), rfl⟩⟩⟩⟩, ?_⟩
  exact ⟨rfl, rfl, contents, atIntake, rfl⟩

/-- Every sequence of records that ends the source, fits and carries the announced
plaintext is accepted. -/
theorem openStreamRecords_complete (holds : source.Holds held) (takes : sink.Takes taken)
    {index : Nat} {body text : List UInt8}
    (records : Records cipher metadata.chunkSize index body text) {progress : StreamProgress σ τ}
    {consumed : List UInt8} (inOrder : index = progress.index)
    (aligned : progress.At held consumed body)
    (announced : Announced sha256 metadata (progress.plainHashed ++ text))
    (bounded : (consumed ++ body).length ≤ maxStreamContainerBytes) :
    ∃ intake written, openStreamRecords source sink sha256 cipher metadata progress =
        .ok (intake, written) ∧
      intake.At held (consumed ++ body) [] ∧ taken written = taken progress.sink ++ text := by
  induction records generalizing progress consumed with
  | @final index tag fits length opens =>
    subst inOrder
    -- the record is followed by nothing
    have atFinal := aligned.intake
    rw [← List.append_nil tag] at atFinal
    rw [← List.append_assoc] at bounded ⊢
    rw [List.append_nil] at announced
    obtain ⟨intake, read, atEnd⟩ := readRecord_complete holds atFinal
      (RecordHeader.final_fits fits) rfl (.final rfl) length bounded
    have finished := finishStream_complete holds atEnd.source aligned.counted announced
    have step : openStreamRecord source sink sha256 cipher metadata progress =
        .ok (.finished intake progress.sink) :=
      bind_eq_ok.mpr ⟨_, read, bind_eq_ok.mpr ⟨_, crypto_eq_ok.mpr opens, finished⟩⟩
    exact ⟨intake, progress.sink, openStreamRecords_stop step, atEnd, (List.append_nil _).symm⟩
  | @chunk index opened ciphertext body rest fits positive small length opens more ih =>
    subst inOrder
    rw [← List.append_assoc, ← List.append_assoc] at bounded ⊢
    have first := bounded
    rw [List.length_append] at first
    obtain ⟨intake, read, atIntake⟩ := readRecord_complete holds aligned.intake
      (RecordHeader.chunk_fits (Nat.lt_of_succ_lt fits) small) rfl
      (.chunk _ positive small rfl) length (Nat.le_trans (Nat.le_add_right _ _) first)
    rw [← List.append_assoc] at announced
    have within := announced.total
    rw [List.length_append] at within
    obtain ⟨next, wrote, indexed, hashed, sent, atNext⟩ :=
      writeOpened_complete takes aligned.counted atIntake fits (Nat.le.intro within)
    have step : openStreamRecord source sink sha256 cipher metadata progress = .ok (.more next) :=
      bind_eq_ok.mpr ⟨_, read, bind_eq_ok.mpr ⟨_, crypto_eq_ok.mpr opens, wrote⟩⟩
    rw [← hashed] at announced
    obtain ⟨last, written, rests, atEnd, delivered⟩ := ih indexed.symm atNext announced bounded
    rw [sent, List.append_assoc] at delivered
    exact ⟨last, written, (openStreamRecords_step step).trans rests, atEnd, delivered⟩

theorem prelude_start {start : List UInt8} (sized : start.length = 12)
    (isMagic : start.take 8 = magic) :
    start = magic ++ bigEndian 4 (ofBigEndian ((start.drop 8).take 4)) := by
  have width : (start.drop 8).length = 4 := by rw [List.length_drop, sized]
  rw [List.take_of_length_le (Nat.le_of_eq width), bigEndian_ofBigEndian width, ← isMagic,
    List.take_append_drop]

/-- What the streaming reader accepts opens, and its report describes what it read. -/
theorem openGenerationStreaming_sound (holds : source.Holds held) (takes : sink.Takes taken)
    {aead : Aead} {key : GenerationDek} {s : σ} {t after : τ} {report : StreamingGenerationReport}
    (accepted : openGenerationStreaming source sink aead sha256 s key t = .ok (report, after)) :
    ∃ plaintext metadataBytes body,
      Opens aead sha256 key (held s) report.metadata plaintext metadataBytes body ∧
      (held s).length ≤ maxStreamContainerBytes ∧
      report = .of sha256 report.metadata metadataBytes (held s) ∧
      taken after = taken t ++ plaintext := by
  obtain ⟨⟨start, first⟩, readStart, accepted⟩ := bind_eq_ok.mp accepted
  obtain ⟨_, isMagic, accepted⟩ := bind_eq_ok.mp accepted
  obtain ⟨_, sized, accepted⟩ := bind_eq_ok.mp accepted
  obtain ⟨⟨metadataBytes, second⟩, readMetadata, accepted⟩ := bind_eq_ok.mp accepted
  obtain ⟨metadata, decoded, accepted⟩ := bind_eq_ok.mp accepted
  obtain ⟨_, keyed, accepted⟩ := bind_eq_ok.mp accepted
  obtain ⟨⟨last, written⟩, opened, same⟩ := bind_eq_ok.mp accepted
  cases same
  have isMagic := Decidable.not_not.mp (crypto_refuseIf_eq_ok.mp isMagic)
  have sized := not_or.mp (crypto_refuseIf_eq_ok.mp sized)
  obtain ⟨more, split, twelve, atFirst⟩ := streamRead_sound holds (Intake.start held s) readStart
  obtain ⟨body, rfl, length, atSecond⟩ := streamRead_sound holds atFirst readMetadata
  obtain ⟨plaintext, records, atEnd, delivered, announced⟩ :=
    openStreamRecords_sound holds takes ⟨atSecond, rfl⟩ opened
  rw [← length] at sized
  have framed : held s = preludeBytes metadataBytes ++ body := by
    rw [split, prelude_start twelve isMagic, ← length]
    simp only [preludeBytes, List.append_assoc]
  have whole : [] ++ start ++ metadataBytes ++ body = held s := by
    rw [split, List.nil_append, List.append_assoc]
  rw [whole] at atEnd
  refine ⟨plaintext, metadataBytes, body, ?_, atEnd.bounded, ?_, delivered⟩
  · exact ⟨framed, sized.1, Nat.le_of_not_lt sized.2, crypto_eq_ok.mp decoded,
      Decidable.not_not.mp (crypto_refuseIf_eq_ok.mp keyed), records, announced.total,
      announced.digest⟩
  · rw [StreamingGenerationReport.of, atEnd.hashed, atEnd.bytes]

theorem openGenerationStreaming_complete (holds : source.Holds held) (takes : sink.Takes taken)
    {aead : Aead} {key : GenerationDek} {s : σ} (t : τ) {plaintext metadataBytes body : List UInt8}
    (opens : Opens aead sha256 key (held s) metadata plaintext metadataBytes body)
    (bounded : (held s).length ≤ maxStreamContainerBytes) :
    ∃ after, openGenerationStreaming source sink aead sha256 s key t =
        .ok (.of sha256 metadata metadataBytes (held s), after) ∧
      taken after = taken t ++ plaintext := by
  have wide : maxMetadataBytes < capacity 4 := by decide
  let start := magic ++ bigEndian 4 metadataBytes.length
  have twelve : start.length = 12 := by
    rw [List.length_append, length_bigEndian]
    rfl
  have split : held s = start ++ (metadataBytes ++ body) := by
    rw [opens.framed]
    simp only [start, preludeBytes, List.append_assoc]
  have whole : [] ++ start ++ metadataBytes ++ body = held s := by
    rw [split, List.nil_append, List.append_assoc]
  rw [← whole] at bounded
  have second := bounded
  rw [List.length_append] at second
  have first := second
  rw [List.length_append] at first
  have atStart := Intake.start held s
  rw [split] at atStart
  obtain ⟨afterStart, readStart, atFirst⟩ := streamRead_complete holds atStart (by omega)
  obtain ⟨afterMetadata, readMetadata, atSecond⟩ := streamRead_complete holds atFirst (by omega)
  let begun : StreamProgress σ τ := ⟨afterMetadata, t, [], 0, 0⟩
  obtain ⟨last, written, opened, atEnd, delivered⟩ :=
    @openStreamRecords_complete _ _ _ _ _ _ _ _ _ holds takes _ _ _ opens.records begun _ rfl
      ⟨atSecond, rfl⟩ ⟨opens.total, opens.digest⟩ bounded
  rw [whole] at atEnd
  have length : ofBigEndian ((start.drop 8).take 4) = metadataBytes.length := by
    have rest : start.drop 8 = bigEndian 4 metadataBytes.length := List.drop_left' rfl
    have width := length_bigEndian 4 metadataBytes.length
    rw [rest, List.take_of_length_le (Nat.le_of_eq width),
      ofBigEndian_bigEndian (Nat.lt_of_le_of_lt opens.short wide)]
  have isMagic : start.take 8 = magic := List.take_left' rfl
  rw [twelve] at readStart
  refine ⟨written, bind_eq_ok.mpr ⟨_, readStart, ?_⟩, delivered⟩
  refine bind_eq_ok.mpr ⟨(), crypto_passes (not_not_intro isMagic), ?_⟩
  simp only [length]
  refine bind_eq_ok.mpr ⟨(), crypto_passes
    (not_or.mpr ⟨opens.nonempty, Nat.not_lt.mpr opens.short⟩), ?_⟩
  refine bind_eq_ok.mpr ⟨_, readMetadata, ?_⟩
  refine bind_eq_ok.mpr ⟨metadata, crypto_eq_ok.mpr opens.decoded, ?_⟩
  refine bind_eq_ok.mpr ⟨(), crypto_passes (not_not_intro opens.keyed), ?_⟩
  refine bind_eq_ok.mpr ⟨_, opened, ?_⟩
  simp only [StreamingGenerationReport.of, atEnd.hashed, atEnd.bytes]
  rfl

end ProfilePlatform.Generation
