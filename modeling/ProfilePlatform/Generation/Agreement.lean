import ProfilePlatform.Generation.RoundTrip

/-! The in-memory code and the streaming code decide alike within the limits both
accept: on every plaintext when sealing, on every byte string when opening.
-/

set_option autoImplicit false

namespace ProfilePlatform.Generation

open Foundation

section Laws

variable {σ τ : Type} {source : ReadSource σ} {sink : WriteSink τ} {held : σ → List UInt8}
  {taken : τ → List UInt8} {aead : Aead} {sha256 : Sha256} {metadata : GenerationMetadata}
  {key : GenerationDek} {s : σ}

/-- Both writers answered, with the same bytes and the same digests. -/
structure SealedAlike (taken : τ → List UInt8) (t after : τ) (sealed : SealedGeneration)
    (report : StreamingGenerationReport) : Prop where
  container : taken after = taken t ++ sealed.container
  metadata : report.metadata = sealed.metadata
  metadataDigest : report.metadataDigest = sealed.metadataDigest
  containerDigest : report.containerDigest = sealed.containerDigest

theorem streamed_of_sealed (holds : source.Holds held) (takes : sink.Takes taken) (t : τ)
    {sealed : SealedGeneration}
    (inMemory : sealGeneration aead sha256 metadata key (held s) = .ok sealed) :
    ∃ report after, sealGenerationStreaming source sink aead sha256 metadata key s t =
        .ok (report, after) ∧ SealedAlike taken t after sealed report := by
  obtain ⟨sealable, container, records, small, rfl⟩ := sealGeneration_eq_ok.mp inMemory
  have within : container.length ≤ maxStreamContainerBytes := Nat.le_trans small (by decide)
  obtain ⟨after, streamed, delivered⟩ :=
    sealGenerationStreaming_complete holds takes t sealable records within
  exact ⟨_, after, streamed, delivered, rfl, rfl, rfl⟩

/-- What the streaming writer seals of a plaintext within the smaller limit, the
in-memory writer seals too: the container cannot outgrow its limit. -/
theorem sealed_of_streamed (addsTag : aead.AddsTag) (holds : source.Holds held)
    (takes : sink.Takes taken) {t after : τ} {report : StreamingGenerationReport}
    (small : (held s).length ≤ maxPlaintextBytes)
    (streamed : sealGenerationStreaming source sink aead sha256 metadata key s t =
      .ok (report, after)) :
    ∃ sealed, sealGeneration aead sha256 metadata key (held s) = .ok sealed := by
  obtain ⟨sealable, container, records, -, -, -⟩ :=
    sealGenerationStreaming_sound holds takes streamed
  have within := (sealed_within addsTag records).1 small
  exact ⟨_, sealGeneration_eq_ok.mpr ⟨sealable, container, records, within, rfl⟩⟩

theorem seal_agreement (addsTag : aead.AddsTag) (holds : source.Holds held)
    (takes : sink.Takes taken) (t : τ) (small : (held s).length ≤ maxPlaintextBytes) :
    (∃ sealed report after, sealGeneration aead sha256 metadata key (held s) = .ok sealed ∧
      sealGenerationStreaming source sink aead sha256 metadata key s t = .ok (report, after) ∧
      SealedAlike taken t after sealed report) ∨
    ((∃ why, sealGeneration aead sha256 metadata key (held s) = .error why) ∧
      ∃ why, sealGenerationStreaming source sink aead sha256 metadata key s t = .error why) := by
  cases inMemory : sealGeneration aead sha256 metadata key (held s) with
  | ok sealed =>
    obtain ⟨report, after, streamed, alike⟩ := streamed_of_sealed holds takes t inMemory
    exact .inl ⟨sealed, report, after, rfl, streamed, alike⟩
  | error why =>
    cases streamed : sealGenerationStreaming source sink aead sha256 metadata key s t with
    | error refused => exact .inr ⟨⟨why, rfl⟩, refused, rfl⟩
    | ok answer =>
      obtain ⟨sealed, succeeded⟩ := sealed_of_streamed addsTag holds takes small streamed
      cases inMemory.symm.trans succeeded

/-- Both readers accept what opens, within a limit of their own on its length. -/
theorem open_agreement (holds : source.Holds held) (takes : sink.Takes taken) (t : τ)
    {plaintext : List UInt8} (fits : (held s).length ≤ maxContainerBytes)
    (small : metadata.plaintextBytes.val ≤ maxPlaintextBytes) :
    openGeneration aead sha256 (held s) key = .ok ⟨metadata, plaintext⟩ ↔
      ∃ report after, openGenerationStreaming source sink aead sha256 s key t =
          .ok (report, after) ∧
        report.metadata = metadata ∧ taken after = taken t ++ plaintext := by
  constructor
  · intro opened
    obtain ⟨-, -, metadataBytes, body, opens⟩ := openGeneration_eq_ok.mp opened
    have within : (held s).length ≤ maxStreamContainerBytes := Nat.le_trans fits (by decide)
    obtain ⟨after, streamed, delivered⟩ :=
      openGenerationStreaming_complete holds takes t opens within
    exact ⟨_, after, streamed, rfl, delivered⟩
  · rintro ⟨report, after, streamed, rfl, delivered⟩
    obtain ⟨text, metadataBytes, body, opens, -, -, sent⟩ :=
      openGenerationStreaming_sound holds takes streamed
    cases List.append_cancel_left (delivered.symm.trans sent)
    exact openGeneration_eq_ok.mpr ⟨fits, small, metadataBytes, body, opens⟩

/-- In-memory and streaming code agree: on every plaintext of at most 64 MiB the writers
both fail or both give the same container and digests, and of every byte string of
at most 80 MiB the readers accept the same, as long as it announces at most 64 MiB. -/
theorem container_agreement (addsTag : aead.AddsTag) (holds : source.Holds held)
    (takes : sink.Takes taken) :
    (∀ metadata key s t, (held s).length ≤ maxPlaintextBytes →
      (∃ sealed report after, sealGeneration aead sha256 metadata key (held s) = .ok sealed ∧
        sealGenerationStreaming source sink aead sha256 metadata key s t = .ok (report, after) ∧
        SealedAlike taken t after sealed report) ∨
      ((∃ why, sealGeneration aead sha256 metadata key (held s) = .error why) ∧
        ∃ why, sealGenerationStreaming source sink aead sha256 metadata key s t = .error why)) ∧
    ∀ metadata key s t plaintext, (held s).length ≤ maxContainerBytes →
      metadata.plaintextBytes.val ≤ maxPlaintextBytes →
      (openGeneration aead sha256 (held s) key = .ok ⟨metadata, plaintext⟩ ↔
        ∃ report after, openGenerationStreaming source sink aead sha256 s key t =
            .ok (report, after) ∧
          report.metadata = metadata ∧ taken after = taken t ++ plaintext) := by
  constructor
  · intro metadata key s t small
    exact seal_agreement addsTag holds takes t small
  · intro metadata key s t plaintext fits small
    exact open_agreement holds takes t fits small

end Laws

open OneByte in
theorem container_agreement_one_byte :
    ∃ metadata sealed report reopened,
      sealGeneration aead sha256 metadata key plaintext = .ok sealed ∧
      sealGenerationStreaming sliceSource vectorSink aead sha256 metadata key plaintext [] =
        .ok (report, sealed.container) ∧
      openGenerationStreaming sliceSource vectorSink aead sha256 sealed.container key [] =
        .ok (reopened, plaintext) := by
  obtain ⟨metadata, sealed, -, inMemory, opened⟩ := in_memory_round_trip sha256 key identity
    noncePrefix chunkSize aead_addsTag aead_inverts (by decide : plaintext.length ≤ maxPlaintextBytes)
  obtain ⟨sealing, opening⟩ := @container_agreement _ _ _ _ _ _ aead sha256 aead_addsTag
    sliceSource_holds vectorSink_takes
  obtain ⟨fits, small, -⟩ := openGeneration_eq_ok.mp opened
  obtain ⟨reopened, written, streamed, -, same⟩ :=
    (opening metadata key sealed.container [] plaintext fits small).mp opened
  cases same
  rcases sealing metadata key plaintext [] (by decide) with
    ⟨again, report, container, sealedAgain, streamedSeal, alike⟩ | ⟨⟨why, failed⟩, -⟩
  · cases inMemory.symm.trans sealedAgain
    cases alike.container
    exact ⟨metadata, sealed, report, reopened, inMemory, streamedSeal, streamed⟩
  · cases inMemory.symm.trans failed

/-! No container that opens is the beginning of another one. -/

section Frames

theorem RecordHeader.split_unique {left right : RecordHeader} {more other : List UInt8}
    (fitsLeft : left.Fits) (fitsRight : right.Fits)
    (same : left.bytes ++ more = right.bytes ++ other) : left = right ∧ more = other := by
  have read : readHeader (left.bytes ++ more) = .ok (left, more) :=
    readHeader_eq_ok.mpr ⟨fitsLeft, rfl⟩
  rw [same, readHeader_eq_ok.mpr ⟨fitsRight, rfl⟩] at read
  cases read
  exact ⟨rfl, rfl⟩

theorem preludeBytes_split_unique {left right more other : List UInt8}
    (fitsLeft : left.length < capacity 4) (fitsRight : right.length < capacity 4)
    (same : preludeBytes left ++ more = preludeBytes right ++ other) :
    left = right ∧ more = other := by
  simp only [preludeBytes, List.append_assoc] at same
  obtain ⟨lengths, rest⟩ := List.append_inj (List.append_cancel_left same) (by simp)
  have length : left.length = right.length := by
    rw [← ofBigEndian_bigEndian fitsLeft, lengths, ofBigEndian_bigEndian fitsRight]
  exact List.append_inj rest length

end Frames

section Records

variable {cipher : RecordCipher} {chunkSize : ChunkSize}

theorem Records.ends {index : Nat} {body whole text longer extra : List UInt8}
    (first : Records cipher chunkSize index body text)
    (second : Records cipher chunkSize index whole longer) (split : whole = body ++ extra) :
    extra = [] := by
  induction first generalizing whole longer with
  | @final index tag fits length opens =>
    cases second with
    | @final _ other fitsToo lengthToo opensToo =>
      rw [List.append_assoc] at split
      have same := List.append_cancel_left split
      have longer := congrArg List.length same
      rw [List.length_append, lengthToo, length] at longer
      exact List.eq_nil_of_length_eq_zero (by omega)
    | chunk fitsToo positive small lengthToo opensToo more =>
      rw [List.append_assoc] at split
      have fits := Nat.lt_of_succ_lt fitsToo
      obtain ⟨impossible, -⟩ := RecordHeader.split_unique (RecordHeader.chunk_fits fits small)
        (RecordHeader.final_fits fits) split
      cases impossible
  | @chunk index opened ciphertext body rest fits positive small length opens more ih =>
    simp only [List.append_assoc] at split
    have fitsIndex := Nat.lt_of_succ_lt fits
    cases second with
    | final fitsToo lengthToo opensToo =>
      obtain ⟨impossible, -⟩ := RecordHeader.split_unique (RecordHeader.final_fits fitsToo)
        (RecordHeader.chunk_fits fitsIndex small) split
      cases impossible
    | @chunk _ plain encrypted beyond _ _ _ smallToo lengthToo _ moreToo =>
      obtain ⟨headers, same⟩ := RecordHeader.split_unique
        (RecordHeader.chunk_fits fitsIndex smallToo) (RecordHeader.chunk_fits fitsIndex small) split
      have sized : plain.length = opened.length := congrArg RecordHeader.plaintextLength headers
      have bodies := (List.append_inj same (by rw [lengthToo, length, sized])).2
      exact ih moreToo bodies

/-- A container that opens is no proper beginning of another one under the same key. -/
theorem Opens.ends {aead : Aead} {sha256 : Sha256} {key : GenerationDek}
    {container whole plaintext longer metadataBytes otherBytes body beyond : List UInt8}
    {metadata other : GenerationMetadata}
    (first : Opens aead sha256 key container metadata plaintext metadataBytes body)
    (second : Opens aead sha256 key whole other longer otherBytes beyond)
    (starts : container <+: whole) : container = whole := by
  obtain ⟨extra, split⟩ := starts
  have wide : maxMetadataBytes < capacity 4 := by decide
  rw [first.framed, second.framed, List.append_assoc] at split
  obtain ⟨rfl, bodies⟩ := preludeBytes_split_unique (Nat.lt_of_le_of_lt first.short wide)
    (Nat.lt_of_le_of_lt second.short wide) split
  cases first.decoded.symm.trans second.decoded
  have none_ := first.records.ends second.records bodies.symm
  rw [first.framed, second.framed, ← bodies, none_, List.append_nil]

end Records

section Readers

variable (aead : Aead) (sha256 : Sha256) (key : GenerationDek)

/-- The in-memory reader accepts the container. -/
def Accepted.InMemory (container : List UInt8) : Prop :=
  ∃ opened, openGeneration aead sha256 container key = .ok opened

/-- The streaming reader accepts the container from some source into some sink that work. -/
def Accepted.Streamed (container : List UInt8) : Prop :=
  ∃ (σ τ : Type) (source : ReadSource σ) (sink : WriteSink τ) (held : σ → List UInt8)
    (taken : τ → List UInt8), source.Holds held ∧ sink.Takes taken ∧
    ∃ s t report after, held s = container ∧
      openGenerationStreaming source sink aead sha256 s key t = .ok (report, after)

end Readers

/-- Each reader refuses whatever is more or less than a container it accepts. -/
theorem accepted_prefix_free (aead : Aead) (sha256 : Sha256) (key : GenerationDek)
    (container whole : List UInt8) (starts : container <+: whole) :
    (Accepted.InMemory aead sha256 key container → Accepted.InMemory aead sha256 key whole →
      container = whole) ∧
    (Accepted.Streamed aead sha256 key container → Accepted.Streamed aead sha256 key whole →
      container = whole) := by
  constructor
  · rintro ⟨opened, first⟩ ⟨other, second⟩
    obtain ⟨-, -, _, _, opens⟩ := openGeneration_eq_ok.mp first
    obtain ⟨-, -, _, _, opensToo⟩ := openGeneration_eq_ok.mp second
    exact opens.ends opensToo starts
  · rintro ⟨_, _, _, _, _, _, holds, takes, _, _, _, _, rfl, first⟩
      ⟨_, _, _, _, _, _, holdsToo, takesToo, _, _, _, _, rfl, second⟩
    obtain ⟨_, _, _, opens, -⟩ := openGenerationStreaming_sound holds takes first
    obtain ⟨_, _, _, opensToo, -⟩ := openGenerationStreaming_sound holdsToo takesToo second
    exact opens.ends opensToo starts

open OneByte in
theorem accepted_prefix_free_one_byte : ∃ container,
    (∃ opened, openGeneration aead sha256 container key = .ok opened) ∧
      ∀ opened, openGeneration aead sha256 (container ++ [0]) key ≠ .ok opened := by
  obtain ⟨metadata, sealed, -, -, opened⟩ := in_memory_round_trip sha256 key identity
    noncePrefix chunkSize aead_addsTag aead_inverts (by decide : plaintext.length ≤ maxPlaintextBytes)
  refine ⟨sealed.container, ⟨_, opened⟩, fun longer accepted => ?_⟩
  have same := (accepted_prefix_free aead sha256 key sealed.container (sealed.container ++ [0])
    (List.prefix_append _ _)).1 ⟨_, opened⟩ ⟨longer, accepted⟩
  have lengths := congrArg List.length same
  rw [List.length_append] at lengths
  exact absurd lengths (Nat.ne_of_lt (Nat.lt_succ_self _))

end ProfilePlatform.Generation
