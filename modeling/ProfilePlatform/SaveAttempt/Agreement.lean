import ProfilePlatform.SaveAttempt.Writing

/-! When the two readers of a save attempt agree, and the step that retires one finds the container
where they have found it. -/

set_option autoImplicit false

namespace ProfilePlatform.SaveAttempt

open Foundation Generation

section Retirement

variable {codec : HeaderCodec} {sha256 : Sha256} {root : AttemptRoot} {header : AttemptHeader}
  {tenant : TenantId} {profile : ProfileId} {successor : GenerationId}
  {record headerBytes other payload container : Bytes}

theorem Framed.unique (framed : Framed record headerBytes payload)
    (again : Framed record other container) : headerBytes = other ∧ payload = container := by
  have counted : headerBytes.length = other.length :=
    framed.headerLength_eq.symm.trans again.headerLength_eq
  constructor
  · rw [← framed.header_eq, counted, again.header_eq]
  · rw [← framed.ciphertext_eq, counted, again.ciphertext_eq]

/-- A checkpoint is opened once more if its header is as long as the serializer writes it. -/
theorem reopenForRetirement_eq_ok {reopened : VerifiedGenerationObjectFile}
    (stored : root.records (attemptPath sha256 tenant profile successor) = some record)
    (framed : Framed record headerBytes payload) (decoded : codec.fromSlice headerBytes = some header)
    (sound : Sound sha256 root header tenant profile successor payload)
    (fits : record.length ≤ maxStreamRecordBytes) (small : payload.length ≤ maxStreamContainerBytes) :
    reopenForRetirement codec sha256 root tenant profile successor
        ⟨header, containerObject sha256 record headerBytes payload⟩ = .ok reopened ↔
      (codec.toVec header).length = headerBytes.length ∧
        reopened = containerObject sha256 record headerBytes payload := by
  have length := framed.length
  have limit : maxStreamRecordBytes < u64Limit := by decide
  have rechecked : (containerObject sha256 record headerBytes payload).recheckAndRewind sha256 =
      .ok () := by
    refine recheckAndRewind_eq_ok.mpr ⟨length.symm, Nat.lt_of_le_of_lt fits limit, ?_⟩
    show (sha256 (record.drop (12 + headerBytes.length))).val = _
    rw [framed.ciphertext_eq]
    rfl
  unfold reopenForRetirement
  constructor
  · intro reopens
    obtain ⟨_, -, reopens⟩ := bind_eq_ok.mp reopens
    obtain ⟨found, held, reopens⟩ := bind_eq_ok.mp reopens
    obtain ⟨_, -, reopens⟩ := bind_eq_ok.mp reopens
    obtain ⟨_, -, reopens⟩ := bind_eq_ok.mp reopens
    obtain ⟨_, -, reopens⟩ := bind_eq_ok.mp reopens
    obtain ⟨digest, decodes, reopens⟩ := bind_eq_ok.mp reopens
    obtain ⟨object, opened, reopens⟩ := bind_eq_ok.mp reopens
    obtain ⟨_, -, same⟩ := bind_eq_ok.mp reopens
    cases same
    rw [stored] at held
    cases okOr_eq_ok.mp held
    obtain ⟨rfl, -, -, -, ends, -, -⟩ := openCheckpointPayload_eq_ok.mp (changedUnless_eq_ok.mp opened)
    have counted := sound.counted
    have same : (codec.toVec header).length = headerBytes.length := by
      change 12 + (codec.toVec header).length + header.containerBytes = record.length at ends
      omega
    refine ⟨same, ?_⟩
    have digested := sound.digested.symm.trans (okOr_eq_ok.mp decodes)
    cases digested
    show VerifiedGenerationObjectFile.mk record (12 + (codec.toVec header).length)
      header.containerBytes _ = _
    rw [same, ← counted]
    rfl
  · rintro ⟨same, rfl⟩
    have positive := framed.positive
    have short := framed.short
    have narrow : maxHeaderBytes = 4096 := rfl
    have opened : VerifiedGenerationObjectFile.openCheckpointPayload sha256 record
        (12 + (codec.toVec header).length) header.containerBytes (sha256 payload).val =
          .ok (containerObject sha256 record headerBytes payload) := by
      rw [same, ← sound.counted]
      refine openCheckpointPayload_eq_ok.mpr ⟨rfl, by omega, by omega, small, length.symm,
        by omega, ?_⟩
      rw [framed.ciphertext_eq]
    refine bind_eq_ok.mpr ⟨(), changedUnless_eq_ok.mpr rechecked, ?_⟩
    refine bind_eq_ok.mpr ⟨record, okOr_eq_ok.mpr stored, ?_⟩
    refine bind_eq_ok.mpr ⟨header, readBoundedAttemptHeader_eq_ok.mpr
      ⟨headerBytes, payload, framed, decoded, fits⟩, ?_⟩
    refine bind_eq_ok.mpr ⟨(), refuseIf_passes (not_not.mpr rfl), ?_⟩
    refine bind_eq_ok.mpr ⟨(), refuseIf_passes (not_not.mpr (length_of_bytes sound.digested)), ?_⟩
    refine bind_eq_ok.mpr ⟨_, okOr_eq_ok.mpr sound.digested, ?_⟩
    refine bind_eq_ok.mpr ⟨_, changedUnless_eq_ok.mpr opened, ?_⟩
    exact bind_eq_ok.mpr ⟨(), changedUnless_eq_ok.mpr rechecked, rfl⟩

end Retirement

section Agreement

variable (codec : HeaderCodec) (sha256 : Sha256) (root : AttemptRoot) (tenant : TenantId)
  (profile : ProfileId) (successor : GenerationId) (record : Bytes)

/-- Two results with one header and one range of the record. -/
structure SameRange (attempt : ReadOnlySaveAttempt) (streamed : ReadOnlyStreamedSaveAttempt) :
    Prop where
  header : streamed.header = attempt.header
  file : streamed.ciphertext.file = record
  ends : streamed.ciphertext.payloadOffset + attempt.ciphertext.length = record.length
  bytes : streamed.ciphertext.expectedBytes = attempt.ciphertext.length
  content : record.drop streamed.ciphertext.payloadOffset = attempt.ciphertext

structure ReadersAgree : Prop where
  streams : ∀ attempt, inspectExactSaveAttempt codec sha256 root tenant profile successor =
    .ok (some attempt) → ∃ streamed, inspectStreamingExactSaveAttempt codec sha256 root tenant
      profile successor = .ok (some streamed) ∧ SameRange record attempt streamed
  loads : ∀ streamed, inspectStreamingExactSaveAttempt codec sha256 root tenant profile successor =
    .ok (some streamed) → ∃ attempt, inspectExactSaveAttempt codec sha256 root tenant profile
      successor = .ok (some attempt) ∧ SameRange record attempt streamed
  retires : ∀ streamed, inspectStreamingExactSaveAttempt codec sha256 root tenant profile successor =
    .ok (some streamed) → ∃ reopened, reopenForRetirement codec sha256 root tenant profile successor
      streamed = .ok reopened ∧ reopened.payloadOffset = streamed.ciphertext.payloadOffset

/-- A record that passes what both readers check is spelled like a written one: its container is
not too large for memory, its digest has small digits, and its header is as long as it would be
written. -/
def SpelledAsWritten : Prop :=
  ∀ headerBytes payload header, Framed record headerBytes payload →
    codec.fromSlice headerBytes = some header →
    Sound sha256 root header tenant profile successor payload →
    payload.length ≤ maxContainerBytes ∧ SmallDigits header ∧
      (codec.toVec header).length = headerBytes.length

variable {codec sha256 root tenant profile successor record}

theorem sameRange {headerBytes payload : Bytes} {header : AttemptHeader}
    (framed : Framed record headerBytes payload) : SameRange record ⟨header, payload⟩
      ⟨header, containerObject sha256 record headerBytes payload⟩ :=
  ⟨rfl, rfl, framed.length.symm, rfl, framed.ciphertext_eq⟩

theorem agree_iff
    (stored : root.records (attemptPath sha256 tenant profile successor) = some record)
    (small : record.length ≤ maxRecordBytes) :
    ReadersAgree codec sha256 root tenant profile successor record ↔
      SpelledAsWritten codec sha256 root tenant profile successor record := by
  have larger : maxRecordBytes ≤ maxStreamContainerBytes := by decide
  have wider : maxRecordBytes ≤ maxStreamRecordBytes := by decide
  have fits := Nat.le_trans small wider
  have inside {headerBytes payload : Bytes} (framed : Framed record headerBytes payload) :
      payload.length ≤ maxStreamContainerBytes := by
    have length := framed.length
    omega
  constructor
  · rintro ⟨-, loads, retires⟩ headerBytes payload header framed decoded sound
    have streamed := (inspectStreaming_eq_ok stored).mpr ⟨headerBytes, payload, framed, decoded,
      sound, fits, inside framed, rfl⟩
    obtain ⟨⟨found, content⟩, loaded, same⟩ := loads _ streamed
    obtain ⟨reopened, again, -⟩ := retires _ streamed
    obtain ⟨_, reframed, _, _, _, short, digits⟩ := (inspectExact_eq_ok stored).mp loaded
    obtain ⟨-, rfl⟩ := framed.unique reframed
    obtain rfl : header = found := same.header
    exact ⟨short, digits,
      ((reopenForRetirement_eq_ok stored framed decoded sound fits (inside framed)).mp again).1⟩
  · intro spelled
    refine ⟨?_, ?_, ?_⟩
    · rintro ⟨header, payload⟩ loaded
      obtain ⟨headerBytes, framed, decoded, sound, -, -, -⟩ := (inspectExact_eq_ok stored).mp loaded
      exact ⟨_, (inspectStreaming_eq_ok stored).mpr ⟨headerBytes, payload, framed, decoded, sound,
        fits, inside framed, rfl⟩, sameRange framed⟩
    · rintro ⟨header, object⟩ streamed
      obtain ⟨headerBytes, payload, framed, decoded, sound, -, -, rfl⟩ :=
        (inspectStreaming_eq_ok stored).mp streamed
      obtain ⟨short, digits, -⟩ := spelled headerBytes payload header framed decoded sound
      exact ⟨⟨header, payload⟩, (inspectExact_eq_ok stored).mpr ⟨headerBytes, framed, decoded, sound,
        small, short, digits⟩, sameRange framed⟩
    · rintro ⟨header, object⟩ streamed
      obtain ⟨headerBytes, payload, framed, decoded, sound, -, -, rfl⟩ :=
        (inspectStreaming_eq_ok stored).mp streamed
      obtain ⟨-, -, length⟩ := spelled headerBytes payload header framed decoded sound
      exact ⟨_, (reopenForRetirement_eq_ok stored framed decoded sound fits (inside framed)).mpr
        ⟨length, rfl⟩, rfl⟩

end Agreement

section Statement

variable (codec : HeaderCodec) (aead : Aead) (sha256 : Sha256)

def Streams (root : AttemptRoot) (candidate : ScopedWorkspace) : Prop :=
  ∃ streamed, inspectStreamingExactSaveAttempt codec sha256 root candidate.tenantId
    candidate.profileId candidate.generationId = .ok (some streamed)

def Loads (root : AttemptRoot) (candidate : ScopedWorkspace) : Prop :=
  ∃ attempt, inspectExactSaveAttempt codec sha256 root candidate.tenantId candidate.profileId
    candidate.generationId = .ok (some attempt)

/-- Both readers take what the writers have written at a free place. Only a container that was
streamed may be too large for the reader in memory. -/
structure WritersAreRead : Prop where
  exact : ∀ root after source (prepared : PreparedDirtyGeneration aead sha256) lease,
    persistExactSaveAttempt codec sha256 root source prepared lease = .ok after →
    root.records (attemptPath sha256 prepared.candidateWorkspace.tenantId
      prepared.candidateWorkspace.profileId prepared.candidateWorkspace.generationId) = none →
    Held root source prepared.candidateWorkspace →
    Streams codec sha256 after prepared.candidateWorkspace ∧
      Loads codec sha256 after prepared.candidateWorkspace
  streamed : ∀ root after source candidate report lease recoveredLoneOrigin container,
    persistStreamingCheckpointWithWriter codec sha256 root source candidate report lease
      recoveredLoneOrigin (.ok container) = .ok after →
    root.records (attemptPath sha256 candidate.tenantId candidate.profileId
      candidate.generationId) = none →
    Held root source candidate → Reported sha256 report (.ok container) →
    (∀ origin ∈ recoveredLoneOrigin, ¬origin.Unsound lease.epoch) →
    Streams codec sha256 after candidate ∧
      (Loads codec sha256 after candidate ↔ container.length ≤ maxContainerBytes)

variable {codec}

theorem writersAreRead (roundTrips : codec.RoundTrips) : WritersAreRead codec aead sha256 := by
  constructor
  · intro root after source prepared lease persisted free held
    obtain ⟨header, stored, small⟩ := persistExact_stored persisted free held
    have larger : maxContainerBytes ≤ maxStreamContainerBytes := by decide
    exact ⟨⟨_, stored.streams roundTrips (Nat.le_trans small larger)⟩,
      ⟨_, stored.loads roundTrips small⟩⟩
  · intro root after source candidate report lease recoveredLoneOrigin container persisted free held
      reported origins
    obtain ⟨header, _, written, stored, bounded⟩ :=
      persistStreaming_stored persisted free held reported origins
    cases written
    refine ⟨⟨_, stored.streams roundTrips bounded⟩, ?_, fun small => ⟨_, stored.loads roundTrips small⟩⟩
    rintro ⟨⟨found, content⟩, loaded⟩
    obtain ⟨_, framed, -, -, -, small, -⟩ := (inspectExact_eq_ok stored.stored).mp loaded
    rwa [(stored.framed.unique framed).2]

end Statement

/-- The readers agree on a stored record exactly if it is spelled as a written one would be, and
both take what the writers write. -/
theorem readers_agree_iff {codec : HeaderCodec} (aead : Aead) {sha256 : Sha256} {root : AttemptRoot}
    {tenant : TenantId} {profile : ProfileId} {successor : GenerationId} {record : Bytes}
    (stored : root.records (attemptPath sha256 tenant profile successor) = some record)
    (small : record.length ≤ maxRecordBytes) :
    (ReadersAgree codec sha256 root tenant profile successor record ↔
      SpelledAsWritten codec sha256 root tenant profile successor record) ∧
      (codec.RoundTrips → WritersAreRead codec aead sha256) :=
  ⟨agree_iff stored small, writersAreRead aead sha256⟩

namespace SpacedHeader

def tenant : TenantId := ⟨⟨"tenant-attempt", by decide⟩⟩
def profile : ProfileId := ⟨⟨"profile-attempt", by decide⟩⟩
def base : GenerationId := ⟨⟨"generation-before", by decide⟩⟩
def successor : GenerationId := ⟨⟨"generation-after", by decide⟩⟩

def scopeDigest : Block 32 :=
  ⟨[159, 64, 77, 231, 209, 6, 205, 202, 222, 47, 185, 28, 221, 147, 87, 49, 110, 196, 49, 40, 74, 137,
    95, 106, 16, 224, 160, 245, 227, 217, 171, 191], rfl⟩

def successorDigest : Block 32 :=
  ⟨[122, 201, 126, 49, 88, 115, 215, 56, 163, 25, 73, 127, 102, 152, 124, 227, 137, 45, 40, 31, 65, 74,
    180, 172, 146, 250, 244, 141, 149, 150, 32, 220], rfl⟩

def metadataDigest : Block 32 :=
  ⟨[250, 234, 251, 233, 206, 126, 116, 181, 219, 165, 186, 238, 44, 92, 150, 50, 86, 223, 59, 136, 235,
    114, 203, 172, 186, 67, 97, 21, 245, 87, 161, 82], rfl⟩

def payloadDigest : Block 32 :=
  ⟨[60, 171, 137, 168, 203, 188, 140, 141, 151, 252, 195, 232, 170, 9, 210, 187, 187, 138, 245, 205, 64,
    160, 52, 29, 43, 246, 236, 136, 59, 88, 246, 9], rfl⟩

def emptyDigest : Block 32 :=
  ⟨[227, 176, 196, 66, 152, 252, 28, 20, 154, 251, 244, 200, 153, 111, 185, 36, 39, 174, 65, 228, 100,
    155, 147, 76, 164, 149, 153, 27, 120, 82, 184, 85], rfl⟩

/-- What is hashed here differs in length. -/
def sha256 : Sha256 := fun bytes =>
  if bytes.length = 85 then scopeDigest
  else if bytes.length = 60 then successorDigest
  else if bytes.length = 151 then metadataDigest
  else if bytes.length = 164 then payloadDigest
  else emptyDigest

def metadata : GenerationMetadata where
  tenantId := tenant
  profileId := profile
  generationId := successor
  baseGenerationId := some base
  keyId := ⟨"key-of-attempt", by decide⟩
  noncePrefix := ⟨List.replicate 16 17, rfl⟩
  chunkSize := ⟨65536, by decide⟩
  plaintextBytes := ⟨0, Nat.zero_le _⟩
  plaintextDigest := emptyDigest

/-- The metadata, and the first byte of a record. -/
def payload : Bytes := preludeBytes metadata.encoding ++ [2]

def header : AttemptHeader where
  schema := "bridge-p3-attempt-v1"
  tenant := "tenant-attempt"
  profile := "profile-attempt"
  baseGeneration := "generation-before"
  successor := "generation-after"
  sessionFingerprint := "5e5e5e5e5e5e5e5e5e5e5e5e5e5e5e5e5e5e5e5e5e5e5e5e5e5e5e5e5e5e5e5e"
  fencingFingerprint := "fefefefefefefefefefefefefefefefefefefefefefefefefefefefefefefefe"
  deviceFingerprint := none
  epoch := 3
  sourceInventory := 14695981039346656037
  candidateInventory := 14695981039346656037
  candidateBytes := 0
  objectKey := "tenants/tenant-attempt/profiles/profile-attempt/generations/generation-after.bpgc"
  metadataDigest := "faeafbe9ce7e74b5dba5baee2c5c963256df3b88eb72cbacba436115f557a152"
  containerDigest := "3cab89a8cbbc8c8d97fcc3e8aa09d2bbbb8af5cd40a0341d2bf6ec883b58f609"
  containerBytes := 164
  recoveredLoneOrigin := none

def spelled : Bytes := utf8Bytes ("\x7b\"schema\":\"bridge-p3-attempt-v1\",\"tenant\":\"tenant-attempt\"," ++
  "\"profile\":\"profile-attempt\",\"base_generation\":\"generation-before\"," ++
  "\"successor\":\"generation-after\",\"session_fingerprint\":" ++
  "\"5e5e5e5e5e5e5e5e5e5e5e5e5e5e5e5e5e5e5e5e5e5e5e5e5e5e5e5e5e5e5e5e\",\"fencing_fingerprint\":" ++
  "\"fefefefefefefefefefefefefefefefefefefefefefefefefefefefefefefefe\",\"epoch\":3," ++
  "\"source_inventory\":14695981039346656037,\"candidate_inventory\":14695981039346656037," ++
  "\"candidate_bytes\":0,\"object_key\":" ++
  "\"tenants/tenant-attempt/profiles/profile-attempt/generations/generation-after.bpgc\"," ++
  "\"metadata_digest\":\"faeafbe9ce7e74b5dba5baee2c5c963256df3b88eb72cbacba436115f557a152\"," ++
  "\"container_digest\":\"3cab89a8cbbc8c8d97fcc3e8aa09d2bbbb8af5cd40a0341d2bf6ec883b58f609\"," ++
  "\"container_bytes\":164\x7d")

/-- A blank may stand in front of JSON, and is not written again. -/
def spaced : Bytes := 32 :: spelled

def codec : HeaderCodec where
  toVec written := if written = header then spelled else []
  fromSlice read := if read = spelled ∨ read = spaced then some header else none

def record : Bytes := recordBytes spaced payload

def root : AttemptRoot where
  workspaces _ _ := ⟨(Table.empty.insert base Snapshot.MaterializationRoot.newGeneration).insert successor
    Snapshot.MaterializationRoot.newGeneration, 515, 1⟩
  records := Table.empty.insert (attemptPath sha256 tenant profile successor) record

theorem stored : root.records (attemptPath sha256 tenant profile successor) = some record := by
  simp only [root, Table.insert_self]

theorem framed : Framed record spaced payload := by
  have length : spelled.length = 737 := by
    unfold spelled utf8Bytes
    simp only [utf8_append, List.length_append]
    decide
  refine ⟨by rw [record], ?_, ?_, ?_⟩
  · simp only [spaced, List.length_cons, length, ne_eq, Nat.reduceAdd, OfNat.ofNat_ne_zero,
      not_false_eq_true]
  · simp only [spaced, List.length_cons, length, maxHeaderBytes, Nat.reduceAdd, Nat.reduceLeDiff]
  · rw [payload]
    exact List.append_ne_nil_of_right_ne_nil _ (List.cons_ne_nil _ _)

theorem decoded : codec.fromSlice spaced = some header := by
  simp only [codec, or_true, if_true]

theorem length_payload : payload.length = 164 := by decide +kernel

theorem small : record.length ≤ maxRecordBytes := by
  have limit : 12 + 4096 + 164 ≤ maxRecordBytes := by decide
  have short : spaced.length ≤ 4096 := framed.short
  rw [record, length_recordBytes, length_payload]
  omega

theorem unchanged : Unchanged root header tenant profile successor := by
  have listed : Snapshot.buildInventory Snapshot.MaterializationRoot.newGeneration =
      .ok ⟨[], 0, 14695981039346656037⟩ := by rfl
  refine ⟨base, _, _, _, _, TypedId.parse_asStr base, ?_, listed, ?_, listed, rfl, rfl, rfl⟩
  · rfl
  · rfl

theorem sound : Sound sha256 root header tenant profile successor payload := by
  have metadataHashed : sha256 metadata.encoding = metadataDigest := by decide +kernel
  have payloadHashed : sha256 payload = payloadDigest := by decide +kernel
  refine ⟨by decide +kernel, ⟨metadata, [2], rfl, ?_⟩, length_payload, by decide +kernel, ?_, unchanged⟩
  · rw [metadataHashed, Describes]
    decide +kernel
  · rw [payloadHashed]
    decide +kernel

/-- Both readers take the record, and it cannot be retired. -/
theorem never_retired :
    (∃ attempt, inspectExactSaveAttempt codec sha256 root tenant profile successor =
      .ok (some attempt)) ∧
    ¬ReadersAgree codec sha256 root tenant profile successor record := by
  have digits : SmallDigits header := by
    unfold SmallDigits
    decide +kernel
  constructor
  · refine ⟨⟨header, payload⟩, (inspectExact_eq_ok stored).mpr ⟨spaced, framed, decoded, sound, small,
      ?_, digits⟩⟩
    rw [length_payload]
    decide
  · intro agree
    obtain ⟨-, -, length⟩ :=
      (agree_iff stored small).mp agree spaced payload header framed decoded sound
    have written : codec.toVec header = spelled := by simp only [codec, if_true]
    rw [written, spaced, List.length_cons] at length
    omega

/-- No seal is asked for here. -/
def aead : Aead where
  encrypt _ _ _ _ := none
  decrypt _ _ _ _ := none

theorem readers_agree_iff_spaced :
    (ReadersAgree codec sha256 root tenant profile successor record ↔
      SpelledAsWritten codec sha256 root tenant profile successor record) ∧
      (codec.RoundTrips → WritersAreRead codec aead sha256) :=
  readers_agree_iff aead stored small

end SpacedHeader

end ProfilePlatform.SaveAttempt
