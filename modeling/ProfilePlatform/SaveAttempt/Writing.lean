import ProfilePlatform.Generation.Streaming
import ProfilePlatform.SaveAttempt.Readers

/-! The two writers of a save attempt, and that the readers take what they write. The record is
staged under a name of its own and then linked to its place, where none may be. -/

set_option autoImplicit false

namespace ProfilePlatform.SaveAttempt

open Foundation Generation
open Snapshot (buildInventory Files GenerationInventory)

/-- A generation that was opened on disk. -/
structure ScopedWorkspace where
  tenantId : TenantId
  profileId : ProfileId
  generationId : GenerationId
  files : Files

structure ProfileLease where
  tenantId : TenantId
  profileId : ProfileId
  sessionId : SessionId
  deviceId : DeviceId
  epoch : Nat
  fencingToken : FencingToken
  issued : epoch ≠ 0

/-- A candidate that was sealed, and the base it was made from is another generation. -/
structure PreparedDirtyGeneration (aead : Aead) (sha256 : Sha256) where
  candidateWorkspace : ScopedWorkspace
  candidateInventory : GenerationInventory
  sealed : SealedGeneration
  metadataDigest : String
  containerDigest : String
  sealing : ∃ key plaintext, sealGeneration aead sha256 sealed.metadata key plaintext = .ok sealed
  metadataHashed : metadataDigest = hexDigest sealed.metadataDigest.val
  containerHashed : containerDigest = hexDigest sealed.containerDigest.val
  apart : sealed.metadata.baseGenerationId ≠ some sealed.metadata.generationId

section Writers

variable (codec : HeaderCodec) (sha256 : Sha256) (root : AttemptRoot)

/-- The header both writers make of a lease and two workspaces. -/
def attemptHeader (lease : ProfileLease) (source candidate : ScopedWorkspace)
    (sourceInventory candidateInventory : GenerationInventory)
    (objectKey metadataDigest containerDigest : String) (containerBytes : Nat)
    (recoveredLoneOrigin : Option RecoveredLoneOrigin) : AttemptHeader where
  schema := attemptSchema
  tenant := lease.tenantId.asStr
  profile := lease.profileId.asStr
  baseGeneration := source.generationId.asStr
  successor := candidate.generationId.asStr
  sessionFingerprint := credentialFingerprint sha256 "session" lease.sessionId.asStr
  fencingFingerprint := credentialFingerprint sha256 "fencing" lease.fencingToken.asStr
  deviceFingerprint := some (credentialFingerprint sha256 "device" lease.deviceId.asStr)
  epoch := lease.epoch
  sourceInventory := sourceInventory.inventoryDigest
  candidateInventory := candidateInventory.inventoryDigest
  candidateBytes := candidateInventory.totalBytes
  objectKey
  metadataDigest
  containerDigest
  containerBytes
  recoveredLoneOrigin

/-- The record at its place, which was free. -/
def AttemptRoot.publish (self : AttemptRoot) (path : String) (record : Bytes) : AttemptRoot :=
  { self with records := self.records.insert path record }

def verifyExistingExact (existing headerBytes ciphertext : Bytes) : Outcome Unit := do
  refuseIf (maxRecordBytes < existing.length) .invalid
  let (header, payload) ← parseRecord codec existing
  let expected ← okOr (codec.fromSlice headerBytes) .invalid
  refuseIf (¬(header = expected ∧ payload = ciphertext)) .changed

/-- The metadata are of the candidate, made from the source, and all are the lease's. -/
abbrev Mismatched (lease : ProfileLease) (source candidate : ScopedWorkspace)
    (metadata : GenerationMetadata) : Prop :=
  lease.tenantId ≠ candidate.tenantId ∨ lease.profileId ≠ candidate.profileId ∨
    metadata.tenantId ≠ candidate.tenantId ∨ metadata.profileId ≠ candidate.profileId ∨
    metadata.generationId ≠ candidate.generationId ∨
    metadata.baseGenerationId ≠ some source.generationId ∨ source.tenantId ≠ candidate.tenantId ∨
    source.profileId ≠ candidate.profileId

def persistExactSaveAttemptWithOrigin {aead : Aead} (source : ScopedWorkspace)
    (prepared : PreparedDirtyGeneration aead sha256) (lease : ProfileLease)
    (recoveredLoneOrigin : Option RecoveredLoneOrigin) : Outcome AttemptRoot := do
  let candidate := prepared.candidateWorkspace
  refuseIf (Mismatched lease source candidate prepared.sealed.metadata) .invalid
  let sourceInventory ← changedUnless (buildInventory source.files)
  let candidateInventory ← changedUnless (buildInventory candidate.files)
  refuseIf (sourceInventory ≠ prepared.candidateInventory ∨
    candidateInventory ≠ prepared.candidateInventory) .changed
  let ciphertext := prepared.sealed.container
  let headerBytes := codec.toVec (attemptHeader sha256 lease source candidate sourceInventory
    candidateInventory prepared.sealed.metadata.objectKey prepared.metadataDigest
    prepared.containerDigest ciphertext.length recoveredLoneOrigin)
  refuseIf (headerBytes = [] ∨ maxHeaderBytes < headerBytes.length ∨ ciphertext = [] ∨
    maxContainerBytes < ciphertext.length ∨
    maxRecordBytes < 12 + headerBytes.length + ciphertext.length) .invalid
  let canonical := attemptPath sha256 candidate.tenantId candidate.profileId candidate.generationId
  match root.records canonical with
  | some existing =>
    verifyExistingExact codec existing headerBytes ciphertext
    return root
  | none => return root.publish canonical (recordBytes headerBytes ciphertext)

def persistExactSaveAttempt {aead : Aead} (source : ScopedWorkspace)
    (prepared : PreparedDirtyGeneration aead sha256) (lease : ProfileLease) : Outcome AttemptRoot :=
  persistExactSaveAttemptWithOrigin codec sha256 root source prepared lease none

def streamingCheckpointHeader (source candidate : ScopedWorkspace)
    (report : StreamingGenerationReport) (lease : ProfileLease)
    (recoveredLoneOrigin : Option RecoveredLoneOrigin) : Outcome AttemptHeader := do
  refuseIf (Mismatched lease source candidate report.metadata ∨
    source.generationId = candidate.generationId ∨ lease.epoch = 0) .invalid
  let baseInventory ← changedUnless (buildInventory source.files)
  let candidateInventory ← changedUnless (buildInventory candidate.files)
  refuseIf (baseInventory ≠ candidateInventory) .changed
  return attemptHeader sha256 lease source candidate baseInventory candidateInventory
    report.metadata.objectKey (hexDigest report.metadataDigest.val)
    (hexDigest report.containerDigest.val) report.containerBytes recoveredLoneOrigin

/-- The container goes straight into the staged file, and is read back before it is published. -/
def persistStreamingCheckpointWithWriter (source candidate : ScopedWorkspace)
    (report : StreamingGenerationReport) (lease : ProfileLease)
    (recoveredLoneOrigin : Option RecoveredLoneOrigin) (writeCiphertext : Outcome Bytes) :
    Outcome AttemptRoot := do
  let header ← streamingCheckpointHeader sha256 source candidate report lease recoveredLoneOrigin
  let headerBytes := codec.toVec header
  refuseIf (headerBytes = [] ∨ maxHeaderBytes < headerBytes.length ∨ report.containerBytes = 0 ∨
    maxStreamContainerBytes < report.containerBytes) .invalid
  let canonical := attemptPath sha256 lease.tenantId lease.profileId candidate.generationId
  match root.records canonical with
  | some _ =>
    let inspected ← inspectStreamingExactSaveAttempt codec sha256 root lease.tenantId
      lease.profileId candidate.generationId
    let existing ← okOr inspected .changed
    refuseIf (existing.header ≠ header) .changed
    return root
  | none =>
    let ciphertext ← writeCiphertext
    let staged := recordBytes headerBytes ciphertext
    let verification ← changedUnless (VerifiedGenerationObjectFile.openCheckpointPayload sha256
      staged (12 + headerBytes.length) report.containerBytes report.containerDigest.val)
    changedUnless (verification.recheckAndRewind sha256)
    return root.publish canonical staged

end Writers

section Written

variable {codec : HeaderCodec} {sha256 : Sha256} {root after : AttemptRoot} {lease : ProfileLease}
  {source candidate : ScopedWorkspace} {metadata : GenerationMetadata} {container body : Bytes}
  {sourceInventory candidateInventory : GenerationInventory}
  {recoveredLoneOrigin : Option RecoveredLoneOrigin}

theorem length_credentialFingerprint (sha256 : Sha256) (kind value : String) :
    (utf8Bytes (credentialFingerprint sha256 kind value)).length = 64 := by
  rw [credentialFingerprint, utf8Bytes, Hex.utf8_hexDigest, Hex.length_text, (sha256 _).property]

/-- The header of what was sealed for two workspaces. -/
def sealedHeader (sha256 : Sha256) (lease : ProfileLease) (source candidate : ScopedWorkspace)
    (sourceInventory candidateInventory : GenerationInventory) (metadata : GenerationMetadata)
    (container : Bytes) (recoveredLoneOrigin : Option RecoveredLoneOrigin) : AttemptHeader :=
  attemptHeader sha256 lease source candidate sourceInventory candidateInventory
    metadata.objectKey (hexDigest (sha256 metadata.encoding).val)
    (hexDigest (sha256 container).val) container.length recoveredLoneOrigin

/-- The workspaces are still on disk as they were opened. -/
structure Held (root : AttemptRoot) (source candidate : ScopedWorkspace) : Prop where
  source : root.openGeneration candidate.tenantId candidate.profileId source.generationId =
    .ok source.files
  candidate : root.openGeneration candidate.tenantId candidate.profileId candidate.generationId =
    .ok candidate.files

theorem Held.publish (held : Held root source candidate) (path : String) (record : Bytes) :
    Held (root.publish path record) source candidate :=
  ⟨held.source, held.candidate⟩

theorem sound_of_sealed (sha256 : Sha256) (matched : ¬Mismatched lease source candidate metadata)
    (apart : source.generationId ≠ candidate.generationId)
    (framed : container = preludeBytes metadata.encoding ++ body)
    (held : Held root source candidate)
    (sourceListed : buildInventory source.files = .ok sourceInventory)
    (candidateListed : buildInventory candidate.files = .ok candidateInventory)
    (origins : ∀ origin ∈ recoveredLoneOrigin, ¬origin.Unsound lease.epoch) :
    Sound sha256 root (sealedHeader sha256 lease source candidate sourceInventory
      candidateInventory metadata container recoveredLoneOrigin) candidate.tenantId
      candidate.profileId candidate.generationId container := by
  simp only [Mismatched, not_or, not_not] at matched
  obtain ⟨tenant, profile, metadataTenant, metadataProfile, generation, base, -, -⟩ := matched
  obtain ⟨digits, digested, -⟩ := hexDigest_eq_iff.mp (rfl : hexDigest (sha256 container).val = _)
  refine ⟨?_, ⟨metadata, body, framed, ?_⟩, rfl, digits, digested, source.generationId, source.files,
    candidate.files, sourceInventory, candidateInventory, TypedId.parse_asStr _, held.source,
    sourceListed, held.candidate, candidateListed, rfl, rfl, rfl⟩
  · have session := length_credentialFingerprint sha256 "session" lease.sessionId.asStr
    have fencing := length_credentialFingerprint sha256 "fencing" lease.fencingToken.asStr
    have others : source.generationId.asStr ≠ candidate.generationId.asStr :=
      fun same => apart (TypedId.ext_asStr same)
    have lone : ¬recoveredLoneOrigin.any (fun origin => decide (origin.Unsound lease.epoch)) = true := by
      cases recoveredLoneOrigin with
      | none => exact Bool.false_ne_true
      | some origin => exact fun found => origins origin rfl (of_decide_eq_true found)
    simp only [AttemptHeader.OutOfScope, sealedHeader, attemptHeader, not_or, not_not]
    exact ⟨congrArg _ tenant, congrArg _ profile, trivial, trivial, others, session, fencing,
      lease.issued, lone⟩
  · simp only [Describes, AttemptHeader.Misdescribes, sealedHeader, attemptHeader, not_or, not_not]
    exact ⟨metadataTenant, metadataProfile, generation, by rw [base]; rfl, trivial, trivial⟩

/-- A record is at its place, and its header and container are what the readers ask for. -/
structure Stored (codec : HeaderCodec) (sha256 : Sha256) (root : AttemptRoot)
    (candidate : ScopedWorkspace) (header : AttemptHeader) (container : Bytes) : Prop where
  stored : root.records (attemptPath sha256 candidate.tenantId candidate.profileId
    candidate.generationId) = some (recordBytes (codec.toVec header) container)
  framed : Framed (recordBytes (codec.toVec header) container) (codec.toVec header) container
  sound : Sound sha256 root header candidate.tenantId candidate.profileId candidate.generationId
    container
  small : SmallDigits header

variable {header : AttemptHeader}

theorem Stored.streams (stored : Stored codec sha256 root candidate header container)
    (roundTrips : codec.RoundTrips) (bounded : container.length ≤ maxStreamContainerBytes) :
    inspectStreamingExactSaveAttempt codec sha256 root candidate.tenantId candidate.profileId
      candidate.generationId = .ok (some ⟨header, containerObject sha256
        (recordBytes (codec.toVec header) container) (codec.toVec header) container⟩) := by
  have length := stored.framed.length
  have short := stored.framed.short
  refine (inspectStreaming_eq_ok stored.stored).mpr ⟨codec.toVec header, container, stored.framed,
    roundTrips header, stored.sound, ?_, bounded, rfl⟩
  rw [maxStreamRecordBytes]
  omega

theorem Stored.loads (stored : Stored codec sha256 root candidate header container)
    (roundTrips : codec.RoundTrips) (bounded : container.length ≤ maxContainerBytes) :
    inspectExactSaveAttempt codec sha256 root candidate.tenantId candidate.profileId
      candidate.generationId = .ok (some ⟨header, container⟩) := by
  have length := stored.framed.length
  have short := stored.framed.short
  refine (inspectExact_eq_ok stored.stored).mpr ⟨codec.toVec header, stored.framed,
    roundTrips header, stored.sound, ?_, bounded, stored.small⟩
  rw [maxRecordBytes]
  omega

theorem smallDigits_sealed : SmallDigits (sealedHeader sha256 lease source candidate
    sourceInventory candidateInventory metadata container recoveredLoneOrigin) :=
  (hexDigest_eq_iff.mp (rfl : hexDigest (sha256 container).val = _)).2.2

theorem framed_recordBytes {headerBytes : Bytes} (headed : headerBytes ≠ [])
    (short : headerBytes.length ≤ maxHeaderBytes) (filled : container ≠ []) :
    Framed (recordBytes headerBytes container) headerBytes container :=
  ⟨rfl, fun empty => headed (List.length_eq_zero_iff.mp empty), short, filled⟩

theorem persistExact_stored {aead : Aead} {prepared : PreparedDirtyGeneration aead sha256}
    (persisted : persistExactSaveAttempt codec sha256 root source prepared lease = .ok after)
    (free : root.records (attemptPath sha256 prepared.candidateWorkspace.tenantId
      prepared.candidateWorkspace.profileId prepared.candidateWorkspace.generationId) = none)
    (held : Held root source prepared.candidateWorkspace) :
    ∃ header, Stored codec sha256 after prepared.candidateWorkspace header
      prepared.sealed.container ∧ prepared.sealed.container.length ≤ maxContainerBytes := by
  obtain ⟨_, matched, persisted⟩ := bind_eq_ok.mp persisted
  obtain ⟨sourceInventory, sourceListed, persisted⟩ := bind_eq_ok.mp persisted
  obtain ⟨candidateInventory, candidateListed, persisted⟩ := bind_eq_ok.mp persisted
  obtain ⟨_, -, persisted⟩ := bind_eq_ok.mp persisted
  obtain ⟨_, sized, persisted⟩ := bind_eq_ok.mp persisted
  dsimp only at persisted
  rw [free] at persisted
  cases persisted
  have matched := refuseIf_eq_ok.mp matched
  have sized := refuseIf_eq_ok.mp sized
  simp only [not_or] at sized
  obtain ⟨key, plaintext, sealing⟩ := prepared.sealing
  obtain ⟨⟨body, framed⟩, containerHashed⟩ := sealed_framed sealing
  obtain ⟨-, sealedRecords, -, -, same⟩ := sealGeneration_eq_ok.mp sealing
  have metadataHashed : prepared.sealed.metadataDigest = sha256 prepared.sealed.metadata.encoding :=
    congrArg SealedGeneration.metadataDigest same
  have apart : source.generationId ≠ prepared.candidateWorkspace.generationId := by
    intro same
    simp only [Mismatched, not_or, not_not] at matched
    refine prepared.apart ?_
    rw [matched.2.2.2.2.2.1, matched.2.2.2.2.1, same]
  have fresh : ∀ origin ∈ (none : Option RecoveredLoneOrigin), ¬origin.Unsound lease.epoch := by simp
  have made (path : String) (record : Bytes) :=
    sound_of_sealed sha256 matched apart framed (held.publish path record)
    (changedUnless_eq_ok.mp sourceListed) (changedUnless_eq_ok.mp candidateListed) fresh
  have spelled : attemptHeader sha256 lease source prepared.candidateWorkspace sourceInventory
      candidateInventory prepared.sealed.metadata.objectKey prepared.metadataDigest
      prepared.containerDigest prepared.sealed.container.length none =
      sealedHeader sha256 lease source prepared.candidateWorkspace sourceInventory
        candidateInventory prepared.sealed.metadata prepared.sealed.container none := by
    rw [sealedHeader, prepared.metadataHashed, prepared.containerHashed, metadataHashed,
      containerHashed]
  rw [spelled] at sized
  rw [spelled]
  exact ⟨_, ⟨Table.insert_self, framed_recordBytes sized.1 (Nat.not_lt.mp sized.2.1) sized.2.2.1,
    made _ _, smallDigits_sealed⟩, Nat.not_lt.mp sized.2.2.2.1⟩

/-- What is written into the file is what the report is about. -/
structure Reported (sha256 : Sha256) (report : StreamingGenerationReport)
    (writeCiphertext : Outcome Bytes) : Prop where
  hashed : report.metadataDigest = sha256 report.metadata.encoding
  sealed : ∀ container, writeCiphertext = .ok container →
    ∃ body, container = preludeBytes report.metadata.encoding ++ body

theorem reported_of_sealed {σ : Type} {reading : ReadSource σ} {inside : σ → Bytes}
    (holds : reading.Holds inside) {aead : Aead} {key : GenerationDek} {s : σ}
    {report : StreamingGenerationReport}
    (streamed : sealGenerationStreaming reading vectorSink aead sha256 metadata key s [] =
      .ok (report, container)) : Reported sha256 report (.ok container) := by
  obtain ⟨-, whole, records, -, rfl, written⟩ :=
    sealGenerationStreaming_sound holds vectorSink_takes streamed
  refine ⟨rfl, fun other same => ?_⟩
  cases same
  obtain ⟨chunked, count, tag, chunks, -, push⟩ := sealRecords_eq_ok.mp records
  obtain ⟨-, rfl⟩ := pushRecord_eq_ok.mp push
  obtain ⟨body, rfl⟩ := sealChunks_grows chunks
  have written : container = [] ++ _ := written
  rw [List.nil_append] at written
  exact ⟨_, written.trans (List.append_assoc ..)⟩

theorem persistStreaming_stored {report : StreamingGenerationReport}
    {writeCiphertext : Outcome Bytes}
    (persisted : persistStreamingCheckpointWithWriter codec sha256 root source candidate report
      lease recoveredLoneOrigin writeCiphertext = .ok after)
    (free : root.records (attemptPath sha256 candidate.tenantId candidate.profileId
      candidate.generationId) = none)
    (held : Held root source candidate) (reported : Reported sha256 report writeCiphertext)
    (origins : ∀ origin ∈ recoveredLoneOrigin, ¬origin.Unsound lease.epoch) :
    ∃ header container, writeCiphertext = .ok container ∧
      Stored codec sha256 after candidate header container ∧
      container.length ≤ maxStreamContainerBytes := by
  obtain ⟨header, headed, persisted⟩ := bind_eq_ok.mp persisted
  obtain ⟨_, admitted, headed⟩ := bind_eq_ok.mp headed
  obtain ⟨sourceInventory, sourceListed, headed⟩ := bind_eq_ok.mp headed
  obtain ⟨candidateInventory, candidateListed, headed⟩ := bind_eq_ok.mp headed
  obtain ⟨_, -, same⟩ := bind_eq_ok.mp headed
  cases same
  obtain ⟨_, sized, persisted⟩ := bind_eq_ok.mp persisted
  obtain ⟨matched, others⟩ := not_or.mp (refuseIf_eq_ok.mp admitted)
  have apart := (not_or.mp others).1
  have sized := refuseIf_eq_ok.mp sized
  simp only [not_or] at sized
  have scope : lease.tenantId = candidate.tenantId ∧ lease.profileId = candidate.profileId := by
    simp only [Mismatched, not_or, not_not] at matched
    exact ⟨matched.1, matched.2.1⟩
  dsimp only at persisted
  rw [scope.1, scope.2, free] at persisted
  obtain ⟨container, written, persisted⟩ := bind_eq_ok.mp persisted
  obtain ⟨verification, opened, persisted⟩ := bind_eq_ok.mp persisted
  obtain ⟨_, -, same⟩ := bind_eq_ok.mp persisted
  cases same
  obtain ⟨-, -, nonempty, bounded, ends, -, hashed⟩ :=
    openCheckpointPayload_eq_ok.mp (changedUnless_eq_ok.mp opened)
  rw [length_recordBytes] at ends
  have counted : container.length = report.containerBytes := by omega
  have filled : container ≠ [] := by
    rintro rfl
    exact nonempty counted.symm
  have frame := framed_recordBytes sized.1 (Nat.not_lt.mp sized.2.1) filled
  rw [frame.ciphertext_eq] at hashed
  have digest : report.containerDigest = sha256 container := Subtype.ext hashed.symm
  obtain ⟨body, framed⟩ := reported.sealed container written
  have made (path : String) (record : Bytes) :=
    sound_of_sealed sha256 matched apart framed (held.publish path record)
    (changedUnless_eq_ok.mp sourceListed) (changedUnless_eq_ok.mp candidateListed) origins
  have spelled : attemptHeader sha256 lease source candidate sourceInventory candidateInventory
      report.metadata.objectKey (hexDigest report.metadataDigest.val)
      (hexDigest report.containerDigest.val) report.containerBytes recoveredLoneOrigin =
      sealedHeader sha256 lease source candidate sourceInventory candidateInventory
        report.metadata container recoveredLoneOrigin := by
    rw [sealedHeader, reported.hashed, digest, counted]
  rw [spelled] at frame ⊢
  exact ⟨_, container, written, ⟨Table.insert_self, frame, made _ _, smallDigits_sealed⟩,
    counted ▸ bounded⟩

end Written

end ProfilePlatform.SaveAttempt
