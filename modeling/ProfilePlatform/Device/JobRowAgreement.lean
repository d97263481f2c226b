import ProfilePlatform.Device.JobRepository

/-! What a sound job is stored as passes the checks of the table and is restored as the job. -/

set_option autoImplicit false

namespace ProfilePlatform.Device

open Foundation

section Texts

theorem isIdByte_char : ∀ value < 128, isIdByte (UInt8.ofNat value) =
    isIdChar (Char.ofNat value) := by decide +kernel

theorem isIdByte_ascii {byte : UInt8} (accepted : isIdByte byte = true) : byte < 128 := by
  simp only [isIdByte, isAsciiAlphanumeric, Bool.or_eq_true, Bool.and_eq_true, decide_eq_true_eq,
    beq_iff_eq, UInt8.le_iff_toNat_le, UInt8.lt_iff_toNat_lt, ← UInt8.toNat_inj] at accepted ⊢
  simp at accepted ⊢
  omega

theorem isIdText_asStr {kind : IdKind} (id : TypedId kind) : isIdText id.asStr = true := by
  have accepted := id.intoOpaque.accepted
  simp only [OpaqueId.accepts, Bool.and_eq_true, decide_eq_true_eq] at accepted
  obtain ⟨⟨long, short⟩, plain⟩ := accepted
  obtain ⟨seen, safe⟩ := sql_of_bytes (fun _ => isIdByte_ascii) isIdByte_char rfl
    (List.all_eq_true.mp plain)
  unfold isIdText
  simp only [Bool.and_eq_true, decide_eq_true_eq]
  rw [TypedId.asStr, seen]
  exact ⟨⟨long, short⟩, safe⟩

theorem asStr_ne_empty {kind : IdKind} (id : TypedId kind) : id.asStr ≠ "" := by
  intro empty
  have accepted := isIdText_asStr id
  rw [empty] at accepted
  exact absurd accepted (by decide)

theorem parsed_asStr {kind : IdKind} (id : TypedId kind) :
    (parsed id.asStr : Except DeviceJobPortError (TypedId kind)) = .ok id :=
  mapError_eq_ok.mpr (TypedId.parse_asStr id)

end Texts

section Numbers

theorem u64ToI64_eq_ok {value : Nat} {stored : Int} :
    u64ToI64 value = .ok stored ↔ value < sqliteLimit ∧ stored = value := by
  unfold u64ToI64
  split
  next fits => simp [fits, eq_comm]
  next large => simp [large]

theorem nonNegativeU64_cast (value : Nat) : nonNegativeU64 (value : Int) = .ok value := by
  unfold nonNegativeU64
  rw [if_pos (Int.natCast_nonneg value), Int.toNat_natCast]

theorem nonNegativeU32_cast {value : Nat} (small : value < u32Limit) :
    nonNegativeU32 (value : Int) = .ok value := by
  unfold nonNegativeU32
  rw [Int.toNat_natCast, if_pos ⟨Int.natCast_nonneg value, small⟩]

theorem unixFromI64_cast (value : UnixMillis) : unixFromI64 (value : Int) = .ok value :=
  nonNegativeU64_cast value

theorem nullIf_cast (value : Nat) : nullIf (value : Int) (-1) = some (value : Int) :=
  if_neg (by omega)

theorem statusFromStorage_toStorage (status : DeviceJobStatus) :
    statusFromStorage (statusToStorage status) = .ok status := by
  cases status <;> rfl

end Numbers

section Rows

variable {job : DeviceJob} {row : DeviceJobRow} {tenantId : TenantId}

/-- The times and counters of a claim fit into signed integers. -/
def ClaimFits (claim : DeviceClaim) : Prop :=
  claim.fence < sqliteLimit ∧ claim.claimedAt < sqliteLimit ∧
    claim.lastHeartbeatAt < sqliteLimit ∧ claim.leaseExpiresAt < sqliteLimit

/-- The times and counters of a job fit into signed integers. -/
structure Fits (job : DeviceJob) : Prop where
  version : job.version.value < sqliteLimit
  lastFence : job.lastFence < sqliteLimit
  updatedAt : job.updatedAt < sqliteLimit
  retryAt : ∀ retryAt ∈ job.retryAt, retryAt < sqliteLimit
  claim : ∀ claim ∈ job.activeClaim, ClaimFits claim

/-- The row of a job in its own tenant. -/
def rowOf (job : DeviceJob) : DeviceJobRow where
  tenantId := job.target.tenantId.asStr
  jobId := job.jobId.asStr
  deviceId := job.target.deviceId.asStr
  profileId := job.target.profileId.asStr
  generationId := job.target.generationId.asStr
  aggregateVersion := job.version.value
  status := statusToStorage job.status
  attempt := job.attempt
  maxAttempts := job.maxAttempts
  lastFence := job.lastFence
  currentClaimId := job.activeClaim.map fun claim => claim.claimId.asStr
  claimFence := job.activeClaim.map fun claim => (claim.fence : Int)
  claimedAtMs := job.activeClaim.map fun claim => (claim.claimedAt : Int)
  claimHeartbeatAtMs := job.activeClaim.map fun claim => (claim.lastHeartbeatAt : Int)
  claimLeaseExpiresAtMs := job.activeClaim.map fun claim => (claim.leaseExpiresAt : Int)
  retryAtMs := job.retryAt.map Nat.cast
  updatedAtMs := job.updatedAt

theorem storedValues_eq_ok {fields : StoredClaimFields} :
    storedValues job.snapshot = .ok fields ↔ (∀ claim ∈ job.activeClaim, ClaimFits claim) ∧
      fields = match job.activeClaim with
        | none => ⟨"", -1, -1, -1, -1⟩
        | some claim => ⟨claim.claimId.asStr, claim.fence, claim.claimedAt, claim.lastHeartbeatAt,
            claim.leaseExpiresAt⟩ := by
  unfold storedValues DeviceJob.snapshot
  cases active : job.activeClaim with
  | none => simp [eq_comm]
  | some claim =>
    simp only [Option.map_some, Option.mem_def, Option.some.injEq, forall_eq']
    constructor
    · intro stored
      obtain ⟨fence, fenced, stored⟩ := bind_eq_ok.mp stored
      obtain ⟨claimedAt, claimed, stored⟩ := bind_eq_ok.mp stored
      obtain ⟨beat, heard, stored⟩ := bind_eq_ok.mp stored
      obtain ⟨expires, leased, same⟩ := bind_eq_ok.mp stored
      cases same
      obtain ⟨fenceFits, rfl⟩ := u64ToI64_eq_ok.mp fenced
      obtain ⟨claimedFits, rfl⟩ := u64ToI64_eq_ok.mp claimed
      obtain ⟨beatFits, rfl⟩ := u64ToI64_eq_ok.mp heard
      obtain ⟨leaseFits, rfl⟩ := u64ToI64_eq_ok.mp leased
      exact ⟨⟨fenceFits, claimedFits, beatFits, leaseFits⟩, rfl⟩
    · rintro ⟨⟨fenceFits, claimedFits, beatFits, leaseFits⟩, rfl⟩
      refine bind_eq_ok.mpr ⟨_, u64ToI64_eq_ok.mpr ⟨fenceFits, rfl⟩, ?_⟩
      refine bind_eq_ok.mpr ⟨_, u64ToI64_eq_ok.mpr ⟨claimedFits, rfl⟩, ?_⟩
      refine bind_eq_ok.mpr ⟨_, u64ToI64_eq_ok.mpr ⟨beatFits, rfl⟩, ?_⟩
      exact bind_eq_ok.mpr ⟨_, u64ToI64_eq_ok.mpr ⟨leaseFits, rfl⟩, rfl⟩

theorem optionalUnixToI64_eq_ok {value : Option UnixMillis} {stored : Int} :
    optionalUnixToI64 value = .ok stored ↔ (∀ time ∈ value, time < sqliteLimit) ∧
      stored = (value.map Nat.cast).getD (-1) := by
  cases value with
  | none => simp [optionalUnixToI64, eq_comm]
  | some time => simp [optionalUnixToI64, unixToI64, u64ToI64_eq_ok]

theorem boundRow_eq_ok (own : job.target.tenantId = tenantId) :
    boundRow tenantId job.snapshot = .ok row ↔ Fits job ∧ row = rowOf job := by
  subst own
  have columns : ∀ fields, storedValues job.snapshot = .ok fields →
      nullIf fields.claimId "" = (rowOf job).currentClaimId ∧
      nullIf fields.fence (-1) = (rowOf job).claimFence ∧
      nullIf fields.claimedAtMs (-1) = (rowOf job).claimedAtMs ∧
      nullIf fields.heartbeatAtMs (-1) = (rowOf job).claimHeartbeatAtMs ∧
      nullIf fields.leaseExpiresAtMs (-1) = (rowOf job).claimLeaseExpiresAtMs := by
    intro fields stored
    obtain ⟨-, rfl⟩ := storedValues_eq_ok.mp stored
    unfold rowOf
    cases job.activeClaim with
    | none => exact ⟨rfl, rfl, rfl, rfl, rfl⟩
    | some claim =>
      exact ⟨if_neg (asStr_ne_empty claim.claimId), nullIf_cast _, nullIf_cast _, nullIf_cast _,
        nullIf_cast _⟩
  have retries : nullIf ((job.retryAt.map Nat.cast).getD (-1)) (-1) =
      (rowOf job).retryAtMs := by
    unfold rowOf
    cases job.retryAt with
    | none => rfl
    | some time => exact nullIf_cast time
  constructor
  · intro bound
    obtain ⟨fields, stored, bound⟩ := bind_eq_ok.mp bound
    obtain ⟨version, numbered, bound⟩ := bind_eq_ok.mp bound
    obtain ⟨fence, fenced, bound⟩ := bind_eq_ok.mp bound
    obtain ⟨retry, retried, bound⟩ := bind_eq_ok.mp bound
    obtain ⟨updated, timed, same⟩ := bind_eq_ok.mp bound
    cases same
    obtain ⟨versionFits, rfl⟩ := u64ToI64_eq_ok.mp numbered
    obtain ⟨fenceFits, rfl⟩ := u64ToI64_eq_ok.mp fenced
    obtain ⟨retryFits, rfl⟩ := optionalUnixToI64_eq_ok.mp retried
    obtain ⟨timeFits, rfl⟩ := u64ToI64_eq_ok.mp timed
    obtain ⟨one, two, three, four, five⟩ := columns fields stored
    refine ⟨⟨versionFits, fenceFits, timeFits, retryFits, (storedValues_eq_ok.mp stored).1⟩, ?_⟩
    rw [one, two, three, four, five, show nullIf ((job.snapshot.retryAt.map Nat.cast).getD (-1)) (-1) =
      (rowOf job).retryAtMs from retries]
    rfl
  · rintro ⟨fits, rfl⟩
    obtain ⟨fields, stored⟩ : ∃ fields, storedValues job.snapshot = .ok fields :=
      ⟨_, storedValues_eq_ok.mpr ⟨fits.claim, rfl⟩⟩
    obtain ⟨one, two, three, four, five⟩ := columns fields stored
    refine bind_eq_ok.mpr ⟨fields, stored, ?_⟩
    refine bind_eq_ok.mpr ⟨_, u64ToI64_eq_ok.mpr ⟨fits.version, rfl⟩, ?_⟩
    refine bind_eq_ok.mpr ⟨_, u64ToI64_eq_ok.mpr ⟨fits.lastFence, rfl⟩, ?_⟩
    refine bind_eq_ok.mpr ⟨_, optionalUnixToI64_eq_ok.mpr ⟨fits.retryAt, rfl⟩, ?_⟩
    refine bind_eq_ok.mpr ⟨_, u64ToI64_eq_ok.mpr ⟨fits.updatedAt, rfl⟩, ?_⟩
    rw [one, two, three, four, five, show nullIf ((job.snapshot.retryAt.map Nat.cast).getD (-1)) (-1) =
      (rowOf job).retryAtMs from retries]
    rfl

section Sound

theorem startedStatuses_toStorage (status : DeviceJobStatus) :
    startedStatuses.contains (statusToStorage status) = status.requiresAttempt := by
  cases status <;> decide

theorem retryStatuses_toStorage (status : DeviceJobStatus) :
    retryStatuses.contains (statusToStorage status) = status.requiresRetry := by
  cases status <;> decide

theorem storedStatuses_toStorage (status : DeviceJobStatus) :
    storedStatuses.contains (statusToStorage status) = true := by
  cases status <;> decide

theorem statusToStorage_eq_running {status : DeviceJobStatus} :
    statusToStorage status = "RUNNING" ↔ status = .running := by
  cases status <;> decide

theorem claim_checked (sound : Sound job) :
    (rowOf job).currentClaimId.all isIdText = true ∧ (rowOf job).claimFence.all (0 < ·) = true ∧
      (rowOf job).claimedAtMs.all (0 ≤ ·) = true ∧
      (rowOf job).claimHeartbeatAtMs.all (0 ≤ ·) = true ∧
      (rowOf job).claimLeaseExpiresAtMs.all (0 ≤ ·) = true ∧ (rowOf job).claimIsWhole = true ∧
      (rowOf job).claimAgrees = true := by
  have bound := sound.bound
  unfold rowOf DeviceJobRow.claimIsWhole DeviceJobRow.claimAgrees
  cases active : job.activeClaim with
  | none => simp
  | some claim =>
    obtain ⟨-, -, fence, beat⟩ := bound claim active
    have fenced : (0 : Int) < claim.fence := Int.natCast_pos.mpr (Nat.pos_of_ne_zero claim.fenced)
    have ordered : (claim.claimedAt : Int) ≤ claim.lastHeartbeatAt := Int.ofNat_le.mpr claim.ordered
    have live : (claim.lastHeartbeatAt : Int) < claim.leaseExpiresAt := Int.ofNat_lt.mpr claim.live
    simp only [Option.map_some, Option.all_some, Option.isNone_some, Option.isSome_some,
      Bool.false_and, Bool.and_true, Bool.or_true, Bool.and_eq_true, Bool.or_eq_true,
      decide_eq_true_eq, isIdText_asStr, true_and, Bool.false_eq_true, false_or]
    rw [← fence, ← beat]
    exact ⟨fenced, Int.natCast_nonneg _, Int.natCast_nonneg _, Int.natCast_nonneg _, ⟨⟨rfl, ordered⟩,
      rfl⟩, live⟩

theorem checked_rowOf (sound : Sound job) : (rowOf job).checked = true := by
  obtain ⟨named, fenced, claimed, beat, leased, whole, agrees⟩ := claim_checked sound
  have counters := sound.versioned
  have bounded := sound.bounded
  have used := sound.used
  have fence := sound.fenced
  unfold maxDeviceJobAttempts at bounded
  have started : startedStatuses.contains (rowOf job).status = true → 0 < job.attempt := by
    intro attempted
    rw [show (rowOf job).status = statusToStorage job.status from rfl, startedStatuses_toStorage]
      at attempted
    exact Nat.pos_of_ne_zero (sound.started attempted)
  have claims : ((rowOf job).status = "RUNNING" ∧ (rowOf job).currentClaimId.isSome = true) ∨
      ((rowOf job).status ≠ "RUNNING" ∧ (rowOf job).currentClaimId.isNone = true) := by
    have held := sound.claimed
    show (statusToStorage job.status = "RUNNING" ∧ _) ∨ (statusToStorage job.status ≠ "RUNNING" ∧ _)
    unfold rowOf
    by_cases running : job.status = .running
    · exact .inl ⟨statusToStorage_eq_running.mpr running, by simpa [running] using held⟩
    · refine .inr ⟨fun same => running (statusToStorage_eq_running.mp same), ?_⟩
      simpa [running] using held
  have retried : (rowOf job).waitsForRetry = (rowOf job).retryAtMs.isSome := by
    unfold DeviceJobRow.waitsForRetry rowOf
    rw [retryStatuses_toStorage, sound.retried, Option.isSome_map]
  have later : (rowOf job).retryAtMs.all ((rowOf job).updatedAtMs < ·) = true := by
    have future := sound.future
    unfold rowOf
    cases retries : job.retryAt with
    | none => rfl
    | some retryAt =>
      have after := future retryAt retries
      simpa using after
  have positive : (rowOf job).retryAtMs.all (0 ≤ ·) = true := by
    unfold rowOf
    cases job.retryAt <;> simp
  unfold DeviceJobRow.checked
  rw [named, fenced, claimed, beat, leased, whole, agrees, retried, later, positive]
  have numbers : 1 ≤ (rowOf job).aggregateVersion ∧ 0 ≤ (rowOf job).attempt ∧
      (rowOf job).attempt ≤ 100 ∧ 1 ≤ (rowOf job).maxAttempts ∧ (rowOf job).maxAttempts ≤ 100 ∧
      0 ≤ (rowOf job).lastFence ∧ (rowOf job).attempt ≤ (rowOf job).maxAttempts ∧
      (rowOf job).lastFence = (rowOf job).attempt ∧
      (rowOf job).attempt < (rowOf job).aggregateVersion := by
    simp only [rowOf]
    omega
  have attempted : (!startedStatuses.contains (rowOf job).status ||
      decide (0 < (rowOf job).attempt)) = true := by
    cases held : startedStatuses.contains (rowOf job).status with
    | false => rfl
    | true => exact decide_eq_true (Int.natCast_pos.mpr (started held))
  have texts : isIdText (rowOf job).jobId = true ∧ isIdText (rowOf job).deviceId = true ∧
      storedStatuses.contains (rowOf job).status = true :=
    ⟨isIdText_asStr _, isIdText_asStr _, storedStatuses_toStorage _⟩
  have timed : 0 ≤ (rowOf job).updatedAtMs := Int.natCast_nonneg job.updatedAt
  have ends : ((rowOf job).retryAtMs.isSome && (rowOf job).retryAtMs.isSome && true ||
      !(rowOf job).retryAtMs.isSome && (rowOf job).retryAtMs.isNone) = true := by
    cases (rowOf job).retryAtMs <;> rfl
  rw [attempted, ends]
  simp only [texts, numbers, timed, claims, Bool.and_true, decide_true, Bool.and_eq_true,
    decide_eq_true_eq, Bool.or_eq_true, and_self]

theorem restoreClaim_rowOf (sound : Sound job) :
    restoreClaim job.jobId job.target (rowOf job) = .ok (job.activeClaim.map DeviceClaim.snapshot) := by
  have bound := sound.bound
  unfold restoreClaim rowOf
  cases active : job.activeClaim with
  | none => rfl
  | some claim =>
    obtain ⟨own, aimed, -, -⟩ := bound claim active
    refine bind_eq_ok.mpr ⟨_, parsed_asStr claim.claimId, ?_⟩
    refine bind_eq_ok.mpr ⟨_, nonNegativeU64_cast claim.fence, ?_⟩
    refine bind_eq_ok.mpr ⟨_, unixFromI64_cast claim.claimedAt, ?_⟩
    refine bind_eq_ok.mpr ⟨_, unixFromI64_cast claim.lastHeartbeatAt, ?_⟩
    refine bind_eq_ok.mpr ⟨_, unixFromI64_cast claim.leaseExpiresAt, ?_⟩
    rw [← own, ← aimed]
    rfl

theorem optionalUnixFromI64_cast (value : Option UnixMillis) :
    optionalUnixFromI64 (value.map Nat.cast) = .ok value := by
  cases value with
  | none => rfl
  | some time => exact map_eq_ok.mpr ⟨time, unixFromI64_cast time, rfl⟩

theorem restoreRow_rowOf (sound : Sound job) :
    restoreRow job.target.tenantId job.jobId (rowOf job) = .ok job := by
  have few : job.maxAttempts < u32Limit := Nat.lt_of_le_of_lt sound.bounded.2 (by decide)
  refine bind_eq_ok.mpr ⟨_, parsed_asStr job.target.tenantId, ?_⟩
  refine bind_eq_ok.mpr ⟨_, parsed_asStr job.jobId, ?_⟩
  refine bind_eq_ok.mpr ⟨(), refuseIf_passes (by simp), ?_⟩
  refine bind_eq_ok.mpr ⟨_, parsed_asStr job.target.deviceId, ?_⟩
  refine bind_eq_ok.mpr ⟨_, parsed_asStr job.target.profileId, ?_⟩
  refine bind_eq_ok.mpr ⟨_, parsed_asStr job.target.generationId, ?_⟩
  refine bind_eq_ok.mpr ⟨_, restoreClaim_rowOf sound, ?_⟩
  refine bind_eq_ok.mpr ⟨_, nonNegativeU64_cast job.version.value, ?_⟩
  refine bind_eq_ok.mpr ⟨_, statusFromStorage_toStorage job.status, ?_⟩
  refine bind_eq_ok.mpr ⟨_, nonNegativeU32_cast (Nat.lt_of_le_of_lt sound.used few), ?_⟩
  refine bind_eq_ok.mpr ⟨_, nonNegativeU32_cast few, ?_⟩
  refine bind_eq_ok.mpr ⟨_, nonNegativeU64_cast job.lastFence, ?_⟩
  refine bind_eq_ok.mpr ⟨_, optionalUnixFromI64_cast job.retryAt, ?_⟩
  refine bind_eq_ok.mpr ⟨_, unixFromI64_cast job.updatedAt, ?_⟩
  exact mapError_eq_ok.mpr (restore_snapshot sound)

end Sound

end Rows

end ProfilePlatform.Device
