import ProfilePlatform.Device.StoredJobs

/-! The list of claimable jobs is a second statement of what a claim checks, and agrees with it. -/

set_option autoImplicit false

namespace ProfilePlatform.Device

open Foundation

/-- A job that waits for a device, and whose time has come. -/
structure Waits (job : DeviceJob) (now : UnixMillis) : Prop where
  live : job.status.isTerminal = false
  idle : job.status ≠ .running
  authorized : job.status ≠ .authRequired
  recovered : job.status ≠ .recoveryRequired
  due : ∀ retryAt ∈ job.retryAt, retryAt ≤ now
  unclaimed : job.activeClaim = none

/-- A claim at the time of the list succeeds if attempts are left, the time is not before the last
update and the lease ends later, and these are all the reasons for it to fail. -/
structure ClaimedAt (job : DeviceJob) (now : UnixMillis) : Prop where
  accepted : job.attempt < job.maxAttempts → job.updatedAt ≤ now → ∀ claimId leaseExpiresAt,
    now < leaseExpiresAt → ∃ after, apply (.claim claimId now leaseExpiresAt) job = .ok after
  refused : ∀ claimId leaseExpiresAt why, apply (.claim claimId now leaseExpiresAt) job = .error why →
    (why = .domain .timeRegression ∧ now < job.updatedAt) ∨
    (why = .domain .attemptsExhausted ∧ job.attempt = job.maxAttempts) ∨
    (why = .domain .invalidLease ∧ leaseExpiresAt ≤ now)

section Claims

variable {job : DeviceJob} {now leaseExpiresAt : UnixMillis} {claimId : DeviceClaimId}

theorem statusToStorage_eq_pending {status : DeviceJobStatus} :
    statusToStorage status = "PENDING_DEVICE" ↔ status = .pendingDevice := by
  cases status <;> decide

theorem waits_of_due (sound : Sound job) (due : JobDatabase.IsDue now (rowOf job)) :
    Waits job now := by
  have timed : job.status.requiresRetry = job.retryAt.isSome := sound.retried
  have status : job.status = .pendingDevice ∨ job.status.requiresRetry = true := by
    refine due.imp statusToStorage_eq_pending.mp fun ⟨waits, _⟩ => ?_
    rwa [DeviceJobRow.waitsForRetry, rowOf, retryStatuses_toStorage] at waits
  have idle : job.status ≠ .running := by
    rintro running
    rw [running] at status
    cases status <;> contradiction
  have claims := sound.claimed
  rw [decide_eq_false idle, Option.isSome_eq_false_iff, Option.isNone_iff_eq_none] at claims
  refine ⟨?_, idle, ?_, ?_, fun retryAt member => ?_, claims⟩
  · rcases status with pending | retry
    · rw [pending]
      rfl
    · cases held : job.status <;> rw [held] at retry <;> first | rfl | cases retry
  · rintro held
    rw [held] at status
    cases status <;> contradiction
  · rintro held
    rw [held] at status
    cases status <;> contradiction
  · rcases due with pending | ⟨-, time, stored, past⟩
    · rw [statusToStorage_eq_pending.mp pending, member] at timed
      cases timed
    · rw [rowOf, Option.mem_def.mp member] at stored
      cases stored
      exact Int.ofNat_le.mp past

theorem Waits.claimable (waits : Waits job now) (sound : Sound job)
    (left : job.attempt < job.maxAttempts) (later : now < leaseExpiresAt) :
    Claimable job now leaseExpiresAt := by
  have few := sound.bounded.2
  have fenced := sound.fenced
  unfold maxDeviceJobAttempts at few
  exact {
    live := waits.live
    idle := waits.idle
    authorized := waits.authorized
    recovered := waits.recovered
    due := waits.due
    unclaimed := waits.unclaimed
    left
    fence := by unfold u64Limit; omega
    lease := later
    counter := by unfold u32Limit; omega }

theorem Waits.accepted (waits : Waits job now) (sound : Sound job) (fits : Fits job)
    (left : job.attempt < job.maxAttempts) (past : job.updatedAt ≤ now)
    (later : now < leaseExpiresAt) :
    ∃ after, apply (.claim claimId now leaseExpiresAt) job = .ok after := by
  have room : job.version.value + 1 < u64Limit := by
    have small := fits.version
    unfold sqliteLimit at small
    unfold u64Limit
    omega
  have done : (deviceJobs.step job (.claim claimId now leaseExpiresAt)).1 = .ok () :=
    step_eq_ok_iff.mpr ⟨⟨past, waits.claimable sound left later⟩, room⟩
  exact ⟨_, apply_eq_ok.mpr (Prod.ext done rfl)⟩

theorem apply_of_refused {operation : DeviceJobOperation} {why : DeviceJobError} {after : DeviceJob}
    (refused : outcome (operate operation) job = (.error why, after)) :
    apply operation job = .error (.domain why) := by
  unfold apply
  rw [refused]

theorem apply_claim_early (early : now < job.updatedAt) :
    apply (.claim claimId now leaseExpiresAt) job = .error (.domain .timeRegression) := by
  have refused : outcome (operate (.claim claimId now leaseExpiresAt)) job =
      (.error .timeRegression, job) := by
    unfold operate Device.claim
    rw [outcome_bind, outcome_bind, outcome_ensureTime, if_pos early]
  exact apply_of_refused refused

/-- A waiting job that cannot be claimed wants attempts, or else a lease. -/
theorem Waits.refused (waits : Waits job now) (sound : Sound job) (past : job.updatedAt ≤ now)
    (refuses : job.maxAttempts ≤ job.attempt ∨ leaseExpiresAt ≤ now) :
    apply (.claim claimId now leaseExpiresAt) job = .error (.domain <|
      if job.maxAttempts ≤ job.attempt then .attemptsExhausted else .invalidLease) := by
  have free : ¬(job.status.isTerminal ∨ job.status = .running ∨ job.status = .authRequired) := by
    simp [waits.live, waits.idle, waits.authorized]
  have due : ¬∃ retryAt ∈ job.retryAt, now < retryAt := fun ⟨retryAt, member, early⟩ =>
    absurd early (Nat.not_lt.mpr (waits.due retryAt member))
  have unclaimed : ¬job.activeClaim.isSome := by simp [waits.unclaimed]
  have fence : checkedAdd job.lastFence 1 = some (job.lastFence + 1) := by
    have few := sound.bounded.2
    have used := sound.used
    have fenced := sound.fenced
    unfold maxDeviceJobAttempts at few
    exact checkedAdd_eq_some.mpr ⟨rfl, by unfold u64Limit; omega⟩
  have stops : outcome (operate (.claim claimId now leaseExpiresAt)) job = (.error <|
      if job.maxAttempts ≤ job.attempt then .attemptsExhausted else .invalidLease, job) := by
    simp only [operate, Device.claim, bind_assoc]
    rw [outcome_bind, outcome_ensureTime_of_le past]
    simp only [outcome_get_bind, outcome_refuseWhen_bind, if_neg free, if_neg waits.recovered,
      if_neg due, if_neg unclaimed, fence, okOr, outcome_given_ok_bind]
    split
    next full => rfl
    next left =>
      rw [DeviceClaim.issue_refused (refuses.resolve_left left)]
      rfl
  exact apply_of_refused stops

theorem claimedAt_of_waits (waits : Waits job now) (sound : Sound job) (fits : Fits job) :
    ClaimedAt job now where
  accepted left past _ _ later := waits.accepted sound fits left past later
  refused := by
    intro claimId leaseExpiresAt why refused
    rcases Nat.lt_or_ge now job.updatedAt with early | past
    · rw [apply_claim_early early] at refused
      cases refused
      exact .inl ⟨rfl, early⟩
    by_cases refuses : job.maxAttempts ≤ job.attempt ∨ leaseExpiresAt ≤ now
    · rw [waits.refused sound past refuses] at refused
      split at refused
      next full =>
        cases refused
        exact .inr (.inl ⟨rfl, Nat.le_antisymm sound.used full⟩)
      next left =>
        cases refused
        exact .inr (.inr ⟨rfl, refuses.resolve_left left⟩)
    · obtain ⟨left, later⟩ := not_or.mp refuses
      obtain ⟨_, done⟩ := waits.accepted sound fits (Nat.not_le.mp left) past (Nat.not_le.mp later)
      cases done.symm.trans refused

end Claims

section Lists

variable {record : List JobServed} {database : JobDatabase} {actor : ActorContext}
  {deviceId : DeviceId} {now : UnixMillis} {limit : Nat}

/-- A listed job: as it is stored, in the tenant and for the device, and ready to be claimed. -/
structure Listed (record : List JobServed) (actor : ActorContext) (deviceId : DeviceId)
    (now : UnixMillis) (job : DeviceJob) : Prop where
  stored : latest (writes record) job.key = some job
  own : job.target.tenantId = actor.tenantScope.tenantId
  aimed : job.target.deviceId = deviceId
  waits : Waits job now
  claimed : ClaimedAt job now

theorem mem_claimableRows {row : DeviceJobRow} {nowMs : Int}
    (member : row ∈ database.claimableRows actor deviceId nowMs limit) :
    row ∈ database.jobs ∧ row.tenantId = actor.tenantScope.tenantId.asStr ∧
      row.deviceId = deviceId.asStr ∧ JobDatabase.IsDue nowMs row := by
  have chosen := List.mem_mergeSort.mp (List.mem_of_mem_take member)
  simp only [List.mem_filter, decide_eq_true_eq] at chosen
  exact ⟨chosen.1, chosen.2.1, chosen.2.2.1, chosen.2.2.2.2.2⟩

/-- A list of a database that answers yields jobs that are ready to be claimed, and no others. -/
theorem Agrees.lists (agrees : Agrees record database) (answers : database.surroundings.answers = true)
    (limited : limit ≠ 0) (small : now < sqliteLimit) :
    ∃ jobs, database.listClaimableDeviceJobs actor deviceId now limit = .ok jobs ∧
      jobs.length ≤ limit ∧ ∀ job ∈ jobs, Listed record actor deviceId now job := by
  have few : (database.claimableRows actor deviceId now limit).length ≤ limit := List.length_take_le _ _
  have restored : ∀ row ∈ database.claimableRows actor deviceId now limit, ∃ job,
      (do
        let jobId ← parsed row.jobId
        restoreRow actor.tenantScope.tenantId jobId row) = .ok job ∧
      Listed record actor deviceId now job := by
    intro row member
    obtain ⟨known, own, aimed, due⟩ := mem_claimableRows member
    obtain ⟨job, last, rfl⟩ := (agrees.rows row).mp known
    have sound := agrees.sound last
    have tenant := asStr_inj.mp own
    have waits := waits_of_due sound due
    refine ⟨job, bind_eq_ok.mpr ⟨_, parsed_asStr job.jobId, tenant ▸ restoreRow_rowOf sound⟩, ?_⟩
    exact ⟨last, tenant, asStr_inj.mp aimed, waits, claimedAt_of_waits waits sound (agrees.fits last)⟩
  obtain ⟨jobs, all, counted, listed⟩ := mapM_succeeds restored
  refine ⟨jobs, ?_, counted ▸ few, listed⟩
  refine bind_eq_ok.mpr ⟨(), refuseIf_passes limited, ?_⟩
  refine bind_eq_ok.mpr ⟨_, u64ToI64_eq_ok.mpr ⟨small, rfl⟩, ?_⟩
  refine bind_eq_ok.mpr ⟨(), refuseIf_passes (by simp [answers]), ?_⟩
  exact bind_eq_ok.mpr ⟨(), refuseIf_passes (Nat.not_lt.mpr few), all⟩

/-- Nothing is listed without a limit, at a time that does not fit or without an answer. -/
theorem listed_of_ok {jobs : List DeviceJob}
    (listed : database.listClaimableDeviceJobs actor deviceId now limit = .ok jobs) :
    limit ≠ 0 ∧ now < sqliteLimit ∧ database.surroundings.answers = true := by
  obtain ⟨_, limited, listed⟩ := bind_eq_ok.mp listed
  obtain ⟨_, small, listed⟩ := bind_eq_ok.mp listed
  obtain ⟨_, answers, -⟩ := bind_eq_ok.mp listed
  exact ⟨refuseIf_eq_ok.mp limited, (u64ToI64_eq_ok.mp small).1,
    by simpa using refuseIf_eq_ok.mp answers⟩

end Lists

end ProfilePlatform.Device
