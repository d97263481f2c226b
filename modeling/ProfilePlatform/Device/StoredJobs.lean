import ProfilePlatform.Device.JobPrograms

/-! The stored rows as the writes have left them, and what each statement does to them. -/

set_option autoImplicit false

namespace ProfilePlatform.Device

open Foundation

abbrev JobServed := Served JobRequest JobAnswer DeviceJobCall

/-- The job that a request has stored, if its answer says so. -/
def stores : (request : JobRequest) → JobAnswer request → Option DeviceJob
  | .insert _ job, .ok .inserted => some job
  | .swap _ _ job, .ok .applied => some job
  | _, _ => none

/-- The writes of a record. -/
def writes (record : List JobServed) : List JobWrite :=
  record.filterMap fun served =>
    (stores served.request served.answer).map fun job => ⟨served.thread, served.call, job⟩

/-- The rows are the jobs last written, one for each key. -/
structure Agrees (record : List JobServed) (database : JobDatabase) : Prop where
  history : Justified Written (writes record)
  keyed : (database.jobs.map DeviceJobRow.key).Nodup
  rows : ∀ row, row ∈ database.jobs ↔
    ∃ job, latest (writes record) job.key = some job ∧ row = rowOf job

section Rows

variable {job old : DeviceJob} {record : List JobServed} {database : JobDatabase}

theorem asStr_inj {kind : IdKind} {left right : TypedId kind} :
    left.asStr = right.asStr ↔ left = right :=
  ⟨TypedId.ext_asStr, congrArg TypedId.asStr⟩

theorem key_rowOf {tenantId : TenantId} {jobId : DeviceJobId} :
    (rowOf job).key = (tenantId.asStr, jobId.asStr) ↔ job.key = (tenantId, jobId) := by
  unfold DeviceJobRow.key rowOf DeviceJob.key
  simp only [Prod.mk.injEq, asStr_inj]

theorem eq_of_value {left right : AggregateVersion} (same : left.value = right.value) :
    left = right := by
  cases left
  cases right
  cases same
  rfl

theorem target_rowOf : (rowOf old).target = (rowOf job).target ↔
    old.jobId = job.jobId ∧ old.target = job.target := by
  unfold DeviceJobRow.target DeviceJobRow.key DeviceJobRow.generation rowOf
  simp only [Prod.mk.injEq, GenerationText.mk.injEq, asStr_inj]
  constructor
  · rintro ⟨⟨tenant, id⟩, device, -, profile, generation⟩
    refine ⟨id, ?_⟩
    cases left : old.target
    cases right : job.target
    simp_all
  · rintro ⟨id, aimed⟩
    simp [id, aimed]

theorem Agrees.unique (agrees : Agrees record database) :
    Rows.Unique DeviceJobRow.key database.jobs := fun _ member _ present =>
  List.inj_on_of_nodup_map agrees.keyed member present

theorem Agrees.sound (agrees : Agrees record database) {key : JobKey}
    (last : latest (writes record) key = some job) : Sound job := by
  obtain ⟨write, member, rfl, -⟩ := mem_of_latest last
  exact (history_counts agrees.history).1 write member

theorem Agrees.fits (agrees : Agrees record database) {key : JobKey}
    (last : latest (writes record) key = some job) : Fits job := by
  obtain ⟨write, member, rfl, -⟩ := mem_of_latest last
  obtain ⟨past, future, split⟩ := List.append_of_mem member
  exact (agrees.history past write future split).2

theorem Agrees.row (agrees : Agrees record database)
    (last : latest (writes record) job.key = some job) : rowOf job ∈ database.jobs :=
  (agrees.rows _).mpr ⟨job, last, rfl⟩

theorem Agrees.load (agrees : Agrees record database) (answers : database.surroundings.answers = true)
    (tenantId : TenantId) (jobId : DeviceJobId) :
    database.loadDeviceJob tenantId jobId = .ok (latest (writes record) (tenantId, jobId)) := by
  refine bind_eq_ok.mpr ⟨(), refuseIf_passes (by simp [answers]), ?_⟩
  cases found : Rows.first (fun row => row.key = (tenantId.asStr, jobId.asStr)) database.jobs with
  | none =>
    cases last : latest (writes record) (tenantId, jobId) with
    | none => rfl
    | some job =>
      obtain ⟨_, -, -, key⟩ := mem_of_latest last
      exact absurd (key_rowOf.mpr key)
        (Rows.first_eq_none.mp found _ (agrees.row (key ▸ last)))
  | some row =>
    obtain ⟨member, chosen⟩ := Rows.first_eq_some found
    obtain ⟨job, last, rfl⟩ := (agrees.rows row).mp member
    have key := key_rowOf.mp chosen
    have restored := restoreRow_rowOf (agrees.sound last)
    rw [(Prod.mk.inj key).1, (Prod.mk.inj key).2] at restored
    rw [← key, last]
    exact map_eq_ok.mpr ⟨job, restored, rfl⟩

theorem Agrees.loaded (agrees : Agrees record database) {tenantId : TenantId} {jobId : DeviceJobId}
    (loaded : database.loadDeviceJob tenantId jobId = .ok (some job)) :
    latest (writes record) (tenantId, jobId) = some job := by
  obtain ⟨_, answers, -⟩ := bind_eq_ok.mp loaded
  rw [agrees.load (by simpa using refuseIf_eq_ok.mp answers)] at loaded
  exact Except.ok.inj loaded

end Rows

section Statements

variable {job : DeviceJob} {record : List JobServed} {database after : JobDatabase}
  {tenantId : TenantId} {expectedVersion : AggregateVersion}

theorem insert_cases {outcome : DeviceJobInsertOutcome}
    (inserted : database.insertDeviceJob tenantId job = .ok (outcome, after)) :
    (outcome = .conflict ∧ after = database) ∨
    (outcome = .inserted ∧ Fits job ∧ (∀ row ∈ database.jobs, row.key ≠ (rowOf job).key) ∧
      after = { database with jobs := database.jobs ++ [rowOf job] }) := by
  obtain ⟨_, own, inserted⟩ := bind_eq_ok.mp inserted
  obtain ⟨_, -, inserted⟩ := bind_eq_ok.mp inserted
  obtain ⟨row, bound, inserted⟩ := bind_eq_ok.mp inserted
  obtain ⟨fits, rfl⟩ := (boundRow_eq_ok (not_not.mp (refuseIf_eq_ok.mp own))).mp bound
  obtain ⟨_, -, inserted⟩ := bind_eq_ok.mp inserted
  split at inserted
  next =>
    cases inserted
    exact .inl ⟨rfl, rfl⟩
  next fresh =>
    obtain ⟨_, -, inserted⟩ := bind_eq_ok.mp inserted
    obtain ⟨_, -, inserted⟩ := bind_eq_ok.mp inserted
    obtain ⟨_, -, same⟩ := bind_eq_ok.mp inserted
    cases same
    exact .inr ⟨rfl, fits, fun row member same => fresh ⟨row, member, same⟩, rfl⟩

theorem set_rowOf {old : DeviceJob} (own : old.jobId = job.jobId) (aimed : old.target = job.target) :
    (rowOf old).set (rowOf job) = rowOf job := by
  unfold DeviceJobRow.set rowOf
  rw [own, aimed]

theorem swap_cases (agrees : Agrees record database) {outcome : DeviceJobWriteOutcome}
    (swapped : database.compareAndSwapDeviceJob tenantId expectedVersion job = .ok (outcome, after)) :
    (outcome = .versionConflict ∧ after = database ∧ ∀ old, latest (writes record) job.key = some old →
      old.target = job.target → old.version ≠ expectedVersion) ∨
    (outcome = .applied ∧ Fits job ∧ ∃ old, latest (writes record) job.key = some old ∧
      old.target = job.target ∧ old.version = expectedVersion ∧
      after.jobs.map DeviceJobRow.key = database.jobs.map DeviceJobRow.key ∧
      Rows.Replaced DeviceJobRow.key (rowOf old) (rowOf job) database.jobs after.jobs) := by
  obtain ⟨_, own, swapped⟩ := bind_eq_ok.mp swapped
  obtain ⟨_, -, swapped⟩ := bind_eq_ok.mp swapped
  obtain ⟨_, -, swapped⟩ := bind_eq_ok.mp swapped
  obtain ⟨row, bound, swapped⟩ := bind_eq_ok.mp swapped
  obtain ⟨fits, rfl⟩ := (boundRow_eq_ok (not_not.mp (refuseIf_eq_ok.mp own))).mp bound
  obtain ⟨expected, numbered, swapped⟩ := bind_eq_ok.mp swapped
  obtain ⟨-, rfl⟩ := u64ToI64_eq_ok.mp numbered
  obtain ⟨_, -, swapped⟩ := bind_eq_ok.mp swapped
  obtain ⟨_, -, same⟩ := bind_eq_ok.mp swapped
  have chosen {old : DeviceJob} : JobDatabase.Swaps (rowOf job) expectedVersion.value (rowOf old) ↔
      (old.jobId = job.jobId ∧ old.target = job.target) ∧ old.version = expectedVersion := by
    unfold JobDatabase.Swaps
    rw [target_rowOf]
    refine and_congr_right fun _ => ⟨fun same => ?_, fun same => by rw [← same]; rfl⟩
    exact eq_of_value (Int.ofNat.inj same)
  have keyOf {old : DeviceJob} (own : old.jobId = job.jobId) (aimed : old.target = job.target) :
      old.key = job.key := by rw [DeviceJob.key, own, aimed, DeviceJob.key]
  cases same
  split
  next found =>
    obtain ⟨row, member, matched⟩ := found
    obtain ⟨old, last, rfl⟩ := (agrees.rows row).mp member
    obtain ⟨⟨own, aimed⟩, version⟩ := chosen.mp matched
    refine .inr ⟨rfl, fits, old, keyOf own aimed ▸ last, aimed, version, Rows.map_amend fun _ => rfl, ?_⟩
    have keyed : Rows.amend (JobDatabase.Swaps (rowOf job) expectedVersion.value)
        (DeviceJobRow.set · (rowOf job)) database.jobs =
        Rows.amend (fun row => row.key = (rowOf old).key) (DeviceJobRow.set · (rowOf job))
          database.jobs := by
      refine Rows.amend_congr fun row present => ⟨fun swaps => ?_, fun same => ?_⟩
      · exact congrArg Prod.fst (swaps.1.trans matched.1.symm)
      · rwa [agrees.unique row present _ member same]
    have replaced := Rows.replaced_amend agrees.unique member (DeviceJobRow.set · (rowOf job))
    rw [set_rowOf own aimed, ← keyed] at replaced
    exact replaced
  next absent =>
    refine .inl ⟨rfl, ?_, fun old last aimed version => ?_⟩
    · have kept : Rows.amend (JobDatabase.Swaps (rowOf job) expectedVersion.value)
          (DeviceJobRow.set · (rowOf job)) database.jobs = database.jobs :=
        (List.map_congr_left fun row member => if_neg fun swaps => absent ⟨row, member, swaps⟩).trans
          (List.map_id _)
      rw [kept]
    · obtain ⟨_, -, -, key⟩ := mem_of_latest last
      exact absent ⟨_, agrees.row (key ▸ last), chosen.mpr ⟨⟨congrArg Prod.snd key, aimed⟩, version⟩⟩

end Statements

section Serving

variable {record : List JobServed} {database after : JobDatabase} {served : JobServed}
  {write : JobWrite}

/-- What a call asks for: to insert the job it issues, to load, or to swap a job it has made of one
that has been written. -/
def Proposed (call : DeviceJobCall) (record : List JobServed) : JobRequest → Prop
  | .insert tenantId job => tenantId = job.target.tenantId ∧ ∃ command,
      call.command = .issue command ∧
      DeviceJob.issue command.jobId command.target command.maxAttempts command.issuedAt = .ok job
  | .load .. => True
  | .swap tenantId expectedVersion job => tenantId = job.target.tenantId ∧ ∃ transition,
      call.command.transition = some transition ∧ expectedVersion = transition.expectedVersion ∧
      ∃ earlier ∈ writes record, earlier.job.jobId = transition.jobId ∧
        earlier.job.target = transition.target ∧ earlier.job.version = transition.expectedVersion ∧
        transition.change earlier.job = .ok job

theorem writes_append (first second : List JobServed) :
    writes (first ++ second) = writes first ++ writes second := List.filterMap_append

theorem Agrees.unchanged (agrees : Agrees record database)
    (silent : stores served.request served.answer = none) : Agrees (record ++ [served]) database := by
  have same : writes (record ++ [served]) = writes record := by
    simp [writes, silent]
  exact ⟨same ▸ agrees.history, agrees.keyed, same ▸ agrees.rows⟩

theorem Agrees.written (agrees : Agrees record database) (justified : Written (writes record) write)
    (grown : writes (record ++ [served]) = writes record ++ [write])
    (keyed : (after.jobs.map DeviceJobRow.key).Nodup)
    (replaced : Rows.Replaced DeviceJobRow.key (rowOf write.job) (rowOf write.job) database.jobs
      after.jobs) : Agrees (record ++ [served]) after where
  history := grown ▸ justified_concat agrees.history justified
  keyed := keyed
  rows := by
    intro row
    rw [grown, replaced row, agrees.rows row]
    simp only [latest_concat]
    constructor
    · rintro (⟨⟨job, last, rfl⟩, differs⟩ | rfl)
      · refine ⟨job, ?_, rfl⟩
        rw [if_neg fun same => differs (key_rowOf.mpr same.symm), last]
      · exact ⟨write.job, if_pos rfl, rfl⟩
    · rintro ⟨job, last, rfl⟩
      split at last
      next same =>
        cases last
        exact .inr rfl
      next differs =>
        exact .inl ⟨⟨job, last, rfl⟩, fun same => differs (key_rowOf.mp same).symm⟩

/-- The earlier job of a proposed swap is the one last written, if it still has that version. -/
theorem latest_of_version (history : Justified Written (writes record)) {earlier : JobWrite}
    (member : earlier ∈ writes record) {old : DeviceJob}
    (last : latest (writes record) earlier.job.key = some old)
    (version : old.version = earlier.job.version) : old = earlier.job := by
  obtain ⟨write, present, rfl, key⟩ := mem_of_latest last
  exact congrArg JobWrite.job (write_unique history present member key version)

theorem agrees_serve (agrees : Agrees record database) {call : DeviceJobCall} {request : JobRequest}
    (proposed : Proposed call record request) (thread : Nat) :
    Agrees (record ++ [⟨thread, call, request, (database.serve request).1⟩])
      (database.serve request).2 := by
  cases request with
  | load tenantId jobId =>
    refine agrees.unchanged ?_
    show stores (.load tenantId jobId) _ = none
    rfl
  | insert tenantId job =>
    obtain ⟨own, command, named, issued⟩ := proposed
    unfold JobDatabase.serve
    dsimp only
    cases inserted : database.insertDeviceJob tenantId job with
    | error why => exact agrees.unchanged rfl
    | ok result =>
    obtain ⟨outcome, after⟩ := result
    obtain ⟨rfl, rfl⟩ | ⟨rfl, fits, fresh, rfl⟩ := insert_cases inserted
    · exact agrees.unchanged rfl
    have absent : latest (writes record) job.key = none := by
      cases last : latest (writes record) job.key with
      | none => rfl
      | some old =>
        obtain ⟨_, -, -, key⟩ := mem_of_latest last
        exact absurd (key_rowOf.mpr key) (fresh _ (agrees.row (key ▸ last)))
    have justified : Written (writes record) ⟨thread, call, job⟩ :=
      ⟨.issued named issued absent, fits⟩
    refine agrees.written justified (writes_append _ _) ?_ fun row => ?_ <;> dsimp only [settled]
    · rw [List.map_append, List.nodup_append]
      refine ⟨agrees.keyed, List.nodup_singleton _, ?_⟩
      rintro _ known _ last rfl
      obtain ⟨row, member, key⟩ := List.mem_map.mp known
      exact fresh row member (key.trans (List.mem_singleton.mp last))
    · rw [List.mem_append, List.mem_singleton]
      exact or_congr_left (and_iff_left_of_imp fun member => fresh row member).symm
  | swap tenantId expectedVersion job =>
    obtain ⟨own, transition, named, same, earlier, member, known, aimed, version, changed⟩ := proposed
    unfold JobDatabase.serve
    dsimp only
    cases swapped : database.compareAndSwapDeviceJob tenantId expectedVersion job with
    | error why => exact agrees.unchanged rfl
    | ok result =>
    obtain ⟨outcome, after⟩ := result
    obtain ⟨rfl, rfl, -⟩ | ⟨rfl, fits, old, last, -, expected, keys, replaced⟩ :=
      swap_cases agrees swapped
    · exact agrees.unchanged rfl
    obtain ⟨_, applied⟩ := transition_applies named changed
    obtain ⟨sameJob, sameTarget, -⟩ := apply_keeps applied
    have key : job.key = earlier.job.key := by
      rw [DeviceJob.key, sameJob, sameTarget, DeviceJob.key]
    have unmoved : old = earlier.job := latest_of_version agrees.history member (key ▸ last)
      (expected.trans (same.trans version.symm))
    subst unmoved
    have justified : Written (writes record) ⟨thread, call, job⟩ :=
      ⟨.changed named last known aimed version changed, fits⟩
    refine agrees.written justified (writes_append _ _) (keys ▸ agrees.keyed) fun row => ?_
    dsimp only [settled]
    rw [replaced row, show (rowOf earlier.job).key = (rowOf job).key from key_rowOf.mpr key.symm]

end Serving

section Answers

variable {record : List JobServed} {database : JobDatabase} {call : DeviceJobCall} {job : DeviceJob}
  {tenantId : TenantId} {expectedVersion : AggregateVersion}

theorem Proposed.sound_insert (proposed : Proposed call record (.insert tenantId job)) : Sound job := by
  obtain ⟨-, command, -, issued⟩ := proposed
  exact (sound_issue issued).1

theorem Proposed.sound_swap (agrees : Agrees record database)
    (proposed : Proposed call record (.swap tenantId expectedVersion job)) :
    Sound job ∧ expectedVersion.next = some job.version ∧ ∃ earlier ∈ writes record,
      earlier.job.jobId = job.jobId ∧ earlier.job.target = job.target ∧
        earlier.job.version = expectedVersion := by
  obtain ⟨-, transition, named, rfl, earlier, member, -, -, version, changed⟩ := proposed
  obtain ⟨_, applied⟩ := transition_applies named changed
  obtain ⟨sameJob, sameTarget, next, kept⟩ := apply_keeps applied
  exact ⟨kept ((history_counts agrees.history).1 earlier member), version ▸ next, earlier, member,
    sameJob.symm, sameTarget.symm, version⟩

theorem Agrees.inserts (agrees : Agrees record database)
    (proposed : Proposed call record (.insert tenantId job)) (fits : Fits job)
    (answers : database.surroundings.answers = true)
    (current : (rowOf job).generation ∉ database.surroundings.retired)
    (refers : database.Refers (rowOf job)) :
    (database.serve (.insert tenantId job)).1 =
      .ok (if (latest (writes record) job.key).isSome then .conflict else .inserted) := by
  have checked := checked_rowOf proposed.sound_insert
  obtain ⟨own, command, -, issued⟩ := proposed
  have taken : (∃ old ∈ database.jobs, old.key = (rowOf job).key) ↔
      (latest (writes record) job.key).isSome = true := by
    rw [Option.isSome_iff_exists]
    constructor
    · rintro ⟨row, member, key⟩
      obtain ⟨old, last, rfl⟩ := (agrees.rows row).mp member
      have same : old.key = job.key := key_rowOf.mp key
      exact ⟨old, same ▸ last⟩
    · rintro ⟨old, last⟩
      obtain ⟨_, -, -, key⟩ := mem_of_latest last
      exact ⟨_, agrees.row (key ▸ last), key_rowOf.mpr key⟩
  have fresh : refuseIf (job.snapshot.aggregateVersion ≠ AggregateVersion.initial.value ∨
      job.snapshot.status ≠ .pendingDevice ∨ job.snapshot.attempt ≠ 0 ∨ job.snapshot.lastFence ≠ 0 ∨
      job.snapshot.activeClaim.isSome = true ∨ job.snapshot.retryAt.isSome = true)
      DeviceJobPortError.integrityFailure = .ok () := by
    obtain ⟨_, -, same⟩ := bind_eq_ok.mp issued
    cases same
    rfl
  have bound : database.insertDeviceJob tenantId job = database.insertRow (rowOf job) := by
    show (JobDatabase.requireTenantBinding tenantId job.target >>= fun _ => _ >>= fun _ => _) = _
    rw [JobDatabase.requireTenantBinding, refuseIf_passes (not_not_intro own.symm), fresh,
      (boundRow_eq_ok own.symm).mpr ⟨fits, rfl⟩]
    rfl
  obtain ⟨after, inserted⟩ : ∃ after, database.insertRow (rowOf job) =
      .ok (if (latest (writes record) job.key).isSome then .conflict else .inserted, after) := by
    unfold JobDatabase.insertRow
    by_cases held : (latest (writes record) job.key).isSome = true
    · rw [refuseIf_passes (by simp [answers]), if_pos held, if_pos (taken.mpr held)]
      exact ⟨database, rfl⟩
    · rw [refuseIf_passes (by simp [answers]), if_neg held, if_neg (mt taken.mp held),
        refuseIf_passes current, refuseIf_passes (by simp [checked]),
        refuseIf_passes (not_not_intro refers)]
      exact ⟨_, rfl⟩
  unfold JobDatabase.serve
  dsimp only
  rw [bound, inserted]
  rfl

/-- A proposed swap is applied, unless the job last written has another version. -/
theorem Agrees.swaps (agrees : Agrees record database)
    (proposed : Proposed call record (.swap tenantId expectedVersion job)) (fits : Fits job)
    (answers : database.surroundings.answers = true) :
    (database.serve (.swap tenantId expectedVersion job)).1 =
      .ok (if (latest (writes record) job.key).map DeviceJob.version = some expectedVersion
        then .applied else .versionConflict) := by
  obtain ⟨sound, next, earlier, member, known, aimed, version⟩ := proposed.sound_swap agrees
  have own := proposed.1
  have small : expectedVersion.value < sqliteLimit := by
    have counted := (AggregateVersion.next_eq_some next).1
    have bounded := fits.version
    omega
  have bound : database.compareAndSwapDeviceJob tenantId expectedVersion job =
      database.swapRow (rowOf job) expectedVersion.value := by
    unfold JobDatabase.compareAndSwapDeviceJob
    rw [JobDatabase.requireTenantBinding, refuseIf_passes (not_not_intro own.symm),
      okOr_eq_ok.mpr next, (boundRow_eq_ok own.symm).mpr ⟨fits, rfl⟩,
      u64ToI64_eq_ok.mpr ⟨small, rfl⟩]
    simp only [bind, Except.bind, refuseIf_passes (not_not_intro (Eq.refl job.version))]
  have passes : ¬∃ row ∈ database.jobs, JobDatabase.Swaps (rowOf job) expectedVersion.value row ∧
      (row.set (rowOf job)).checked = false := by
    rintro ⟨row, present, matched, unchecked⟩
    obtain ⟨old, -, rfl⟩ := (agrees.rows row).mp present
    obtain ⟨sameJob, sameTarget⟩ := target_rowOf.mp matched.1
    rw [set_rowOf sameJob sameTarget, checked_rowOf sound] at unchecked
    cases unchecked
  obtain ⟨outcome, after, swapped⟩ : ∃ outcome after,
      database.compareAndSwapDeviceJob tenantId expectedVersion job = .ok (outcome, after) := by
    rw [bound, JobDatabase.swapRow, refuseIf_passes (by simp [answers]), refuseIf_passes passes]
    exact ⟨_, _, rfl⟩
  have key : job.key = earlier.job.key := by rw [DeviceJob.key, ← known, ← aimed, DeviceJob.key]
  unfold JobDatabase.serve
  dsimp only
  rw [swapped]
  refine congrArg Except.ok ?_
  obtain ⟨rfl, -, moved⟩ | ⟨rfl, -, old, last, -, same, -⟩ := swap_cases agrees swapped
  · refine (if_neg fun same => ?_).symm
    obtain ⟨old, last, unmoved⟩ := Option.map_eq_some_iff.mp same
    -- a job with the expected version is the one the swap was made of
    have made : old = earlier.job :=
      latest_of_version agrees.history member (key ▸ last) (unmoved.trans version.symm)
    exact moved old last (made ▸ aimed) unmoved
  · refine (if_pos ?_).symm
    rw [last, Option.map_some, same]

end Answers

end ProfilePlatform.Device
