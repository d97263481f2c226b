import ProfilePlatform.Device.ClaimableJobs

/-! Any number of calls at a time on the stored jobs: the rows and the domain agree at every time,
and every call that succeeds has made exactly one write. -/

set_option autoImplicit false

namespace ProfilePlatform.Device

open Foundation Service

abbrev JobThread := Thread JobRequest JobAnswer DeviceJobCall (Except DeviceJobOperationError DeviceJob)

abbrev JobPool := Pool JobDatabase JobRequest JobAnswer DeviceJobCall
  (Except DeviceJobOperationError DeviceJob)

/-- The writes of one thread. -/
def writesBy (record : List JobServed) (thread : Nat) : List JobWrite :=
  (writes record).filter fun write => write.thread = thread

/-- What the record tells of a thread: it has written the job that it returns and no other, and
what it asks for is proposed by it. -/
structure Accounts (thread : Nat) (call : DeviceJobCall) (program : JobProgram)
    (record : List JobServed) : Prop where
  own : writesBy record thread =
    ((program.result.bind Except.toOption).map (JobWrite.mk thread call)).toList
  asks : ∀ request resume, program = .ask request resume → Proposed call record request

section Threads

variable {thread : Nat} {call : DeviceJobCall} {record later : List JobServed}
  {request : JobRequest} {resume : JobAnswer request → JobProgram} {job : DeviceJob}
  {value : Except DeviceJobOperationError DeviceJob}

theorem writesBy_others (others : Others thread record later) :
    writesBy later thread = writesBy record thread := by
  obtain ⟨more, rfl, foreign⟩ := others
  unfold writesBy
  rw [writes_append, List.filter_append, List.append_right_eq_self]
  refine List.filter_eq_nil_iff.mpr fun write member => ?_
  obtain ⟨served, present, stored⟩ := List.mem_filterMap.mp member
  obtain ⟨job, -, rfl⟩ := Option.map_eq_some_iff.mp stored
  simpa using foreign served present

theorem writesBy_concat (answer : JobAnswer request) :
    writesBy (record ++ [⟨thread, call, request, answer⟩]) thread =
      writesBy record thread ++ ((stores request answer).map (JobWrite.mk thread call)).toList := by
  unfold writesBy
  rw [writes_append, List.filter_append]
  refine congrArg _ ?_
  unfold writes
  cases stored : stores request answer <;> simp [stored]

theorem Proposed.mono (proposed : Proposed call record request) (others : Others thread record later) :
    Proposed call later request := by
  obtain ⟨more, rfl, -⟩ := others
  cases request with
  | insert => exact proposed
  | load => exact proposed
  | swap tenantId expectedVersion job =>
    obtain ⟨own, transition, named, same, earlier, member, made⟩ := proposed
    refine ⟨own, transition, named, same, earlier, ?_, made⟩
    rw [writes_append]
    exact List.mem_append_left _ member

theorem safe_done (own : writesBy record thread =
    (value.toOption.map (JobWrite.mk thread call)).toList) :
    deviceJobService.Safe Agrees (Accounts thread call) thread call (.done value) record :=
  .done fun later others => ⟨(writesBy_others others).trans own, fun _ _ same => by cases same⟩

theorem safe_ask (silent : writesBy record thread = []) (proposed : Proposed call record request)
    (resumes : ∀ later server, Others thread record later → Agrees later server →
      deviceJobService.Safe Agrees (Accounts thread call) thread call
        (resume (server.serve request).1)
        (later ++ [⟨thread, call, request, (server.serve request).1⟩])) :
    deviceJobService.Safe Agrees (Accounts thread call) thread call (.ask request resume) record :=
  .ask
    (fun later others => ⟨(writesBy_others others).trans silent, fun _ _ same => by
      cases same
      exact proposed.mono others⟩)
    (fun _ _ others agrees => agrees_serve agrees (proposed.mono others) thread)
    resumes

theorem of_found {transition : JobTransition}
    {answer : Except DeviceJobPortError (Option DeviceJob)}
    (loaded : transition.found answer = .ok job) : answer = .ok (some job) ∧
      job.target = transition.target ∧ job.version = transition.expectedVersion := by
  obtain ⟨found, mapped, loaded⟩ := bind_eq_ok.mp loaded
  obtain ⟨old, present, loaded⟩ := bind_eq_ok.mp loaded
  obtain ⟨_, aimed, loaded⟩ := bind_eq_ok.mp loaded
  obtain ⟨_, version, same⟩ := bind_eq_ok.mp loaded
  cases same
  exact ⟨okOr_eq_ok.mp present ▸ mapError_eq_ok.mp mapped, not_not.mp (refuseIf_eq_ok.mp aimed),
    not_not.mp (refuseIf_eq_ok.mp version)⟩

theorem safe_insertion {command : IssueDeviceJobCommand} (silent : writesBy record thread = [])
    (named : call.command = .issue command)
    (issued : DeviceJob.issue command.jobId command.target command.maxAttempts command.issuedAt =
      .ok job) :
    deviceJobService.Safe Agrees (Accounts thread call) thread call
      (insertion job.target.tenantId job) record := by
  refine safe_ask silent ⟨rfl, command, named, issued⟩ fun later server others _ => safe_done ?_
  rw [writesBy_concat, writesBy_others others, silent]
  rcases (server.serve (.insert job.target.tenantId job)).1 with why | _ | _ <;> rfl

theorem safe_transition {transition : JobTransition} (silent : writesBy record thread = [])
    (named : call.command.transition = some transition) :
    deviceJobService.Safe Agrees (Accounts thread call) thread call
      (transition.program transition.target.tenantId) record := by
  refine safe_ask silent trivial fun later server others agrees => ?_
  have still : writesBy (later ++ [⟨thread, call, .load transition.target.tenantId transition.jobId,
      (server.serve (.load transition.target.tenantId transition.jobId)).1⟩]) thread = [] := by
    rw [writesBy_concat, writesBy_others others, silent]
    rfl
  split
  next why refused => exact safe_done still
  next job made =>
    obtain ⟨old, loaded, changed⟩ := bind_eq_ok.mp made
    obtain ⟨answered, aimed, version⟩ := of_found loaded
    obtain ⟨earlier, member, same, key⟩ := mem_of_latest (agrees.loaded answered)
    have kept := (apply_keeps (transition_applies named changed).choose_spec).2.1
    refine safe_ask still ⟨?_, transition, named, rfl, earlier, ?_, ?_⟩ ?_
    · rw [kept, aimed]
    · rw [writes_append]
      exact List.mem_append_left _ member
    · exact same ▸ ⟨congrArg Prod.snd key, aimed, version, changed⟩
    · intro last database foreign _
      refine safe_done ?_
      rw [writesBy_concat, writesBy_others foreign, still]
      rcases (database.serve (.swap transition.target.tenantId transition.expectedVersion job)).1 with
        why | _ | _ <;> rfl

theorem safe_execute (call : DeviceJobCall) (silent : writesBy record thread = []) :
    deviceJobService.Safe Agrees (Accounts thread call) thread call (deviceJobService.execute call)
      record := by
  have runs : Runs call (deviceJobService.execute call) := runs_execute call
  generalize deviceJobService.execute call = program at runs ⊢
  cases runs with
  | refused why => exact safe_done silent
  | inserts named issued => exact safe_insertion silent named issued
  | changes named => exact safe_transition silent named

end Threads

section Runs

/-- A pool that starts without jobs. -/
def emptyPool (surroundings : JobSurroundings) : JobPool := ⟨⟨[], surroundings⟩, [], []⟩

theorem kept_run (surroundings : JobSurroundings)
    (inputs : List (PoolInput DeviceJobCall JobSurroundings)) : Kept deviceJobService Agrees Accounts
    (deviceJobService.pool.final (emptyPool surroundings) inputs) := by
  refine kept_of_runs ?_ (fun record database event agrees => ?_) (fun call thread record foreign => ?_)
    inputs
  · exact ⟨justified_nil _, List.nodup_nil, fun row => by simp [writes, latest]⟩
  · exact ⟨agrees.history, agrees.keyed, agrees.rows⟩
  · have others : Others thread [] record := ⟨record, rfl, foreign⟩
    exact safe_execute call (writesBy_others others)

/-- How a database serves what is asked of it. A job that is to be stored passes the checks of the
table, and is stored if its numbers fit and the rows it refers to are there, unless another call
has been faster. -/
def Answers (record : List JobServed) (database : JobDatabase) : JobRequest → Prop
  | .insert tenantId job => (rowOf job).checked = true ∧
      (Fits job → database.surroundings.answers = true →
        (rowOf job).generation ∉ database.surroundings.retired → database.Refers (rowOf job) →
        (database.serve (.insert tenantId job)).1 =
          .ok (if (latest (writes record) job.key).isSome then .conflict else .inserted))
  | .load tenantId jobId => database.surroundings.answers = true →
      (database.serve (.load tenantId jobId)).1 = .ok (latest (writes record) (tenantId, jobId))
  | .swap tenantId expectedVersion job => (rowOf job).checked = true ∧
      (Fits job → database.surroundings.answers = true →
        (database.serve (.swap tenantId expectedVersion job)).1 =
          .ok (if (latest (writes record) job.key).map DeviceJob.version = some expectedVersion
            then .applied else .versionConflict))

/-- The stored jobs of a pool and the domain agree. -/
structure StoredAgreement (pool : JobPool) : Prop where
  /-- A write is what its call makes of the job as the writes before it have left it. -/
  history : Justified Written (writes pool.record)
  /-- The writes of a job are the states of one run of the domain. -/
  traced : ∀ key, Traced ((writesOf (writes pool.record) key).map JobWrite.job)
  /-- There is one row for a job, and it is restored to the job last written. -/
  keyed : (pool.server.jobs.map DeviceJobRow.key).Nodup
  rows : ∀ row, row ∈ pool.server.jobs ↔
    ∃ job, latest (writes pool.record) job.key = some job ∧ row = rowOf job
  restored : ∀ job, latest (writes pool.record) job.key = some job → (rowOf job).checked = true ∧
    restoreRow job.target.tenantId job.jobId (rowOf job) = .ok job
  /-- The versions of a job are counted, and each is written once. -/
  versions : ∀ key, (writesOf (writes pool.record) key).map (fun write => write.job.version.value) =
    List.range' 1 (writesOf (writes pool.record) key).length
  once : ∀ write ∈ writes pool.record, ∀ other ∈ writes pool.record, write.job.key = other.job.key →
    write.job.version = other.job.version → write = other
  /-- A call writes once if it succeeds and never otherwise. -/
  returns : ∀ thread running, pool.threads[thread]? = some running → writesBy pool.record thread =
    ((running.program.result.bind Except.toOption).map (JobWrite.mk thread running.call)).toList
  written : ∀ write ∈ writes pool.record,
    pool.threads[write.thread]? = some ⟨write.call, .done (.ok write.job)⟩
  /-- Of the calls that expect one version of a job, one succeeds. -/
  exclusive : ∀ (thread other : Nat) (call rival : DeviceJobCall) (job made : DeviceJob)
    (transition contest : JobTransition),
    pool.threads[thread]? = some ⟨call, .done (.ok job)⟩ →
    pool.threads[other]? = some ⟨rival, .done (.ok made)⟩ →
    call.command.transition = some transition → rival.command.transition = some contest →
    transition.jobId = contest.jobId → transition.target.tenantId = contest.target.tenantId →
    transition.expectedVersion = contest.expectedVersion → thread = other
  /-- Between two claims of a job it is released. -/
  claims : ∀ past first between second future,
    writes pool.record = past ++ first :: between ++ second :: future →
    first.job.key = second.job.key → first.call.command.isClaim = true →
    second.call.command.isClaim = true →
    ∃ release ∈ between, release.job.key = first.job.key ∧ release.job.status ≠ .running
  answered : ∀ (thread : Nat) (running : JobThread) (request : JobRequest)
    (resume : JobAnswer request → JobProgram), pool.threads[thread]? = some running →
    running.program = .ask request resume → Answers pool.record pool.server request
  /-- What is listed is ready to be claimed. -/
  listed : ∀ actor deviceId now limit jobs,
    pool.server.listClaimableDeviceJobs actor deviceId now limit = .ok jobs →
    ∀ job ∈ jobs, Listed pool.record actor deviceId now job
  lists : pool.server.surroundings.answers = true → ∀ actor deviceId now limit, limit ≠ 0 →
    now < sqliteLimit →
    ∃ jobs, pool.server.listClaimableDeviceJobs actor deviceId now limit = .ok jobs

section Kept

variable {pool : JobPool} (kept : Kept deviceJobService Agrees Accounts pool)

include kept

theorem returned_of_written {write : JobWrite} (member : write ∈ writes pool.record) :
    pool.threads[write.thread]? = some ⟨write.call, .done (.ok write.job)⟩ := by
  obtain ⟨served, present, stored⟩ := List.mem_filterMap.mp member
  obtain ⟨job, -, rfl⟩ := Option.map_eq_some_iff.mp stored
  obtain ⟨⟨call, program⟩, found, same⟩ := kept.named served present
  have own := (kept.safe _ _ found).told.own
  cases same
  have mine : ⟨served.thread, served.call, job⟩ ∈ writesBy pool.record served.thread :=
    List.mem_filter.mpr ⟨member, decide_eq_true rfl⟩
  rw [own] at mine
  rcases program with (why | returned) | _
  · cases mine
  · cases List.mem_singleton.mp mine
    exact found
  · cases mine

theorem written_of_returned {thread : Nat} {call : DeviceJobCall} {job : DeviceJob}
    (found : pool.threads[thread]? = some ⟨call, .done (.ok job)⟩) :
    ⟨thread, call, job⟩ ∈ writes pool.record := by
  have own := (kept.safe thread _ found).told.own
  have mine : ⟨thread, call, job⟩ ∈ writesBy pool.record thread := by
    rw [own]
    exact List.mem_singleton_self _
  exact (List.mem_filter.mp mine).1

/-- The job that a transition has returned has its key, and the version after the expected one. -/
theorem returned_version {thread : Nat} {call : DeviceJobCall} {job : DeviceJob}
    {transition : JobTransition} (found : pool.threads[thread]? = some ⟨call, .done (.ok job)⟩)
    (named : call.command.transition = some transition) :
    job.key = (transition.target.tenantId, transition.jobId) ∧
      transition.expectedVersion.next = some job.version := by
  obtain ⟨past, future, split⟩ := List.append_of_mem (written_of_returned kept found)
  cases (kept.stands.history past _ future split).1 with
  | issued issues issued absent =>
    have unchanging : call.command.transition = none := by rw [issues]; rfl
    cases unchanging.symm.trans named
  | changed same stored own aimed expected changed =>
    cases same.symm.trans named
    obtain ⟨_, applied⟩ := transition_applies named changed
    obtain ⟨sameJob, sameTarget, next, -⟩ := apply_keeps applied
    dsimp only at sameJob sameTarget next
    rw [DeviceJob.key, sameJob, sameTarget, own, aimed, ← expected]
    exact ⟨rfl, next⟩

theorem answers_of_kept {thread : Nat} {running : JobThread} {request : JobRequest}
    {resume : JobAnswer request → JobProgram} (found : pool.threads[thread]? = some running)
    (asks : running.program = .ask request resume) : Answers pool.record pool.server request := by
  have proposed := (kept.safe thread running found).told.asks request resume asks
  have agrees := kept.stands
  cases request with
  | insert tenantId job =>
    exact ⟨checked_rowOf proposed.sound_insert, fun fits answers current refers =>
      agrees.inserts proposed fits answers current refers⟩
  | load tenantId jobId => exact fun answers => agrees.load answers tenantId jobId
  | swap tenantId expectedVersion job =>
    exact ⟨checked_rowOf (proposed.sound_swap agrees).1, fun fits answers =>
      agrees.swaps proposed fits answers⟩

end Kept

/-- After every interleaving of any calls the stored jobs and the domain agree. -/
theorem stored_agreement (surroundings : JobSurroundings)
    (inputs : List (PoolInput DeviceJobCall JobSurroundings)) :
    StoredAgreement (deviceJobService.pool.final (emptyPool surroundings) inputs) := by
  have kept := kept_run surroundings inputs
  generalize deviceJobService.pool.final (emptyPool surroundings) inputs = pool at kept ⊢
  have agrees := kept.stands
  exact {
    history := agrees.history
    traced := history_traced agrees.history
    keyed := agrees.keyed
    rows := agrees.rows
    restored := fun job last => ⟨checked_rowOf (agrees.sound last), restoreRow_rowOf (agrees.sound last)⟩
    versions := fun key => ((history_counts agrees.history).2 key).1
    once := fun write member other present => write_unique agrees.history member present
    returns := fun thread running found => (kept.safe thread running found).told.own
    written := fun write member => returned_of_written kept member
    exclusive := by
      intro thread other call rival job made transition contest found present named rivalNamed sameJob
        sameTenant sameVersion
      obtain ⟨key, next⟩ := returned_version kept found named
      obtain ⟨rivalKey, rivalNext⟩ := returned_version kept present rivalNamed
      have keys : job.key = made.key := by rw [key, rivalKey, sameJob, sameTenant]
      have versions : job.version = made.version :=
        Option.some.inj (next.symm.trans (sameVersion ▸ rivalNext))
      exact congrArg JobWrite.thread (write_unique agrees.history (written_of_returned kept found)
        (written_of_returned kept present) keys versions)
    claims := fun past first between second future => claims_apart agrees.history
    answered := fun thread running request resume => answers_of_kept kept
    listed := by
      intro actor deviceId now limit jobs done
      obtain ⟨limited, small, answers⟩ := listed_of_ok done
      obtain ⟨_, same, -, listed⟩ := agrees.lists answers limited small
      cases done.symm.trans same
      exact listed
    lists := by
      intro answers actor deviceId now limit limited small
      obtain ⟨jobs, done, -⟩ := agrees.lists answers limited small
      exact ⟨jobs, done⟩ }

end Runs

end ProfilePlatform.Device
