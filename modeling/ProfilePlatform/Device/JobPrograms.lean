import ProfilePlatform.Device.JobHistory

/-! The programs of the use cases: a call is over before it asks, or inserts the job it issues, or
loads a job and swaps it for what it makes of it. -/

set_option autoImplicit false

namespace ProfilePlatform.Device

open Foundation Program

/-- The job that was loaded, if it is the one that is to be changed. -/
def JobTransition.found (self : JobTransition)
    (answer : Except DeviceJobPortError (Option DeviceJob)) :
    Except DeviceJobOperationError DeviceJob := do
  let found ← answer.mapError mapPortError
  let job ← okOr found .notFound
  refuseIf (job.target ≠ self.target) .notFound
  refuseIf (job.version ≠ self.expectedVersion) .versionConflict
  return job

/-- How a call ends that has asked for its job to be inserted. -/
def inserted (job : DeviceJob) (answer : Except DeviceJobPortError DeviceJobInsertOutcome) :
    Except DeviceJobOperationError DeviceJob := do
  refuseIf ((← answer.mapError mapPortError) = .conflict) .conflict
  return job

/-- How a call ends that has asked for its job to be swapped in. -/
def swapped (job : DeviceJob) (answer : Except DeviceJobPortError DeviceJobWriteOutcome) :
    Except DeviceJobOperationError DeviceJob := do
  refuseIf ((← answer.mapError mapPortError) = .versionConflict) .versionConflict
  return job

abbrev JobProgram := Program JobRequest JobAnswer (Except DeviceJobOperationError DeviceJob)

/-- The program that inserts a job. -/
def insertion (tenantId : TenantId) (job : DeviceJob) : JobProgram :=
  .ask (.insert tenantId job) fun answer => .done (inserted job answer)

/-- The program that loads a job and swaps it. -/
def JobTransition.program (self : JobTransition) (tenantId : TenantId) : JobProgram :=
  .ask (.load tenantId self.jobId) fun answer =>
    match self.found answer >>= self.change with
    | .error why => .done (.error why)
    | .ok job => .ask (.swap tenantId self.expectedVersion job) fun answer =>
        .done (swapped job answer)

section Checks

variable {A : Type} {actor : ActorContext} {ports : DevicePorts} {target : DeviceJobTarget}
  {next : Unit → JobUseCase A}

/-- A check that asks nobody lets the use case go on, or ends it. -/
def Checks (check : JobUseCase Unit) : Prop :=
  check.run = .done (.ok ()) ∨ ∃ why, check.run = .done (.error why)

theorem checks_decided (result : Except DeviceJobOperationError Unit) : Checks (decided result) := by
  cases result with
  | ok => exact .inl rfl
  | error why => exact .inr ⟨why, rfl⟩

theorem checks_bind {B : Type} (result : Except DeviceJobOperationError B)
    {then_ : B → JobUseCase Unit} (checks : ∀ value, Checks (then_ value)) :
    Checks (decided result >>= then_) := by
  cases result with
  | ok value => exact checks value
  | error why => exact .inr ⟨why, rfl⟩

theorem checks_ensureAuthenticatedDevice :
    Checks (ensureAuthenticatedDevice actor ports target) :=
  checks_bind _ fun _ => checks_decided _

theorem checks_authorize {capability : DeviceJobCapability} :
    Checks (authorize actor ports target capability) :=
  checks_bind _ fun _ => checks_decided _

theorem checks_ensureExecutionReady : Checks (ensureExecutionReady actor ports target) := by
  refine checks_bind _ fun readiness => ?_
  cases readiness with
  | ready => exact checks_decided _
  | blocked blocker => exact checks_decided _

theorem Checks.run_bind {check : JobUseCase Unit} (checks : Checks check) :
    (check >>= next).run = (next ()).run ∨ ∃ why, (check >>= next).run = .done (.error why) := by
  have step : (check >>= next).run = check.run.bind (ExceptT.bindCont next) := rfl
  rcases checks with passes | ⟨why, fails⟩
  · rw [step, passes]
    exact .inl rfl
  · rw [step, fails]
    exact .inr ⟨why, rfl⟩

/-- A check in front of a use case keeps what its end says, if that holds of every error. -/
theorem Checks.led {check : JobUseCase Unit} {property : Program JobRequest JobAnswer
    (Except DeviceJobOperationError A) → Prop} (checks : Checks check)
    (errors : ∀ why, property (.done (.error why))) (ends : property (next ()).run) :
    property (check >>= next).run := by
  rcases checks.run_bind with same | ⟨why, same⟩
  · rwa [same]
  · rw [same]
    exact errors why

theorem ensureTenant_led {property : Program JobRequest JobAnswer
    (Except DeviceJobOperationError A) → Prop} (errors : ∀ why, property (.done (.error why)))
    (ends : actor.tenantScope.tenantId = target.tenantId → property (next ()).run) :
    property (ensureTenant actor target >>= next).run := by
  unfold ensureTenant
  by_cases own : actor.tenantScope.tenantId = target.tenantId
  · rw [refuseIf_passes (not_not_intro own)]
    exact ends own
  · rw [show refuseIf (actor.tenantScope.tenantId ≠ target.tenantId)
      DeviceJobOperationError.invalidRequest = .error .invalidRequest from if_pos own]
    exact errors _

end Checks

section Programs

variable {actor : ActorContext} {transition : JobTransition} {A B : Type}

theorem run_loadExactJob :
    (loadExactJob actor transition.jobId transition.target transition.expectedVersion).run =
      .ask (.load actor.tenantScope.tenantId transition.jobId) fun answer =>
        .done (transition.found answer) := by
  refine congrArg (Program.ask _) (funext fun answer => ?_)
  rcases answer with why | found
  · rfl
  rcases found with _ | job
  · rfl
  change ExceptT.run (do
      decided (refuseIf (job.target ≠ transition.target) .notFound)
      decided (refuseIf (job.version ≠ transition.expectedVersion) .versionConflict)
      return job : JobUseCase DeviceJob) = .done (do
      refuseIf (job.target ≠ transition.target) .notFound
      refuseIf (job.version ≠ transition.expectedVersion) .versionConflict
      return job)
  cases refuseIf (job.target ≠ transition.target) DeviceJobOperationError.notFound with
  | error why => rfl
  | ok =>
  cases refuseIf (job.version ≠ transition.expectedVersion)
    DeviceJobOperationError.versionConflict with
  | error why => rfl
  | ok => rfl

theorem run_transition :
    (do
      let job ← loadExactJob actor transition.jobId transition.target transition.expectedVersion
      let job ← decided (transition.change job)
      persist actor transition.expectedVersion job
      return job : JobUseCase DeviceJob).run =
      transition.program actor.tenantScope.tenantId := by
  rw [ExceptT.run_bind, run_loadExactJob]
  refine congrArg (Program.ask _) (funext fun answer => ?_)
  beta_reduce
  cases transition.found answer with
  | error why => rfl
  | ok job =>
  show ExceptT.run (do
      let job ← decided (transition.change job)
      persist actor transition.expectedVersion job
      return job : JobUseCase DeviceJob) = match transition.change job with
    | .error why => .done (.error why)
    | .ok job => .ask (.swap actor.tenantScope.tenantId transition.expectedVersion job)
        fun answer => .done (swapped job answer)
  cases transition.change job with
  | error why => rfl
  | ok after =>
  refine congrArg (Program.ask _) (funext fun answer => ?_)
  rcases answer with why | _ | _ <;> rfl

end Programs

section Commands

variable {call : DeviceJobCall}

/-- What a call runs: nothing, an insertion of the job it issues, or its transition. -/
inductive Runs (call : DeviceJobCall) : JobProgram → Prop where
  | refused (why : DeviceJobOperationError) : Runs call (.done (.error why))
  | inserts {command : IssueDeviceJobCommand} {job : DeviceJob}
      (named : call.command = .issue command)
      (issued : DeviceJob.issue command.jobId command.target command.maxAttempts command.issuedAt =
        .ok job) :
      Runs call (insertion job.target.tenantId job)
  | changes {transition : JobTransition} (named : call.command.transition = some transition) :
      Runs call (transition.program transition.target.tenantId)

theorem issue_keys {jobId : DeviceJobId} {target : DeviceJobTarget} {maxAttempts : Nat}
    {issuedAt : UnixMillis} {job : DeviceJob}
    (issued : DeviceJob.issue jobId target maxAttempts issuedAt = .ok job) :
    job.jobId = jobId ∧ job.target = target := by
  obtain ⟨_, -, same⟩ := bind_eq_ok.mp issued
  cases same
  exact ⟨rfl, rfl⟩

theorem runs_execute (call : DeviceJobCall) : Runs call call.execute.run := by
  obtain ⟨actor, ports, command⟩ := call
  have runs {transition : JobTransition} (named : command.transition = some transition)
      (own : actor.tenantScope.tenantId = transition.target.tenantId) :
      Runs ⟨actor, ports, command⟩ (do
        let job ← loadExactJob actor transition.jobId transition.target transition.expectedVersion
        let job ← decided (transition.change job)
        persist actor transition.expectedVersion job
        return job : JobUseCase DeviceJob).run := by
    rw [run_transition, own]
    exact .changes named
  cases command with
  | issue command =>
    refine ensureTenant_led .refused fun own => ?_
    refine checks_authorize.led .refused ?_
    cases issued : DeviceJob.issue command.jobId command.target command.maxAttempts
      command.issuedAt with
    | error why => exact .refused _
    | ok job =>
      have program : ExceptT.run (do
          let answer ← asked (.insert actor.tenantScope.tenantId job)
          let written ← decided <| Except.mapError mapPortError answer
          decided <| refuseIf (written = .conflict) .conflict
          return job : JobUseCase DeviceJob) = insertion job.target.tenantId job := by
        rw [own, ← (issue_keys issued).2]
        refine congrArg (Program.ask _) (funext fun answer => ?_)
        rcases answer with why | _ | _ <;> rfl
      show Runs _ (ExceptT.run (do
          let answer ← asked (.insert actor.tenantScope.tenantId job)
          let written ← decided <| Except.mapError mapPortError answer
          decided <| refuseIf (written = .conflict) .conflict
          return job : JobUseCase DeviceJob))
      rw [program]
      exact .inserts rfl issued
  | claim command =>
    refine ensureTenant_led .refused fun own => ?_
    refine checks_ensureAuthenticatedDevice.led .refused ?_
    refine checks_authorize.led .refused ?_
    refine checks_ensureExecutionReady.led .refused ?_
    exact runs rfl own
  | heartbeat command =>
    refine ensureTenant_led .refused fun own => ?_
    refine checks_ensureAuthenticatedDevice.led .refused ?_
    refine checks_authorize.led .refused ?_
    exact runs rfl own
  | applyOutcome command =>
    refine ensureTenant_led .refused fun own => ?_
    refine checks_ensureAuthenticatedDevice.led .refused ?_
    refine checks_authorize.led .refused ?_
    refine checks_ensureExecutionReady.led .refused ?_
    exact runs rfl own
  | expire command =>
    refine ensureTenant_led .refused fun own => ?_
    refine checks_authorize.led .refused ?_
    exact runs rfl own
  | resume command =>
    refine ensureTenant_led .refused fun own => ?_
    refine checks_authorize.led .refused ?_
    refine checks_ensureExecutionReady.led .refused ?_
    exact runs rfl own
  | cancel command =>
    refine ensureTenant_led .refused fun own => ?_
    refine checks_authorize.led .refused ?_
    exact runs rfl own

end Commands

end ProfilePlatform.Device
