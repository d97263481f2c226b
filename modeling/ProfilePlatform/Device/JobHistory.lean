import Mathlib.Data.List.Nodup
import ProfilePlatform.Device.Effects
import ProfilePlatform.Device.JobRowAgreement
import ProfilePlatform.Device.JobUseCases

/-! The writes of device jobs in the order they took effect, and what each call makes of the job
as the writes before it have left it. -/

set_option autoImplicit false

namespace ProfilePlatform.Device

open Foundation

abbrev JobKey := TenantId × DeviceJobId

def DeviceJob.key (self : DeviceJob) : JobKey := (self.target.tenantId, self.jobId)

/-- A use case that changes a stored job. -/
structure JobTransition where
  jobId : DeviceJobId
  target : DeviceJobTarget
  expectedVersion : AggregateVersion
  change : DeviceJob → Except DeviceJobOperationError DeviceJob

/-- Every command but the one that issues a job changes a stored one. -/
def DeviceJobCommand.transition : DeviceJobCommand → Option JobTransition
  | .issue _ => none
  | .claim command => some ⟨command.jobId, command.target, command.expectedVersion,
      apply (.claim command.claimId command.observedAt command.leaseExpiresAt)⟩
  | .heartbeat command => some ⟨command.jobId, command.target, command.expectedVersion,
      apply (.heartbeat command.claimId command.fence command.observedAt command.leaseExpiresAt)⟩
  | .applyOutcome command => some ⟨command.jobId, command.target, command.expectedVersion,
      apply command.operation⟩
  | .expire command => some ⟨command.jobId, command.target, command.expectedVersion,
      apply (.expireClaim command.observedAt command.retryAt)⟩
  | .resume command => some ⟨command.jobId, command.target, command.expectedVersion,
      resumed command.observedAt⟩
  | .cancel command => some ⟨command.jobId, command.target, command.expectedVersion,
      apply (.cancel command.observedAt)⟩

structure JobWrite where
  thread : Nat
  call : DeviceJobCall
  job : DeviceJob

/-- The last job that has been written under a key. -/
def latest (writes : List JobWrite) (key : JobKey) : Option DeviceJob :=
  ((writes.filter fun write => write.job.key = key).getLast?).map JobWrite.job

/-- What a call writes over the job that is stored before it. -/
inductive Produces (before : Option DeviceJob) (call : DeviceJobCall) (job : DeviceJob) : Prop where
  | issued {command : IssueDeviceJobCommand} (named : call.command = .issue command)
      (issued : DeviceJob.issue command.jobId command.target command.maxAttempts command.issuedAt =
        .ok job)
      (absent : before = none)
  | changed {transition : JobTransition} {old : DeviceJob}
      (named : call.command.transition = some transition) (stored : before = some old)
      (own : old.jobId = transition.jobId) (aimed : old.target = transition.target)
      (expected : old.version = transition.expectedVersion) (changed : transition.change old = .ok job)

def Written (past : List JobWrite) (write : JobWrite) : Prop :=
  Produces (latest past write.job.key) write.call write.job ∧ Fits write.job

section Operations

variable {old job : DeviceJob} {operation : DeviceJobOperation}

theorem apply_eq_ok : apply operation old = .ok job ↔ deviceJobs.step old operation = (.ok (), job) := by
  unfold apply
  simp only [deviceJobs]
  generalize outcome (operate operation) old = result
  rcases result with ⟨_ | ⟨⟩, after⟩ <;> simp

/-- An operation that succeeds keeps a job sound and its key, and takes the next version. -/
theorem apply_keeps (applied : apply operation old = .ok job) :
    job.jobId = old.jobId ∧ job.target = old.target ∧
      old.version.next = some job.version ∧ (Sound old → Sound job) := by
  have stepped := apply_eq_ok.mp applied
  obtain ⟨edited, version, changed, next, after⟩ := edited_of_success (congrArg Prod.fst stepped)
  have same : job = { edited with version, updatedAt := operation.observedAt } :=
    (congrArg Prod.snd stepped).symm.trans after
  subst same
  refine ⟨?_, ?_, next, fun sound => sound_edited sound changed next⟩
  · cases changed <;> rfl
  · cases changed <;> rfl

theorem transition_applies {call : DeviceJobCall} {transition : JobTransition}
    (named : call.command.transition = some transition) (changed : transition.change old = .ok job) :
    ∃ operation, apply operation old = .ok job := by
  unfold DeviceJobCommand.transition at named
  split at named <;> cases named
  -- resuming applies the operation of the status it finds
  case h_6.refl command _ =>
    have changed : resumed command.observedAt old = .ok job := changed
    unfold resumed at changed
    split at changed
    · exact ⟨_, changed⟩
    · exact ⟨_, changed⟩
    · cases changed
  all_goals exact ⟨_, changed⟩

end Operations

section Histories

variable {writes past future : List JobWrite} {write : JobWrite} {key : JobKey} {job : DeviceJob}

theorem latest_concat : latest (writes ++ [write]) key =
    if write.job.key = key then some write.job else latest writes key := by
  unfold latest
  rw [List.filter_append]
  split
  next same => simp [same]
  next other => simp [other]

theorem latest_append (first second : List JobWrite) :
    latest (first ++ second) key = (latest second key).or (latest first key) := by
  unfold latest
  rw [List.filter_append, List.getLast?_append, Option.map_or]

theorem mem_of_latest (last : latest writes key = some job) :
    ∃ write ∈ writes, write.job = job ∧ job.key = key := by
  obtain ⟨write, found, rfl⟩ := Option.map_eq_some_iff.mp last
  have member := List.mem_of_getLast? found
  rw [List.mem_filter, decide_eq_true_eq] at member
  exact ⟨write, member.1, rfl, member.2⟩

/-- The writes of one job. -/
def writesOf (writes : List JobWrite) (key : JobKey) : List JobWrite :=
  writes.filter fun write => write.job.key = key

theorem Produces.keeps {before : Option DeviceJob} {call : DeviceJobCall}
    (produces : Produces before call job) (sound : ∀ old ∈ before, Sound old) :
    Sound job ∧
      job.version.value = (before.map fun old => old.version.value + 1).getD 1 := by
  cases produces with
  | issued named issued absent =>
    subst absent
    refine ⟨(sound_issue issued).1, ?_⟩
    obtain ⟨_, -, same⟩ := bind_eq_ok.mp issued
    cases same
    rfl
  | changed named stored own aimed expected changed =>
    subst stored
    obtain ⟨operation, applied⟩ := transition_applies named changed
    obtain ⟨-, -, next, kept⟩ := apply_keeps applied
    exact ⟨kept (sound _ rfl), (AggregateVersion.next_eq_some next).1⟩

/-- In a history every job is sound, and the version of a job counts its writes. -/
theorem history_counts (history : Justified Written writes) :
    (∀ write ∈ writes, Sound write.job) ∧ ∀ key,
      (writesOf writes key).map (fun write => write.job.version.value) =
        List.range' 1 (writesOf writes key).length ∧
      ∀ job, latest writes key = some job → job.version.value = (writesOf writes key).length := by
  induction writes using List.reverseRecOn with
  | nil => exact ⟨by simp, fun key => ⟨rfl, by simp [latest]⟩⟩
  | append_singleton past write ih =>
    obtain ⟨sound, counts⟩ := ih (justified_of_append history)
    obtain ⟨produces, -⟩ := history past write [] rfl
    have stored : ∀ old ∈ latest past write.job.key, Sound old := by
      intro old last
      obtain ⟨earlier, member, rfl, -⟩ := mem_of_latest last
      exact sound earlier member
    obtain ⟨kept, numbered⟩ := produces.keeps stored
    refine ⟨fun other member => ?_, fun key => ?_⟩
    · rcases List.mem_append.mp member with old | new
      · exact sound other old
      · rw [List.mem_singleton.mp new]
        exact kept
    obtain ⟨counted, top⟩ := counts key
    rw [latest_concat]
    by_cases same : write.job.key = key
    · subst same
      have grown : writesOf (past ++ [write]) write.job.key =
          writesOf past write.job.key ++ [write] := by simp [writesOf]
      have version : write.job.version.value = (writesOf past write.job.key).length + 1 := by
        rw [numbered]
        cases before : latest past write.job.key with
        | none =>
          have empty : writesOf past write.job.key = [] := by
            simpa [latest, writesOf] using before
          rw [empty]
          rfl
        | some old => exact congrArg (· + 1) (top old before)
      rw [grown, List.map_append, counted, List.length_append, if_pos rfl]
      refine ⟨?_, ?_⟩
      · rw [List.length_singleton, List.range'_concat, List.map_singleton, version, Nat.one_mul,
          Nat.add_comm 1]
      · rintro job ⟨⟩
        exact version
    · have kept : writesOf (past ++ [write]) key = writesOf past key := by simp [writesOf, same]
      rw [kept, if_neg same]
      exact ⟨counted, top⟩

theorem written_once (history : Justified Written writes) :
    (writes.map fun write => (write.job.key, write.job.version.value)).Nodup := by
  induction writes using List.reverseRecOn with
  | nil => exact List.nodup_nil
  | append_singleton past write ih =>
    have before := justified_of_append history
    rw [List.map_append, List.map_singleton, List.nodup_append]
    refine ⟨ih before, List.nodup_singleton _, ?_⟩
    intro value known other last same
    rw [List.mem_singleton] at last
    subst last
    obtain ⟨earlier, member, rfl⟩ := List.mem_map.mp known
    obtain ⟨key, version⟩ := Prod.mk.inj same
    -- an earlier write has a version up to their number, and this one the next
    have counted := ((history_counts before).2 write.job.key).1
    have top := ((history_counts history).2 write.job.key).2 write.job (by rw [latest_concat, if_pos rfl])
    have grown : writesOf (past ++ [write]) write.job.key =
        writesOf past write.job.key ++ [write] := by simp [writesOf]
    have listed : earlier.job.version.value ∈
        (writesOf past write.job.key).map fun write => write.job.version.value :=
      List.mem_map.mpr ⟨earlier, List.mem_filter.mpr ⟨member, decide_eq_true key⟩, rfl⟩
    rw [counted, List.mem_range'_1] at listed
    rw [grown, List.length_append, List.length_singleton] at top
    omega

theorem write_unique (history : Justified Written writes) {other : JobWrite} (member : write ∈ writes)
    (present : other ∈ writes) (key : write.job.key = other.job.key)
    (version : write.job.version = other.job.version) : write = other :=
  List.inj_on_of_nodup_map (written_once history) member present
    (Prod.ext key (congrArg AggregateVersion.value version))

theorem latest_eq_getLast? : latest writes key = ((writesOf writes key).map JobWrite.job).getLast? := by
  rw [List.getLast?_map]
  rfl

/-- The states of one run of a job from its issue on, with all its operations successful. -/
inductive Traced : List DeviceJob → Prop where
  | unissued : Traced []
  | issued {command : IssueDeviceJobCommand} {first : DeviceJob} {operations : List DeviceJobOperation}
      (accepted : DeviceJob.issue command.jobId command.target command.maxAttempts command.issuedAt =
        .ok first)
      (succeed : ∀ entry ∈ deviceJobs.history first operations, entry.output = .ok ()) :
      Traced (first :: (deviceJobs.history first operations).map Entry.after)

theorem getLast?_states (first : DeviceJob) (operations : List DeviceJobOperation) :
    (first :: (deviceJobs.history first operations).map Entry.after).getLast? =
      some (deviceJobs.final first operations) := by
  induction operations using List.reverseRecOn with
  | nil => rfl
  | append_singleton operations operation =>
    rw [Machine.history_concat, Machine.final_concat, List.map_append, List.map_singleton,
      ← List.cons_append, List.getLast?_concat]
    rfl

theorem history_traced (history : Justified Written writes) (key : JobKey) :
    Traced ((writesOf writes key).map JobWrite.job) := by
  induction writes using List.reverseRecOn with
  | nil => exact .unissued
  | append_singleton past write ih =>
    have traced := ih (justified_of_append history)
    by_cases same : write.job.key = key
    case neg =>
      have kept : writesOf (past ++ [write]) key = writesOf past key := by simp [writesOf, same]
      rwa [kept]
    have grown : (writesOf (past ++ [write]) key).map JobWrite.job =
        (writesOf past key).map JobWrite.job ++ [write.job] := by simp [writesOf, same]
    obtain ⟨produces, -⟩ := history past write [] rfl
    rw [same, latest_eq_getLast?] at produces
    rw [grown]
    generalize (writesOf past key).map JobWrite.job = states at traced produces ⊢
    cases produces with
    | issued named issued absent =>
      rw [List.getLast?_eq_none_iff.mp absent]
      exact @Traced.issued _ _ [] issued (by simp)
    | changed named stored own aimed expected changed =>
      obtain ⟨operation, applied⟩ := transition_applies named changed
      cases traced with
      | unissued => cases stored
      | @issued command first operations accepted succeed =>
        cases (getLast?_states first operations).symm.trans stored
        have step := apply_eq_ok.mp applied
        have longer : first :: (deviceJobs.history first operations).map Entry.after ++ [write.job] =
            first :: (deviceJobs.history first (operations ++ [operation])).map Entry.after := by
          rw [Machine.history_concat, List.map_append, List.map_singleton, Machine.entry, step]
          rfl
        rw [longer]
        refine .issued accepted fun entry member => ?_
        rw [Machine.history_concat, List.mem_append, List.mem_singleton] at member
        rcases member with earlier | rfl
        · exact succeed entry earlier
        · exact congrArg Prod.fst step

end Histories

section Claims

variable {writes past future between : List JobWrite} {first second : JobWrite}
  {before : Option DeviceJob} {call : DeviceJobCall} {job : DeviceJob}

def DeviceJobCommand.isClaim : DeviceJobCommand → Bool
  | .claim _ => true
  | _ => false

theorem Produces.claims (produces : Produces before call job)
    (claims : call.command.isClaim = true) :
    job.status = .running ∧ ∃ old, before = some old ∧ old.status ≠ .running := by
  cases produces with
  | issued named issued absent =>
    rw [named] at claims
    cases claims
  | @changed transition old named stored own aimed expected changed =>
    cases held : call.command <;> rw [held] at claims named <;> try cases claims
    next command =>
      cases named
      have stepped := apply_eq_ok.mp changed
      have done := congrArg Prod.fst stepped
      obtain ⟨accepts, -⟩ := step_eq_ok_iff.mp done
      obtain ⟨_, -, after⟩ := after_of_success done
      refine ⟨?_, old, stored, accepts.2.idle⟩
      have same := (congrArg Prod.snd stepped).symm.trans after
      exact (congrArg DeviceJob.status same).trans rfl

theorem claims_apart (history : Justified Written writes)
    (split : writes = past ++ first :: between ++ second :: future)
    (same : first.job.key = second.job.key) (claims : first.call.command.isClaim = true)
    (claimsToo : second.call.command.isClaim = true) :
    ∃ release ∈ between, release.job.key = first.job.key ∧ release.job.status ≠ .running := by
  have earlier : writes = past ++ first :: (between ++ second :: future) := by simpa using split
  obtain ⟨running, -⟩ := (history past first _ earlier).1.claims claims
  obtain ⟨-, old, last, idle⟩ := (history _ second future split).1.claims claimsToo
  rw [← same, List.append_cons, latest_append, latest_concat, if_pos rfl] at last
  cases released : latest between first.job.key with
  | none =>
    rw [released] at last
    cases last
    exact absurd running idle
  | some release =>
    rw [released] at last
    cases last
    obtain ⟨write, member, rfl, key⟩ := mem_of_latest released
    exact ⟨write, member, key, idle⟩

end Claims

end ProfilePlatform.Device
