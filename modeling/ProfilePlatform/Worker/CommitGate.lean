import ProfilePlatform.Worker.ProfileCoordinator

/-! Exclusion by the generation-commit gate.

The gate keeps commands and alarms from the document while a commit awaits the
journal. It does so as long as nobody takes the gate from a commit that still
waits; commits that share one gate, or follow one another through it, can.
-/

set_option autoImplicit false

namespace ProfilePlatform.Worker

open Foundation Session Ports Adapters

namespace ProfileCoordinator

/-- Whether this journal answer makes its handler clear the gate. -/
def releases (self : ProfileCoordinator) (position : Nat) (outcome : JournalOutcome) : Bool :=
  match self.inFlight[position]?, outcome with
  | none, _ => false
  | some _, .ok _ => true
  | some answered, .error why => answered.commit.failureReleasesGate why

theorem lt_of_releases {self : ProfileCoordinator} {position : Nat} {outcome : JournalOutcome}
    (releases : self.releases position outcome = true) : position < self.inFlight.length := by
  by_contra outside
  have absent := List.getElem?_eq_none (Nat.le_of_not_lt outside)
  simp [ProfileCoordinator.releases, absent] at releases

/-- Whoever clears the gate is the only commit in flight. -/
def ReleasesAlone (self : ProfileCoordinator) : ObjectEvent → Prop
  | .journalAnswered position outcome _ =>
    self.releases position outcome = true → self.inFlight.length ≤ 1
  | _ => True

instance (self : ProfileCoordinator) : (event : ObjectEvent) → Decidable (self.ReleasesAlone event)
  | .command _ => .isTrue trivial
  | .alarm _ => .isTrue trivial
  | .generationCommit _ _ _ => .isTrue trivial
  | .profileGenerationSuccessor _ _ _ => .isTrue trivial
  | .journalAnswered position outcome _ =>
    inferInstanceAs (Decidable (self.releases position outcome = true → self.inFlight.length ≤ 1))

/-- Every commit in flight was authorized against the document that is stored now. -/
def Exclusive (self : ProfileCoordinator) : Prop :=
  ∀ authorized ∈ self.inFlight, self.document = some authorized.document

/-- The gate stands while a commit is in flight. -/
structure Guarded (object : ProfileCoordinator) : Prop where
  gated : object.inFlight ≠ [] → object.gate.isSome = true
  exclusive : object.Exclusive

theorem untouched_guarded : untouched.Guarded where
  gated := fun waiting => absurd rfl waiting
  exclusive := fun _ waiting => nomatch waiting

end ProfileCoordinator

/-- What one event can do to the stored values and to the commits in flight. -/
inductive Effect (self : ProfileCoordinator) : ObjectEvent → ProfileCoordinator → Prop where
  | nothing {event : ObjectEvent} {after : ProfileCoordinator}
      (document : after.document = self.document) (gate : after.gate = self.gate)
      (inFlight : after.inFlight = self.inFlight) : Effect self event after
  | wrote {event : ObjectEvent} {after : ProfileCoordinator} (ungated : self.gate.isSome = false)
      (inFlight : after.inFlight = self.inFlight) : Effect self event after
  | reserved {event : ObjectEvent} {after : ProfileCoordinator}
      (document : after.document = self.document) (gate : after.gate.isSome = true)
      (inFlight : after.inFlight = self.inFlight) : Effect self event after
  | called {event : ObjectEvent} {after : ProfileCoordinator} (authorized : AuthorizedCommit)
      (against : self.document = some authorized.document)
      (document : after.document = self.document) (gate : after.gate.isSome = true)
      (inFlight : after.inFlight = self.inFlight ++ [authorized]) : Effect self event after
  | retained {position : Nat} {outcome : JournalOutcome} {now : UnixMillis}
      {after : ProfileCoordinator} (document : after.document = self.document)
      (gate : after.gate = self.gate)
      (inFlight : after.inFlight = self.inFlight.eraseIdx position) :
      Effect self (.journalAnswered position outcome now) after
  | released {position : Nat} {outcome : JournalOutcome} {now : UnixMillis}
      {after : ProfileCoordinator} (releases : self.releases position outcome = true)
      (document : after.document = self.document)
      (inFlight : after.inFlight = self.inFlight.eraseIdx position) :
      Effect self (.journalAnswered position outcome now) after

namespace ProfileCoordinator

variable {self : ProfileCoordinator}

/-- A commit is never authorized against the document of an untouched object,
which replays to an idle coordinator. -/
theorem stored_of_authorized {tenantId : TenantId} {profileId : ProfileId}
    {document : StoredCoordinatorDocument} {coordinator : ProfileCoordinatorState}
    {commit : GenerationCommit} {authorizedAt : UnixMillis}
    (loaded : self.loadDocument tenantId profileId = .ok document)
    (replayed : document.replay = .ok coordinator)
    (authorized : commit.validate coordinator authorizedAt = .ok ()) :
    self.document = some document := by
  unfold loadDocument at loaded
  split at loaded
  next stored found =>
    obtain ⟨-, -, same⟩ := bind_eq_ok.mp loaded
    cases same
    exact found
  next absent =>
    obtain ⟨config, -, made⟩ := bind_eq_ok.mp loaded
    cases made
    -- the replayed state is idle, and no authority is live under an idle coordinator
    cases (new_refines tenantId profileId config).replay.symm.trans replayed
    cases commit <;> cases authorized

theorem retry_alarm_keeps (self : ProfileCoordinator) (now : UnixMillis)
    (response : ObjectResponse) :
    (self.scheduleGateRetryAlarm now response).2.document = self.document ∧
      (self.scheduleGateRetryAlarm now response).2.gate = self.gate ∧
      (self.scheduleGateRetryAlarm now response).2.inFlight = self.inFlight := by
  unfold scheduleGateRetryAlarm
  split <;> exact ⟨rfl, rfl, rfl⟩

theorem storeApplied_inFlight (self : ProfileCoordinator) (applied : CoordinatorApplied)
    (document : StoredCoordinatorDocument) :
    (self.storeApplied applied document).2.inFlight = self.inFlight := by
  unfold storeApplied
  split <;> rfl

theorem command_effect (self : ProfileCoordinator) (body : Option CoordinatorInternalCommandOwned) :
    Effect self (.command body) (self.command body).2 := by
  unfold command
  split
  · exact .nothing rfl rfl rfl
  next cleared =>
    -- every exit but the last is an error that stores nothing
    have ungated := Bool.eq_false_iff.mpr cleared
    repeat' split
    all_goals first
      | exact .nothing rfl rfl rfl
      | exact .wrote ungated (storeApplied_inFlight ..)

theorem alarm_effect (self : ProfileCoordinator) (now : UnixMillis) :
    Effect self (.alarm now) ((self.scheduleAlarm none).onAlarm now).2 := by
  unfold onAlarm
  split
  · obtain ⟨document, gate, inFlight⟩ := retry_alarm_keeps (self.scheduleAlarm none) now
      (.text "generation commit reserved")
    exact .nothing document gate inFlight
  next cleared =>
    have ungated : self.gate.isSome = false := Bool.eq_false_iff.mpr cleared
    repeat' split
    all_goals first
      | exact .nothing rfl rfl rfl
      | exact .wrote ungated (storeApplied_inFlight ..)

/-- With the gate standing, calling the journal adds a commit or only finds no binding. -/
theorem callJournal_effect {gated : ProfileCoordinator} {event : ObjectEvent}
    (document : gated.document = self.document) (gate : gated.gate.isSome = true)
    (inFlight : gated.inFlight = self.inFlight) (journalBound : Bool)
    {authorized : AuthorizedCommit} (against : self.document = some authorized.document) :
    Effect self event (gated.callJournal journalBound authorized).2 := by
  unfold callJournal
  split
  · exact .called authorized against document gate (by rw [inFlight])
  · exact .reserved document gate inFlight

theorem reserve_effect {event : ObjectEvent} {tenantId : TenantId} {profileId : ProfileId}
    {document : StoredCoordinatorDocument}
    (loaded : self.loadDocument tenantId profileId = .ok document) (authorityDigest : String)
    (commit : GenerationCommit) {coordinator : ProfileCoordinatorState}
    (replayed : document.replay = .ok coordinator) (observedAt : UnixMillis) (journalBound : Bool) :
    Effect self event
      (self.reserve authorityDigest commit document coordinator replayed observedAt journalBound).2 := by
  unfold reserve
  split
  next gate standing =>
    have gated : self.gate.isSome = true := by rw [standing]; rfl
    split
    · exact .nothing rfl rfl rfl
    · split
      next => exact .nothing rfl rfl rfl
      next authorized =>
        have against := stored_of_authorized loaded replayed authorized
        refine callJournal_effect ?_ gated ?_ journalBound against <;> rfl
  next =>
    split
    next => exact .nothing rfl rfl rfl
    next authorized =>
      have against := stored_of_authorized loaded replayed authorized
      refine callJournal_effect ?_ ?_ ?_ journalBound against <;> rfl

theorem generationCommit_effect (sha256 : List UInt8 → Block 32) (self : ProfileCoordinator)
    (body : Option DeviceGenerationCommitInternalRequest) (now : UnixMillis) (journalBound : Bool) :
    Effect self (.generationCommit body now journalBound)
      (self.generationCommit sha256 body now journalBound).2 := by
  unfold generationCommit
  repeat' split
  all_goals first
    | exact .nothing rfl rfl rfl
    | exact reserve_effect (by assumption) ..

theorem profileGenerationSuccessor_effect (sha256 : List UInt8 → Block 32)
    (self : ProfileCoordinator) (body : Option ProfileGenerationSuccessorInternalRequest)
    (now : UnixMillis) (journalBound : Bool) :
    Effect self (.profileGenerationSuccessor body now journalBound)
      (self.profileGenerationSuccessor sha256 body now journalBound).2 := by
  unfold profileGenerationSuccessor
  repeat' split
  all_goals first
    | exact .nothing rfl rfl rfl
    | exact reserve_effect (by assumption) ..

theorem journalAnswered_effect (self : ProfileCoordinator) (position : Nat)
    (outcome : JournalOutcome) (now : UnixMillis) :
    Effect self (.journalAnswered position outcome now)
      (self.journalAnswered position outcome now).2 := by
  unfold journalAnswered
  split
  next => exact .nothing rfl rfl rfl
  next answered found =>
    split
    next => exact .released (by simp [releases, found]) rfl rfl
    next why =>
      split
      next clears => exact .released (by simpa [releases, found] using clears) rfl rfl
      next =>
        obtain ⟨document, gate, inFlight⟩ :=
          retry_alarm_keeps (self.withdraw position) now (generationCommitError why)
        exact .retained document gate inFlight

theorem step_effect (sha256 : List UInt8 → Block 32) (self : ProfileCoordinator)
    (event : ObjectEvent) : Effect self event ((objects sha256).step self event).2 := by
  cases event with
  | command body => exact command_effect self body
  | alarm now => exact alarm_effect self now
  | generationCommit body now bound => exact generationCommit_effect sha256 self body now bound
  | profileGenerationSuccessor body now bound =>
    exact profileGenerationSuccessor_effect sha256 self body now bound
  | journalAnswered position outcome now => exact journalAnswered_effect self position outcome now

end ProfileCoordinator

namespace Effect

variable {self after : ProfileCoordinator} {event : ObjectEvent}

theorem document_of_waiting (effect : Effect self event after) (guarded : self.Guarded)
    (waiting : self.inFlight ≠ []) : after.document = self.document := by
  cases effect with
  | nothing document => exact document
  -- commands and alarms write only when no gate stands
  | wrote ungated =>
    rw [guarded.gated waiting] at ungated
    cases ungated
  | reserved document => exact document
  | called _ _ document => exact document
  | retained document => exact document
  | released _ document => exact document

/-- Commits that were in flight already are still authorized against the stored document. -/
theorem exclusive_of_subset (effect : Effect self event after) (guarded : self.Guarded)
    (old : ∀ authorized ∈ after.inFlight, authorized ∈ self.inFlight) : after.Exclusive := by
  intro authorized waiting
  have before := old authorized waiting
  rw [effect.document_of_waiting guarded (List.ne_nil_of_mem before)]
  exact guarded.exclusive authorized before

theorem guarded (effect : Effect self event after) (guarded : self.Guarded)
    (alone : self.ReleasesAlone event) : after.Guarded := by
  have erased (position : Nat) : ∀ authorized ∈ self.inFlight.eraseIdx position,
      authorized ∈ self.inFlight := fun _ waiting => List.mem_of_mem_eraseIdx waiting
  cases id effect with
  | nothing document gate inFlight =>
    exact ⟨by rw [inFlight, gate]; exact guarded.gated,
      effect.exclusive_of_subset guarded (by rw [inFlight]; exact fun _ => id)⟩
  | wrote ungated inFlight =>
    -- without a gate nothing is in flight, so the new document disturbs no commit
    have idle : self.inFlight = [] := by
      by_contra waiting
      rw [guarded.gated waiting] at ungated
      cases ungated
    rw [idle] at inFlight
    exact ⟨fun waiting => absurd inFlight waiting, by simp [ProfileCoordinator.Exclusive, inFlight]⟩
  | reserved document gate inFlight =>
    exact ⟨fun _ => gate, effect.exclusive_of_subset guarded (by rw [inFlight]; exact fun _ => id)⟩
  | called authorized against document gate inFlight =>
    refine ⟨fun _ => gate, fun other waiting => ?_⟩
    rw [inFlight, List.mem_append, List.mem_singleton] at waiting
    rw [document]
    rcases waiting with earlier | rfl
    · exact guarded.exclusive other earlier
    · exact against
  | @retained position _ _ _ document gate inFlight =>
    refine ⟨fun waiting => ?_, effect.exclusive_of_subset guarded (by rw [inFlight]; exact erased _)⟩
    rw [gate]
    refine guarded.gated fun idle => waiting ?_
    rw [inFlight, idle, List.eraseIdx_nil]
  | @released position _ _ _ releases document inFlight =>
    -- the commit that clears the gate was the only one, so none is left behind
    have none : after.inFlight = [] := by
      have inside := ProfileCoordinator.lt_of_releases releases
      have single : self.inFlight.length ≤ 1 := alone releases
      apply List.eq_nil_of_length_eq_zero
      rw [inFlight, List.length_eraseIdx_of_lt inside]
      omega
    exact ⟨fun waiting => absurd none waiting, by simp [ProfileCoordinator.Exclusive, none]⟩

end Effect

abbrev ObjectEntry := Entry ProfileCoordinator ObjectEvent ObjectResponse

/-- While commits are in flight the document they were authorized against is
the stored one, and this step leaves it there. -/
structure Excludes (entry : ObjectEntry) : Prop where
  authorized : entry.before.Exclusive
  undisturbed : entry.before.inFlight ≠ [] → entry.after.document = entry.before.document

theorem Excludes.unwritten {sha256 : List UInt8 → Block 32} {self : ProfileCoordinator}
    {event : ObjectEvent} (excludes : Excludes ((objects sha256).entry self event))
    (waiting : self.inFlight ≠ []) :
    ((objects sha256).step self event).2.document = self.document :=
  excludes.undisturbed waiting

/-- In a run in which no commit loses its gate to another one, the gate excludes
every writer: each commit meets its journal answer with the document, and so the
coordinator, it was authorized against. -/
theorem commit_gate_exclusion (sha256 : List UInt8 → Block 32) (events : List ObjectEvent)
    (alone : ∀ entry ∈ (objects sha256).history .untouched events,
      entry.before.ReleasesAlone entry.input) :
    (∀ entry ∈ (objects sha256).history .untouched events, Excludes entry) ∧
      ((objects sha256).final .untouched events).Exclusive := by
  have run := (objects sha256).history_invariant
    (fun past object => (∀ entry ∈ past, entry.before.ReleasesAlone entry.input) →
      (∀ entry ∈ past, Excludes entry) ∧ object.Guarded)
    (fun _ => ⟨fun _ none => (nomatch none), ProfileCoordinator.untouched_guarded⟩)
    (fun past object event before alone => by
      have effect := ProfileCoordinator.step_effect sha256 object event
      have latest : object.ReleasesAlone event := alone _ (List.mem_append_right past (.head _))
      obtain ⟨excluded, guarded⟩ := before fun entry old => alone entry (List.mem_append_left _ old)
      refine ⟨fun entry member => ?_, effect.guarded guarded latest⟩
      rcases List.mem_append.mp member with old | now
      · exact excluded entry old
      · cases List.mem_singleton.mp now
        exact ⟨guarded.exclusive, effect.document_of_waiting guarded⟩)
    events alone
  exact ⟨run.1, run.2.exclusive⟩

namespace SharedGate

def command (envelope : StoredCoordinatorEnvelope) : ObjectEvent :=
  .command (some ⟨"tenant-0001", "profile-0001", envelope⟩)

def issue : ObjectEvent :=
  command ⟨"command-0001", 1, 1, .issueLaunchIntent "intent-0001" "actor-0001" "device-0001" 1000 61000⟩

def claim : ObjectEvent :=
  command ⟨"command-0002", 2, 2,
    .claim "intent-0001" "actor-0001" "device-0001" "session-0001" "fence-0001" 2000⟩

def release : ObjectEvent :=
  command ⟨"command-0003", 3, 3, .release "session-0001" 1 "fence-0001" .clean 4003⟩

/-- The commit of a device job under the live lease. -/
def deviceCommit (now : UnixMillis) : ObjectEvent :=
  .generationCommit (some
    { tenantId := "tenant-0001", actorId := "actor-0001", correlationId := "correlation-0001"
      jobId := "devjob-0001", claimId := "devclaim-0001", expectedJobVersion := 4, claimFence := 2
      deviceId := "device-0001", profileId := "profile-0001"
      baseGenerationId := "generation-0001", generationId := "generation-0002"
      objectKey := "tenants/tenant-0001/profiles/profile-0001/generations/generation-0002.bpgc"
      metadataDigest := "aa", containerDigest := "bb", containerBytes := 4096
      expectedProfileVersion := 7, coordinatorSessionId := "session-0001"
      coordinatorFencingToken := "fence-0001", coordinatorEpoch := 1, coordinatorVersion := 3
      coordinatorSequence := 2 }) now true

/-- The next generation, saved by the interactive writer under the same lease. -/
def successorCommit (now : UnixMillis) : ObjectEvent :=
  .profileGenerationSuccessor (some
    { tenantId := "tenant-0001", actorId := "actor-0001", correlationId := "correlation-0002"
      deviceId := "device-0001", profileId := "profile-0001"
      baseGenerationId := "generation-0002", generationId := "generation-0003"
      objectKey := "tenants/tenant-0001/profiles/profile-0001/generations/generation-0003.bpgc"
      metadataDigest := "cc", containerDigest := "dd", containerBytes := 4096
      expectedProfileVersion := 8, coordinatorSessionId := "session-0001"
      coordinatorFencingToken := "fence-0001", coordinatorEpoch := 1, coordinatorVersion := 3
      coordinatorSequence := 2 }) now true

/-- SHA-256 on the authorities of these two commits, told apart by their lengths. -/
def sha256 (authority : List UInt8) : Block 32 :=
  if authority.length = 384 then
    ⟨[39, 225, 56, 125, 70, 82, 4, 39, 172, 127, 228, 115, 2, 40, 179, 229,
      206, 140, 49, 99, 97, 18, 51, 158, 4, 223, 248, 1, 14, 120, 32, 76], by decide⟩
  else
    ⟨[64, 146, 162, 43, 32, 36, 43, 13, 143, 240, 181, 73, 145, 199, 26, 156,
      239, 49, 50, 48, 47, 145, 9, 253, 26, 195, 110, 74, 179, 80, 20, 164], by decide⟩

/-- One commit, alone from its call of the journal to the answer. -/
def single : List ObjectEvent :=
  [issue, claim, deviceCommit 3000, .journalAnswered 0 (.ok .activated) 4000, release]

/-- A retried commit whose first attempt is answered while the second one waits:
the second answer clears the gate of the commit that came in between. -/
def overlapping : List ObjectEvent :=
  [issue, claim, deviceCommit 3000, deviceCommit 3001, .journalAnswered 0 (.ok .activated) 4000,
    successorCommit 4001, .journalAnswered 0 (.ok .alreadyActive) 4002]

abbrev ungated : ProfileCoordinator := (objects sha256).final .untouched overlapping

theorem single_alone : ∀ entry ∈ (objects sha256).history .untouched single,
    entry.before.ReleasesAlone entry.input := by decide +kernel

theorem overlapping_waits : ungated.inFlight ≠ [] :=
  List.ne_nil_of_length_pos (by decide +kernel)

theorem overlapping_written :
    ((objects sha256).step ungated release).2.document ≠ ungated.document := by decide +kernel

end SharedGate

open SharedGate in
theorem commit_gate_single :
    (∀ entry ∈ (objects sha256).history .untouched single, Excludes entry) ∧
      ((objects sha256).final .untouched single).Exclusive :=
  commit_gate_exclusion sha256 single single_alone

/-- A command writes the document while the commit whose gate was cleared waits. -/
theorem commit_gate_fails :
    ¬∀ (sha256 : List UInt8 → Block 32) (events : List ObjectEvent),
      ∀ entry ∈ (objects sha256).history .untouched events, Excludes entry := by
  intro always
  have last : (objects SharedGate.sha256).entry SharedGate.ungated SharedGate.release ∈
      (objects SharedGate.sha256).history .untouched
        (SharedGate.overlapping ++ [SharedGate.release]) := by
    rw [Machine.history_concat]
    exact List.mem_concat_self
  exact SharedGate.overlapping_written ((always _ _ _ last).unwritten SharedGate.overlapping_waits)

end ProfilePlatform.Worker
