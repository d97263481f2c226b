import ProfilePlatform.Session.Ledger

/-! Fencing over whole runs.

A lease is open in a ledger from the Claim that issued it until an event closes
it or another Claim issues the next one. Every writer command that takes effect
presents the open lease, and epochs count the Claims, so the epoch of a closed
lease never takes effect again.
-/

set_option autoImplicit false

namespace ProfilePlatform.Session

open Foundation ProfileCoordinatorState

namespace CoordinatorOutcome

def issued : CoordinatorOutcome → Option CoordinatorLease
  | .leaseClaimed lease => some lease
  | _ => none

/-- Released and TimedOut end the lease they find. -/
def closes : CoordinatorOutcome → Bool
  | .released _ => true
  | .timedOut _ => true
  | _ => false

end CoordinatorOutcome

def CommandReceipt.issued (receipt : CommandReceipt) : Option CoordinatorLease :=
  receipt.decision.outcome.issued

def CommandReceipt.closes (receipt : CommandReceipt) : Bool :=
  receipt.decision.outcome.closes

def claims (events : List CommandReceipt) : Nat :=
  events.countP fun event => event.command.isClaim

/-- The lease was the last one issued, and nothing has closed it since. -/
def OpenLease (past : List CommandReceipt) (writer : Writer) : Prop :=
  ∃ earlier claim since lease, past = earlier ++ claim :: since ∧
    claim.issued = some lease ∧ writer = lease.writer ∧
    ∀ event ∈ since, event.issued = none ∧ event.closes = false

theorem OpenLease.concat {past : List CommandReceipt} {writer : Writer} {event : CommandReceipt}
    (isOpen : OpenLease past writer) (quiet : event.issued = none ∧ event.closes = false) :
    OpenLease (past ++ [event]) writer := by
  obtain ⟨earlier, claim, since, lease, rfl, issued, same, still⟩ := isOpen
  refine ⟨earlier, claim, since ++ [event], lease, by simp, issued, same, ?_⟩
  intro other member
  rcases List.mem_append.mp member with before | now
  · exact still other before
  · rwa [List.mem_singleton.mp now]

/-- Claims issue the lease of their own number, and nothing else issues one. -/
def Numbered (past : List CommandReceipt) (event : CommandReceipt) : Prop :=
  (event.command.isClaim = true →
    ∃ lease, event.issued = some lease ∧ lease.epoch = claims past + 1) ∧
  (event.issued.isSome = true → event.command.isClaim = true)

/-- A writer command presents the open lease. -/
def Fenced (past : List CommandReceipt) (event : CommandReceipt) : Prop :=
  ∀ writer, event.command.writer = some writer → OpenLease past writer

namespace ProfileCoordinatorState

variable {s t : ProfileCoordinatorState} {command : CoordinatorCommand}
  {outcome : CoordinatorOutcome}

/-- Where the lease after a transition comes from. -/
inductive LeaseStep (s t : ProfileCoordinatorState) (command : CoordinatorCommand)
    (outcome : CoordinatorOutcome) : Prop where
  | claimed (lease : CoordinatorLease) (claim : command.isClaim = true)
      (issued : outcome.issued = some lease) (counted : t.nextEpoch = s.nextEpoch + 1)
      (current : lease.epoch = t.nextEpoch) (held : t.activeLease = some lease)
  | closed (other : command.isClaim = false) (issued : outcome.issued = none)
      (counted : t.nextEpoch = s.nextEpoch) (free : t.activeLease = none)
  | kept (other : command.isClaim = false) (issued : outcome.issued = none)
      (counted : t.nextEpoch = s.nextEpoch) (still : outcome.closes = false)
      (writer : t.activeLease.map CoordinatorLease.writer =
        s.activeLease.map CoordinatorLease.writer)

theorem Accepts.leaseStep (accepts : s.Accepts command outcome t) :
    LeaseStep s t command outcome := by
  cases accepts with
  | issue | intentExpired | quiet | recover | recovered => exact .kept rfl rfl rfl rfl rfl
  | claim => exact .claimed _ rfl rfl rfl rfl rfl
  -- a renewed lease is another value with the same writer
  | keep form writing held =>
    refine .kept ?_ rfl rfl rfl ?_
    · rcases form with ⟨rfl, -⟩ | ⟨rfl, -⟩ <;> rfl
    · rw [held]
      rfl
  | release => exact .closed rfl rfl rfl rfl
  | drain active held => exact .kept rfl rfl rfl rfl rfl
  | timeout held looks due =>
    refine .closed ?_ rfl rfl rfl
    cases command with
    | claim => exact looks.elim
    | _ => rfl

theorem Accepts.presents (accepts : s.Accepts command outcome t) {writer : Writer}
    (carries : command.writer = some writer) :
    ∃ lease, s.activeLease = some lease ∧ writer = lease.writer := by
  cases accepts with
  | keep form writing held =>
    refine ⟨_, held, ?_⟩
    rcases form with ⟨rfl, -⟩ | ⟨rfl, -⟩ <;> exact (Option.some.inj carries).symm
  | release held => exact ⟨_, held, (Option.some.inj carries).symm⟩
  | @timeout command lease kind held looks due =>
    refine ⟨lease, held, ?_⟩
    cases command with
    | heartbeat | renewLease => exact (Option.some.inj carries).symm.trans looks.2.2
    | release => exact (Option.some.inj carries).symm.trans looks
    | _ => cases carries
  | _ => cases carries

end ProfileCoordinatorState

/-- What a run maintains between its ledger and its state. -/
structure FencedRun (past : List CommandReceipt) (s : ProfileCoordinatorState) : Prop where
  epochs : claims past = s.nextEpoch
  active : ∀ lease, s.activeLease = some lease → OpenLease past lease.writer
  numbered : Justified Numbered past
  fenced : Justified Fenced past

theorem FencedRun.step {past : List CommandReceipt} {s t : ProfileCoordinatorState}
    {envelope : CoordinatorCommandEnvelope} {decision : CoordinatorDecision}
    (run : FencedRun past s) (commits : s.Commits envelope decision t) :
    FencedRun (past ++ [envelope.receipt decision]) t := by
  obtain ⟨after, accepts, rfl⟩ := commits.transition
  have counts : claims (past ++ [envelope.receipt decision]) =
      s.nextEpoch + if envelope.command.isClaim then 1 else 0 := by
    rw [← run.epochs, claims, List.countP_append, List.countP_singleton]
    rfl
  have fenced : Fenced past (envelope.receipt decision) := by
    intro writer carries
    obtain ⟨lease, held, rfl⟩ := accepts.presents carries
    exact run.active lease held
  -- nothing but a Claim issues a lease, so any other event is numbered trivially
  have unclaimed (other : envelope.command.isClaim = false)
      (issued : decision.outcome.issued = none) : Numbered past (envelope.receipt decision) := by
    constructor
    · intro claim
      cases other.symm.trans claim
    · intro present
      have absent : (envelope.receipt decision).issued = none := issued
      rw [absent] at present
      cases present
  cases accepts.leaseStep with
  | claimed lease claim issued counted current held =>
    have epoch : lease.epoch = claims past + 1 := by rw [current, counted, run.epochs]
    refine ⟨?_, ?_, justified_concat run.numbered ⟨fun _ => ⟨lease, issued, epoch⟩, fun _ => claim⟩,
      justified_concat run.fenced fenced⟩
    · rw [counts, if_pos claim]
      exact counted.symm
    · intro active same
      obtain rfl := Option.some.inj (held.symm.trans same)
      exact ⟨past, envelope.receipt decision, [], lease, rfl, issued, rfl, fun _ none => nomatch none⟩
  | closed other issued counted free =>
    refine ⟨?_, ?_, justified_concat run.numbered (unclaimed other issued),
      justified_concat run.fenced fenced⟩
    · rw [counts, other]
      exact counted.symm
    · intro active held
      cases free.symm.trans held
  | kept other issued counted still writer =>
    refine ⟨?_, ?_, justified_concat run.numbered (unclaimed other issued),
      justified_concat run.fenced fenced⟩
    · rw [counts, other]
      exact counted.symm
    · intro active held
      have held : after.activeLease = some active := held
      rw [held] at writer
      obtain ⟨before, present, same⟩ := Option.map_eq_some_iff.mp writer.symm
      exact same ▸ (run.active before present).concat ⟨issued, still⟩

theorem reachable_fenced (tenantId : TenantId) (profileId : ProfileId) (config : CoordinatorConfig)
    (inputs : List CoordinatorCommandEnvelope) :
    FencedRun (ledger (coordinator.history (new tenantId profileId config) inputs))
      (coordinator.final (new tenantId profileId config) inputs) :=
  ledger_invariant FencedRun (new_remembers tenantId profileId config)
    ⟨rfl, fun _ held => (nomatch held), justified_nil _, justified_nil _⟩
    (fun run commits => run.step commits) inputs

theorem issued_epoch {events : List CommandReceipt} (numbered : Justified Numbered events)
    {past event future lease} (split : events = past ++ event :: future)
    (issued : event.issued = some lease) : lease.epoch = claims past + 1 := by
  obtain ⟨claims, onlyClaims⟩ := numbered past event future split
  obtain ⟨other, same, epoch⟩ := claims (onlyClaims (by rw [issued]; rfl))
  obtain rfl := Option.some.inj (issued.symm.trans same)
  exact epoch

/-- A lease that was issued before an event is no younger than the Claims before it. -/
theorem issued_before {events : List CommandReceipt} (numbered : Justified Numbered events)
    (past future : List CommandReceipt) (split : events = past ++ future)
    {lease : CoordinatorLease} (issued : lease ∈ past.filterMap CommandReceipt.issued) :
    lease.epoch ≤ claims past := by
  obtain ⟨event, member, made⟩ := List.mem_filterMap.mp issued
  obtain ⟨before, after, rfl⟩ := List.append_of_mem member
  have whole : events = before ++ event :: (after ++ future) := by rw [split]; simp
  have epoch := issued_epoch numbered whole made
  have claim := (numbered before event _ whole).2 (by rw [made]; rfl)
  have counted : claims (before ++ event :: after) = claims before + (claims after + 1) := by
    simp [claims, claim]
  omega

theorem fenced_after_close {events : List CommandReceipt} (numbered : Justified Numbered events)
    (fenced : Justified Fenced events) {past closing between event future}
    (split : events = past ++ closing :: between ++ event :: future)
    (closes : closing.closes = true) {lease : CoordinatorLease}
    (issued : lease ∈ past.filterMap CommandReceipt.issued) {writer : Writer}
    (carries : event.command.writer = some writer) : lease.epoch < writer.epoch := by
  obtain ⟨earlier, claim, since, present, sameSplit, made, rfl, quiet⟩ :=
    fenced _ event future split writer carries
  have opened : events = earlier ++ claim :: (since ++ event :: future) := by
    rw [split, sameSplit]
    simp
  have whole : events = past ++ (closing :: between ++ event :: future) := by
    rw [split]
    simp
  have epoch := issued_epoch numbered opened made
  have older := issued_before numbered past _ whole issued
  have younger (fewer : claims past ≤ claims earlier) : lease.epoch < present.writer.epoch := by
    simp only [CoordinatorLease.writer]
    omega
  -- the closing event cannot lie after the Claim that opened the present lease
  rcases List.append_eq_append_iff.mp sameSplit with ⟨middle, rfl, -⟩ | ⟨middle, rfl, closeSide⟩
  · apply younger
    simp [claims]
  · cases middle with
    | nil =>
      apply younger
      simp [claims]
    | cons head rest =>
      obtain ⟨rfl, rfl⟩ := List.cons.inj closeSide
      have still := (quiet closing (by simp)).2
      cases still.symm.trans closes

/-- No writer command that carries the epoch of a lease takes effect after an
event that closed it, whatever session and token it presents. -/
def ClosedForGood (events : List CommandReceipt) : Prop :=
  ∀ past closing between event future,
    events = past ++ closing :: between ++ event :: future → closing.closes = true →
    ∀ lease ∈ past.filterMap CommandReceipt.issued, ∀ writer,
      event.command.writer = some writer → writer.epoch ≠ lease.epoch

/-- Fencing of every run: epochs number the Claims, writer commands present the
open lease, and a closed epoch stays closed. -/
theorem run_fencing (tenantId : TenantId) (profileId : ProfileId) (config : CoordinatorConfig)
    (inputs : List CoordinatorCommandEnvelope) :
    let events := ledger (coordinator.history (new tenantId profileId config) inputs)
    Justified Numbered events ∧ Justified Fenced events ∧ ClosedForGood events := by
  intro events
  obtain ⟨-, -, numbered, fenced⟩ := reachable_fenced tenantId profileId config inputs
  refine ⟨numbered, fenced, ?_⟩
  intro past closing between event future split closes lease issued writer carries
  have younger := fenced_after_close numbered fenced split closes issued carries
  exact Nat.ne_of_gt younger

end ProfilePlatform.Session
