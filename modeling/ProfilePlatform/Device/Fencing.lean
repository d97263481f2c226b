import ProfilePlatform.Device.Effects

/-! Fencing over whole runs: what an accepted operation owes to the claims before it.

The history alone says which claim is held. Runs keep refused operations, which change nothing
until the versions run out, and from then on nothing is accepted.
-/

set_option autoImplicit false

namespace ProfilePlatform.Device

open Foundation

/-- A claim as far as later operations have to name it, and when its lease ends. -/
structure Grant where
  claimId : DeviceClaimId
  fence : Nat
  leaseExpiresAt : UnixMillis
  deriving DecidableEq

def DeviceClaim.grant (claim : DeviceClaim) : Grant :=
  ⟨claim.claimId, claim.fence, claim.leaseExpiresAt⟩

/-- The claim and the fence that an operation has to name. -/
def DeviceJobOperation.names : DeviceJobOperation → Option (DeviceClaimId × Nat)
  | .heartbeat claimId fence _ _ | .markProfileBusy claimId fence _ _
  | .scheduleRetry claimId fence _ _ | .requireAuth claimId fence _
  | .requireRecovery claimId fence _ | .succeed claimId fence _ | .fail claimId fence _ =>
    some (claimId, fence)
  | .claim .. | .expireClaim .. | .resumeAfterAuth _ | .resumeAfterRecovery _ | .cancel _ => none

/-- What a call of `claim` returns. -/
def granted (entry : DeviceJobEntry) : Option DeviceClaim :=
  match entry.input with
  | .claim claimId observedAt leaseExpiresAt =>
    (outcome (claim claimId observedAt leaseExpiresAt) entry.before).1.toOption
  | _ => none

/-- A claim is held from when it is granted until an operation releases or expires it. A heartbeat
moves the end of its lease. -/
def heldAfter (held : Option Grant) (entry : DeviceJobEntry) : Option Grant :=
  match entry.output with
  | .error _ => held
  | .ok () => match entry.input with
    | .claim .. => (granted entry).map DeviceClaim.grant
    | .heartbeat _ _ _ leaseExpiresAt => held.map fun grant => { grant with leaseExpiresAt }
    | .resumeAfterAuth _ | .resumeAfterRecovery _ => held
    | .markProfileBusy .. | .scheduleRetry .. | .expireClaim .. | .requireAuth ..
    | .requireRecovery .. | .succeed .. | .fail .. | .cancel _ => none

def held (past : List DeviceJobEntry) : Option Grant := past.foldl heldAfter none

def updatedAfter (updatedAt : UnixMillis) (entry : DeviceJobEntry) : UnixMillis :=
  match entry.output with
  | .error _ => updatedAt
  | .ok () => entry.input.observedAt

def lastUpdate (issuedAt : UnixMillis) (past : List DeviceJobEntry) : UnixMillis :=
  past.foldl updatedAfter issuedAt

/-- What is known of an accepted operation from what has happened before it. -/
structure Fenced (issuedAt : UnixMillis) (past : List DeviceJobEntry) (entry : DeviceJobEntry) :
    Prop where
  current : entry.output = .ok () → ∀ named ∈ entry.input.names, ∃ grant, held past = some grant ∧
    named = (grant.claimId, grant.fence) ∧ entry.input.observedAt < grant.leaseExpiresAt
  timely : entry.output = .ok () → lastUpdate issuedAt past ≤ entry.input.observedAt
  advances : ∀ claim ∈ granted entry, ∀ earlier ∈ past.filterMap granted, earlier.fence < claim.fence
  open_ : entry.output = .ok () → ∀ earlier ∈ past, earlier.after.status.isTerminal = false

section Steps

variable {job : DeviceJob} {operation : DeviceJobOperation} {issuedAt : UnixMillis}
  {past : List DeviceJobEntry}

theorem held_concat (past : List DeviceJobEntry) (entry : DeviceJobEntry) :
    held (past ++ [entry]) = heldAfter (held past) entry := by
  simp [held]

theorem lastUpdate_concat (issuedAt : UnixMillis) (past : List DeviceJobEntry)
    (entry : DeviceJobEntry) :
    lastUpdate issuedAt (past ++ [entry]) = updatedAfter (lastUpdate issuedAt past) entry := by
  simp [lastUpdate]

theorem Accepts.live (accepts : Accepts job operation) : job.status.isTerminal = false := by
  obtain ⟨-, accepts⟩ := accepts
  have running : job.status = .running → job.status.isTerminal = false := fun same => by rw [same]; rfl
  cases operation <;> dsimp only at accepts
  case claim => exact accepts.live
  case heartbeat => exact running accepts.1.1
  case markProfileBusy => exact running accepts.2.1
  case scheduleRetry => exact running accepts.2.2.1
  case expireClaim => exact running accepts.1
  case requireAuth => exact running accepts.1
  case resumeAfterAuth => rw [accepts.1]; rfl
  case requireRecovery => exact running accepts.1
  case resumeAfterRecovery => rw [accepts.1]; rfl
  case succeed => exact running accepts.1
  case fail => exact running accepts.1
  case cancel => exact accepts

theorem Accepts.heldBy (accepts : Accepts job operation) {claimId : DeviceClaimId} {fence : Nat}
    (named : operation.names = some (claimId, fence)) :
    HeldBy job claimId fence operation.observedAt := by
  obtain ⟨-, accepts⟩ := accepts
  cases operation <;> cases named
  case heartbeat => exact accepts.1
  case markProfileBusy => exact accepts.2
  case scheduleRetry => exact accepts.2.2
  all_goals exact accepts

theorem granted_of_error (refused : (deviceJobs.step job operation).1 ≠ .ok ()) :
    granted (deviceJobs.entry job operation) = none := by
  cases operation <;> try rfl
  next claimId observedAt leaseExpiresAt =>
    simp only [deviceJobs, operate] at refused
    rw [outcome_bind] at refused
    show (outcome (claim claimId observedAt leaseExpiresAt) job).1.toOption = none
    generalize outcome (claim claimId observedAt leaseExpiresAt) job = result at refused ⊢
    obtain ⟨answer, after⟩ := result
    cases answer with
    | error why => rfl
    | ok claim => exact absurd rfl refused

theorem granted_of_claim {claimId : DeviceClaimId} {observedAt leaseExpiresAt : UnixMillis}
    (done : (deviceJobs.step job (.claim claimId observedAt leaseExpiresAt)).1 = .ok ()) :
    granted (deviceJobs.entry job (.claim claimId observedAt leaseExpiresAt)) =
        (effect job (.claim claimId observedAt leaseExpiresAt)).activeClaim ∧
      ∀ claim ∈ (effect job (.claim claimId observedAt leaseExpiresAt)).activeClaim,
        claim.fence = job.lastFence + 1 := by
  obtain ⟨⟨later, claimable⟩, room⟩ := step_eq_ok_iff.mp done
  have timely : job.updatedAt ≤ observedAt := later
  have claims : ∃ claim, _ ∧ outcome (Device.claim claimId observedAt leaseExpiresAt) job = _ :=
    outcome_claim timely claimable
  obtain ⟨claim, issued, claims⟩ := claims
  constructor
  · show (outcome (Device.claim claimId observedAt leaseExpiresAt) job).1.toOption =
      (DeviceClaim.issue claimId job.jobId job.target (job.lastFence + 1) observedAt
        leaseExpiresAt).toOption
    rw [claims, issued, outcome_bind, outcome_advance, effect_version, AggregateVersion.next,
      if_pos room]
    rfl
  · intro other member
    rw [effect, issued] at member
    cases member
    obtain ⟨same, found, stored⟩ := @DeviceClaim.issue_accepted claimId job.jobId job.target _ _ _
      (Nat.succ_ne_zero job.lastFence) claimable.lease
    cases issued.symm.trans found
    exact congrArg DeviceClaimSnapshot.fence stored

theorem heldAfter_effect (done : (deviceJobs.step job operation).1 = .ok ()) :
    heldAfter (job.activeClaim.map DeviceClaim.grant) (deviceJobs.entry job operation) =
      (effect job operation).activeClaim.map DeviceClaim.grant := by
  unfold heldAfter
  have output : (deviceJobs.entry job operation).output = .ok () := done
  rw [output]
  cases operation <;> try rfl
  case claim => exact congrArg (Option.map _) (granted_of_claim done).1
  case heartbeat claimId fence observedAt leaseExpiresAt =>
    obtain ⟨⟨-, held, extends_⟩, -⟩ := step_eq_ok_iff.mp done
    obtain ⟨-, claim, member, -, -, fresh⟩ := held
    obtain ⟨behind, longer⟩ := extends_ claim member
    obtain ⟨extended, beats, kept⟩ := DeviceClaim.heartbeat_accepted behind fresh longer
    have named : extended.grant = ⟨claim.claimId, claim.fence, leaseExpiresAt⟩ :=
      congrArg (fun stored : DeviceClaimSnapshot =>
        (⟨stored.claimId, stored.fence, stored.leaseExpiresAt⟩ : Grant)) kept
    show (job.activeClaim.map DeviceClaim.grant).map _ = (job.activeClaim.bind _).map _
    rw [Option.mem_def.mp member, Option.bind_some, beats]
    exact congrArg some named.symm
  case expireClaim observedAt retryAt =>
    show none = (if job.maxAttempts ≤ job.attempt then _ else _ : DeviceJob).activeClaim.map _
    split <;> rfl

theorem lastFence_effect (job : DeviceJob) (operation : DeviceJobOperation) :
    job.lastFence ≤ (effect job operation).lastFence := by
  cases operation <;> try exact Nat.le_refl _
  case claim => exact Nat.le_succ _
  case expireClaim =>
    show _ ≤ (if job.maxAttempts ≤ job.attempt then _ else _ : DeviceJob).lastFence
    split <;> exact Nat.le_refl _

end Steps

section Runs

variable {job : DeviceJob} {operation : DeviceJobOperation} {issuedAt : UnixMillis}
  {past : List DeviceJobEntry}

/-- The job as its history tells it. -/
structure Follows (issuedAt : UnixMillis) (past : List DeviceJobEntry) (job : DeviceJob) : Prop where
  holds : held past = job.activeClaim.map DeviceClaim.grant
  updated : lastUpdate issuedAt past = job.updatedAt
  fences : ∀ claim ∈ past.filterMap granted, claim.fence ≤ job.lastFence
  ended : ∀ entry ∈ past, entry.after.status.isTerminal = true → job.status.isTerminal = true

theorem fenced_of_error (refused : (deviceJobs.step job operation).1 ≠ .ok ()) :
    Fenced issuedAt past (deviceJobs.entry job operation) where
  current done := absurd done refused
  timely done := absurd done refused
  advances claim member := by rw [granted_of_error refused] at member; cases member
  open_ done := absurd done refused

theorem fenced_of_success (follows : Follows issuedAt past job)
    (done : (deviceJobs.step job operation).1 = .ok ()) :
    Fenced issuedAt past (deviceJobs.entry job operation) where
  current _ := by
    rintro ⟨claimId, fence⟩ named
    obtain ⟨-, claim, active, rfl, rfl, fresh⟩ := (step_eq_ok_iff.mp done).1.heldBy named
    refine ⟨claim.grant, by rw [follows.holds, active, Option.map_some], rfl, ?_⟩
    exact Nat.not_le.mp (of_decide_eq_false fresh)
  timely _ := follows.updated ▸ (step_eq_ok_iff.mp done).1.1
  advances claim member earlier known := by
    refine Nat.lt_of_le_of_lt (follows.fences earlier known) ?_
    cases operation <;> try cases member
    case claim =>
      obtain ⟨returned, fences⟩ := granted_of_claim done
      rw [fences claim (returned ▸ member)]
      exact Nat.lt_succ_self _
  open_ _ earlier known := by
    rw [← Bool.not_eq_true]
    intro terminal
    have live := (step_eq_ok_iff.mp done).1.live
    rw [follows.ended earlier known terminal] at live
    cases live

theorem follows_of_refused (follows : Follows issuedAt past job) {why : DeviceJobError}
    (refused : outcome (operate operation) job = (.error why, job)) :
    Follows issuedAt (past ++ [deviceJobs.entry job operation]) job := by
  have output : (deviceJobs.entry job operation).output = .error why := congrArg Prod.fst refused
  have after : (deviceJobs.entry job operation).after = job := congrArg Prod.snd refused
  have none_ : granted (deviceJobs.entry job operation) = none :=
    granted_of_error fun done => by cases output.symm.trans done
  exact {
    holds := by rw [held_concat, heldAfter, output]; exact follows.holds
    updated := by rw [lastUpdate_concat, updatedAfter, output]; exact follows.updated
    fences := by simpa [none_] using follows.fences
    ended := by
      intro entry member terminal
      rcases List.mem_append.mp member with before | last
      · exact follows.ended entry before terminal
      · rwa [List.mem_singleton.mp last, after] at terminal }

theorem follows_of_success (follows : Follows issuedAt past job)
    (done : (deviceJobs.step job operation).1 = .ok ()) :
    Follows issuedAt (past ++ [deviceJobs.entry job operation]) (deviceJobs.step job operation).2 := by
  have output : (deviceJobs.entry job operation).output = .ok () := done
  have after : (deviceJobs.entry job operation).after = (deviceJobs.step job operation).2 := rfl
  obtain ⟨version, -, effected⟩ := after_of_success done
  have live := (step_eq_ok_iff.mp done).1.live
  exact {
    holds := by rw [held_concat, follows.holds, heldAfter_effect done, effected]
    updated := by rw [lastUpdate_concat, updatedAfter, output, effected]; rfl
    fences := by
      rw [effected, List.filterMap_append]
      intro claim member
      rcases List.mem_append.mp member with before | last
      · exact Nat.le_trans (follows.fences claim before) (lastFence_effect job operation)
      · obtain ⟨entry, among, returned⟩ := List.mem_filterMap.mp last
        cases List.mem_singleton.mp among
        cases operation <;> try cases returned
        case claim =>
          obtain ⟨same, fences⟩ := granted_of_claim done
          exact Nat.le_of_eq (fences claim (same ▸ returned))
    ended := by
      intro entry member terminal
      rcases List.mem_append.mp member with before | last
      · rw [follows.ended entry before terminal] at live
        cases live
      · rwa [List.mem_singleton.mp last, after] at terminal }

theorem step_exhausted (full : u64Limit ≤ job.version.value + 1) :
    (deviceJobs.step job operation).1 ≠ .ok () ∧
      u64Limit ≤ (deviceJobs.step job operation).2.version.value + 1 := by
  refine ⟨fun done => absurd (step_eq_ok_iff.mp done).2 (Nat.not_lt.mpr full), ?_⟩
  simp only [deviceJobs]
  obtain ⟨-, why, refused⟩ | ⟨-, edited, changed, ends⟩ := operates job operation
  · rw [refused]
    exact full
  · rw [ends, outcome_advance, AggregateVersion.next, changed.version_eq,
      if_neg (Nat.not_lt.mpr full)]
    exact changed.version_eq ▸ full

theorem fenced_run (follows : Follows issuedAt [] job) (operations : List DeviceJobOperation) :
    Justified (Fenced issuedAt) (deviceJobs.history job operations) := by
  refine (deviceJobs.history_invariant (fun past job => Justified (Fenced issuedAt) past ∧
    (u64Limit ≤ job.version.value + 1 ∨ Follows issuedAt past job))
    ⟨justified_nil _, .inr follows⟩ ?_ operations).1
  rintro past job operation ⟨justified, stands⟩
  by_cases full : u64Limit ≤ job.version.value + 1
  · obtain ⟨refused, still⟩ := @step_exhausted job operation full
    exact ⟨justified_concat justified (fenced_of_error refused), .inl still⟩
  have follows := stands.resolve_left full
  obtain ⟨refuses, why, refused⟩ | ⟨accepts, -⟩ := operates job operation
  · have failed : (deviceJobs.step job operation).1 ≠ .ok () := fun done => by
      cases done.symm.trans (congrArg Prod.fst refused)
    have after : (deviceJobs.step job operation).2 = job := congrArg Prod.snd refused
    exact ⟨justified_concat justified (fenced_of_error failed),
      .inr (by rw [after]; exact follows_of_refused follows refused)⟩
  · have done := step_eq_ok_iff.mpr ⟨accepts, Nat.not_le.mp full⟩
    exact ⟨justified_concat justified (fenced_of_success follows done),
      .inr (follows_of_success follows done)⟩

theorem follows_issue {jobId : DeviceJobId} {target : DeviceJobTarget} {maxAttempts : Nat}
    (issued : DeviceJob.issue jobId target maxAttempts issuedAt = .ok job) :
    Follows issuedAt [] job := by
  obtain ⟨_, -, same⟩ := bind_eq_ok.mp issued
  cases same
  exact ⟨rfl, rfl, by simp, by simp⟩

/-- In every run, whatever is refused on the way: claims get growing fences, an operation on a claim
names the one that is held and comes before its lease ends, and nothing follows the end of a job. -/
theorem fenced_until_terminal {jobId : DeviceJobId} {target : DeviceJobTarget} {maxAttempts : Nat}
    (issued : DeviceJob.issue jobId target maxAttempts issuedAt = .ok job)
    (operations : List DeviceJobOperation) :
    let history := deviceJobs.history job operations
    (history.filterMap granted).Pairwise (fun earlier later => earlier.fence < later.fence) ∧
    ∀ past entry future, history = past ++ entry :: future →
      (entry.output = .ok () → ∀ named ∈ entry.input.names, ∃ grant, held past = some grant ∧
        named = (grant.claimId, grant.fence) ∧
        entry.input.observedAt < grant.leaseExpiresAt ∧
        lastUpdate issuedAt past ≤ entry.input.observedAt) ∧
      (entry.after.status.isTerminal = true → ∀ later ∈ future, later.output ≠ .ok ()) := by
  intro history
  have justified : Justified (Fenced issuedAt) history :=
    fenced_run (follows_issue issued) operations
  refine ⟨pairwise_of_justified justified fun past entry fenced => fenced.advances, ?_⟩
  intro past entry future split
  constructor
  · intro done named member
    have fenced := justified past entry future split
    obtain ⟨grant, held, same, live⟩ := fenced.current done named member
    exact ⟨grant, held, same, live, fenced.timely done⟩
  · intro terminal later member done
    obtain ⟨between, rest, rfl⟩ := List.append_of_mem member
    have fenced := justified (past ++ entry :: between) later rest (by simpa using split)
    have open_ := fenced.open_ done entry (by simp)
    rw [terminal] at open_
    cases open_

end Runs

namespace SampleFencing

def target : DeviceJobTarget :=
  ⟨⟨⟨"tenant-fencing", by decide⟩⟩, ⟨⟨"device-fencing", by decide⟩⟩,
    ⟨⟨"profile-fencing", by decide⟩⟩, ⟨⟨"generation-fencing", by decide⟩⟩⟩

def jobId : DeviceJobId := ⟨⟨"job-fencing", by decide⟩⟩
def claimId : DeviceClaimId := ⟨⟨"claim-fencing", by decide⟩⟩

def issued : DeviceJob :=
  ⟨jobId, target, .initial, .pendingDevice, 0, 3, 0, none, none, 100⟩

/-- One claim id is used twice, and the first claim is named once more after the second. -/
def operations : List DeviceJobOperation :=
  [.claim claimId 110 200, .heartbeat claimId 1 110 210, .scheduleRetry claimId 1 120 130,
    .claim claimId 130 220, .succeed claimId 1 140, .succeed claimId 2 140, .cancel 150]

end SampleFencing

open SampleFencing in
theorem fenced_until_terminal_reused :
    DeviceJob.issue jobId target 3 100 = .ok issued ∧
      ((deviceJobs.history issued operations).filterMap granted).Pairwise
        (fun earlier later => earlier.fence < later.fence) ∧
      ((deviceJobs.history issued operations).filterMap granted).length = 2 := by
  have accepted : DeviceJob.issue jobId target 3 100 = .ok issued := by decide
  exact ⟨accepted, (fenced_until_terminal accepted operations).1, by decide⟩

end ProfilePlatform.Device
