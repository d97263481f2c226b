import ProfilePlatform.Certification.UpdateController

/-! What a run of updates keeps: no release that failed comes back, and what is kept to fall back
on has shown its health.
-/

set_option autoImplicit false

namespace ProfilePlatform.Certification

open Foundation

section Operations

variable {controller after : UpdateController} {operation : UpdateOperation}
  {answer : Except CertificationError UpdateAnswer}

/-- What an operation does to the controller, with all it has checked. -/
inductive Performed (controller : UpdateController) :
    UpdateOperation → Except CertificationError UpdateAnswer → UpdateController → Prop where
  | refused {operation : UpdateOperation} {why : CertificationError} :
      Performed controller operation (.error why) controller
  | stage {candidate : ReleaseCandidate} {observedDigest : ContentDigest}
      (newer : controller.highestSeenVersion < candidate.version)
      (idle : controller.state ≠ .awaitingHealth) :
      Performed controller (.stage candidate observedDigest) (.ok .done)
        { controller with
          highestSeenVersion := candidate.version
          staged := some candidate
          state := .staged }
  | activate {candidate : ReleaseCandidate} (ready : controller.state = .staged)
      (staged : controller.staged = some candidate) :
      Performed controller .activateStaged (.ok (.activated candidate.version))
        { controller with
          staged := none
          previous := controller.active
          active := some candidate
          state := .awaitingHealth }
  | confirm {active : ReleaseCandidate} (awaited : controller.state = .awaitingHealth)
      (held : controller.active = some active) :
      Performed controller
        (.confirmHealth active.releaseId active.version active.contentDigest) (.ok .done)
        { controller with state := .healthy }
  | restore {failed previous : ReleaseCandidate} (awaited : controller.state = .awaitingHealth)
      (held : controller.active = some failed) (kept : controller.previous = some previous) :
      Performed controller
        (.failHealthAndRollback failed.releaseId failed.version failed.contentDigest)
        (.ok (.rolledBack (.restored previous.version)))
        { controller with previous := none, active := some previous, state := .rolledBack }
  | abandon {failed : ReleaseCandidate} (awaited : controller.state = .awaitingHealth)
      (held : controller.active = some failed) (unkept : controller.previous = none) :
      Performed controller
        (.failHealthAndRollback failed.releaseId failed.version failed.contentDigest)
        (.ok (.rolledBack .noPreviousRelease))
        { controller with previous := none, active := none, state := .failed }

theorem matchesIdentity_eq_true {candidate : ReleaseCandidate} {releaseId : ReleaseId}
    {version : Nat} {contentDigest : ContentDigest} :
    candidate.matchesIdentity releaseId version contentDigest = true ↔
      candidate.releaseId = releaseId ∧ candidate.version = version ∧
        candidate.contentDigest = contentDigest := by
  simp [ReleaseCandidate.matchesIdentity, and_assoc]

theorem outcome_awaitedRelease (controller : UpdateController) (releaseId : ReleaseId)
    (version : Nat) (contentDigest : ContentDigest) :
    (∃ why, outcome (awaitedRelease releaseId version contentDigest) controller =
      (.error why, controller)) ∨
    ∃ active, controller.state = .awaitingHealth ∧ controller.active = some active ∧
      active.releaseId = releaseId ∧ active.version = version ∧
      active.contentDigest = contentDigest ∧
      outcome (awaitedRelease releaseId version contentDigest) controller =
        (.ok active, controller) := by
  unfold awaitedRelease
  rw [outcome_get_bind, outcome_refuseWhen_bind]
  split
  next => exact .inl ⟨_, rfl⟩
  next awaited =>
  cases held : controller.active with
  | none => exact .inl ⟨_, rfl⟩
  | some active =>
    dsimp only
    rw [outcome_refuseWhen_bind]
    split
    next => exact .inl ⟨_, rfl⟩
    next named =>
      obtain ⟨id, versioned, digest⟩ := matchesIdentity_eq_true.mp (Bool.not_eq_false _ ▸ named)
      exact .inr ⟨active, Decidable.not_not.mp awaited, rfl, id, versioned, digest, rfl⟩

theorem performed (controller : UpdateController) (operation : UpdateOperation) :
    Performed controller operation (updates.step controller operation).1
      (updates.step controller operation).2 := by
  simp only [updates]
  cases operation with
  | stage candidate observedDigest =>
    simp only [update, stage, bind_assoc, outcome_refuseWhen_bind, outcome_get_bind]
    split
    next => exact .refused
    next =>
    split
    next => exact .refused
    next newer =>
    split
    next => exact .refused
    next free => exact .stage (Nat.not_le.mp newer) (not_or.mp free).2
  | activateStaged =>
    simp only [update, activateStaged, bind_assoc, outcome_refuseWhen_bind, outcome_get_bind]
    split
    next => exact .refused
    next ready =>
    rw [outcome_set_bind]
    cases staged : controller.staged with
    | none =>
      have same : { controller with staged := none } = controller := by rw [← staged]
      show Performed controller .activateStaged (.error .missingStagedRelease) _
      rw [same]
      exact .refused
    | some candidate => exact .activate (Decidable.not_not.mp ready) staged
  | confirmHealth releaseId version contentDigest =>
    simp only [update, confirmHealth, bind_assoc]
    rw [outcome_bind]
    obtain ⟨why, refused⟩ | ⟨active, awaited, held, rfl, rfl, rfl, found⟩ :=
      outcome_awaitedRelease controller releaseId version contentDigest
    · rw [refused]
      exact .refused
    · rw [found]
      exact .confirm awaited held
  | failHealthAndRollback releaseId version contentDigest =>
    simp only [update, failHealthAndRollback, bind_assoc]
    rw [outcome_bind]
    obtain ⟨why, refused⟩ | ⟨active, awaited, held, rfl, rfl, rfl, found⟩ :=
      outcome_awaitedRelease controller releaseId version contentDigest
    · rw [refused]
      exact .refused
    · rw [found]
      dsimp only
      rw [outcome_get_bind]
      cases kept : controller.previous with
      | none => exact .abandon awaited held kept
      | some previous => exact .restore awaited held kept

end Operations

section History

/-- The release was active under the identity whose health an earlier call confirmed. -/
def Confirmed (past : List UpdateEntry) (release : ReleaseCandidate) : Prop :=
  ∃ entry ∈ past, entry.input =
    .confirmHealth release.releaseId release.version release.contentDigest ∧
    entry.output = .ok .done ∧ entry.before.active = some release

/-- The release was active when an earlier call failed its health check. -/
def Failed (past : List UpdateEntry) (release : ReleaseCandidate) : Prop :=
  ∃ entry ∈ past, (∃ outcome, entry.output = .ok (.rolledBack outcome)) ∧
    entry.before.active = some release

def stagedCandidate (entry : UpdateEntry) : Option ReleaseCandidate :=
  match entry.input, entry.output with
  | .stage candidate _, .ok _ => some candidate
  | _, _ => none

def stagedCandidates (past : List UpdateEntry) : List ReleaseCandidate :=
  past.filterMap stagedCandidate

/-- The last accepted call of the past activated what is active now, and met what is kept now. -/
def ActivatedLast (past : List UpdateEntry) (kept active : Option ReleaseCandidate) : Prop :=
  ∃ earlier entry refused, past = earlier ++ entry :: refused ∧ entry.input = .activateStaged ∧
    (∃ version, entry.output = .ok (.activated version)) ∧ entry.before.active = kept ∧
    entry.after.active = active ∧ ∀ other ∈ refused, ∃ why, other.output = .error why

variable {past : List UpdateEntry} {entry : UpdateEntry} {release : ReleaseCandidate}

theorem Confirmed.later (confirmed : Confirmed past release) :
    Confirmed (past ++ [entry]) release := by
  obtain ⟨earlier, member, shown⟩ := confirmed
  exact ⟨earlier, List.mem_append_left _ member, shown⟩

theorem failed_concat : Failed (past ++ [entry]) release ↔ Failed past release ∨
    (∃ outcome, entry.output = .ok (.rolledBack outcome)) ∧ entry.before.active = some release := by
  simp [Failed, or_and_right, exists_or]

theorem failed_concat_of (kept : ∀ outcome, entry.output ≠ .ok (.rolledBack outcome)) :
    Failed (past ++ [entry]) release ↔ Failed past release := by
  rw [failed_concat]
  exact or_iff_left fun ⟨⟨outcome, rolledBack⟩, _⟩ => kept outcome rolledBack

theorem stagedCandidates_concat : stagedCandidates (past ++ [entry]) =
    stagedCandidates past ++ (stagedCandidate entry).toList := by
  simp only [stagedCandidates, List.filterMap_append]
  cases chosen : stagedCandidate entry <;> simp [chosen]

theorem stagedCandidates_concat_of (unstaged : stagedCandidate entry = none) :
    stagedCandidates (past ++ [entry]) = stagedCandidates past := by
  simp [stagedCandidates_concat, unstaged]

theorem ActivatedLast.refused {kept active : Option ReleaseCandidate}
    (activated : ActivatedLast past kept active) {why : CertificationError}
    (failed : entry.output = .error why) : ActivatedLast (past ++ [entry]) kept active := by
  obtain ⟨earlier, activation, refused, rfl, shown⟩ := activated
  refine ⟨earlier, activation, refused ++ [entry], by simp, shown.1, shown.2.1, shown.2.2.1,
    shown.2.2.2.1, fun other member => ?_⟩
  rcases List.mem_append.mp member with before | last
  · exact shown.2.2.2.2 other before
  · rw [List.mem_singleton.mp last]
    exact ⟨why, failed⟩

end History

section Invariant

/-- What the controller holds, told from the calls so far. Versions rise from the kept release to
the active one and on to the staged one. -/
structure Tracked (past : List UpdateEntry) (controller : UpdateController) : Prop where
  rising : (stagedCandidates past).Pairwise fun first second => first.version < second.version
  seen : ∀ candidate ∈ stagedCandidates past, candidate.version ≤ controller.highestSeenVersion
  activeSeen : ∀ active ∈ controller.active, active.version ≤ controller.highestSeenVersion
  stagedLast : ∀ staged ∈ controller.staged, controller.state = .staged ∧
    staged.version = controller.highestSeenVersion ∧
    ∀ active ∈ controller.active, active.version < staged.version
  keptEarlier : ∀ previous ∈ controller.previous, ∀ active ∈ controller.active,
    previous.version < active.version
  keptConfirmed : ∀ previous ∈ controller.previous, Confirmed past previous
  activeConfirmed : controller.state ≠ .awaitingHealth →
    ∀ active ∈ controller.active, Confirmed past active
  present : controller.state = .healthy ∨ controller.state = .rolledBack →
    controller.active.isSome = true
  activated : controller.state = .awaitingHealth →
    ActivatedLast past controller.previous controller.active
  failedSeen : ∀ failed, Failed past failed → failed.version ≤ controller.highestSeenVersion
  failedGone : ∀ failed, Failed past failed →
    (∀ active ∈ controller.active, active.version ≠ failed.version) ∧
    (∀ previous ∈ controller.previous, previous.version ≠ failed.version) ∧
    ∀ staged ∈ controller.staged, staged.version ≠ failed.version

theorem tracked_default : Tracked [] .default := by
  constructor <;> simp [stagedCandidates, UpdateController.default, Failed]

variable {past : List UpdateEntry} {controller after : UpdateController}
  {operation : UpdateOperation} {answer : Except CertificationError UpdateAnswer}

theorem tracked_refused (tracked : Tracked past controller) {why : CertificationError} :
    Tracked (past ++ [⟨controller, operation, .error why, controller⟩]) controller := by
  have unstaged : stagedCandidates (past ++ [⟨controller, operation, .error why, controller⟩]) =
      stagedCandidates past := stagedCandidates_concat_of (by cases operation <;> rfl)
  have same : ∀ release, Failed (past ++ [⟨controller, operation, .error why, controller⟩]) release ↔
      Failed past release := fun release => failed_concat_of (by simp)
  exact {
    rising := by rw [unstaged]; exact tracked.rising
    seen := by rw [unstaged]; exact tracked.seen
    activeSeen := tracked.activeSeen
    stagedLast := tracked.stagedLast
    keptEarlier := tracked.keptEarlier
    keptConfirmed := fun previous member => (tracked.keptConfirmed previous member).later
    activeConfirmed := fun idle active member => (tracked.activeConfirmed idle active member).later
    present := tracked.present
    activated := fun awaited => (tracked.activated awaited).refused rfl
    failedSeen := fun release failed => tracked.failedSeen release ((same release).mp failed)
    failedGone := fun release failed => tracked.failedGone release ((same release).mp failed) }

theorem tracked_stage (tracked : Tracked past controller) {candidate : ReleaseCandidate}
    {observedDigest : ContentDigest} (newer : controller.highestSeenVersion < candidate.version)
    (idle : controller.state ≠ .awaitingHealth) (after : UpdateController)
    (staged : after = { controller with
      highestSeenVersion := candidate.version
      staged := some candidate
      state := .staged }) :
    Tracked (past ++ [⟨controller, .stage candidate observedDigest, .ok .done, after⟩]) after := by
  have same : ∀ release, Failed (past ++ [⟨controller, .stage candidate observedDigest, .ok .done,
      after⟩]) release ↔ Failed past release := fun release => failed_concat_of (by simp)
  have below : ∀ {version}, version ≤ controller.highestSeenVersion → version < candidate.version :=
    fun seen => Nat.lt_of_le_of_lt seen newer
  subst staged
  exact {
    rising := by
      rw [stagedCandidates_concat]
      refine List.pairwise_append.mpr ⟨tracked.rising, List.pairwise_singleton _ _, ?_⟩
      intro first member second last
      cases List.mem_singleton.mp last
      exact below (tracked.seen first member)
    seen := by
      rw [stagedCandidates_concat]
      intro other member
      rcases List.mem_append.mp member with before | last
      · exact Nat.le_of_lt (below (tracked.seen other before))
      · cases List.mem_singleton.mp last
        exact Nat.le_refl _
    activeSeen := fun active member => Nat.le_of_lt (below (tracked.activeSeen active member))
    stagedLast := by
      intro staged member
      cases member
      exact ⟨rfl, rfl, fun active held => below (tracked.activeSeen active held)⟩
    keptEarlier := tracked.keptEarlier
    keptConfirmed := fun previous member => (tracked.keptConfirmed previous member).later
    activeConfirmed := fun _ active member => (tracked.activeConfirmed idle active member).later
    present := by simp
    activated := by simp
    failedSeen := fun release failed =>
      Nat.le_of_lt (below (tracked.failedSeen release ((same release).mp failed)))
    failedGone := by
      intro release failed
      have before := (same release).mp failed
      refine ⟨(tracked.failedGone release before).1, (tracked.failedGone release before).2.1, ?_⟩
      intro staged member
      cases member
      exact Nat.ne_of_gt (below (tracked.failedSeen release before)) }

theorem tracked_activate (tracked : Tracked past controller) {candidate : ReleaseCandidate}
    (ready : controller.state = .staged) (staged : controller.staged = some candidate)
    (after : UpdateController) (activated : after = { controller with
      staged := none
      previous := controller.active
      active := some candidate
      state := .awaitingHealth }) :
    Tracked (past ++ [⟨controller, .activateStaged, .ok (.activated candidate.version), after⟩])
      after := by
  have unstaged : stagedCandidates (past ++ [⟨controller, .activateStaged,
      .ok (.activated candidate.version), after⟩]) = stagedCandidates past :=
    stagedCandidates_concat_of rfl
  have same : ∀ release, Failed (past ++ [⟨controller, .activateStaged,
      .ok (.activated candidate.version), after⟩]) release ↔ Failed past release :=
    fun release => failed_concat_of (by simp)
  obtain ⟨-, highest, newer⟩ := tracked.stagedLast candidate staged
  subst activated
  exact {
    rising := by rw [unstaged]; exact tracked.rising
    seen := by rw [unstaged]; exact tracked.seen
    activeSeen := by
      intro active member
      cases member
      exact Nat.le_of_eq highest
    stagedLast := by simp
    keptEarlier := by
      intro previous member active held
      cases held
      exact newer previous member
    keptConfirmed := fun previous member =>
      (tracked.activeConfirmed (by simp [ready]) previous member).later
    activeConfirmed := by simp
    present := by simp
    activated := fun _ => ⟨past, _, [], rfl, rfl, ⟨_, rfl⟩, rfl, rfl, by simp⟩
    failedSeen := fun release failed => tracked.failedSeen release ((same release).mp failed)
    failedGone := by
      intro release failed
      obtain ⟨inactive, -, unstaged⟩ := tracked.failedGone release ((same release).mp failed)
      refine ⟨fun active member => ?_, inactive, by simp⟩
      cases member
      exact unstaged candidate staged }

theorem tracked_confirm (tracked : Tracked past controller) {active : ReleaseCandidate}
    (held : controller.active = some active) (awaited : controller.state = .awaitingHealth)
    (after : UpdateController) (confirmed : after = { controller with state := .healthy }) :
    Tracked (past ++ [⟨controller, .confirmHealth active.releaseId active.version
      active.contentDigest, .ok .done, after⟩]) after := by
  have unstaged : stagedCandidates (past ++ [⟨controller, .confirmHealth active.releaseId
      active.version active.contentDigest, .ok .done, after⟩]) = stagedCandidates past :=
    stagedCandidates_concat_of rfl
  have same : ∀ release, Failed (past ++ [⟨controller, .confirmHealth active.releaseId
      active.version active.contentDigest, .ok .done, after⟩]) release ↔ Failed past release :=
    fun release => failed_concat_of (by simp)
  subst confirmed
  exact {
    rising := by rw [unstaged]; exact tracked.rising
    seen := by rw [unstaged]; exact tracked.seen
    activeSeen := tracked.activeSeen
    stagedLast := by
      intro staged member
      have impossible := (tracked.stagedLast staged member).1
      rw [awaited] at impossible
      cases impossible
    keptEarlier := tracked.keptEarlier
    keptConfirmed := fun previous member => (tracked.keptConfirmed previous member).later
    activeConfirmed := by
      intro _ release member
      cases held.symm.trans member
      exact ⟨_, List.mem_append_right _ (List.mem_singleton.mpr rfl), rfl, rfl, held⟩
    present := by simp [held]
    activated := by simp
    failedSeen := fun release failed => tracked.failedSeen release ((same release).mp failed)
    failedGone := fun release failed => tracked.failedGone release ((same release).mp failed) }

theorem tracked_rollback (tracked : Tracked past controller) {failed : ReleaseCandidate}
    {outcome : RollbackOutcome} {state : UpdateState} (held : controller.active = some failed)
    (awaited : controller.state = .awaitingHealth)
    (shown : state = .rolledBack ∧ controller.previous.isSome ∨ state = .failed)
    (after : UpdateController) (rolledBack : after = { controller with
      previous := none, active := controller.previous, state }) :
    Tracked (past ++ [⟨controller, .failHealthAndRollback failed.releaseId failed.version
      failed.contentDigest, .ok (.rolledBack outcome), after⟩]) after := by
  have unstaged : stagedCandidates (past ++ [⟨controller, .failHealthAndRollback failed.releaseId
      failed.version failed.contentDigest, .ok (.rolledBack outcome), after⟩]) =
      stagedCandidates past := stagedCandidates_concat_of rfl
  have vacant : controller.staged = none := by
    refine Option.eq_none_iff_forall_ne_some.mpr fun staged member => ?_
    have impossible := (tracked.stagedLast staged member).1
    rw [awaited] at impossible
    cases impossible
  have earlier : ∀ previous ∈ controller.previous, previous.version < failed.version :=
    fun previous member => tracked.keptEarlier previous member failed held
  have idle : state ≠ .awaitingHealth := by rcases shown with ⟨rfl, -⟩ | rfl <;> simp
  subst rolledBack
  exact {
    rising := by rw [unstaged]; exact tracked.rising
    seen := by rw [unstaged]; exact tracked.seen
    activeSeen := fun previous member =>
      Nat.le_trans (Nat.le_of_lt (earlier previous member)) (tracked.activeSeen failed held)
    stagedLast := by simp [vacant]
    keptEarlier := by simp
    keptConfirmed := by simp
    activeConfirmed := fun _ previous member => (tracked.keptConfirmed previous member).later
    present := by
      rintro healthy
      rcases shown with ⟨-, kept⟩ | rfl
      · exact kept
      · simp at healthy
    activated := fun awaits => absurd awaits idle
    failedSeen := by
      intro release shown
      rcases failed_concat.mp shown with before | ⟨-, active⟩
      · exact tracked.failedSeen release before
      · exact tracked.activeSeen release active
    failedGone := by
      intro release shown
      refine ⟨fun previous member => ?_, by simp, by simp [vacant]⟩
      rcases failed_concat.mp shown with before | ⟨-, active⟩
      · exact (tracked.failedGone release before).2.1 previous member
      · cases held.symm.trans active
        exact Nat.ne_of_lt (earlier previous member) }

theorem tracked_performed (tracked : Tracked past controller)
    (done : Performed controller operation answer after) :
    Tracked (past ++ [⟨controller, operation, answer, after⟩]) after := by
  cases done with
  | refused => exact tracked_refused tracked
  | stage newer idle => exact tracked_stage tracked newer idle _ rfl
  | activate ready staged => exact tracked_activate tracked ready staged _ rfl
  | confirm awaited held => exact tracked_confirm tracked held awaited _ rfl
  | restore awaited held kept =>
    exact tracked_rollback tracked held awaited (.inl ⟨rfl, by rw [kept]; rfl⟩) _ (by rw [kept])
  | abandon awaited held unkept =>
    exact tracked_rollback tracked held awaited (.inr rfl) _ (by rw [unkept])

/-- What every call keeps of a run, whatever it is called with. -/
structure Safe (past : List UpdateEntry) (entry : UpdateEntry) : Prop where
  untouched : ∀ why, entry.output = .error why → entry.after = entry.before
  gone : ∀ failed, Failed (past ++ [entry]) failed →
    ∀ active ∈ entry.after.active, active.version ≠ failed.version
  shown : entry.after.state = .healthy ∨ entry.after.state = .rolledBack →
    ∃ active, entry.after.active = some active ∧ Confirmed (past ++ [entry]) active
  kept : entry.after.state = .awaitingHealth →
    ∀ previous ∈ entry.after.previous, Confirmed (past ++ [entry]) previous
  restores : ∀ version, entry.output = .ok (.rolledBack (.restored version)) →
    ∃ restored, restored.version = version ∧ entry.after.active = some restored ∧
      ActivatedLast past (some restored) entry.before.active

theorem safe_performed (tracked : Tracked past controller)
    (done : Performed controller operation answer after) :
    Safe past ⟨controller, operation, answer, after⟩ := by
  have later := tracked_performed tracked done
  refine ⟨?_, fun failed shown => (later.failedGone failed shown).1, fun shown => ?_,
    fun _ => later.keptConfirmed, ?_⟩
  · rintro why ⟨⟩
    cases done
    rfl
  · obtain ⟨active, held⟩ := Option.isSome_iff_exists.mp (later.present shown)
    refine ⟨active, held, later.activeConfirmed (fun awaited => ?_) active held⟩
    have awaited : after.state = .awaitingHealth := awaited
    rcases shown with healthy | rolledBack <;> simp_all
  · rintro version ⟨⟩
    cases done with
    | restore awaited held kept =>
      exact ⟨_, rfl, rfl, kept ▸ tracked.activated awaited⟩

end Invariant

/-- Over any calls from the default state, staged versions rise, and no call lets a failed release
run again, gives up what has shown its health, or leaves a trace of an error. -/
theorem updates_safe (operations : List UpdateOperation) :
    let trace := updates.history .default operations
    ((stagedCandidates trace).Pairwise fun first second => first.version < second.version) ∧
      (stagedCandidates trace).Nodup ∧ Justified Safe trace := by
  intro trace
  have kept := updates.history_invariant
    (fun past controller => Tracked past controller ∧ Justified Safe past)
    ⟨tracked_default, justified_nil Safe⟩
    (fun past controller operation ⟨tracked, before⟩ =>
      ⟨tracked_performed tracked (performed controller operation),
        justified_concat before (safe_performed tracked (performed controller operation))⟩)
    operations
  refine ⟨kept.1.rising, ?_, kept.2⟩
  exact kept.1.rising.imp fun {first second} rises same => by
    rw [same] at rises
    exact Nat.lt_irrefl _ rises

end ProfilePlatform.Certification
