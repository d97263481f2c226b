import ProfilePlatform.Foundation.Fallible
import ProfilePlatform.Foundation.Machine
import ProfilePlatform.Primitives

/-! The supervisor of the browser process: from a start to one close outcome. -/

set_option autoImplicit false

namespace ProfilePlatform.Bridge

open Foundation

inductive ProcessCloseOutcome where
  | clean | crash | forcedTimeout
  deriving DecidableEq, Repr

inductive SupervisedProcessState where
  | idle
  | starting (sessionId : SessionId) (startDeadline : UnixMillis)
  | ready (sessionId : SessionId)
  | closing (sessionId : SessionId) (closeDeadline : UnixMillis)
  | closed (sessionId : SessionId) (outcome : ProcessCloseOutcome)
  deriving DecidableEq

inductive ProcessSupervisorError where
  | invalidTransition | sessionMismatch | deadlineExpired | timeOverflow
  deriving DecidableEq, Repr

def addMillis (value : UnixMillis) (delta : Nat) : Except ProcessSupervisorError UnixMillis :=
  okOr (checkedAdd value delta) .timeOverflow

theorem addMillis_eq_ok {value : UnixMillis} {delta : Nat} {sum : UnixMillis}
    (added : addMillis value delta = .ok sum) : sum = value + delta :=
  (checkedAdd_eq_some.mp (okOr_eq_ok.mp added)).1

theorem addMillis_calm {value : UnixMillis} {delta : Nat} {why : ProcessSupervisorError}
    (failed : addMillis value delta = .error why) : why ≠ .deadlineExpired := by
  unfold addMillis okOr at failed
  split at failed
  next => cases failed
  next =>
    cases failed
    simp

structure ProcessSupervisor where
  state : SupervisedProcessState
  deriving DecidableEq

namespace ProcessSupervisor

def new : ProcessSupervisor := ⟨.idle⟩

def beginStart (self : ProcessSupervisor) (sessionId : SessionId) (now : UnixMillis)
    (startTimeoutMs : Nat) : Except ProcessSupervisorError Unit × ProcessSupervisor :=
  if self.state ≠ .idle ∨ startTimeoutMs = 0 then (.error .invalidTransition, self)
  else
    match addMillis now startTimeoutMs with
    | .error why => (.error why, self)
    | .ok startDeadline => (.ok (), ⟨.starting sessionId startDeadline⟩)

def markReady (self : ProcessSupervisor) (sessionId : SessionId) (now : UnixMillis) :
    Except ProcessSupervisorError Unit × ProcessSupervisor :=
  match self.state with
  | .starting active startDeadline =>
    if active ≠ sessionId then (.error .sessionMismatch, self)
    -- A late report closes the supervisor although the call fails.
    else if startDeadline ≤ now then (.error .deadlineExpired, ⟨.closed sessionId .forcedTimeout⟩)
    else (.ok (), ⟨.ready sessionId⟩)
  | _ => (.error .invalidTransition, self)

def requestClose (self : ProcessSupervisor) (sessionId : SessionId) (now : UnixMillis)
    (closeTimeoutMs : Nat) : Except ProcessSupervisorError Unit × ProcessSupervisor :=
  match self.state with
  | .ready active =>
    if active ≠ sessionId then (.error .sessionMismatch, self)
    else if closeTimeoutMs = 0 then (.error .invalidTransition, self)
    else
      match addMillis now closeTimeoutMs with
      | .error why => (.error why, self)
      | .ok closeDeadline => (.ok (), ⟨.closing sessionId closeDeadline⟩)
  | _ => (.error .invalidTransition, self)

def observeExit (self : ProcessSupervisor) (sessionId : SessionId) (successfulExit : Bool) :
    Except ProcessSupervisorError ProcessCloseOutcome × ProcessSupervisor :=
  match self.state with
  | .closing active _ =>
    if active ≠ sessionId then (.error .sessionMismatch, self)
    else
      let outcome := if successfulExit then .clean else .crash
      (.ok outcome, ⟨.closed sessionId outcome⟩)
  -- An exit that was not asked for is a crash, whatever its status.
  | .starting active _ | .ready active =>
    if active ≠ sessionId then (.error .sessionMismatch, self)
    else (.ok .crash, ⟨.closed sessionId .crash⟩)
  | .idle | .closed _ _ => (.error .invalidTransition, self)

def tick (self : ProcessSupervisor) (now : UnixMillis) :
    Except ProcessSupervisorError (Option ProcessCloseOutcome) × ProcessSupervisor :=
  match self.state with
  | .starting sessionId deadline | .closing sessionId deadline =>
    if deadline ≤ now then (.ok (some .forcedTimeout), ⟨.closed sessionId .forcedTimeout⟩)
    else (.ok none, self)
  | _ => (.ok none, self)

end ProcessSupervisor

inductive SupervisorCall where
  | beginStart (sessionId : SessionId) (now : UnixMillis) (startTimeoutMs : Nat)
  | markReady (sessionId : SessionId) (now : UnixMillis)
  | requestClose (sessionId : SessionId) (now : UnixMillis) (closeTimeoutMs : Nat)
  | observeExit (sessionId : SessionId) (successfulExit : Bool)
  | tick (now : UnixMillis)
  deriving DecidableEq

/-- The result of a call, with the outcome that the call returns. -/
abbrev SupervisorAnswer := Except ProcessSupervisorError (Option ProcessCloseOutcome)

/-- The supervisor under any calls in any order. -/
def supervisor : Machine ProcessSupervisor SupervisorCall SupervisorAnswer where
  step self
    | .beginStart sessionId now startTimeoutMs =>
      ((self.beginStart sessionId now startTimeoutMs).1.map fun _ => none,
        (self.beginStart sessionId now startTimeoutMs).2)
    | .markReady sessionId now =>
      ((self.markReady sessionId now).1.map fun _ => none, (self.markReady sessionId now).2)
    | .requestClose sessionId now closeTimeoutMs =>
      ((self.requestClose sessionId now closeTimeoutMs).1.map fun _ => none,
        (self.requestClose sessionId now closeTimeoutMs).2)
    | .observeExit sessionId successfulExit =>
      ((self.observeExit sessionId successfulExit).1.map some,
        (self.observeExit sessionId successfulExit).2)
    | .tick now => self.tick now

abbrev SupervisorEntry := Entry ProcessSupervisor SupervisorCall SupervisorAnswer

/-- The outcome that one call brings about: the one it returns, or the forced timeout that a late
readiness report leaves behind. -/
def produced (entry : SupervisorEntry) : Option ProcessCloseOutcome :=
  match entry.output with
  | .ok outcome => outcome
  | .error .deadlineExpired => some .forcedTimeout
  | .error _ => none

section CallKinds

variable (sessionId : SessionId) (deadline : UnixMillis) (entry : SupervisorEntry)

def Starts : Prop :=
  ∃ now startTimeoutMs, entry.input = .beginStart sessionId now startTimeoutMs ∧
    entry.output = .ok none ∧ deadline = now + startTimeoutMs

/-- Ready strictly before the start deadline. -/
def BecomesReady : Prop :=
  ∃ now, entry.input = .markReady sessionId now ∧ entry.output = .ok none ∧ now < deadline

def AcceptsClose : Prop :=
  ∃ now closeTimeoutMs, entry.input = .requestClose sessionId now closeTimeoutMs ∧
    entry.output = .ok none ∧ deadline = now + closeTimeoutMs

/-- Not a tick at or after the deadline. -/
def Punctual : Prop := ∀ now, entry.input = .tick now → now < deadline

def ExitsCleanly : Prop :=
  entry.input = .observeExit sessionId true ∧ entry.output = .ok (some .clean)

end CallKinds

/-- All that one call can do to the supervisor. -/
inductive SupervisorTurn : SupervisorEntry → Prop where
  | starts {sessionId : SessionId} {now : UnixMillis} {timeout : Nat} :
      SupervisorTurn ⟨⟨.idle⟩, .beginStart sessionId now timeout, .ok none,
        ⟨.starting sessionId (now + timeout)⟩⟩
  | becomesReady {sessionId : SessionId} {now deadline : UnixMillis} (early : now < deadline) :
      SupervisorTurn ⟨⟨.starting sessionId deadline⟩, .markReady sessionId now, .ok none,
        ⟨.ready sessionId⟩⟩
  | expires {sessionId : SessionId} {now deadline : UnixMillis} :
      SupervisorTurn ⟨⟨.starting sessionId deadline⟩, .markReady sessionId now,
        .error .deadlineExpired, ⟨.closed sessionId .forcedTimeout⟩⟩
  | acceptsClose {sessionId : SessionId} {now : UnixMillis} {timeout : Nat} :
      SupervisorTurn ⟨⟨.ready sessionId⟩, .requestClose sessionId now timeout, .ok none,
        ⟨.closing sessionId (now + timeout)⟩⟩
  | exitsCleanly {sessionId : SessionId} {deadline : UnixMillis} :
      SupervisorTurn ⟨⟨.closing sessionId deadline⟩, .observeExit sessionId true,
        .ok (some .clean), ⟨.closed sessionId .clean⟩⟩
  | closes {before : ProcessSupervisor} {call : SupervisorCall} {sessionId : SessionId}
      {outcome : ProcessCloseOutcome} (running : ∀ id result, before.state ≠ .closed id result)
      (unclean : outcome ≠ .clean) :
      SupervisorTurn ⟨before, call, .ok (some outcome), ⟨.closed sessionId outcome⟩⟩
  | stays {before : ProcessSupervisor} {call : SupervisorCall} {answer : SupervisorAnswer}
      (silent : produced ⟨before, call, answer, before⟩ = none)
      (punctual : ∀ sessionId deadline, before.state = .closing sessionId deadline →
        Punctual deadline ⟨before, call, answer, before⟩) :
      SupervisorTurn ⟨before, call, answer, before⟩

section Turns

variable (self : ProcessSupervisor)

/-- A call that is refused without a deadline having passed changes nothing. -/
theorem turn_refused {call : SupervisorCall} {why : ProcessSupervisorError}
    (calm : why ≠ .deadlineExpired) (other : ∀ now, call ≠ .tick now) :
    SupervisorTurn ⟨self, call, .error why, self⟩ := by
  refine .stays ?_ fun _ _ _ now same => absurd same (other now)
  cases why <;> first | rfl | exact absurd rfl calm

theorem turn_beginStart (sessionId : SessionId) (now : UnixMillis) (startTimeoutMs : Nat) :
    SupervisorTurn (supervisor.entry self (.beginStart sessionId now startTimeoutMs)) := by
  unfold Machine.entry supervisor ProcessSupervisor.beginStart
  dsimp only
  split
  next => exact turn_refused self (by simp) (by simp)
  next fresh =>
    obtain ⟨state⟩ := self
    obtain rfl : state = .idle := not_not.mp fun running => fresh (.inl running)
    split
    next why overflow => exact turn_refused _ (addMillis_calm overflow) (by simp)
    next deadline added =>
      obtain rfl := addMillis_eq_ok added
      exact .starts

theorem turn_markReady (sessionId : SessionId) (now : UnixMillis) :
    SupervisorTurn (supervisor.entry self (.markReady sessionId now)) := by
  obtain ⟨state⟩ := self
  unfold Machine.entry supervisor ProcessSupervisor.markReady
  cases state with
  | starting active deadline =>
    dsimp only
    split
    next => exact turn_refused _ (by simp) (by simp)
    next same =>
      obtain rfl := not_not.mp same
      split
      next => exact .expires
      next early => exact .becomesReady (Nat.not_le.mp early)
  | _ => exact turn_refused _ (by simp) (by simp)

theorem turn_requestClose (sessionId : SessionId) (now : UnixMillis) (closeTimeoutMs : Nat) :
    SupervisorTurn (supervisor.entry self (.requestClose sessionId now closeTimeoutMs)) := by
  obtain ⟨state⟩ := self
  unfold Machine.entry supervisor ProcessSupervisor.requestClose
  cases state with
  | ready active =>
    dsimp only
    split
    next => exact turn_refused _ (by simp) (by simp)
    next same =>
      obtain rfl := not_not.mp same
      split
      next => exact turn_refused _ (by simp) (by simp)
      next positive =>
        split
        next why overflow => exact turn_refused _ (addMillis_calm overflow) (by simp)
        next deadline added =>
          obtain rfl := addMillis_eq_ok added
          exact .acceptsClose
  | _ => exact turn_refused _ (by simp) (by simp)

theorem turn_observeExit (sessionId : SessionId) (successfulExit : Bool) :
    SupervisorTurn (supervisor.entry self (.observeExit sessionId successfulExit)) := by
  obtain ⟨state⟩ := self
  unfold Machine.entry supervisor ProcessSupervisor.observeExit
  cases state with
  | closing active deadline =>
    dsimp only
    split
    next => exact turn_refused _ (by simp) (by simp)
    next same =>
      obtain rfl := not_not.mp same
      cases successfulExit with
      | true => exact .exitsCleanly
      | false => exact .closes (by simp) (by simp)
  | starting active deadline =>
    dsimp only
    split
    next => exact turn_refused _ (by simp) (by simp)
    next => exact .closes (by simp) (by simp)
  | ready active =>
    dsimp only
    split
    next => exact turn_refused _ (by simp) (by simp)
    next => exact .closes (by simp) (by simp)
  | idle => exact turn_refused _ (by simp) (by simp)
  | closed active outcome => exact turn_refused _ (by simp) (by simp)

theorem turn_tick (now : UnixMillis) :
    SupervisorTurn (supervisor.entry self (.tick now)) := by
  obtain ⟨state⟩ := self
  unfold Machine.entry supervisor ProcessSupervisor.tick
  cases state with
  | starting active deadline =>
    dsimp only
    split
    next => exact .closes (by simp) (by simp)
    next => exact .stays rfl (by simp)
  | closing active deadline =>
    dsimp only
    split
    next => exact .closes (by simp) (by simp)
    next early =>
      refine .stays rfl fun _ _ held other same => ?_
      cases held
      cases same
      exact Nat.not_le.mp early
  | _ => exact .stays rfl (by simp)

theorem supervisor_turn (call : SupervisorCall) : SupervisorTurn (supervisor.entry self call) := by
  cases call with
  | beginStart sessionId now timeout => exact turn_beginStart self sessionId now timeout
  | markReady sessionId now => exact turn_markReady self sessionId now
  | requestClose sessionId now timeout => exact turn_requestClose self sessionId now timeout
  | observeExit sessionId successfulExit => exact turn_observeExit self sessionId successfulExit
  | tick now => exact turn_tick self now

end Turns

/-- Without an outcome, and with every later tick in time for the deadline. -/
def Quiet (past : List SupervisorEntry) : Prop := ∀ entry ∈ past, produced entry = none

/-- The session was started, with nothing produced before or since. -/
def Started (past : List SupervisorEntry) (sessionId : SessionId) (deadline : UnixMillis) : Prop :=
  Quiet past ∧ ∃ before start waiting, past = before ++ start :: waiting ∧
    Starts sessionId deadline start

/-- The session was started and then became ready before its start deadline. -/
def Served (past : List SupervisorEntry) (sessionId : SessionId) : Prop :=
  Quiet past ∧ ∃ before ready serving deadline, past = before ++ ready :: serving ∧
    Started before sessionId deadline ∧ BecomesReady sessionId deadline ready

/-- A close was accepted after that, and no tick since has reached its deadline. -/
def CloseRequested (past : List SupervisorEntry) (sessionId : SessionId)
    (closeDeadline : UnixMillis) : Prop :=
  Quiet past ∧ ∃ before close closing, past = before ++ close :: closing ∧
    Served before sessionId ∧ AcceptsClose sessionId closeDeadline close ∧
    ∀ entry ∈ closing, Punctual closeDeadline entry

/-- What the state says about everything that happened before. -/
def Tells (past : List SupervisorEntry) (self : ProcessSupervisor) : Prop :=
  match self.state with
  | .idle => Quiet past
  | .starting sessionId deadline => Started past sessionId deadline
  | .ready sessionId => Served past sessionId
  | .closing sessionId deadline => CloseRequested past sessionId deadline
  | .closed sessionId outcome => past.filterMap produced = [outcome] ∧
      ∀ before exit after, past = before ++ exit :: after → produced exit = some .clean →
        ExitsCleanly sessionId exit ∧ ∃ deadline, CloseRequested before sessionId deadline

section Tells

variable {past : List SupervisorEntry} {entry : SupervisorEntry} {sessionId : SessionId}
  {deadline : UnixMillis} {outcome : ProcessCloseOutcome}

theorem quiet_concat (quiet : Quiet past) (silent : produced entry = none) :
    Quiet (past ++ [entry]) := by
  intro other member
  rcases List.mem_append.mp member with earlier | last
  · exact quiet other earlier
  · rw [List.mem_singleton.mp last]
    exact silent

theorem filterMap_of_quiet (quiet : Quiet past) : past.filterMap produced = [] :=
  List.filterMap_eq_nil_iff.mpr quiet

theorem Started.concat (started : Started past sessionId deadline) (silent : produced entry = none) :
    Started (past ++ [entry]) sessionId deadline := by
  obtain ⟨quiet, before, start, waiting, rfl, starts⟩ := started
  exact ⟨quiet_concat quiet silent, before, start, waiting ++ [entry], by simp, starts⟩

theorem Served.concat (served : Served past sessionId) (silent : produced entry = none) :
    Served (past ++ [entry]) sessionId := by
  obtain ⟨quiet, before, ready, serving, start, rfl, started, becomes⟩ := served
  exact ⟨quiet_concat quiet silent, before, ready, serving ++ [entry], start, by simp, started, becomes⟩

theorem CloseRequested.concat (requested : CloseRequested past sessionId deadline)
    (silent : produced entry = none) (punctual : Punctual deadline entry) :
    CloseRequested (past ++ [entry]) sessionId deadline := by
  obtain ⟨quiet, before, close, closing, rfl, served, accepts, timely⟩ := requested
  refine ⟨quiet_concat quiet silent, before, close, closing ++ [entry], by simp, served, accepts, ?_⟩
  intro other member
  rcases List.mem_append.mp member with earlier | last
  · exact timely other earlier
  · rw [List.mem_singleton.mp last]
    exact punctual

theorem Tells.quiet {self : ProcessSupervisor} (tells : Tells past self)
    (running : ∀ id result, self.state ≠ .closed id result) : Quiet past := by
  obtain ⟨state⟩ := self
  cases state with
  | idle => exact tells
  | starting => exact tells.1
  | ready => exact tells.1
  | closing => exact tells.1
  | closed id result => exact absurd rfl (running id result)

theorem tells_closed (quiet : Quiet past) (yields : produced entry = some outcome)
    (graceful : outcome = .clean →
      ExitsCleanly sessionId entry ∧ ∃ deadline, CloseRequested past sessionId deadline) :
    Tells (past ++ [entry]) ⟨.closed sessionId outcome⟩ := by
  constructor
  · rw [List.filterMap_append, filterMap_of_quiet quiet]
    simp [yields]
  · intro before exit after split clean
    rcases List.eq_nil_or_concat after with rfl | ⟨rest, last, rfl⟩
    · obtain ⟨rfl, same⟩ := List.append_inj' split rfl
      cases same
      exact graceful (Option.some.inj (yields.symm.trans clean))
    · have longer : past ++ [entry] = (before ++ exit :: rest) ++ [last] := by simpa using split
      obtain ⟨rfl, -⟩ := List.append_inj' longer rfl
      have silent := quiet exit (by simp)
      rw [clean] at silent
      cases silent

/-- A call that produces nothing leaves a closed supervisor as telling as it was. -/
theorem tells_closed_concat (tells : Tells past ⟨.closed sessionId outcome⟩)
    (silent : produced entry = none) : Tells (past ++ [entry]) ⟨.closed sessionId outcome⟩ := by
  obtain ⟨single, graceful⟩ := tells
  constructor
  · rw [List.filterMap_append, single]
    simp [silent]
  · intro before exit after split clean
    rcases List.eq_nil_or_concat after with rfl | ⟨rest, last, rfl⟩
    · obtain ⟨-, same⟩ := List.append_inj' split rfl
      cases same
      rw [clean] at silent
      cases silent
    · have longer : past ++ [entry] = (before ++ exit :: rest) ++ [last] := by simpa using split
      exact graceful before exit rest (List.append_inj' longer rfl).1 clean

theorem tells_concat (turn : SupervisorTurn entry) (tells : Tells past entry.before) :
    Tells (past ++ [entry]) entry.after := by
  cases turn with
  | starts => exact ⟨quiet_concat tells rfl, past, _, [], rfl, _, _, rfl, rfl, rfl⟩
  | becomesReady early =>
    exact ⟨quiet_concat tells.1 rfl, past, _, [], _, rfl, tells, _, rfl, rfl, early⟩
  | expires => exact tells_closed tells.1 rfl (by simp)
  | acceptsClose =>
    exact ⟨quiet_concat tells.1 rfl, past, _, [], rfl, tells, ⟨_, _, rfl, rfl, rfl⟩, by simp⟩
  | exitsCleanly => exact tells_closed tells.1 rfl fun _ => ⟨⟨rfl, rfl⟩, _, tells⟩
  | closes running unclean =>
    exact tells_closed (tells.quiet running) rfl fun clean => absurd clean unclean
  | @stays before call answer silent punctual =>
    obtain ⟨state⟩ := before
    cases state with
    | idle => exact quiet_concat tells silent
    | starting => exact Started.concat tells silent
    | ready => exact Served.concat tells silent
    | closing => exact CloseRequested.concat tells silent (punctual _ _ rfl)
    | closed => exact tells_closed_concat tells silent

end Tells

theorem supervisor_tells (calls : List SupervisorCall) :
    Tells (supervisor.history .new calls) (supervisor.final .new calls) :=
  supervisor.history_invariant Tells
    (show Tells [] .new from fun _ impossible => absurd impossible List.not_mem_nil)
    (fun _ self call => tells_concat (supervisor_turn self call)) calls

theorem closed_stays {self : ProcessSupervisor} {sessionId : SessionId}
    {outcome : ProcessCloseOutcome} (closed : self.state = .closed sessionId outcome)
    (call : SupervisorCall) : (supervisor.step self call).2 = self := by
  obtain ⟨state⟩ := self
  cases closed
  cases call with
  | beginStart => simp [supervisor, ProcessSupervisor.beginStart]
  | _ => rfl

/-- The outcomes of a run are the one of the state it ends in, if that is closed. -/
theorem produced_history (calls : List SupervisorCall) :
    (supervisor.history .new calls).filterMap produced =
      match (supervisor.final .new calls).state with
      | .closed _ outcome => [outcome]
      | _ => [] := by
  have tells := supervisor_tells calls
  revert tells
  generalize supervisor.history .new calls = past
  generalize supervisor.final .new calls = self
  obtain ⟨state⟩ := self
  intro tells
  cases state with
  | closed => exact tells.1
  | idle => exact filterMap_of_quiet tells
  | starting => exact filterMap_of_quiet tells.1
  | ready => exact filterMap_of_quiet tells.1
  | closing => exact filterMap_of_quiet tells.1

theorem clean_iff_exitsCleanly (calls : List SupervisorCall) (sessionId : SessionId) :
    (supervisor.final .new calls).state = .closed sessionId .clean ↔
      ∃ exit ∈ supervisor.history .new calls, ExitsCleanly sessionId exit := by
  have tells := supervisor_tells calls
  have outcomes := produced_history calls
  revert tells outcomes
  generalize supervisor.history .new calls = past
  generalize supervisor.final .new calls = self
  obtain ⟨state⟩ := self
  intro tells outcomes
  constructor
  · intro closed
    cases closed
    obtain ⟨exit, member, clean⟩ : ∃ exit ∈ past, produced exit = some .clean := by
      refine List.mem_filterMap.mp ?_
      rw [outcomes]
      exact List.mem_singleton_self _
    obtain ⟨before, after, split⟩ := List.append_of_mem member
    exact ⟨exit, member, (tells.2 before exit after split clean).1⟩
  · intro exits
    obtain ⟨exit, member, exitsCleanly⟩ := exits
    have clean : produced exit = some .clean := by
      unfold produced
      rw [exitsCleanly.2]
    have yielded := List.mem_filterMap.mpr ⟨exit, member, clean⟩
    rw [outcomes] at yielded
    cases state with
    | closed id outcome =>
      obtain rfl := List.mem_singleton.mp yielded
      obtain ⟨before, after, split⟩ := List.append_of_mem member
      have asked := (tells.2 before exit after split clean).1.1
      rw [exitsCleanly.1] at asked
      cases asked
      rfl
    | _ => cases yielded

/-- A clean close is never a false one: behind it stand a start, readiness before the start
deadline, an accepted close request and a successful exit that no timeout preceded. No run has
more than one outcome, and a closed supervisor never changes again. -/
theorem clean_only_after_graceful_close (calls : List SupervisorCall) :
    (∀ past exit future, supervisor.history .new calls = past ++ exit :: future →
      produced exit = some .clean → ∃ sessionId closeDeadline, ExitsCleanly sessionId exit ∧
        CloseRequested past sessionId closeDeadline) ∧
      ((supervisor.history .new calls).filterMap produced).length ≤ 1 ∧
      (∀ sessionId, (supervisor.final .new calls).state = .closed sessionId .clean ↔
        ∃ exit ∈ supervisor.history .new calls, ExitsCleanly sessionId exit) ∧
      ∀ sessionId outcome, (supervisor.final .new calls).state = .closed sessionId outcome →
        ∀ more, supervisor.final .new (calls ++ more) = supervisor.final .new calls := by
  have outcomes := produced_history calls
  refine ⟨?_, ?_, clean_iff_exitsCleanly calls, ?_⟩
  · intro past exit future split clean
    have tells := supervisor_tells calls
    have yielded : ProcessCloseOutcome.clean ∈ (supervisor.history .new calls).filterMap produced :=
      List.mem_filterMap.mpr ⟨exit, by simp [split], clean⟩
    rw [outcomes] at yielded
    revert tells yielded
    generalize supervisor.final .new calls = self
    obtain ⟨state⟩ := self
    intro tells yielded
    cases state with
    | closed sessionId outcome =>
      obtain ⟨exits, deadline, requested⟩ := tells.2 past exit future split clean
      exact ⟨sessionId, deadline, exits, requested⟩
    | _ => cases yielded
  · rw [outcomes]
    split <;> simp
  · intro sessionId outcome closed more
    rw [supervisor.final_append]
    refine supervisor.invariant (fun self => self = supervisor.final .new calls) ?_ rfl more
    rintro _ call rfl
    exact closed_stays closed call

end ProfilePlatform.Bridge
