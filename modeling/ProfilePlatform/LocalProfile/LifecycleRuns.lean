import ProfilePlatform.LocalProfile.Lifecycle

/-! What the calls made so far leave in the record of a local generation. -/

set_option autoImplicit false

namespace ProfilePlatform.LocalProfile

open Foundation

/-- Marks a record evictable; with a successor, when it is told of one. -/
def MarksCall (call : GenerationCall) (state : LocalGenerationState) : Prop :=
  (∃ now, call = .markSynced now ∧ state = .syncedEvictable) ∨
    (∃ now, call = .markSuperseded now ∧ state = .supersededEvictable) ∨
    ∃ id bytes now, call = .supersedeWithSuccessor id bytes now ∧ state = .supersededEvictable

/-- All that one call can do to a record. -/
inductive GenerationTurn : GenerationEntry → Prop where
  | refused {before : LocalGenerationRecord} {call : GenerationCall} {why : LocalProfileError} :
      GenerationTurn ⟨before, call, .error why, before⟩
  | locks {before : LocalGenerationRecord} {locked : Bool} :
      GenerationTurn ⟨before, .setLocked locked, .ok none, { before with locked := locked }⟩
  | begins {before : LocalGenerationRecord} {now : UnixMillis} (locked : before.locked = true)
      (free : before.state = .materializedClean ∨ before.state = .syncedEvictable)
      (forward : before.lastActivityAt ≤ now) :
      GenerationTurn ⟨before, .beginUse now, .ok none,
        { before with state := .inUse, lastActivityAt := now, sessionStartedAt := some now }⟩
  | observes {before : LocalGenerationRecord} {now : UnixMillis} (inUse : before.state = .inUse)
      (forward : before.lastActivityAt ≤ now) :
      GenerationTurn ⟨before, .observeActivity now, .ok none, { before with lastActivityAt := now }⟩
  | closes {before : LocalGenerationRecord} {now : UnixMillis} (inUse : before.state = .inUse)
      (forward : before.lastActivityAt ≤ now) :
      GenerationTurn ⟨before, .gracefulClose now, .ok none,
        { before with state := .dirtyLocal, lastActivityAt := now, sessionStartedAt := none }⟩
  | crashes {before : LocalGenerationRecord} {now : UnixMillis} (inUse : before.state = .inUse)
      (forward : before.lastActivityAt ≤ now) :
      GenerationTurn ⟨before, .observeCrash now, .ok none,
        { before with state := .recoveryRequired, lastActivityAt := now, sessionStartedAt := none }⟩
  | recovers {before : LocalGenerationRecord} {passed : Bool} {now : UnixMillis}
      (crashed : before.state = .recoveryRequired) (forward : before.lastActivityAt ≤ now) :
      GenerationTurn ⟨before, .completeRecovery passed now, .ok none,
        { before with
          state := if passed then .materializedClean else .quarantined
          lastActivityAt := now
          locked := false }⟩
  | marks {before : LocalGenerationRecord} {call : GenerationCall} {state : LocalGenerationState}
      {successor : Option LocalGenerationRecord} {now : UnixMillis}
      (dirty : before.state = .dirtyLocal) (forward : before.lastActivityAt ≤ now)
      (marking : MarksCall call state) :
      GenerationTurn ⟨before, call, .ok successor,
        { before with state := state, lastActivityAt := now }⟩
  | evicts {before : LocalGenerationRecord} (unlocked : before.locked = false)
      (evictable : before.state = .syncedEvictable ∨ before.state = .supersededEvictable) :
      GenerationTurn ⟨before, .evict, .ok none, { before with state := .evicted, bytes := 0 }⟩

section Turns

variable (self : LocalGenerationRecord)

end Turns

section Events

variable (entry : GenerationEntry)

def Begins : Prop := ∃ now, entry.input = .beginUse now ∧ entry.output = .ok none

def ClosesGracefully : Prop := ∃ now, entry.input = .gracefulClose now ∧ entry.output = .ok none

def Marks : Prop :=
  ∃ state successor, MarksCall entry.input state ∧ entry.output = .ok successor

def Evicts : Prop := entry.input = .evict ∧ entry.output = .ok none

end Events

/-- An event of this kind happened, and no graceful close since. -/
def LastClosed (kind : List GenerationEntry → GenerationEntry → Prop)
    (past : List GenerationEntry) : Prop :=
  ∃ before event later, past = before ++ event :: later ∧ kind before event ∧
    ∀ entry ∈ later, ¬ClosesGracefully entry

/-- The last graceful close is behind the record. -/
def Closed : List GenerationEntry → Prop := LastClosed fun _ event => ClosesGracefully event

/-- Marked evictable after the last graceful close. -/
def MarkedEvictable : List GenerationEntry → Prop :=
  LastClosed fun before event => Marks event ∧ Closed before

/-- Evicted without a lock after being marked. -/
def EvictedUnlocked : List GenerationEntry → Prop :=
  LastClosed fun before event =>
    Evicts event ∧ event.before.locked = false ∧ MarkedEvictable before

/-- The use began under the lock, and nothing but an unlocking call has taken the lock away. -/
def UsedUnderLock (past : List GenerationEntry) (self : LocalGenerationRecord) : Prop :=
  ∃ before begin later, past = before ++ begin :: later ∧ Begins begin ∧
    begin.before.locked = true ∧
    (self.locked = false → ∃ entry ∈ later, entry.input = .setLocked false)

/-- What the record says about everything that happened before. -/
structure RecordTells (past : List GenerationEntry) (record : LocalGenerationRecord) : Prop where
  inUse : record.state = .inUse → UsedUnderLock past record ∧
    ∃ startedAt, record.sessionStartedAt = some startedAt ∧ startedAt ≤ record.lastActivityAt
  dirty : record.state = .dirtyLocal → Closed past
  evictable : record.state = .syncedEvictable ∨ record.state = .supersededEvictable →
    MarkedEvictable past
  evicted : record.state = .evicted → EvictedUnlocked past

section Tells

variable {past : List GenerationEntry} {entry : GenerationEntry} {self : LocalGenerationRecord}
  {kind : List GenerationEntry → GenerationEntry → Prop}

theorem LastClosed.concat (last : LastClosed kind past) (other : ¬ClosesGracefully entry) :
    LastClosed kind (past ++ [entry]) := by
  obtain ⟨before, event, later, rfl, holds, since⟩ := last
  refine ⟨before, event, later ++ [entry], by simp, holds, ?_⟩
  intro later member
  rcases List.mem_append.mp member with earlier | final
  · exact since later earlier
  · rw [List.mem_singleton.mp final]
    exact other

/-- The lock of a record in use, after a call that keeps it or takes it away by name. -/
theorem UsedUnderLock.concat (used : UsedUnderLock past self) {next : LocalGenerationRecord}
    (keeps : next.locked = false → self.locked = false ∨ entry.input = .setLocked false) :
    UsedUnderLock (past ++ [entry]) next := by
  obtain ⟨before, begin, later, rfl, begins, locked, told⟩ := used
  refine ⟨before, begin, later ++ [entry], by simp, begins, locked, fun unlocked => ?_⟩
  rcases keeps unlocked with earlier | now
  · obtain ⟨unlock, member, named⟩ := told earlier
    exact ⟨unlock, List.mem_append_left _ member, named⟩
  · exact ⟨entry, by simp, now⟩

/-- A call that is no graceful close and keeps the state of a record and its times. -/
theorem RecordTells.concat (tells : RecordTells past self) {next : LocalGenerationRecord}
    (other : ¬ClosesGracefully entry) (state : next.state = self.state)
    (started : next.sessionStartedAt = self.sessionStartedAt)
    (forward : self.lastActivityAt ≤ next.lastActivityAt)
    (keeps : next.locked = false → self.locked = false ∨ entry.input = .setLocked false) :
    RecordTells (past ++ [entry]) next where
  inUse := by
    intro using_
    rw [state] at using_
    obtain ⟨used, startedAt, known, early⟩ := tells.inUse using_
    exact ⟨used.concat keeps, startedAt, started.trans known, Nat.le_trans early forward⟩
  dirty := by
    rw [state]
    exact fun dirty => (tells.dirty dirty).concat other
  evictable := by
    rw [state]
    exact fun evictable => (tells.evictable evictable).concat other
  evicted := by
    rw [state]
    exact fun evicted => (tells.evicted evicted).concat other

end Tells

section Runs

variable (generationId : GenerationId) (bytes : Nat) (observedAt : UnixMillis)

end Runs

section Entries

variable {entry : GenerationEntry}

theorem GenerationTurn.forward (turn : GenerationTurn entry) :
    entry.before.lastActivityAt ≤ entry.after.lastActivityAt := by
  cases turn <;> first | assumption | exact Nat.le_refl _

theorem GenerationTurn.failed {why : LocalProfileError} (turn : GenerationTurn entry)
    (fails : entry.output = .error why) : entry.after = entry.before := by
  cases turn <;> first | rfl | cases fails

theorem GenerationTurn.spent (turn : GenerationTurn entry)
    (spent : entry.before.state = .evicted ∨ entry.before.state = .quarantined) :
    entry.after.state = entry.before.state := by
  cases turn with
  | refused => rfl
  | locks => rfl
  | observes => rfl
  | begins locked free => rcases spent with spent | spent <;> simp_all
  | closes inUse => rcases spent with spent | spent <;> simp_all
  | crashes inUse => rcases spent with spent | spent <;> simp_all
  | recovers crashed => rcases spent with spent | spent <;> simp_all
  | marks dirty => rcases spent with spent | spent <;> simp_all
  | evicts unlocked evictable => rcases spent with spent | spent <;> simp_all

end Entries

namespace UnlockedWhileInUse

def generationId : GenerationId := ⟨⟨"generation-unlocked-in-use", by decide⟩⟩

end UnlockedWhileInUse

end ProfilePlatform.LocalProfile
