import Mathlib.Data.List.Pairwise
import ProfilePlatform.Foundation.Machine
import ProfilePlatform.LocalProfile.WorkspaceAccounts

/-! What holds in a materialisation root while processes interleave and die.

The accounts of all processes stand beside the root: they say who has which lock, and what is known
under it is so.
-/

set_option autoImplicit false

namespace ProfilePlatform.LocalProfile

open Foundation (CallFate Program Machine)

section Locks

/-- Two locks that can stand together: only shared ones at one place. -/
def FileLock.Agree (lock other : FileLock) : Prop :=
  lock.place = other.place → lock.mode = .shared ∧ other.mode = .shared

instance : Std.Symm FileLock.Agree :=
  ⟨fun _ _ agree same => (agree same.symm).symm⟩

/-- The operating system keeps the locks that stand in the accounts, and no two that exclude each
other. -/
structure Root.Locked (root : Root) (accounts : Nat → Account) : Prop where
  roots : ∀ process mode, ⟨process, .rootMarker, mode⟩ ∈ root.locks ↔
    (accounts process).root = some mode
  admissions : ∀ process generation mode, ⟨process, .admission generation, mode⟩ ∈ root.locks ↔
    (accounts process).generation = some generation ∧ mode = .exclusive
  agree : root.locks.Pairwise FileLock.Agree

variable {attempt : Attempt} {accounts : Nat → Account} {account : Account} {root after : Root}
  {process : Nat} {request : OsRequest}

theorem Root.Locked.shared (locked : root.Locked accounts) {lock other : FileLock}
    (member : lock ∈ root.locks) (member' : other ∈ root.locks) (differ : lock ≠ other)
    (same : lock.place = other.place) : lock.mode = .shared :=
  (locked.agree.forall member member' differ same).1

theorem Root.Locked.alone (locked : root.Locked accounts) (process other : Nat)
    (exclusive : (accounts process).root = some .exclusive) (rooted : (accounts other).root ≠ none) :
    process = other := by
  obtain ⟨mode, held⟩ := Option.ne_none_iff_exists'.mp rooted
  by_contra differ
  cases locked.shared ((locked.roots _ _).mpr exclusive) ((locked.roots _ _).mpr held)
    (by simp [differ]) rfl

theorem Root.Locked.owned (locked : root.Locked accounts) (process other generation : Nat)
    (held : (accounts process).generation = some generation)
    (held' : (accounts other).generation = some generation) : process = other := by
  by_contra differ
  cases locked.shared ((locked.admissions _ _ .exclusive).mpr ⟨held, rfl⟩)
    ((locked.admissions _ _ .exclusive).mpr ⟨held', rfl⟩) (by simp [differ]) rfl

theorem Root.Locked.update (locked : root.Locked accounts)
    (others : ∀ lock : FileLock, lock.process ≠ process → (lock ∈ after.locks ↔ lock ∈ root.locks))
    (rooted : ∀ mode, ⟨process, .rootMarker, mode⟩ ∈ after.locks ↔ account.root = some mode)
    (inside : ∀ generation mode, ⟨process, .admission generation, mode⟩ ∈ after.locks ↔
      account.generation = some generation ∧ mode = .exclusive)
    (agree : after.locks.Pairwise FileLock.Agree) :
    after.Locked (Function.update accounts process account) := by
  refine ⟨fun other mode => ?_, fun other generation mode => ?_, agree⟩
  · by_cases own : other = process
    · rw [own, Function.update_self, rooted]
    · rw [Function.update_of_ne own, others _ own, locked.roots]
  · by_cases own : other = process
    · rw [own, Function.update_self, inside]
    · rw [Function.update_of_ne own, others _ own, locked.admissions]

theorem Root.Locked.of_same (locked : root.Locked accounts) (locks : after.locks = root.locks)
    (rooted : account.root = (accounts process).root)
    (inside : account.generation = (accounts process).generation) :
    after.Locked (Function.update accounts process account) :=
  locked.update (fun lock _ => by rw [locks]) (fun mode => by rw [locks, rooted, locked.roots])
    (fun generation mode => by rw [locks, inside, locked.admissions]) (locks ▸ locked.agree)

theorem locked_tryLock {place : Place} {mode : LockMode} (locked : root.Locked accounts)
    (permitted : permits attempt (accounts process) (.tryLock place mode)) :
    (root.serve process (.tryLock place mode)).2.Locked (Function.update accounts process
      ((accounts process).after (.tryLock place mode) (root.serve process (.tryLock place mode)).1)) := by
  simp only [Root.serve]
  split
  next blocked => cases place <;> exact locked.of_same rfl rfl rfl
  next free =>
    have agree : (⟨process, place, mode⟩ :: root.locks).Pairwise FileLock.Agree := by
      refine List.pairwise_cons.mpr ⟨fun other member same => ?_, locked.agree⟩
      by_contra excludes
      refine free (List.any_eq_true.mpr ⟨other, member, ?_⟩)
      cases mode <;> cases held : other.mode <;> simp_all [Root.blocks]
    have others : ∀ lock : FileLock, lock.process ≠ process →
        (lock ∈ ⟨process, place, mode⟩ :: root.locks ↔ lock ∈ root.locks) := by
      rintro ⟨other, place', held⟩ differ
      simp [differ]
    cases place with
    | rootMarker =>
      refine locked.update others ?_ ?_ agree
      · simp [locked.roots, permitted.1, Account.after, eq_comm]
      · simp [locked.admissions, Account.after]
    | admission generation =>
      obtain ⟨rfl, -, outside, -⟩ := permitted
      refine locked.update others ?_ ?_ agree
      · simp [locked.roots, Account.after, Account.cleared]
      · simp [locked.admissions, outside, Account.after, eq_comm]
    | marker | stage | userData => exact permitted.elim

theorem mem_released {lock : FileLock} {place : Place} : lock ∈ (root.released process place).locks ↔
    lock ∈ root.locks ∧ ¬(lock.process = process ∧ lock.place = place) := by
  simp [Root.released, ← not_and_or]

theorem locked_close {place : Place} (locked : root.Locked accounts)
    (permitted : permits attempt (accounts process) (.close place)) :
    (root.released process place).Locked (Function.update accounts process
      ((accounts process).after (.close place) ())) := by
  have others : ∀ lock : FileLock, lock.process ≠ process →
      (lock ∈ (root.released process place).locks ↔ lock ∈ root.locks) :=
    fun lock apart => by simp [mem_released, apart]
  have agree : (root.released process place).locks.Pairwise FileLock.Agree :=
    locked.agree.sublist List.filter_sublist
  cases place with
  | rootMarker =>
    refine locked.update others ?_ ?_ agree
    · simp [mem_released, Account.after]
    · simp [mem_released, Account.after, locked.admissions]
  | admission generation =>
    change (root.released process (.admission generation)).Locked (Function.update accounts process
      (if (accounts process).generation = some generation then (accounts process).left
        else accounts process))
    refine locked.update others ?_ ?_ agree
    · intro mode
      rw [mem_released, locked.roots]
      split <;> simp [Account.left]
    · intro other mode
      rw [mem_released, locked.admissions]
      split
      next held =>
        simp only [held, Account.left]
        grind
      next free => grind
  | marker | stage | userData => exact permitted.elim

/-- The calls about locks. -/
def OsRequest.locks : OsRequest → Bool
  | .tryLock _ _ | .unlock _ | .close _ => true
  | _ => false

theorem after_keeps (account : Account) (plain : request.locks = false) (reply : OsReply request) :
    (account.after request reply).root = account.root ∧
      (account.after request reply).generation = account.generation := by
  unfold Account.after
  split <;> first | exact ⟨rfl, rfl⟩ | (split <;> exact ⟨rfl, rfl⟩) | cases plain

theorem serve_keeps (plain : request.locks = false) :
    (root.serve process request).2.locks = root.locks := by
  cases request with
  | createNew place =>
    rcases serve_createNew root process place with ⟨kind, refused⟩ | ⟨-, -, made⟩
    · rw [refused]
    · rw [made]
      rfl
  | writeAll place content => exact locks_write
  | rename source target =>
    simp only [Root.serve]
    split
    · rfl
    · rfl
    · split <;> rfl
  | removeFile place =>
    simp only [Root.serve]
    split <;> rfl
  | symlinkMetadata place | openReadWrite place | syncAll place | readToString place
  | readGenerations | browserWriterLocksAbsent generation => rw [serve_reads rfl]
  | tryLock | unlock | close => cases plain

theorem locked_serve (locked : root.Locked accounts)
    (permitted : permits attempt (accounts process) request) :
    (root.serve process request).2.Locked (Function.update accounts process
      ((accounts process).after request (root.serve process request).1)) := by
  by_cases plain : request.locks = false
  · have kept := after_keeps (accounts process) plain (root.serve process request).1
    exact locked.of_same (serve_keeps plain) kept.1 kept.2
  · cases request with
    | tryLock place mode => exact locked_tryLock locked permitted
    | close place => exact locked_close locked permitted
    | unlock place =>
      cases place with
      | admission generation =>
        have closable : permits attempt (accounts process) (.close (.admission generation)) := trivial
        exact locked_close locked closable
      | rootMarker | marker | stage | userData => exact permitted.elim
    | symlinkMetadata | openReadWrite | createNew | writeAll | syncAll | readToString | rename
    | removeFile | readGenerations | browserWriterLocksAbsent => exact absurd rfl plain

theorem locked_refused (locked : root.Locked accounts)
    (permitted : permits attempt (accounts process) request) (reached : Nat) :
    (root.refused process request reached).Locked (Function.update accounts process
      ((accounts process).after request (Root.refusal request))) := by
  by_cases plain : request.locks = false
  · have kept := after_keeps (accounts process) plain (Root.refusal request)
    have same : (root.refused process request reached).locks = root.locks := by
      cases request with
      | writeAll place content => exact locks_write
      | tryLock | unlock | close => cases plain
      | _ => rfl
    exact locked.of_same same kept.1 kept.2
  · cases request with
    | close place => exact locked_close locked permitted
    | tryLock place mode => cases place <;> exact locked.of_same rfl rfl rfl
    | unlock place => cases place <;> exact locked.of_same rfl rfl rfl
    | symlinkMetadata | openReadWrite | createNew | writeAll | syncAll | readToString | rename
    | removeFile | readGenerations | browserWriterLocksAbsent => exact absurd rfl plain

theorem locks_interrupted (reached : Nat) :
    ((root.interrupted process request reached).forgotten process).locks =
      (root.forgotten process).locks := by
  have served : ((root.serve process request).2.forgotten process).locks =
      (root.forgotten process).locks := by
    by_cases plain : request.locks = false
    · simp [Root.forgotten, serve_keeps plain]
    · cases request with
      | tryLock place mode =>
        simp only [Root.serve]
        split <;> simp [Root.forgotten]
      | unlock place | close place =>
        simp only [Root.serve, Root.forgotten, Root.released, List.filter_filter]
        refine List.filter_congr fun lock _ => ?_
        by_cases own : lock.process = process <;> simp [own]
      | symlinkMetadata | openReadWrite | createNew | writeAll | syncAll | readToString | rename
      | removeFile | readGenerations | browserWriterLocksAbsent => exact absurd rfl plain
  have either : ((if reached = 0 then root else (root.serve process request).2).forgotten
      process).locks = (root.forgotten process).locks := by
    split
    next => rfl
    next => exact served
  cases request with
  | writeAll place content => simp [Root.interrupted, Root.forgotten]
  | _ => exact either

theorem locked_gone (locked : root.Locked accounts)
    (gone : after.locks = (root.forgotten process).locks) :
    after.Locked (Function.update accounts process .idle) := by
  refine locked.update ?_ ?_ ?_ (gone ▸ locked.agree.sublist List.filter_sublist)
  · intro lock differ
    simp [gone, Root.forgotten, differ]
  · simp [gone, Root.forgotten, Account.idle]
  · simp [gone, Root.forgotten, Account.idle]

end Locks

section Fears

variable {attempt : Attempt} {accounts : Nat → Account} {account : Account} {root after : Root}
  {process : Nat} {request : OsRequest}

/-- A guard has the root for itself, and counts every generation that another could still change. -/
structure Root.Feared (root : Root) (accounts : Nat → Account) : Prop where
  exclusive : ∀ process, (accounts process).pending ≠ none →
    (accounts process).root = some .exclusive
  counted : ∀ process rest, (accounts process).pending = some rest → ∀ other generation,
    (accounts other).root = none → (accounts other).generation = some generation →
      root.node (.marker generation) ≠ none → generation ∈ rest

/-- What a guard crosses off is a generation that no process can change. -/
def Root.Crosses (root : Root) (accounts : Nat → Account) (process : Nat) (rest : List Nat) : Prop :=
  ∃ old, (accounts process).pending = some old ∧ ∀ generation ∈ old, generation ∈ rest ∨
    ∀ other, (accounts other).generation = some generation → root.node (.marker generation) = none

variable {rest : List Nat}

theorem crosses_none (pending : (accounts process).pending = some rest) :
    root.Crosses accounts process rest :=
  ⟨rest, pending, fun _ member => .inl member⟩

theorem crosses_cleared {generation : Nat}
    (pending : ((accounts process).cleared generation).pending = some rest)
    (safe : ∀ other, (accounts other).generation = some generation →
      root.node (.marker generation) = none) : root.Crosses accounts process rest := by
  obtain ⟨old, before, rfl⟩ := Option.map_eq_some_iff.mp pending
  refine ⟨old, before, fun other member => ?_⟩
  by_cases same : other = generation
  · exact .inr (same ▸ safe)
  · exact .inl (by simp [member, same])

/-- The answers by which a guard sees that a generation has nobody left to fear. -/
inductive Dismisses : (request : OsRequest) → OsReply request → Nat → Prop where
  | marker (generation : Nat) :
    Dismisses (.symlinkMetadata (.marker generation)) (.error .notFound) generation
  | admission (generation : Nat) :
    Dismisses (.symlinkMetadata (.admission generation)) (.error .notFound) generation
  | entered (generation : Nat) (mode : LockMode) :
    Dismisses (.tryLock (.admission generation) mode) (.ok ()) generation

/-- What an answer does to the fears of a process. -/
inductive Account.Fears (account : Account) :
    (request : OsRequest) → OsReply request → Account → Prop where
  | same {request : OsRequest} {reply : OsReply request} {later : Account}
    (root : later.root = account.root) (pending : later.pending = account.pending) :
    Fears account request reply later
  | cleared {request : OsRequest} {reply : OsReply request} {later : Account} {generation : Nat}
    (clears : Dismisses request reply generation) (root : later.root = account.root)
    (pending : later.pending = (account.cleared generation).pending) :
    Fears account request reply later
  | calm {request : OsRequest} {reply : OsReply request} {later : Account}
    (pending : later.pending = none) : Fears account request reply later
  | listed (all : List Nat) (rooted : account.root = some .exclusive) :
    Fears account .readGenerations (.ok all) { account with pending := some all }

theorem after_fears (permitted : permits attempt account request) (reply : OsReply request) :
    account.Fears request reply (account.after request reply) := by
  unfold Account.after
  split <;> first
    | exact .same rfl rfl
    | exact .cleared (.marker _) rfl rfl
    | exact .cleared (.admission _) rfl rfl
    | exact .cleared (.entered _ _) rfl rfl
    | exact .calm rfl
    | exact .calm permitted.2
    | skip
  all_goals split
  all_goals first
    | exact .same rfl rfl
    | exact .listed _ ‹_›

theorem pending_serve (locked : root.Locked accounts) (known : ∀ other, root.Known (accounts other))
    (permitted : permits attempt (accounts process) request)
    (pending : ((accounts process).after request (root.serve process request).1).pending =
      some rest) :
    rest = List.range root.generations ∨ root.Crosses accounts process rest := by
  have fears := after_fears permitted (root.serve process request).1
  generalize served : (root.serve process request).1 = reply at fears pending
  generalize (accounts process).after request reply = later at fears pending
  cases fears with
  | same root same => exact .inr (crosses_none (same.symm.trans pending))
  | calm none => cases none.symm.trans pending
  | listed all rooted =>
    cases served
    cases pending
    exact .inl rfl
  | @cleared _ _ _ generation clears kept same =>
    refine .inr (crosses_cleared (same.symm.trans pending) ?_)
    intro other inside
    cases clears with
    | marker =>
      by_contra standing
      obtain ⟨node, found⟩ := Option.ne_none_iff_exists'.mp standing
      simp [Root.serve, found] at served
    | admission =>
      obtain ⟨node, found⟩ := Option.ne_none_iff_exists'.mp ((known other).admitted generation inside)
      simp [Root.serve, found] at served
    | entered =>
      obtain ⟨rfl, -⟩ := permitted
      have held := (locked.admissions other generation .exclusive).mpr ⟨inside, rfl⟩
      have blocked : root.locks.any (Root.blocks (.admission generation) .exclusive) = true :=
        List.any_eq_true.mpr ⟨_, held, by simp [Root.blocks]⟩
      rw [Root.serve, if_pos blocked] at served
      cases served

theorem pending_refused (permitted : permits attempt account request)
    (pending : (account.after request (Root.refusal request)).pending = some rest) :
    account.pending = some rest := by
  have fears := after_fears permitted (Root.refusal request)
  generalize refused : Root.refusal request = reply at fears pending
  generalize account.after request reply = later at fears pending
  cases fears with
  | same root same => exact same.symm.trans pending
  | calm none => cases none.symm.trans pending
  | listed all rooted => cases refused
  | cleared clears root same => cases clears <;> cases refused

theorem after_exclusive (permitted : permits attempt account request)
    (exclusive : account.pending ≠ none → account.root = some .exclusive) (reply : OsReply request)
    (pending : (account.after request reply).pending ≠ none) :
    (account.after request reply).root = some .exclusive := by
  have fears := after_fears permitted reply
  generalize account.after request reply = later at fears pending ⊢
  cases fears with
  | same root same => exact root.trans (exclusive (same ▸ pending))
  | calm none => exact absurd none pending
  | listed all rooted => exact rooted
  | cleared clears root same =>
    refine root.trans (exclusive fun none => pending ?_)
    rw [same, Account.cleared, none]
    rfl

theorem after_inside {generation : Nat} (permitted : permits attempt account request)
    (reply : OsReply request) (inside : (account.after request reply).generation = some generation) :
    account.generation = some generation ∨ account.root ≠ none := by
  revert inside
  unfold Account.after
  split <;> intro inside <;> first | exact .inl inside | exact .inr permitted.2.1 | skip
  all_goals split at inside <;> first | exact .inl inside | cases inside

/-- A step of one process takes no fear from a guard but the guard's own. -/
theorem Root.Feared.step (feared : root.Feared accounts) (locked : root.Locked accounts)
    (moves : root.Moves attempt (accounts process) after)
    (exclusive : account.pending ≠ none → account.root = some .exclusive)
    (inside : ∀ generation, account.generation = some generation →
      (accounts process).generation = some generation ∨ (accounts process).root ≠ none)
    (pending : ∀ rest, account.pending = some rest →
      rest = List.range root.generations ∨ root.Crosses accounts process rest) :
    after.Feared (Function.update accounts process account) := by
  -- Only the process that has a generation's lock changes its marker.
  have still : ∀ other generation, other ≠ process →
      (accounts other).generation = some generation →
      after.node (.marker generation) = root.node (.marker generation) := by
    intro other generation apart held
    rcases moves.marker generation with same | ⟨own, -⟩
    · exact same
    · exact absurd (locked.owned other process generation held own) apart
  constructor
  · intro other
    by_cases own : other = process
    · rw [own, Function.update_self]
      exact exclusive
    · rw [Function.update_of_ne own]
      exact feared.exclusive other
  · intro guarding rest counted other generation unrooted held standing
    by_cases own : guarding = process
    · subst own
      rw [Function.update_self] at counted
      have apart : other ≠ guarding := by
        rintro rfl
        rw [Function.update_self] at unrooted
        cases (exclusive (by simp [counted])).symm.trans unrooted
      rw [Function.update_of_ne apart] at unrooted held
      rw [still other generation apart held] at standing
      rcases pending rest counted with rfl | ⟨old, before, crossed⟩
      · have within := within_of_node standing
        simpa [Root.within, Place.generation] using within
      · have member := feared.counted guarding old before other generation unrooted held standing
        exact (crossed generation member).resolve_right fun safe => standing (safe other held)
    · rw [Function.update_of_ne own] at counted
      have alone := feared.exclusive guarding (by simp [counted])
      by_cases acting : other = process
      · subst acting
        rw [Function.update_self] at unrooted held
        have outside : (accounts other).root = none := by
          by_contra rooted
          exact own (locked.alone guarding other alone rooted)
        have before := (inside generation held).resolve_right (not_not.mpr outside)
        refine feared.counted guarding rest counted other generation outside before ?_
        rcases moves.marker generation with same | ⟨-, move⟩
        · rwa [← same]
        · intro absent
          exact (move.of_none absent).1 outside
      · rw [Function.update_of_ne acting] at unrooted held
        rw [still other generation acting held] at standing
        exact feared.counted guarding rest counted other generation unrooted held standing

end Fears

section Calls

variable {attempt : Attempt} {accounts : Nat → Account} {account : Account} {root after : Root}
  {process : Nat} {request : OsRequest}

/-- The accounts tell the truth about the root. -/
structure Root.Stands (root : Root) (accounts : Nat → Account) : Prop where
  locked : root.Locked accounts
  known : ∀ process, root.Known (accounts process)
  feared : root.Feared accounts

theorem Root.Stands.step (stands : root.Stands accounts)
    (moves : root.Moves attempt (accounts process) after)
    (locked : after.Locked (Function.update accounts process account))
    (knows : after.Known account)
    (feared : after.Feared (Function.update accounts process account)) :
    after.Stands (Function.update accounts process account) where
  locked := locked
  feared := feared
  known := by
    intro other
    by_cases own : other = process
    · rwa [own, Function.update_self]
    · rw [Function.update_of_ne own]
      refine (stands.known other).frame ?_ ?_ ?_
      · intro generation inside
        rcases moves.marker generation with same | ⟨held, -⟩
        · exact same
        · exact absurd (stands.locked.owned other process generation inside held) own
      · intro generation name inside
        rcases moves.stage generation name with same | ⟨held, -⟩
        · exact same
        · exact absurd (stands.locked.owned other process generation inside held) own
      · intro generation present
        rcases moves.admission generation with same | ⟨-, -, absent, -⟩
        · rwa [same]
        · exact absurd absent present

theorem Root.Stands.serve (stands : root.Stands accounts)
    (permitted : permits attempt (accounts process) request) :
    (root.serve process request).2.Stands (Function.update accounts process
      ((accounts process).after request (root.serve process request).1)) := by
  have moves : root.Moves attempt (accounts process) (root.serve process request).2 :=
    moves_serve (stands.known process) permitted
  exact stands.step moves (locked_serve stands.locked permitted)
    (known_serve (stands.known process) permitted)
    (stands.feared.step stands.locked moves
      (after_exclusive permitted (stands.feared.exclusive process) _)
      (fun _ => after_inside permitted _)
      (fun _ => pending_serve stands.locked stands.known permitted))

theorem Root.Stands.refused (stands : root.Stands accounts)
    (permitted : permits attempt (accounts process) request) (reached : Nat) :
    (root.refused process request reached).Stands (Function.update accounts process
      ((accounts process).after request (Root.refusal request))) := by
  have moves : root.Moves attempt (accounts process) (root.refused process request reached) :=
    moves_refused (stands.known process) permitted reached
  exact stands.step moves (locked_refused stands.locked permitted reached)
    (known_refused (stands.known process) permitted reached)
    (stands.feared.step stands.locked moves
      (after_exclusive permitted (stands.feared.exclusive process) _)
      (fun _ => after_inside permitted _)
      (fun _ pending => .inr (crosses_none (pending_refused permitted pending))))

theorem Root.Stands.gone (stands : root.Stands accounts)
    (moves : root.Moves attempt (accounts process) after)
    (locks : after.locks = (root.forgotten process).locks) :
    after.Stands (Function.update accounts process .idle) := by
  refine stands.step moves (locked_gone stands.locked locks) ?_ ?_
  · refine ⟨?_, ?_, ?_, ?_, ?_⟩ <;> intros <;> contradiction
  · refine stands.feared.step stands.locked moves ?_ ?_ ?_ <;> intros <;> contradiction

/-- A process has made a marker where it had before, or where there was none. -/
def Root.Makes (root : Root) (account later : Account) : Prop :=
  ∀ generation, later.generation = some generation → later.created = true →
    account.generation = some generation ∧ account.created = true ∨
      root.node (.marker generation) = none

theorem Root.Makes.refl (account : Account) : root.Makes account account :=
  fun _ inside created => .inl ⟨inside, created⟩

theorem makes_idle (account : Account) : root.Makes account .idle := by
  intro generation inside
  cases inside

theorem after_created {reply : OsReply request}
    (created : (account.after request reply).created = true) :
    (∃ generation, request = .createNew (.marker generation)) ∨
      (account.after request reply).generation = account.generation ∧ account.created = true := by
  revert created
  unfold Account.after
  split <;> intro created <;>
    first | exact .inl ⟨_, rfl⟩ | exact .inr ⟨rfl, created⟩ | cases created | skip
  all_goals
    right
    split at created
    next chosen =>
      rw [if_pos chosen]
      first | exact ⟨rfl, created⟩ | cases created
    next chosen =>
      rw [if_neg chosen]
      exact ⟨rfl, created⟩

theorem makes_refused (permitted : permits attempt account request) :
    root.Makes account (account.after request (Root.refusal request)) := by
  intro generation inside created
  rcases after_created created with ⟨other, rfl⟩ | ⟨same, before⟩
  · exact .inl ⟨inside, created⟩
  · exact .inl ⟨same ▸ inside, before⟩

theorem makes_serve (permitted : permits attempt account request) :
    root.Makes account (account.after request (root.serve process request).1) := by
  intro generation inside created
  rcases after_created created with ⟨other, rfl⟩ | ⟨same, before⟩
  · rw [(after_keeps account rfl _).2] at inside
    cases permitted.2.2.symm.trans inside
    rcases serve_createNew root process (.marker generation) with ⟨kind, refused⟩ | ⟨absent, -, -⟩
    · rw [refused] at created
      exact .inl ⟨inside, created⟩
    · exact .inr absent
  · exact .inl ⟨same ▸ inside, before⟩

end Calls

section Steps

variable {accounts : Nat → Account} {workplace : Workplace} {process : Nat} {running : Process}

/-- A process is where its account says. -/
def Process.Accounted (running : Process) (account : Account) : Prop :=
  match running.phase with
  | .opening program =>
    (discipline running.attempt).Follows (Ends running.attempt.Has Account.Clear) account program
  | .holding held => running.attempt.Has account held
  | .closing program =>
    (discipline running.attempt).Follows (fun later _ => later.Clear) account program
  | .gone => account.Clear

structure Workplace.Sound (workplace : Workplace) (accounts : Nat → Account) : Prop where
  stands : workplace.root.Stands accounts
  accounted : ∀ (process : Nat) (running : Process),
    workplace.processes[process]? = some running → running.Accounted (accounts process)
  idle : ∀ process : Nat, workplace.processes[process]? = none → accounts process = .idle

theorem Root.Stands.turn {A : Type} {root : Root} {attempt : Attempt} {request : OsRequest}
    {resume : OsReply request → Program OsRequest OsReply A} {ends : Account → A → Prop}
    (stands : root.Stands accounts)
    (follows : (discipline attempt).Follows ends (accounts process) (.ask request resume))
    (fate : CallFate) :
    ∃ account, root.Makes (accounts process) account ∧
      (root.turn process fate request resume).2.Stands (Function.update accounts process account) ∧
      root.Moves attempt (accounts process) (root.turn process fate request resume).2 ∧
      match (root.turn process fate request resume).1 with
      | some program => (discipline attempt).Follows ends account program
      | none => account = .idle := by
  obtain ⟨permitted, goesOn⟩ := follows
  cases fate with
  | done =>
    exact ⟨_, makes_serve permitted, stands.serve permitted,
      moves_serve (stands.known process) permitted, goesOn _⟩
  | failed reached =>
    exact ⟨_, makes_refused permitted, stands.refused permitted reached,
      moves_refused (stands.known process) permitted reached, goesOn _⟩
  | crashed reached =>
    have moves : root.Moves attempt (accounts process)
        ((root.interrupted process request reached).forgotten process) := by
      have inner : root.Moves attempt (accounts process) (root.interrupted process request reached) :=
        moves_interrupted (stands.known process) permitted reached
      exact ⟨inner.generations, inner.marker, inner.stage, inner.admission, inner.others⟩
    exact ⟨.idle, makes_idle _, stands.gone moves (locks_interrupted reached), moves, rfl⟩

theorem Workplace.Sound.enter {account : Account} {phase : Phase} {root : Root}
    (sound : workplace.Sound accounts) (found : workplace.processes[process]? = some running)
    (stands : root.Stands (Function.update accounts process account))
    (accounted : Process.Accounted { running with phase } account) :
    (workplace.enter process running phase root).Sound (Function.update accounts process account) where
  stands := stands
  accounted := by
    intro other standing present
    have inside := (List.getElem?_eq_some_iff.mp found).1
    by_cases own : other = process
    · subst own
      rw [Workplace.enter, List.getElem?_set_self inside] at present
      cases present
      rwa [Function.update_self]
    · rw [Workplace.enter, List.getElem?_set_ne (Ne.symm own)] at present
      rw [Function.update_of_ne own]
      exact sound.accounted other standing present
  idle := by
    intro other absent
    have inside := (List.getElem?_eq_some_iff.mp found).1
    have own : other ≠ process := by
      rintro rfl
      rw [Workplace.enter, List.getElem?_set_self inside] at absent
      cases absent
    rw [Workplace.enter, List.getElem?_set_ne (Ne.symm own)] at absent
    rw [Function.update_of_ne own]
    exact sound.idle other absent

theorem Root.Stands.of_same {root after : Root} (stands : root.Stands accounts)
    (locks : after.locks = root.locks)
    (nodes : ∀ place, (∀ generation, place ≠ .userData generation) →
      after.node place = root.node place) : after.Stands accounts where
  locked := ⟨by rw [locks]; exact stands.locked.roots, by rw [locks]; exact stands.locked.admissions,
    by rw [locks]; exact stands.locked.agree⟩
  known process := (stands.known process).frame (fun _ _ => nodes _ (by simp))
    (fun _ _ _ => nodes _ (by simp)) (fun _ present => by rwa [nodes _ (by simp)])
  feared := by
    refine ⟨stands.feared.exclusive, ?_⟩
    intro process rest pending other generation unrooted inside standing
    rw [nodes _ (by simp)] at standing
    exact stands.feared.counted process rest pending other generation unrooted inside standing

theorem node_materialized (workplace : Workplace) (place : Place) :
    workplace.materialized.node place = workplace.root.node place := by
  unfold Root.node Root.within Workplace.materialized
  cases numbered : place.generation with
  | none => simp [numbered]
  | some generation =>
    simp only [numbered, Option.all_some, Option.some.injEq, decide_eq_true_eq]
    rcases Nat.lt_trichotomy generation workplace.root.generations with less | rfl | more
    · rw [if_pos (Nat.lt_succ_of_lt less), if_pos less, if_neg (Nat.ne_of_lt less)]
    · simp
    · rw [if_neg (by omega), if_neg (by omega)]

/-- What an input does to the files: nothing, or what the process may do whose turn it is. -/
def Workplace.Effect (workplace : Workplace) (accounts : Nat → Account) (input : WorkplaceInput)
    (after : Root) : Prop :=
  (∀ place, (∀ generation, place ≠ .userData generation) →
      after.node place = workplace.root.node place) ∨
    ∃ process fate running, input = .turn process fate ∧
      workplace.processes[process]? = some running ∧ (∀ held, running.phase ≠ .holding held) ∧
        workplace.root.Moves running.attempt (accounts process) after

theorem makes_update {account : Account} {root : Root} (makes : root.Makes (accounts process) account)
    (other : Nat) : root.Makes (accounts other) (Function.update accounts process account other) := by
  by_cases own : other = process
  · subst own
    rwa [Function.update_self]
  · rw [Function.update_of_ne own]
    exact .refl _

theorem Workplace.Sound.call {A : Type} {attempt : Attempt} {phase : Phase} {request : OsRequest}
    {resume : OsReply request → Program OsRequest OsReply A} {ends : Account → A → Prop}
    (wrap : Program OsRequest OsReply A → Phase) (sound : workplace.Sound accounts)
    (found : workplace.processes[process]? = some ⟨attempt, phase⟩)
    (follows : (discipline attempt).Follows ends (accounts process) (.ask request resume))
    (accounted : ∀ program account, (discipline attempt).Follows ends account program →
      Process.Accounted ⟨attempt, wrap program⟩ account)
    (working : ∀ held, phase ≠ .holding held) (fate : CallFate) :
    ∃ later, (workplace.proceed process ⟨attempt, phase⟩ wrap
        (workplace.root.turn process fate request resume)).Sound later ∧
      (∀ other, workplace.root.Makes (accounts other) (later other)) ∧ workplace.Effect accounts (.turn process fate)
        (workplace.proceed process ⟨attempt, phase⟩ wrap
          (workplace.root.turn process fate request resume)).root := by
  obtain ⟨account, makes, stands, moves, goesOn⟩ := sound.stands.turn follows fate
  have effect : workplace.Effect accounts (.turn process fate)
      (workplace.root.turn process fate request resume).2 :=
    .inr ⟨process, fate, _, rfl, found, working, moves⟩
  generalize workplace.root.turn process fate request resume = turned at stands goesOn effect ⊢
  obtain ⟨left, root⟩ := turned
  refine ⟨Function.update accounts process account, ?_, makes_update makes, ?_⟩
  · cases left with
    | some program => exact sound.enter found stands (accounted program account goesOn)
    | none =>
      refine sound.enter found stands ?_
      cases goesOn
      exact ⟨rfl, rfl, rfl⟩
  · cases left <;> exact effect

theorem Workplace.Sound.turn (sound : workplace.Sound accounts) (process : Nat) (fate : CallFate) :
    ∃ later, (workplace.turn process fate).Sound later ∧ (∀ other, workplace.root.Makes (accounts other) (later other)) ∧
      workplace.Effect accounts (.turn process fate) (workplace.turn process fate).root := by
  have still : workplace.Effect accounts (.turn process fate) workplace.root := .inl fun _ _ => rfl
  have idle : ∀ other, workplace.root.Makes (accounts other) (accounts other) := fun _ => .refl _
  unfold Workplace.turn
  cases found : workplace.processes[process]? with
  | none => exact ⟨accounts, sound, idle, still⟩
  | some running =>
    obtain ⟨attempt, phase⟩ := running
    have accounted := sound.accounted process _ found
    -- Without a call the process only goes on to its next phase.
    have enters : ∀ next : Phase, Process.Accounted ⟨attempt, next⟩ (accounts process) →
        ∃ later, (workplace.enter process ⟨attempt, phase⟩ next workplace.root).Sound later ∧
          (∀ other, workplace.root.Makes (accounts other) (later other)) ∧ workplace.Effect accounts (.turn process fate)
            (workplace.enter process ⟨attempt, phase⟩ next workplace.root).root := by
      intro next goesOn
      have same : Function.update accounts process (accounts process) = accounts :=
        Function.update_eq_self process accounts
      refine ⟨accounts, ?_, idle, still⟩
      rw [← same]
      exact sound.enter found (by rw [same]; exact sound.stands) goesOn
    cases phase with
    | holding held => exact ⟨accounts, sound, idle, still⟩
    | gone => exact ⟨accounts, sound, idle, still⟩
    | opening program =>
      cases program with
      | done result =>
        cases result with
        | ok held => exact enters (.holding held) accounted
        | error why => exact enters .gone accounted
      | ask request resume =>
        exact sound.call .opening found accounted (fun _ _ follows => follows) (by simp) fate
    | closing program =>
      cases program with
      | done result => exact enters .gone accounted
      | ask request resume =>
        exact sound.call .closing found accounted (fun _ _ follows => follows) (by simp) fate

/-- Every input leaves the accounts in order, and does to the files what may be done to them. -/
theorem Workplace.Sound.step (sound : workplace.Sound accounts) (platform : Platform)
    (input : WorkplaceInput) : ∃ later, (workplace.step platform input).Sound later ∧
      (∀ other, workplace.root.Makes (accounts other) (later other)) ∧
        workplace.Effect accounts input (workplace.step platform input).root := by
  have still : ∀ input, workplace.Effect accounts input workplace.root := fun _ => .inl fun _ _ => rfl
  have idle : ∀ other, workplace.root.Makes (accounts other) (accounts other) := fun _ => .refl _
  have same : ∀ process, Function.update accounts process (accounts process) = accounts :=
    fun process => Function.update_eq_self process accounts
  cases input with
  | turn process fate => exact sound.turn process fate
  | start attempt =>
    simp only [Workplace.step]
    split
    · refine ⟨accounts, ⟨sound.stands, ?_, ?_⟩, idle, still _⟩
      · intro process running present
        rcases Nat.lt_trichotomy process workplace.processes.length with old | new | beyond
        · exact sound.accounted process running (by rwa [← List.getElem?_append_left old])
        · have fresh : running = ⟨attempt, .opening (attempt.opening platform).run⟩ := by
            simpa [new] using present.symm
          rw [fresh, sound.idle process (List.getElem?_eq_none (Nat.le_of_eq new.symm))]
          exact follows_opening platform ⟨rfl, rfl, rfl⟩
        · have bounded := (List.getElem?_eq_some_iff.mp present).1
          simp only [List.length_append, List.length_singleton] at bounded
          omega
      · intro process absent
        refine sound.idle process (List.getElem?_eq_none ?_)
        have beyond := List.getElem?_eq_none_iff.mp absent
        simp only [List.length_append] at beyond
        omega
    · exact ⟨accounts, sound, idle, still _⟩
  | close process =>
    simp only [Workplace.step]
    split
    next attempt held found =>
      refine ⟨accounts, ?_, idle, still _⟩
      rw [← same process]
      exact sound.enter found (by rw [same]; exact sound.stands)
        (follows_closing (sound.accounted process _ found))
    next => exact ⟨accounts, sound, idle, still _⟩
  | die process =>
    simp only [Workplace.step]
    split
    next running found =>
      have moves : workplace.root.Moves running.attempt (accounts process)
          (workplace.root.forgotten process) := .of_same rfl fun _ => rfl
      exact ⟨_, sound.enter found (sound.stands.gone moves rfl) ⟨rfl, rfl, rfl⟩,
        makes_update (makes_idle _), .inl fun _ _ => rfl⟩
    next => exact ⟨accounts, sound, idle, still _⟩
  | materialize =>
    exact ⟨accounts, ⟨sound.stands.of_same rfl fun place _ => node_materialized workplace place,
      sound.accounted, sound.idle⟩, idle, .inl fun place _ => node_materialized workplace place⟩
  | browse generation userData locksAbsent =>
    have nodes : ∀ place, (∀ other, place ≠ .userData other) →
        (workplace.root.put (.userData generation) userData).node place =
          workplace.root.node place := by
      intro place apart
      rw [node_put, if_neg (apart generation)]
    exact ⟨accounts, ⟨sound.stands.of_same rfl nodes, sound.accounted, sound.idle⟩, idle, .inl nodes⟩

end Steps

section Runs

/-- The process has opened its workspace and not yet begun to close it. -/
def Workplace.Writes (workplace : Workplace) (process : Nat) (lock : BridgeWorkspaceLock) : Prop :=
  ∃ attempt, workplace.processes[process]? = some ⟨attempt, .holding (.writer lock)⟩

def Workplace.Guards (workplace : Workplace) (process : Nat) : Prop :=
  ∃ attempt, workplace.processes[process]? = some ⟨attempt, .holding .guard⟩

section Holders

variable {workplace : Workplace} {accounts : Nat → Account} {process : Nat}
  {lock : BridgeWorkspaceLock} {generation : Nat}

theorem Workplace.Sound.writes (sound : workplace.Sound accounts)
    (writes : workplace.Writes process lock) :
    ∃ owner, (accounts process).Holds lock.generation owner lock := by
  obtain ⟨attempt, found⟩ := writes
  obtain ⟨generation, owner, -, -, -, holds⟩ := sound.accounted process _ found
  obtain rfl := holds.lock
  exact ⟨owner, holds⟩

theorem Workplace.Sound.guards (sound : workplace.Sound accounts)
    (guards : workplace.Guards process) : (accounts process).Guards := by
  obtain ⟨attempt, found⟩ := guards
  exact (sound.accounted process _ found).2

theorem MarkerMove.of_text {attempt : Attempt} {account : Account} {before after : Option Node}
    {owner : Owner} (move : MarkerMove attempt account before after)
    (marked : before = some (.file owner.text)) :
    (∃ successor : Owner, successor.deviceId = owner.deviceId ∧ owner.epoch < successor.epoch ∧
      after = some (.file successor.text)) ∨ attempt.owner = some owner ∧ after = none := by
  cases move with
  | created => cases marked
  | written rooted owned created length =>
    have empty : owner.text = [] := by
      injection marked with same
      injection same with same
      exact same.symm
    have read := previousEpoch_text owner
    rw [empty] at read
    obtain ⟨version, line, nothing, -⟩ := lines_of_previousEpoch read
    simp at nothing
  | @replaced successor previous epoch rooted owned read fresh =>
    left
    injection marked with same
    injection same with same
    subst same
    obtain ⟨devices, rfl⟩ := owner_of_previousEpoch read
    exact ⟨successor, devices, fresh, rfl⟩
  | @removed remover owned =>
    right
    injection marked with same
    injection same with same
    obtain ⟨devices, epochs⟩ := owner_of_text same
    refine ⟨?_, rfl⟩
    rw [owned]
    obtain ⟨deviceId, epoch, bounded⟩ := remover
    cases devices
    cases epochs
    rfl

/-- No device reads an epoch in it. -/
def Node.Unreadable (node : Node) : Prop :=
  ∀ text deviceId, node = .file text → previousEpoch deviceId text = none

/-- Nobody but the process that made it can change a marker that cannot be read. -/
theorem MarkerMove.of_unreadable {attempt : Attempt} {account : Account} {before after : Option Node}
    {node : Node} (move : MarkerMove attempt account before after) (standing : before = some node)
    (unreadable : node.Unreadable) : account.created = true := by
  cases move with
  | created => cases standing
  | written rooted owned created length => exact created
  | replaced rooted owned read fresh =>
    cases standing
    cases (unreadable _ _ rfl).symm.trans read
  | @removed owner owned =>
    cases standing
    cases (unreadable _ _ rfl).symm.trans (previousEpoch_text owner)

end Holders

variable (platform : Platform) (nodes : Place → Option Node) (generations : Nat)
  (browserLocksAbsent : Nat → Option Bool)

theorem sound_fresh : (Workplace.fresh nodes generations browserLocksAbsent).Sound fun _ => .idle where
  stands := {
    locked := by constructor <;> simp [Workplace.fresh, Account.idle]
    known := by intro process; constructor <;> simp [Account.idle]
    feared := by constructor <;> simp [Account.idle] }
  accounted := by simp [Workplace.fresh]
  idle := fun _ _ => rfl

theorem sound_reached (inputs : List WorkplaceInput) : ∃ accounts, ((workplaces platform).final
    (.fresh nodes generations browserLocksAbsent) inputs).Sound accounts := by
  refine (workplaces platform).invariant (fun workplace => ∃ accounts, workplace.Sound accounts) ?_
    ⟨_, sound_fresh nodes generations browserLocksAbsent⟩ inputs
  rintro workplace input ⟨accounts, sound⟩
  obtain ⟨later, kept, -⟩ := sound.step platform input
  exact ⟨later, kept⟩

/-- However the processes of a root interleave and wherever they die, a generation has one writer at
most, and none while a guard stands. The marker is its writer's for as long as it writes, and who is
gone, whether it failed, closed or died, has left no lock behind. -/
theorem writers_exclude (inputs : List WorkplaceInput) :
    let workplace := (workplaces platform).final (.fresh nodes generations browserLocksAbsent) inputs
    (∀ process lock, workplace.Writes process lock →
      (∀ other lock', workplace.Writes other lock' → lock'.generation = lock.generation →
        other = process) ∧
      (∀ other, ¬workplace.Guards other) ∧
      workplace.root.node (.marker lock.generation) = some (.file lock.inner.ownership)) ∧
    ∀ (process : Nat) (attempt : Attempt), workplace.processes[process]? = some ⟨attempt, .gone⟩ →
      ∀ mode, ⟨process, .rootMarker, mode⟩ ∉ workplace.root.locks ∧
        ∀ generation, ⟨process, .admission generation, mode⟩ ∉ workplace.root.locks := by
  intro workplace
  obtain ⟨accounts, sound⟩ := sound_reached platform nodes generations browserLocksAbsent inputs
  have locked := sound.stands.locked
  constructor
  · intro process lock writes
    obtain ⟨owner, holds⟩ := sound.writes writes
    refine ⟨?_, ?_, ?_⟩
    · intro other lock' writes' same
      obtain ⟨owner', holds'⟩ := sound.writes writes'
      rw [same] at holds'
      exact locked.owned other process lock.generation holds'.generation holds.generation
    · intro other guards
      have guarded := sound.guards guards
      cases locked.alone other process guarded.root (by simp [holds.root])
      cases guarded.root.symm.trans holds.root
    · have marked := (sound.stands.known process).marker _ _ holds.generation holds.marker
      rw [marked, holds.lock]
  · intro process attempt found mode
    have clear := sound.accounted process _ found
    constructor
    · rw [locked.roots, clear.root]
      simp
    · intro generation
      rw [locked.admissions, clear.generation]
      simp

/-- While a guard stands, no process writes, and no input changes a file that the locks are about:
not the last call of a process that was still on its way when the guard came, either. -/
theorem guard_quiesces (inputs : List WorkplaceInput) :
    let workplace := (workplaces platform).final (.fresh nodes generations browserLocksAbsent) inputs
    ∀ process, workplace.Guards process →
      (∀ other lock, ¬workplace.Writes other lock) ∧
      (∀ other, workplace.Guards other → other = process) ∧
      ∀ input place, (∀ generation, place ≠ .userData generation) →
        (workplace.step platform input).root.node place = workplace.root.node place := by
  intro workplace process guards
  obtain ⟨accounts, sound⟩ := sound_reached platform nodes generations browserLocksAbsent inputs
  have guarded := sound.guards guards
  have locked := sound.stands.locked
  have alone : ∀ other, (accounts other).root ≠ none → process = other :=
    fun other => locked.alone process other guarded.root
  refine ⟨?_, ?_, ?_⟩
  · intro other lock writes
    obtain ⟨owner, holds⟩ := sound.writes writes
    cases alone other (by simp [holds.root])
    cases guarded.root.symm.trans holds.root
  · intro other guards'
    exact (alone other (by simp [(sound.guards guards').root])).symm
  · intro input place apart
    obtain ⟨-, -, -, effect⟩ := sound.step platform input
    rcases effect with same | ⟨acting, fate, running, -, found, working, moves⟩
    · exact same place apart
    · obtain ⟨attempt, standing⟩ := guards
      -- The guard only stands, so another process is acting, and that one has no lock of the root.
      have unrooted : (accounts acting).root = none := by
        by_contra rooted
        cases alone acting rooted
        cases found.symm.trans standing
        exact working _ rfl
      cases place with
      | marker generation =>
        rcases moves.marker generation with same | ⟨inside, move⟩
        · exact same
        · have absent : workplace.root.node (.marker generation) = none := by
            by_contra present
            exact List.not_mem_nil (sound.stands.feared.counted process [] guarded.calm acting
              generation unrooted inside present)
          exact absurd unrooted (move.of_none absent).1
      | stage generation name =>
        exact (moves.stage generation name).resolve_right fun changed => changed.2.1 unrooted
      | admission generation =>
        exact (moves.admission generation).resolve_right fun changed => changed.1 unrooted
      | rootMarker => exact moves.others _ (.inl rfl)
      | userData generation => exact absurd rfl (apart generation)

/-- A root with one generation, in which only the marker given stands. -/
def sampleNodes (marker : Option Node) : Place → Option Node
  | .rootMarker => some (.file [])
  | .marker 0 => marker
  | _ => none

def sampleGuardInputs : List WorkplaceInput :=
  .start .activateDelivery :: List.replicate 6 (.turn 0 .done)

def Phase.guards : Phase → Bool
  | .holding .guard => true
  | _ => false

theorem guards_of_phase {workplace : Workplace} {process : Nat}
    (seen : workplace.processes[process]?.map (fun running => running.phase.guards) = some true) :
    workplace.Guards process := by
  obtain ⟨⟨attempt, phase⟩, found, guards⟩ := Option.map_eq_some_iff.mp seen
  cases phase with
  | holding held =>
    cases held with
    | guard => exact ⟨attempt, found⟩
    | writer lock => cases guards
  | opening | closing | gone => cases guards

theorem guard_quiesces_sample :
    let workplace := (workplaces .unix).final (.fresh (sampleNodes none) 1 fun _ => none)
      sampleGuardInputs
    (∀ other lock, ¬workplace.Writes other lock) ∧
    (∀ other, workplace.Guards other → other = 0) ∧
    ∀ input place, (∀ generation, place ≠ .userData generation) →
      (workplace.step .unix input).root.node place = workplace.root.node place :=
  guard_quiesces .unix (sampleNodes none) 1 (fun _ => none) sampleGuardInputs 0
    (guards_of_phase (by decide +kernel))

/-- The owner's own process takes the marker away, under the lock of its generation. -/
def Removes (generation : Nat) (owner : Owner) (entry : Foundation.Entry Workplace WorkplaceInput Unit) :
    Prop :=
  ∃ process fate running, entry.input = .turn process fate ∧
    entry.before.processes[process]? = some running ∧ running.attempt.owner = some owner ∧
    ⟨process, .admission generation, .exclusive⟩ ∈ entry.before.root.locks ∧
    entry.before.root.node (.marker generation) = some (.file owner.text) ∧
    entry.after.root.node (.marker generation) = none

/-- A marker that was written whole is never lost to a crash, nor to another device, nor to an older
lease: it stays as it is, or a recovery of the same device puts a marker with a later epoch in its
place, until the very process whose device and epoch it names takes it away. -/
theorem evidence_kept (inputs more : List WorkplaceInput) (generation : Nat) (owner : Owner) :
    let workplace := (workplaces platform).final (.fresh nodes generations browserLocksAbsent) inputs
    workplace.root.node (.marker generation) = some (.file owner.text) →
    ∃ successor : Owner, successor.deviceId = owner.deviceId ∧ owner.epoch ≤ successor.epoch ∧
      (((workplaces platform).final workplace more).root.node (.marker generation) =
          some (.file successor.text) ∨
        ∃ entry ∈ (workplaces platform).history workplace more, Removes generation successor entry) := by
  intro workplace marked
  obtain ⟨accounts, sound⟩ := sound_reached platform nodes generations browserLocksAbsent inputs
  have kept := (workplaces platform).history_invariant
    (fun past later => (∃ accounts, Workplace.Sound later accounts) ∧
      ∃ successor : Owner, successor.deviceId = owner.deviceId ∧ owner.epoch ≤ successor.epoch ∧
        (later.root.node (.marker generation) = some (.file successor.text) ∨
          ∃ entry ∈ past, Removes generation successor entry))
    (s := workplace) ⟨⟨accounts, sound⟩, owner, rfl, le_rfl, .inl marked⟩ ?_ more
  · exact kept.2
  · rintro past later input ⟨⟨accounts, sound⟩, successor, device, newer, standing⟩
    obtain ⟨accounts', sound', -, effect⟩ := sound.step platform input
    refine ⟨⟨accounts', sound'⟩, ?_⟩
    rcases standing with standing | ⟨entry, member, removes⟩
    · rcases effect with same | ⟨process, fate, running, acts, found, -, moves⟩
      · exact ⟨successor, device, newer, .inl ((same _ (by simp)).trans standing)⟩
      · rcases moves.marker generation with same | ⟨inside, move⟩
        · exact ⟨successor, device, newer, .inl (same.trans standing)⟩
        · rcases move.of_text standing with ⟨next, same, fresh, written⟩ | ⟨owned, removed⟩
          · exact ⟨next, same.trans device, newer.trans fresh.le, .inl written⟩
          · refine ⟨successor, device, newer, .inr ⟨_, List.mem_concat_self, process, fate, running,
              acts, found, owned, ?_, standing, removed⟩⟩
            exact (sound.stands.locked.admissions process generation .exclusive).mpr ⟨inside, rfl⟩
    · exact ⟨successor, device, newer, .inr ⟨entry, List.mem_append_left _ member, removes⟩⟩

def sampleOwner : Owner := ⟨⟨⟨"device-workspace", by decide⟩⟩, 7, by decide⟩

theorem evidence_kept_sample :
    ∃ successor : Owner, successor.deviceId = sampleOwner.deviceId ∧
      sampleOwner.epoch ≤ successor.epoch ∧
      (((workplaces .unix).final (.fresh (sampleNodes (some (.file sampleOwner.text))) 1 fun _ => none)
          sampleGuardInputs).root.node (.marker 0) = some (.file successor.text) ∨
        ∃ entry ∈ (workplaces .unix).history
          (.fresh (sampleNodes (some (.file sampleOwner.text))) 1 fun _ => none) sampleGuardInputs,
          Removes 0 successor entry) :=
  evidence_kept .unix (sampleNodes (some (.file sampleOwner.text))) 1 (fun _ => none) []
    sampleGuardInputs 0 sampleOwner rfl

/-- A marker that nobody can read stays, and nobody ever writes in its generation again. So ends a
generation whose marker was made by a process that died before the marker was whole. -/
theorem broken_marker_stays (inputs more : List WorkplaceInput) (generation : Nat) (node : Node)
    (unreadable : node.Unreadable) :
    let workplace := (workplaces platform).final (.fresh nodes generations browserLocksAbsent) inputs
    workplace.root.node (.marker generation) = some node →
    (∀ lock ∈ workplace.root.locks, lock.place ≠ .admission generation) →
    ((workplaces platform).final workplace more).root.node (.marker generation) = some node ∧
      ∀ process lock, ((workplaces platform).final workplace more).Writes process lock →
        lock.generation ≠ generation := by
  intro workplace standing unlocked
  obtain ⟨accounts, sound⟩ := sound_reached platform nodes generations browserLocksAbsent inputs
  have kept := (workplaces platform).invariant
    (fun later => ∃ accounts, Workplace.Sound later accounts ∧
      later.root.node (.marker generation) = some node ∧
        ∀ process, (accounts process).generation = some generation →
          (accounts process).created = false)
    ?_ (s := workplace) ?_ more
  · obtain ⟨accounts, sound, standing, -⟩ := kept
    refine ⟨standing, ?_⟩
    rintro process lock writes rfl
    obtain ⟨owner, holds⟩ := sound.writes writes
    have marked := (sound.stands.known process).marker _ _ holds.generation holds.marker
    have read := unreadable owner.text owner.deviceId
      (Option.some.inj (standing.symm.trans marked))
    cases read.symm.trans (previousEpoch_text owner)
  · rintro later input ⟨accounts, sound, standing, uncreated⟩
    obtain ⟨accounts', sound', makes, effect⟩ := sound.step platform input
    refine ⟨accounts', sound', ?_, ?_⟩
    · rcases effect with same | ⟨process, fate, running, -, -, -, moves⟩
      · exact (same _ (by simp)).trans standing
      · rcases moves.marker generation with same | ⟨inside, move⟩
        · exact same.trans standing
        · cases (move.of_unreadable standing unreadable).symm.trans (uncreated process inside)
    · intro process inside
      by_contra created
      rw [Bool.not_eq_false] at created
      rcases makes process generation inside created with ⟨before, made⟩ | absent
      · cases made.symm.trans (uncreated process before)
      · cases standing.symm.trans absent
  · refine ⟨accounts, sound, standing, fun process inside => ?_⟩
    have held := (sound.stands.locked.admissions process generation .exclusive).mpr ⟨inside, rfl⟩
    exact absurd rfl (unlocked _ held)

theorem unreadable_cut (owner : Owner) (length : Nat) (cut : length < owner.text.length) :
    (Node.file (owner.text.take length)).Unreadable := by
  intro text deviceId same
  cases same
  exact cut_unreadable owner cut deviceId

theorem broken_marker_stays_sample :
    let more := .start (.openWorkspace 0 sampleOwner 1 1) :: List.replicate 9 (.turn 0 .done)
    ((workplaces .unix).final (.fresh (sampleNodes (some (.file []))) 1 fun _ => some true)
        more).root.node (.marker 0) = some (.file []) ∧
      ∀ process lock, ((workplaces .unix).final
        (.fresh (sampleNodes (some (.file []))) 1 fun _ => some true) more).Writes process lock →
          lock.generation ≠ 0 :=
  broken_marker_stays .unix (sampleNodes (some (.file []))) 1 (fun _ => some true) [] _ 0 (.file [])
    (unreadable_cut sampleOwner 0 (by
      rw [Owner.text, ownershipText, List.length_append]
      exact Nat.succ_pos _)) rfl (by simp [Workplace.fresh, Foundation.Machine.final])

end Runs

end ProfilePlatform.LocalProfile
