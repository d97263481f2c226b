import Mathlib.Data.List.Nodup
import Mathlib.Tactic.Tauto
import ProfilePlatform.Notifications.DeliveryRows

/-! Stored deliveries and the states of the domain agree.

A row that passes the checks of its table stores exactly one state. Reading finds
that state, the where clause of a write chooses the rows that store it and no others, and
the guards of an update let the transitions of the domain pass and nothing else.
-/

set_option autoImplicit false

namespace ProfilePlatform.Notifications

open Foundation
open Catalog (Refusal)

section Storing

variable {row other : DeliveryRow} {state next : DeliveryState} {shape : ExpectedDeliveryShape}
  {update : DeliveryUpdate}

/-- The columns of a row, as they store a state. -/
def Stores (row : DeliveryRow) : DeliveryState → Prop
  | .ready attempts => row.deliveryState = "READY" ∧ row.attemptCount = attempts ∧ attempts = 0 ∧
      row.lastAttemptAtMs = none ∧ row.nextAttemptAtMs = none ∧ row.deliveredAtMs = none ∧
      row.terminalAtMs = none ∧ row.failureClass = none
  | .retryScheduled attempts lastAttemptAt nextAttemptAt failureClass =>
      row.deliveryState = "RETRY_SCHEDULED" ∧ row.attemptCount = attempts ∧
      (1 ≤ attempts ∧ attempts ≤ 63) ∧ row.lastAttemptAtMs = some (lastAttemptAt : Int) ∧
      row.nextAttemptAtMs = some (nextAttemptAt : Int) ∧ lastAttemptAt < nextAttemptAt ∧
      row.deliveredAtMs = none ∧ row.terminalAtMs = none ∧
      row.failureClass = some (failureClassToStorage failureClass)
  | .delivered attempts deliveredAt => row.deliveryState = "DELIVERED" ∧
      row.attemptCount = attempts ∧ (1 ≤ attempts ∧ attempts ≤ 64) ∧
      row.lastAttemptAtMs = some (deliveredAt : Int) ∧ row.nextAttemptAtMs = none ∧
      row.deliveredAtMs = some (deliveredAt : Int) ∧ row.terminalAtMs = none ∧
      row.failureClass = none
  | .deadLetter attempts terminalAt failureClass => row.deliveryState = "DEAD_LETTER" ∧
      row.attemptCount = attempts ∧ (1 ≤ attempts ∧ attempts ≤ 64) ∧
      row.lastAttemptAtMs = some (terminalAt : Int) ∧ row.nextAttemptAtMs = none ∧
      row.deliveredAtMs = none ∧ row.terminalAtMs = some (terminalAt : Int) ∧
      row.failureClass = some (failureClassToStorage failureClass)

theorem requiredFailureClass_storage (failureClass : DeliveryFailureClass) :
    requiredFailureClass (some (failureClassToStorage failureClass)) = .ok failureClass := by
  cases failureClass <;> rfl

theorem failureClassToStorage_injective {first second : DeliveryFailureClass}
    (same : failureClassToStorage first = failureClassToStorage second) : first = second := by
  revert same
  cases first <;> cases second <;> decide

theorem exists_failureClass {text : String} (known : DeliveryRow.isFailureClass text = true) :
    ∃ failureClass, text = failureClassToStorage failureClass := by
  simp only [DeliveryRow.isFailureClass, List.mem_cons, List.not_mem_nil, or_false,
    decide_eq_true_eq] at known
  rcases known with rfl | rfl | rfl | rfl
  · exact ⟨.dependencyUnavailable, rfl⟩
  · exact ⟨.rejected, rfl⟩
  · exact ⟨.integrityFailure, rfl⟩
  · exact ⟨.internalFailure, rfl⟩

theorem exists_time {column : Option Int} (present : column ≠ none)
    (times : ∀ value ∈ column, 0 ≤ value) : ∃ time : Nat, column = some (time : Int) := by
  obtain ⟨value, rfl⟩ := Option.ne_none_iff_exists'.mp present
  exact ⟨value.toNat, congrArg some (Int.toNat_of_nonneg (times value rfl)).symm⟩

theorem exists_failure {column : Option String} (present : column ≠ none)
    (known : ∀ text ∈ column, DeliveryRow.isFailureClass text = true) :
    ∃ failureClass, column = some (failureClassToStorage failureClass) := by
  obtain ⟨text, rfl⟩ := Option.ne_none_iff_exists'.mp present
  obtain ⟨failureClass, rfl⟩ := exists_failureClass (known text rfl)
  exact ⟨failureClass, rfl⟩

theorem exists_stores (checked : row.Checked) : ∃ state, Stores row state := by
  have lastTime : ∀ value ∈ row.lastAttemptAtMs, 0 ≤ value :=
    fun value member => (checked.lastTime value member).1.1
  have nextTime : ∀ value ∈ row.nextAttemptAtMs, 0 ≤ value :=
    fun value member => (checked.nextTime value member).1
  rcases checked.shaped with ⟨named, count, last, next, delivered, terminal, failure⟩ |
    ⟨named, count, ⟨first, last, second, next, later⟩, delivered, terminal, failure⟩ |
    ⟨named, count, last, next, delivered, terminal, failure⟩ |
    ⟨named, count, last, next, delivered, terminal, failure⟩
  · exact ⟨.ready 0, named, count, rfl, last, next, delivered, terminal, failure⟩
  · obtain ⟨failureClass, failed⟩ := exists_failure failure checked.failureClass
    have early := lastTime first last
    have late := nextTime second next
    refine ⟨.retryScheduled row.attemptCount.toNat first.toNat second.toNat failureClass, named, ?_,
      ?_, ?_, ?_, ?_, delivered, terminal, failed⟩
    · omega
    · omega
    · rw [Int.toNat_of_nonneg early]
      exact last
    · rw [Int.toNat_of_nonneg late]
      exact next
    · show first.toNat < second.toNat
      omega
  · obtain ⟨time, last⟩ := exists_time last lastTime
    refine ⟨.delivered row.attemptCount.toNat time, named, ?_, ?_, last, next, delivered.trans last,
      terminal, failure⟩
    · omega
    · omega
  · obtain ⟨time, last⟩ := exists_time last lastTime
    obtain ⟨failureClass, failed⟩ := exists_failure failure checked.failureClass
    refine ⟨.deadLetter row.attemptCount.toNat time failureClass, named, ?_, ?_, last, next,
      delivered, terminal.trans last, failed⟩
    · omega
    · omega

theorem u16_natCast {attempts : Nat} (small : attempts < attemptCountLimit) :
    u16 (attempts : Int) = .ok attempts := by
  unfold u16
  rw [if_pos ⟨Int.natCast_nonneg _, by omega⟩]
  rfl

theorem requiredUnix_natCast (time : Nat) : requiredUnix (some (time : Int)) = .ok time := by
  show unixFromI64 (time : Int) = .ok time
  unfold unixFromI64
  rw [if_pos (Int.natCast_nonneg _)]
  rfl

theorem restoreAttempts_eq {attempts minimum maximum : Nat} (enough : minimum ≤ attempts)
    (few : attempts ≤ maximum) : restoreAttempts attempts minimum maximum = .ok attempts := by
  unfold restoreAttempts
  rw [refuseIf_passes (by omega)]
  rfl

theorem intoState_of_stores (stores : Stores row state) : row.intoState = .ok state := by
  have limit : attemptCountLimit = 65536 := rfl
  cases state with
  | ready attempts =>
    obtain ⟨named, count, rfl, last, next, delivered, terminal, failure⟩ := stores
    unfold DeliveryRow.intoState
    rw [count, u16_natCast (by omega)]
    simp [named, last, next, delivered, terminal, failure, bind, Except.bind, restored,
      DeliveryState.restoreReady, restoreAttempts, refuseIf, Except.mapError, pure, Except.pure]
  | retryScheduled attempts lastAttemptAt nextAttemptAt failureClass =>
    obtain ⟨named, count, bounds, last, next, later, delivered, terminal, failure⟩ := stores
    have restores : restoreAttempts attempts 1 maxRetryableAttempts = .ok attempts :=
      restoreAttempts_eq bounds.1 bounds.2
    unfold DeliveryRow.intoState
    rw [count, u16_natCast (by omega)]
    simp [named, last, next, delivered, terminal, failure, bind, Except.bind, restored,
      requiredUnix_natCast, requiredFailureClass_storage, DeliveryState.restoreRetryScheduled,
      restores, refuseIf_passes (Nat.not_le.mpr later),
      Except.mapError, pure, Except.pure]
  | delivered attempts deliveredAt =>
    obtain ⟨named, count, bounds, last, next, delivered, terminal, failure⟩ := stores
    have restores : restoreAttempts attempts 1 maxConfiguredAttempts = .ok attempts :=
      restoreAttempts_eq bounds.1 bounds.2
    unfold DeliveryRow.intoState
    rw [count, u16_natCast (by omega)]
    simp [named, last, next, delivered, terminal, failure, bind, Except.bind, restored,
      requiredUnix_natCast, DeliveryState.restoreDelivered, restores,
      Except.mapError, pure, Except.pure, refuseIf]
  | deadLetter attempts terminalAt failureClass =>
    obtain ⟨named, count, bounds, last, next, delivered, terminal, failure⟩ := stores
    have restores : restoreAttempts attempts 1 maxConfiguredAttempts = .ok attempts :=
      restoreAttempts_eq bounds.1 bounds.2
    unfold DeliveryRow.intoState
    rw [count, u16_natCast (by omega)]
    simp [named, last, next, delivered, terminal, failure, bind, Except.bind, restored,
      requiredUnix_natCast, requiredFailureClass_storage, DeliveryState.restoreDeadLetter,
      restores, Except.mapError, pure, Except.pure, refuseIf]

theorem stores_of_intoState (checked : row.Checked) (read : row.intoState = .ok state) :
    Stores row state := by
  obtain ⟨stored, stores⟩ := exists_stores checked
  have same := intoState_of_stores stores
  rw [read] at same
  cases same
  exact stores

/-- The times of a state, as far as the columns have to hold them. -/
def Fits : DeliveryState → Prop
  | .ready _ => True
  | .retryScheduled _ lastAttemptAt nextAttemptAt _ =>
      lastAttemptAt < sqliteLimit ∧ nextAttemptAt < sqliteLimit
  | .delivered _ deliveredAt => deliveredAt < sqliteLimit
  | .deadLetter _ terminalAt _ => terminalAt < sqliteLimit

theorem fits_of_stores (checked : row.Checked) (stores : Stores row state) : Fits state := by
  cases state with
  | ready attempts => trivial
  | retryScheduled attempts lastAttemptAt nextAttemptAt failureClass =>
    obtain ⟨-, -, -, last, next, -⟩ := stores
    have early := (checked.lastTime _ last).1.2
    have late := (checked.nextTime _ next).2
    exact ⟨Int.ofNat_lt.mp early, Int.ofNat_lt.mp late⟩
  | delivered attempts deliveredAt =>
    obtain ⟨-, -, -, last, -⟩ := stores
    have early := (checked.lastTime _ last).1.2
    exact Int.ofNat_lt.mp early
  | deadLetter attempts terminalAt failureClass =>
    obtain ⟨-, -, -, last, -⟩ := stores
    have early := (checked.lastTime _ last).1.2
    exact Int.ofNat_lt.mp early

theorem sqliteInteger_eq_ok {value : UnixMillis} {bound : Int} :
    sqliteInteger value = .ok bound ↔ bound = (value : Int) ∧ value < sqliteLimit := by
  unfold sqliteInteger
  split
  next fits => simp [fits, eq_comm]
  next large => simp [large]

/-- The shape a write expects can be bound for any state whose times fit. -/
def shapeOf : DeliveryState → ExpectedDeliveryShape
  | .ready attempts => ⟨"READY", attempts, -1, -1, -1, -1, ""⟩
  | .retryScheduled attempts lastAttemptAt nextAttemptAt failureClass =>
      ⟨"RETRY_SCHEDULED", attempts, lastAttemptAt, nextAttemptAt, -1, -1,
        failureClassToStorage failureClass⟩
  | .delivered attempts deliveredAt =>
      ⟨"DELIVERED", attempts, deliveredAt, -1, deliveredAt, -1, ""⟩
  | .deadLetter attempts terminalAt failureClass =>
      ⟨"DEAD_LETTER", attempts, terminalAt, -1, -1, terminalAt, failureClassToStorage failureClass⟩

theorem fromState_eq_ok :
    ExpectedDeliveryShape.fromState state = .ok shape ↔ Fits state ∧ shape = shapeOf state := by
  cases state with
  | ready attempts =>
    simp [ExpectedDeliveryShape.fromState, Fits, shapeOf, nullIntegerSentinel, nullTextSentinel,
      eq_comm]
  | retryScheduled attempts lastAttemptAt nextAttemptAt failureClass =>
    simp only [ExpectedDeliveryShape.fromState, bind_eq_ok, sqliteInteger_eq_ok, Fits, shapeOf,
      pure, Except.pure, Except.ok.injEq, nullIntegerSentinel]
    grind
  | delivered attempts deliveredAt =>
    simp only [ExpectedDeliveryShape.fromState, bind_eq_ok, sqliteInteger_eq_ok, Fits, shapeOf,
      pure, Except.pure, Except.ok.injEq, nullIntegerSentinel, nullTextSentinel]
    grind
  | deadLetter attempts terminalAt failureClass =>
    simp only [ExpectedDeliveryShape.fromState, bind_eq_ok, sqliteInteger_eq_ok, Fits, shapeOf,
      pure, Except.pure, Except.ok.injEq, nullIntegerSentinel]
    grind

theorem matches_of_stores (stores : Stores row state) : (shapeOf state).Matches row := by
  cases state with
  | ready attempts =>
    obtain ⟨named, count, -, last, next, delivered, terminal, failure⟩ := stores
    simp [ExpectedDeliveryShape.Matches, shapeOf, named, count, last, next, delivered, terminal,
      failure]
  | retryScheduled attempts lastAttemptAt nextAttemptAt failureClass =>
    obtain ⟨named, count, -, last, next, -, delivered, terminal, failure⟩ := stores
    simp [ExpectedDeliveryShape.Matches, shapeOf, named, count, last, next, delivered, terminal,
      failure]
  | delivered attempts deliveredAt =>
    obtain ⟨named, count, -, last, next, delivered, terminal, failure⟩ := stores
    simp [ExpectedDeliveryShape.Matches, shapeOf, named, count, last, next, delivered, terminal,
      failure]
  | deadLetter attempts terminalAt failureClass =>
    obtain ⟨named, count, -, last, next, delivered, terminal, failure⟩ := stores
    simp [ExpectedDeliveryShape.Matches, shapeOf, named, count, last, next, delivered, terminal,
      failure]

theorem shapeOf_injective (same : shapeOf state = shapeOf next) : state = next := by
  cases state <;> cases next <;> simp only [shapeOf, ExpectedDeliveryShape.mk.injEq] at same <;>
    try exact absurd same.1 (by decide)
  next =>
    rw [Int.ofNat.inj same.2.1]
  next =>
    obtain ⟨-, count, last, next, -, -, failure⟩ := same
    rw [Int.ofNat.inj count, Int.ofNat.inj last, Int.ofNat.inj next,
      failureClassToStorage_injective failure]
  next =>
    obtain ⟨-, count, last, -⟩ := same
    rw [Int.ofNat.inj count, Int.ofNat.inj last]
  next =>
    obtain ⟨-, count, last, -, -, -, failure⟩ := same
    rw [Int.ofNat.inj count, Int.ofNat.inj last, failureClassToStorage_injective failure]

theorem shape_unique {first second : ExpectedDeliveryShape} (one : first.Matches row)
    (two : second.Matches row) : first = second := by
  obtain ⟨state, count, last, next, delivered, terminal, failure⟩ := one
  obtain ⟨state', count', last', next', delivered', terminal', failure'⟩ := two
  cases first
  cases second
  simp_all

/-- The where clause of a write chooses the rows that store the expected state, and no others. -/
theorem matches_iff_stores (checked : row.Checked) :
    (shapeOf state).Matches row ↔ Stores row state := by
  refine ⟨fun chosen => ?_, matches_of_stores⟩
  obtain ⟨stored, stores⟩ := exists_stores checked
  rw [shapeOf_injective (shape_unique chosen (matches_of_stores stores))]
  exact stores

end Storing

section Transitions

variable {state next : DeliveryState} {now : UnixMillis}

/-- When the last attempt of a state was made. -/
def attemptedAt : DeliveryState → Option UnixMillis
  | .ready _ => none
  | .retryScheduled _ lastAttemptAt _ _ => some lastAttemptAt
  | .delivered _ deliveredAt => some deliveredAt
  | .deadLetter _ terminalAt _ => some terminalAt

/-- A state that an attempt leaves, within the bounds of the columns. -/
def Attempted : DeliveryState → Prop
  | .ready _ => False
  | .retryScheduled attempts lastAttemptAt nextAttemptAt _ =>
      (1 ≤ attempts ∧ attempts ≤ 63) ∧ lastAttemptAt < nextAttemptAt
  | .delivered attempts _ | .deadLetter attempts _ _ => 1 ≤ attempts ∧ attempts ≤ 64

/-- What an attempt at a time makes of a state. -/
structure Attempt (state : DeliveryState) (now : UnixMillis) (next : DeliveryState) : Prop where
  live : state.isTerminal = false
  counted : next.attempts = state.attempts + 1
  timed : attemptedAt next = some now
  attempted : state.attempts ≤ 63 → Attempted next

theorem incrementAttempts_eq_ok {attempts count : Nat} :
    incrementAttempts attempts = .ok count ↔ attempts + 1 < attemptCountLimit ∧ count = attempts + 1 := by
  unfold incrementAttempts
  split
  next fits => simp [fits, eq_comm]
  next overflow => simp [overflow]

theorem attempt_of_recordSuccess (recorded : state.recordSuccess now = .ok next) :
    Attempt state now next := by
  obtain ⟨_, live, recorded⟩ := bind_eq_ok.mp recorded
  obtain ⟨count, counted, same⟩ := bind_eq_ok.mp recorded
  cases same
  obtain ⟨-, rfl⟩ := incrementAttempts_eq_ok.mp counted
  refine ⟨Bool.eq_false_iff.mpr (refuseIf_eq_ok.mp live), rfl, rfl, fun few => ?_⟩
  exact ⟨Nat.le_add_left 1 _, Nat.succ_le_succ few⟩

theorem attempt_of_recordFailure {nextAttemptAt : Option UnixMillis} {attemptLimit : AttemptLimit}
    {failureClass : DeliveryFailureClass}
    (recorded : state.recordFailure now nextAttemptAt attemptLimit failureClass = .ok next) :
    Attempt state now next := by
  have bounded := attemptLimit.bounded
  unfold maxConfiguredAttempts at bounded
  obtain ⟨_, live, recorded⟩ := bind_eq_ok.mp recorded
  obtain ⟨_, below, recorded⟩ := bind_eq_ok.mp recorded
  obtain ⟨count, counted, recorded⟩ := bind_eq_ok.mp recorded
  obtain ⟨-, rfl⟩ := incrementAttempts_eq_ok.mp counted
  have live := Bool.eq_false_iff.mpr (refuseIf_eq_ok.mp live)
  have below := refuseIf_eq_ok.mp below
  split at recorded
  next last =>
    obtain ⟨_, -, same⟩ := bind_eq_ok.mp recorded
    cases same
    exact ⟨live, rfl, rfl, fun few => ⟨Nat.le_add_left 1 _, Nat.succ_le_succ few⟩⟩
  next more =>
    split at recorded
    next => cases recorded
    next scheduled =>
      obtain ⟨_, later, same⟩ := bind_eq_ok.mp recorded
      cases same
      refine ⟨live, rfl, rfl, fun few => ⟨⟨Nat.le_add_left 1 _, ?_⟩, ?_⟩⟩
      · omega
      · exact Nat.lt_of_not_le (refuseIf_eq_ok.mp later)

theorem recorded_of_transitionAfterFailure {policy : RetryPolicy} {eventId : OutboxEventId}
    {failureClass : DeliveryFailureClass}
    (scheduled : policy.transitionAfterFailure state now eventId failureClass = .ok next) :
    ∃ nextAttemptAt, state.recordFailure now nextAttemptAt policy.attemptLimit failureClass =
      .ok next := by
  obtain ⟨_, -, scheduled⟩ := bind_eq_ok.mp scheduled
  dsimp only at scheduled
  split at scheduled
  next last => exact ⟨none, mapError_eq_ok.mp scheduled⟩
  next more =>
    obtain ⟨_, -, scheduled⟩ := bind_eq_ok.mp scheduled
    obtain ⟨delay, -, scheduled⟩ := bind_eq_ok.mp scheduled
    split at scheduled
    next => cases scheduled
    next time fits => exact ⟨some time, mapError_eq_ok.mp scheduled⟩

/-- The transitions a call makes at a time. -/
inductive Makes (state : DeliveryState) (now : UnixMillis) (next : DeliveryState) : Prop where
  | success (recorded : state.recordSuccess now = .ok next)
  | failure (policy : RetryPolicy) (eventId : OutboxEventId) (failureClass : DeliveryFailureClass)
      (scheduled : policy.transitionAfterFailure state now eventId failureClass = .ok next)

theorem Makes.attempt (makes : Makes state now next) : Attempt state now next := by
  cases makes with
  | success recorded => exact attempt_of_recordSuccess recorded
  | failure policy eventId failureClass scheduled =>
    obtain ⟨nextAttemptAt, recorded⟩ := recorded_of_transitionAfterFailure scheduled
    exact attempt_of_recordFailure recorded

end Transitions

section Updates

variable {tables : DeliveryTables} {row new : DeliveryRow} {state next : DeliveryState}
  {update : DeliveryUpdate} {now : UnixMillis}

/-- The guard of an update, and the checks of the row it leaves. -/
structure Guarded (tables : DeliveryTables) (old new : DeliveryRow) : Prop where
  key : new.key = old.key
  unfinished : old.deliveryState ≠ "DELIVERED"
  replayed : old.deliveryState = "DEAD_LETTER" →
    new.deliveryState = "READY" ∧ new.attemptCount = 0 ∧ tables.Replays old new
  counted : ¬(old.deliveryState = "DEAD_LETTER" ∧ new.deliveryState = "READY") →
    new.attemptCount = old.attemptCount + 1
  reset : new.deliveryState = "READY" → old.deliveryState = "DEAD_LETTER"
  timed : new.deliveryState ≠ "READY" → DeliveryTables.AttemptTimed old new
  checked : new.Checked

theorem guardDelivery_eq_ok : tables.guardDelivery row new = .ok () ↔ Guarded tables row new := by
  unfold DeliveryTables.guardDelivery
  simp only [bind_eq_ok, refuseIf_eq_ok, exists_const]
  constructor
  · rintro ⟨key, terminal, counted, reset, timed, checked⟩
    refine ⟨by tauto, by tauto, by tauto, by tauto, by tauto, by tauto, by tauto⟩
  · rintro ⟨key, delivered, replayed, counted, reset, timed, checked⟩
    tauto

theorem bind_eq_ok_of_attempted (attempted : Attempted next) (bound : DeliveryUpdate.bind next = .ok update)
    (row : DeliveryRow) : Fits next ∧ Stores (update.apply row) next ∧
      ∃ time, attemptedAt next = some time ∧ update.lastAttemptAtMs = (time : Int) := by
  cases next with
  | ready attempts => exact absurd attempted id
  | retryScheduled attempts lastAttemptAt nextAttemptAt failureClass =>
    obtain ⟨bounds, later⟩ := attempted
    obtain ⟨last, first, bound⟩ := bind_eq_ok.mp bound
    obtain ⟨next, second, same⟩ := bind_eq_ok.mp bound
    cases same
    obtain ⟨rfl, early⟩ := sqliteInteger_eq_ok.mp first
    obtain ⟨rfl, late⟩ := sqliteInteger_eq_ok.mp second
    exact ⟨⟨early, late⟩, ⟨rfl, rfl, bounds, rfl, rfl, later, rfl, rfl, rfl⟩, _, rfl, rfl⟩
  | delivered attempts deliveredAt =>
    obtain ⟨last, first, same⟩ := bind_eq_ok.mp bound
    cases same
    obtain ⟨rfl, early⟩ := sqliteInteger_eq_ok.mp first
    exact ⟨early, ⟨rfl, rfl, attempted, rfl, rfl, rfl, rfl, rfl⟩, _, rfl, rfl⟩
  | deadLetter attempts terminalAt failureClass =>
    obtain ⟨last, first, same⟩ := bind_eq_ok.mp bound
    cases same
    obtain ⟨rfl, early⟩ := sqliteInteger_eq_ok.mp first
    exact ⟨early, ⟨rfl, rfl, attempted, rfl, rfl, rfl, rfl, rfl⟩, _, rfl, rfl⟩

theorem failureClassToStorage_known (failureClass : DeliveryFailureClass) :
    DeliveryRow.isFailureClass (failureClassToStorage failureClass) = true := by
  cases failureClass <;> decide

theorem shaped_of_stores (stores : Stores row state) : row.Shaped := by
  cases state with
  | ready attempts =>
    obtain ⟨named, count, rfl, columns⟩ := stores
    exact .inl ⟨named, count, columns⟩
  | retryScheduled attempts lastAttemptAt nextAttemptAt failureClass =>
    obtain ⟨named, count, bounds, last, next, later, delivered, terminal, failure⟩ := stores
    refine .inr (.inl ⟨named, by omega, ⟨_, last, _, next, Int.ofNat_lt.mpr later⟩, delivered,
      terminal, ?_⟩)
    simp [failure]
  | delivered attempts deliveredAt =>
    obtain ⟨named, count, bounds, last, next, delivered, terminal, failure⟩ := stores
    exact .inr (.inr (.inl ⟨named, by omega, by simp [last], next, delivered.trans last.symm,
      terminal, failure⟩))
  | deadLetter attempts terminalAt failureClass =>
    obtain ⟨named, count, bounds, last, next, delivered, terminal, failure⟩ := stores
    exact .inr (.inr (.inr ⟨named, by omega, by simp [last], next, delivered,
      terminal.trans last.symm, by simp [failure]⟩))

theorem isTime_natCast {time : Nat} (fits : time < sqliteLimit) : IsTime (time : Int) :=
  ⟨Int.natCast_nonneg _, Int.ofNat_lt.mpr fits⟩

/-- A row that stores a state passes the checks, if its times fit and lie in order. -/
theorem checked_of_stores (stores : Stores row state) (fits : Fits state)
    (created : IsTime row.createdAtMs)
    (updated : row.createdAtMs ≤ row.updatedAtMs ∧ IsTime row.updatedAtMs)
    (later : ∀ time ∈ attemptedAt state, row.createdAtMs ≤ (time : Int)) : row.Checked := by
  have shaped := shaped_of_stores stores
  cases state with
  | ready attempts =>
    obtain ⟨-, -, -, last, next, -, -, failure⟩ := stores
    exact ⟨by simp [last], by simp [next], by simp [failure], created, updated, shaped⟩
  | retryScheduled attempts lastAttemptAt nextAttemptAt failureClass =>
    obtain ⟨-, -, -, last, next, -, -, -, failure⟩ := stores
    refine ⟨?_, ?_, ?_, created, updated, shaped⟩
    · rw [last]
      rintro _ ⟨⟩
      exact ⟨isTime_natCast fits.1, later _ rfl⟩
    · rw [next]
      rintro _ ⟨⟩
      exact isTime_natCast fits.2
    · rw [failure]
      rintro _ ⟨⟩
      exact failureClassToStorage_known _
  | delivered attempts deliveredAt =>
    obtain ⟨-, -, -, last, next, -, -, failure⟩ := stores
    refine ⟨?_, by simp [next], by simp [failure], created, updated, shaped⟩
    rw [last]
    rintro _ ⟨⟩
    exact ⟨isTime_natCast fits, later _ rfl⟩
  | deadLetter attempts terminalAt failureClass =>
    obtain ⟨-, -, -, last, next, -, -, failure⟩ := stores
    refine ⟨?_, by simp [next], ?_, created, updated, shaped⟩
    · rw [last]
      rintro _ ⟨⟩
      exact ⟨isTime_natCast fits, later _ rfl⟩
    · rw [failure]
      rintro _ ⟨⟩
      exact failureClassToStorage_known _

theorem attempts_of_stores (stores : Stores row state) : row.attemptCount = state.attempts := by
  cases state <;> exact stores.2.1

theorem name_of_live (stores : Stores row state) (live : state.isTerminal = false) :
    row.deliveryState ≠ "DELIVERED" ∧ row.deliveryState ≠ "DEAD_LETTER" ∧ state.attempts ≤ 63 := by
  cases state with
  | ready attempts =>
    obtain ⟨named, -, rfl, -⟩ := stores
    rw [named]
    exact ⟨by decide, by decide, Nat.zero_le _⟩
  | retryScheduled attempts lastAttemptAt nextAttemptAt failureClass =>
    obtain ⟨named, -, bounds, -⟩ := stores
    rw [named]
    exact ⟨by decide, by decide, bounds.2⟩
  | delivered attempts deliveredAt => cases live
  | deadLetter attempts terminalAt failureClass => cases live

theorem name_of_attempted (stores : Stores row next) (attempted : Attempted next) :
    row.deliveryState ≠ "READY" := by
  cases next with
  | ready attempts => exact absurd attempted id
  | retryScheduled attempts lastAttemptAt nextAttemptAt failureClass =>
    rw [stores.1]
    decide
  | delivered attempts deliveredAt =>
    rw [stores.1]
    decide
  | deadLetter attempts terminalAt failureClass =>
    rw [stores.1]
    decide

/-- The guards let an attempt pass that is made when it is due, and the row then stores its result. -/
theorem guarded_attempt (checked : row.Checked) (stores : Stores row state)
    (attempt : Attempt state now next) (created : row.createdAtMs ≤ (now : Int))
    (due : ∀ time ∈ state.nextAttemptAt, time ≤ now)
    (bound : DeliveryUpdate.bind next = .ok update) :
    Guarded tables row (update.apply row) ∧ Stores (update.apply row) next := by
  obtain ⟨unfinished, alive, few⟩ := name_of_live stores attempt.live
  have attempted := attempt.attempted few
  obtain ⟨fits, stored, time, timed, last⟩ := bind_eq_ok_of_attempted attempted bound row
  rw [attempt.timed] at timed
  cases timed
  have named := name_of_attempted stored attempted
  have counted : (update.apply row).attemptCount = row.attemptCount + 1 := by
    rw [attempts_of_stores stored, attempts_of_stores stores, attempt.counted]
    rfl
  have nowFits : now < sqliteLimit := by
    cases next with
    | ready attempts => exact absurd attempted id
    | retryScheduled attempts lastAttemptAt nextAttemptAt failureClass =>
      cases attempt.timed
      exact fits.1
    | delivered attempts deliveredAt =>
      cases attempt.timed
      exact fits
    | deadLetter attempts terminalAt failureClass =>
      cases attempt.timed
      exact fits
  refine ⟨⟨rfl, unfinished, fun dead => absurd dead alive, fun _ => counted,
    fun ready => absurd ready named, fun _ => ?_, ?_⟩, stored⟩
  · refine ⟨update.lastAttemptAtMs, rfl, by rw [last]; exact created, fun retries next planned => ?_⟩
    rw [last]
    cases state with
    | retryScheduled attempts lastAttemptAt nextAttemptAt failureClass =>
      rw [stores.2.2.2.2.1] at planned
      cases planned
      exact Int.ofNat_le.mpr (due _ rfl)
    | ready attempts =>
      rw [stores.1] at retries
      exact absurd retries (by decide)
    | delivered attempts deliveredAt => cases attempt.live
    | deadLetter attempts terminalAt failureClass => cases attempt.live
  · refine checked_of_stores stored fits checked.created ?_ ?_
    · show row.createdAtMs ≤ update.lastAttemptAtMs ∧ IsTime update.lastAttemptAtMs
      rw [last]
      exact ⟨created, isTime_natCast nowFits⟩
    · rw [attempt.timed]
      rintro _ ⟨⟩
      exact created

theorem recordSuccess_of_live (live : state.isTerminal = false) (few : state.attempts ≤ 63)
    (now : UnixMillis) : state.recordSuccess now = .ok (.delivered (state.attempts + 1) now) := by
  have counted : incrementAttempts state.attempts = .ok (state.attempts + 1) :=
    incrementAttempts_eq_ok.mpr ⟨by unfold attemptCountLimit; omega, rfl⟩
  unfold DeliveryState.recordSuccess
  rw [refuseIf_passes (by simp [live]), counted]
  rfl

/-- With the limit one above its attempts, a delivery that fails is a dead letter. -/
theorem recordFailure_last (live : state.isTerminal = false) (few : state.attempts ≤ 63)
    (now : UnixMillis) (failureClass : DeliveryFailureClass) :
    state.recordFailure now none ⟨state.attempts + 1, Nat.succ_pos _, Nat.succ_le_succ few⟩
      failureClass = .ok (.deadLetter (state.attempts + 1) now failureClass) := by
  have counted : incrementAttempts state.attempts = .ok (state.attempts + 1) :=
    incrementAttempts_eq_ok.mpr ⟨by unfold attemptCountLimit; omega, rfl⟩
  unfold DeliveryState.recordFailure
  rw [refuseIf_passes (by simp [live]), refuseIf_passes (Nat.not_succ_le_self _), counted]
  show (if state.attempts + 1 = state.attempts + 1 then _ else _) = _
  rw [if_pos rfl]
  rfl

/-- With the largest limit, a delivery that fails before its last attempt is scheduled again. -/
theorem recordFailure_retry (live : state.isTerminal = false) (few : state.attempts + 1 ≤ 63)
    {now later : UnixMillis} (ahead : now < later) (failureClass : DeliveryFailureClass) :
    state.recordFailure now (some later) ⟨64, by decide, by decide⟩ failureClass =
      .ok (.retryScheduled (state.attempts + 1) now later failureClass) := by
  have counted : incrementAttempts state.attempts = .ok (state.attempts + 1) :=
    incrementAttempts_eq_ok.mpr ⟨by unfold attemptCountLimit; omega, rfl⟩
  have more : ¬state.attempts + 1 = 64 := by omega
  unfold DeliveryState.recordFailure
  rw [refuseIf_passes (by simp [live]), refuseIf_passes (by show ¬64 ≤ state.attempts; omega), counted]
  show (if state.attempts + 1 = 64 then _ else _) = _
  rw [if_neg more]
  show (refuseIf (later ≤ now) _ >>= _) = _
  rw [refuseIf_passes (Nat.not_le.mpr ahead)]
  rfl

theorem transition_of_guarded (stores : Stores row state) (guarded : Guarded tables row new) :
    ∃ next, Stores new next ∧ Transition state next := by
  obtain ⟨next, stored⟩ := exists_stores guarded.checked
  refine ⟨next, stored, ?_⟩
  cases live : state.isTerminal with
  | true =>
    cases state with
    | ready attempts => cases live
    | retryScheduled attempts lastAttemptAt nextAttemptAt failureClass => cases live
    | delivered attempts deliveredAt => exact absurd stores.1 guarded.unfinished
    | deadLetter attempts terminalAt failureClass =>
      have ready := (guarded.replayed stores.1).1
      refine .inr (.inr ?_)
      cases next with
      | ready attempts =>
        obtain ⟨-, -, rfl, -⟩ := stored
        rfl
      | retryScheduled attempts lastAttemptAt nextAttemptAt failureClass =>
        exact absurd (stored.1.symm.trans ready) (by decide)
      | delivered attempts deliveredAt => exact absurd (stored.1.symm.trans ready) (by decide)
      | deadLetter attempts terminalAt failureClass =>
        exact absurd (stored.1.symm.trans ready) (by decide)
  | false =>
    obtain ⟨-, alive, few⟩ := name_of_live stores live
    have counted := guarded.counted fun both => alive both.1
    rw [attempts_of_stores stored, attempts_of_stores stores] at counted
    have counted : next.attempts = state.attempts + 1 := by omega
    cases next with
    | ready attempts => exact absurd (guarded.reset stored.1) alive
    | retryScheduled attempts lastAttemptAt nextAttemptAt failureClass =>
      obtain ⟨-, -, bounds, -, -, later, -⟩ := stored
      cases counted
      exact .inr (.inl ⟨_, _, _, _, recordFailure_retry live bounds.2 later failureClass⟩)
    | delivered attempts deliveredAt =>
      cases counted
      exact .inl ⟨_, recordSuccess_of_live live few deliveredAt⟩
    | deadLetter attempts terminalAt failureClass =>
      cases counted
      exact .inr (.inl ⟨_, _, _, _, recordFailure_last live few terminalAt failureClass⟩)

end Updates

section Runs

variable {tables after : DeliveryTables} {row : DeliveryRow} {state next : DeliveryState}

/-- Rows with keys of their own that pass the checks. -/
structure DeliveryTables.Valid (tables : DeliveryTables) : Prop where
  distinct : (tables.deliveries.map DeliveryRow.key).Nodup
  checked : ∀ row ∈ tables.deliveries, row.Checked

theorem readyRow_checked {key : DeliveryKey} {createdAtMs updatedAtMs : Int}
    (created : IsTime createdAtMs) (updated : createdAtMs ≤ updatedAtMs ∧ IsTime updatedAtMs) :
    (DeliveryTables.readyRow key createdAtMs updatedAtMs).Checked :=
  ⟨nofun, nofun, nofun, created, updated, .inl ⟨rfl, rfl, rfl, rfl, rfl, rfl, rfl⟩⟩

theorem stores_readyRow (key : DeliveryKey) (createdAtMs updatedAtMs : Int) :
    Stores (DeliveryTables.readyRow key createdAtMs updatedAtMs) .new :=
  ⟨rfl, rfl, rfl, rfl, rfl, rfl, rfl, rfl⟩

theorem valid_updateDeliveries {chosen : DeliveryRow → Prop} [DecidablePred chosen]
    {change : DeliveryRow → DeliveryRow} (keeps : ∀ row, (change row).key = row.key)
    (valid : tables.Valid) (updated : tables.updateDeliveries chosen change = .ok after) :
    after.Valid := by
  obtain ⟨deliveries, written, same⟩ := bind_eq_ok.mp updated
  cases same
  obtain ⟨amended, guarded⟩ := Rows.update_eq_ok written
  rw [List.nil_append] at amended
  subst amended
  constructor
  · rw [Rows.map_amend keeps]
    exact valid.distinct
  · intro row member
    obtain ⟨old, known, rfl⟩ := Rows.mem_amend.mp member
    split
    next holds => exact (guardDelivery_eq_ok.mp (guarded old known holds)).checked
    next => exact valid.checked old known

theorem valid_execute (valid : tables.Valid) {statement : DeliveryStatement}
    (executed : tables.execute statement = .ok after) : after.Valid := by
  cases statement with
  | insertReady key createdAt =>
    obtain ⟨createdAtMs, timed, executed⟩ := bind_eq_ok.mp executed
    obtain ⟨_, -, executed⟩ := bind_eq_ok.mp executed
    obtain ⟨rfl, fits⟩ := sqliteInteger_eq_ok.mp (mapError_eq_ok.mp timed)
    split at executed
    next => cases executed; exact valid
    next free =>
      cases executed
      constructor
      · rw [List.map_append]
        refine List.nodup_append.mpr ⟨valid.distinct, List.nodup_singleton _, ?_⟩
        rintro _ old _ new rfl
        obtain ⟨row, member, same⟩ := List.mem_map.mp old
        rw [List.map_singleton, List.mem_singleton] at new
        exact free ⟨row, member, same.trans new⟩
      · intro row member
        rcases List.mem_append.mp member with old | new
        · exact valid.checked row old
        · rw [List.mem_singleton.mp new]
          exact readyRow_checked (isTime_natCast fits) ⟨Int.le_refl _, isTime_natCast fits⟩
  | compareAndSwap key expected next =>
    obtain ⟨written, executed, same⟩ := bind_eq_ok.mp executed
    obtain ⟨shape, -, executed⟩ := bind_eq_ok.mp executed
    obtain ⟨update, -, executed⟩ := bind_eq_ok.mp executed
    obtain ⟨result, updated, same'⟩ := bind_eq_ok.mp executed
    cases same'
    cases same
    exact valid_updateDeliveries (by intro row; rfl) valid (mapError_eq_ok.mp updated)
  | insertReplay intent =>
    have executed : tables.insertReplay intent = .ok after := mapError_eq_ok.mp executed
    obtain ⟨_, -, executed⟩ := bind_eq_ok.mp executed
    obtain ⟨_, -, executed⟩ := bind_eq_ok.mp executed
    obtain ⟨_, -, executed⟩ := bind_eq_ok.mp executed
    obtain ⟨_, -, executed⟩ := bind_eq_ok.mp executed
    obtain ⟨_, -, executed⟩ := bind_eq_ok.mp executed
    exact valid_updateDeliveries (by intro row; rfl)
      (by exact ⟨valid.distinct, valid.checked⟩) executed
  | markReplayPublished tenantId replayId publishedAt =>
    obtain ⟨publishedAtMs, -, executed⟩ := bind_eq_ok.mp executed
    obtain ⟨dispatches, -, same⟩ := bind_eq_ok.mp executed
    cases same
    exact ⟨valid.distinct, valid.checked⟩

theorem valid_final (start : tables.Valid) (statements : List DeliveryStatement) :
    (deliveryTables.final tables statements).Valid := by
  refine deliveryTables.invariant DeliveryTables.Valid (fun tables statement valid => ?_) start
    statements
  show (deliveryTables.step tables statement).2.Valid
  unfold deliveryTables
  dsimp only
  split
  next after executed => exact valid_execute valid executed
  next => exact valid

/-- An active owner asks for the replay of a dead letter, under identifiers not used before. -/
structure DeliveryTables.Receives (tables : DeliveryTables) (intent : ReplayIntentRow)
    (row : DeliveryRow) : Prop where
  owner : tables.surroundings.IsOwner intent.tenantId intent.requestedByActorId
  freshReplay : ¬∃ old ∈ tables.replayIntents, old.tenantId = intent.tenantId ∧
    old.replayId = intent.replayId
  freshDispatch : ¬∃ old ∈ tables.replayDispatches, old.tenantId = intent.tenantId ∧
    old.replayId = intent.replayId
  freshAudit : ¬∃ event ∈ tables.auditEvents, event = (intent.tenantId, intent.auditEventId)
  delivery : row.key = intent.delivery
  attempts : row.attemptCount = intent.terminalAttemptCount
  later : ∀ terminal ∈ row.terminalAtMs, terminal ≤ intent.requestedAtMs
  checked : intent.checked = true

theorem replayed (valid : tables.Valid) (member : row ∈ tables.deliveries)
    (stores : Stores row state) (remediated : state.recordRemediation = .ok next)
    {intent : ReplayIntentRow} (receives : tables.Receives intent row) :
    ∃ after, tables.insertReplay intent = .ok after ∧
      ∃ new ∈ after.deliveries, new.key = row.key ∧ new.intoState = .ok next := by
  cases state with
  | ready attempts => cases remediated
  | retryScheduled attempts lastAttemptAt nextAttemptAt failureClass => cases remediated
  | delivered attempts deliveredAt => cases remediated
  | deadLetter attempts terminalAt failureClass =>
    cases remediated
    have checked := valid.checked row member
    have later := receives.later _ stores.2.2.2.2.2.2.1
    have born := (checked.lastTime _ stores.2.2.2.1).2
    have requested : IsTime intent.requestedAtMs := by
      have all := receives.checked
      simp only [ReplayIntentRow.checked, Bool.and_eq_true, decide_eq_true_eq] at all
      exact all.2
    let pending : DeliveryTables := { tables with
      replayIntents := tables.replayIntents ++ [intent]
      auditEvents := tables.auditEvents ++ [(intent.tenantId, intent.auditEventId)]
      replayDispatches := tables.replayDispatches ++
        [⟨intent.tenantId, intent.replayId, intent.requestedAtMs, none⟩] }
    have replays : pending.Replays row
        (DeliveryTables.readyRow row.key row.createdAtMs intent.requestedAtMs) :=
      ⟨intent, List.mem_append.mpr (.inr (List.mem_singleton.mpr rfl)), receives.delivery.symm,
        receives.attempts.symm, rfl, _, List.mem_append.mpr (.inr (List.mem_singleton.mpr rfl)), rfl,
        rfl, rfl⟩
    have guarded : Guarded pending row
        (DeliveryTables.readyRow row.key row.createdAtMs intent.requestedAtMs) := by
      refine ⟨rfl, ?_, fun _ => ⟨rfl, rfl, replays⟩, fun other => absurd ⟨stores.1, rfl⟩ other,
        fun _ => stores.1, fun other => absurd rfl other,
        readyRow_checked checked.created ⟨Int.le_trans born later, requested⟩⟩
      rw [stores.1]
      decide
    have passes : ∀ other ∈ tables.deliveries, (other.key = intent.delivery ∧
        other.deliveryState = "DEAD_LETTER" ∧ other.attemptCount = intent.terminalAttemptCount) →
        pending.guardDelivery other
          (DeliveryTables.readyRow other.key other.createdAtMs intent.requestedAtMs) = .ok () := by
      rintro other known ⟨same, -⟩
      rw [List.inj_on_of_nodup_map valid.distinct known member (same.trans receives.delivery.symm)]
      exact guardDelivery_eq_ok.mpr guarded
    have updated : Rows.update (fun row => row.key = intent.delivery ∧
        row.deliveryState = "DEAD_LETTER" ∧ row.attemptCount = intent.terminalAttemptCount)
        (fun row => DeliveryTables.readyRow row.key row.createdAtMs intent.requestedAtMs)
        pending.guardDelivery (fun other new => other.key = new.key) Refusal.unique []
        tables.deliveries = .ok (Rows.amend (fun row => row.key = intent.delivery ∧
          row.deliveryState = "DEAD_LETTER" ∧ row.attemptCount = intent.terminalAttemptCount)
          (fun row => DeliveryTables.readyRow row.key row.createdAtMs intent.requestedAtMs)
          tables.deliveries) :=
      Rows.update_succeeds (fun _ => rfl) passes valid.distinct
    have found : ∃ row ∈ tables.deliveries, row.key = intent.delivery ∧
        row.deliveryState = "DEAD_LETTER" ∧ row.attemptCount = intent.terminalAttemptCount ∧
        ∃ terminal ∈ row.terminalAtMs, terminal ≤ intent.requestedAtMs :=
      ⟨row, member, receives.delivery, stores.1, receives.attempts, _, stores.2.2.2.2.2.2.1, later⟩
    refine ⟨{ pending with
      deliveries := Rows.amend (fun row => row.key = intent.delivery ∧
        row.deliveryState = "DEAD_LETTER" ∧ row.attemptCount = intent.terminalAttemptCount)
        (fun row => DeliveryTables.readyRow row.key row.createdAtMs intent.requestedAtMs)
        tables.deliveries }, ?_, ?_⟩
    · refine bind_eq_ok.mpr ⟨(), bind_eq_ok.mpr ⟨(), refuseIf_passes (not_not_intro receives.owner),
        refuseIf_passes (not_not_intro found)⟩, ?_⟩
      refine bind_eq_ok.mpr ⟨(), refuseIf_passes (by simp [receives.checked]), ?_⟩
      refine bind_eq_ok.mpr ⟨(), refuseIf_passes receives.freshReplay, ?_⟩
      refine bind_eq_ok.mpr ⟨(), refuseIf_passes receives.freshAudit, ?_⟩
      refine bind_eq_ok.mpr ⟨(), refuseIf_passes receives.freshDispatch, ?_⟩
      exact bind_eq_ok.mpr ⟨_, updated, rfl⟩
    · refine ⟨DeliveryTables.readyRow row.key row.createdAtMs intent.requestedAtMs,
        Rows.mem_amend_of_chosen member ⟨receives.delivery, stores.1, receives.attempts⟩, rfl,
        intoState_of_stores (stores_readyRow _ _ _)⟩

end Runs

section Agreement

/-- How a stored delivery and the states of the domain agree. -/
structure Agrees (tables : DeliveryTables) (row : DeliveryRow) (state : DeliveryState)
    (shape : ExpectedDeliveryShape) : Prop where
  read : row.intoState = .ok state
  expected : ExpectedDeliveryShape.fromState state = .ok shape
  chosen : shape.Matches row
  alone : ∀ other : DeliveryRow, other.Checked → shape.Matches other → other.intoState = .ok state
  made : ∀ now next, Makes state now next → row.createdAtMs ≤ (now : Int) →
    (∀ time ∈ state.nextAttemptAt, time ≤ now) → ∀ update, DeliveryUpdate.bind next = .ok update →
    tables.guardDelivery row (update.apply row) = .ok () ∧
      (update.apply row).intoState = .ok next
  bound : ∀ now next, Makes state now next → Fits next → ∃ update, DeliveryUpdate.bind next = .ok update
  remediated : ∀ next, state.recordRemediation = .ok next → ∀ intent, tables.Receives intent row →
    ∃ after, tables.insertReplay intent = .ok after ∧
      ∃ new ∈ after.deliveries, new.key = row.key ∧ new.intoState = .ok next
  only : ∀ new, tables.guardDelivery row new = .ok () →
    ∃ next, new.intoState = .ok next ∧ Transition state next

theorem exists_bind {next : DeliveryState} (attempted : Attempted next) (fits : Fits next) :
    ∃ update, DeliveryUpdate.bind next = .ok update := by
  cases next with
  | ready attempts => exact absurd attempted id
  | retryScheduled attempts lastAttemptAt nextAttemptAt failureClass =>
    exact ⟨_, bind_eq_ok.mpr ⟨_, sqliteInteger_eq_ok.mpr ⟨rfl, fits.1⟩,
      bind_eq_ok.mpr ⟨_, sqliteInteger_eq_ok.mpr ⟨rfl, fits.2⟩, rfl⟩⟩⟩
  | delivered attempts deliveredAt =>
    exact ⟨_, bind_eq_ok.mpr ⟨_, sqliteInteger_eq_ok.mpr ⟨rfl, fits⟩, rfl⟩⟩
  | deadLetter attempts terminalAt failureClass =>
    exact ⟨_, bind_eq_ok.mpr ⟨_, sqliteInteger_eq_ok.mpr ⟨rfl, fits⟩, rfl⟩⟩

theorem agrees_of_valid {tables : DeliveryTables} {row : DeliveryRow} (valid : tables.Valid)
    (member : row ∈ tables.deliveries) : ∃ state shape, Agrees tables row state shape := by
  have checked := valid.checked row member
  obtain ⟨state, stores⟩ := exists_stores checked
  refine ⟨state, shapeOf state, ?_⟩
  constructor
  case read => exact intoState_of_stores stores
  case expected => exact fromState_eq_ok.mpr ⟨fits_of_stores checked stores, rfl⟩
  case chosen => exact matches_of_stores stores
  case alone =>
    intro other passes chosen
    exact intoState_of_stores ((matches_iff_stores passes).mp chosen)
  case made =>
    intro now next makes created due update bound
    obtain ⟨guarded, stored⟩ := guarded_attempt checked stores makes.attempt created due bound
    exact ⟨guardDelivery_eq_ok.mpr guarded, intoState_of_stores stored⟩
  case bound =>
    intro now next makes fits
    have attempt := makes.attempt
    exact exists_bind (attempt.attempted (name_of_live stores attempt.live).2.2) fits
  case remediated =>
    intro next remediated intent receives
    exact replayed valid member stores remediated receives
  case only =>
    intro new passed
    obtain ⟨next, stored, transition⟩ := transition_of_guarded stores (guardDelivery_eq_ok.mp passed)
    exact ⟨next, intoState_of_stores stored, transition⟩

/-- Every stored delivery agrees with the domain, whatever statements have run. -/
theorem stored_deliveries_agree {start : DeliveryTables} (empty : start.deliveries = [])
    (statements : List DeliveryStatement) (row : DeliveryRow)
    (member : row ∈ (deliveryTables.final start statements).deliveries) :
    ∃ state shape, Agrees (deliveryTables.final start statements) row state shape := by
  have valid : start.Valid := by
    constructor
    · rw [empty]
      exact List.nodup_nil
    · rw [empty]
      exact fun _ listed => absurd listed List.not_mem_nil
  exact agrees_of_valid (valid_final valid statements) member

end Agreement

namespace SampleDelivery

def tenantId : TenantId := ⟨⟨"tenant-delivery", by decide⟩⟩

def event : IntegrationEventEnvelope :=
  ⟨⟨⟨"outbox-delivery", by decide⟩⟩, tenantId, "client", ⟨"client-delivery", by decide⟩, .initial,
    "client.created.v1", 1, "{}", 10⟩

def key : DeliveryKey := ⟨tenantId, ⟨"consumer-delivery", by decide⟩, event.eventId⟩

def start : DeliveryTables := ⟨⟨[], [], [], []⟩, [event], [], [], [], []⟩

/-- A first attempt fails, and its retry is due at thirty. -/
def statements : List DeliveryStatement :=
  [.insertReady key 10, .compareAndSwap key (.ready 0) (.retryScheduled 1 20 30 .rejected)]

def row : DeliveryRow :=
  ⟨key, "RETRY_SCHEDULED", 1, some 20, some 30, none, none, some "REJECTED", 10, 20⟩

end SampleDelivery

open SampleDelivery in
theorem stored_deliveries_agree_scheduled :
    row ∈ (deliveryTables.final start statements).deliveries ∧
      ∃ state shape, Agrees (deliveryTables.final start statements) row state shape := by
  have member : row ∈ (deliveryTables.final start statements).deliveries := by decide +kernel
  have empty : start.deliveries = [] := rfl
  exact ⟨member, stored_deliveries_agree empty statements row member⟩

end ProfilePlatform.Notifications
