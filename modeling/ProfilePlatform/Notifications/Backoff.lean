import ProfilePlatform.Notifications.Jitter
import ProfilePlatform.Notifications.Steps

/-! How long a failed delivery waits.

The delay is the doubled base within its bound, moved by a jitter of at most its share of it. As
long as the window is not wider than the hash reaches, there are events on either side.
-/

set_option autoImplicit false

namespace ProfilePlatform.Notifications

open Foundation

namespace RetryPolicy

/-- The base, doubled for each attempt before this one, within the bound. -/
def backoff (policy : RetryPolicy) (failedAttempt : Nat) : Nat :=
  min (policy.baseDelayMs * 2 ^ (failedAttempt - 1)) policy.maxDelayMs

/-- How far the jitter may move it. -/
def backoffSpan (policy : RetryPolicy) (failedAttempt : Nat) : Nat :=
  policy.backoff failedAttempt * policy.jitterBasisPoints / basisPointsDenominator

/-- The widest span of which the hash reaches more than half. -/
def reachedSpan : Nat := 1000001

variable {policy : RetryPolicy} {failedAttempt : Nat}

/-- One doubling more is within the bound what the doublings together are. -/
theorem nominalDelay_eq {delay : Nat} (positive : 0 < delay) (bounded : delay ≤ policy.maxDelayMs)
    (doublings : Nat) :
    policy.nominalDelay doublings delay = min (delay * 2 ^ doublings) policy.maxDelayMs := by
  induction doublings generalizing delay with
  | zero => rw [nominalDelay, pow_zero, Nat.mul_one, Nat.min_eq_left bounded]
  | succ doublings ih =>
    have large : policy.maxDelayMs ≤ 86400000 := policy.bounded
    have grown : 1 ≤ 2 ^ doublings := Nat.one_le_two_pow
    have more : delay * 2 ≤ delay * 2 ^ (doublings + 1) := by
      rw [pow_succ]
      exact Nat.mul_le_mul_left delay (Nat.le_mul_of_pos_left 2 grown)
    unfold nominalDelay
    split
    next reached => rw [Nat.min_eq_right (by omega), Nat.le_antisymm bounded reached]
    next below =>
      have fits : checkedMul delay 2 = some (delay * 2) := if_pos (by unfold u64Limit; omega)
      rw [fits, Option.map_some, Option.getD_some]
      rcases Nat.le_total (delay * 2) policy.maxDelayMs with within | beyond
      · rw [Nat.min_eq_left within, ih (by omega) within, Nat.mul_assoc, ← pow_succ']
      · have most : policy.maxDelayMs ≤ policy.maxDelayMs * 2 ^ doublings :=
          Nat.le_mul_of_pos_right _ grown
        rw [Nat.min_eq_right beyond, ih (by omega) (Nat.le_refl _), Nat.min_eq_right most,
          Nat.min_eq_right (by omega)]

theorem nominal_eq (policy : RetryPolicy) (failedAttempt : Nat) :
    policy.nominal failedAttempt = policy.backoff failedAttempt :=
  nominalDelay_eq policy.positive policy.ordered (failedAttempt - 1)

theorem jitterSpan_eq (policy : RetryPolicy) (failedAttempt : Nat) :
    policy.jitterSpan failedAttempt = policy.backoffSpan failedAttempt := by
  rw [jitterSpan, nominal_eq, backoffSpan]

theorem retryDelayMs_bounds (counted : failedAttempt ≠ 0)
    (more : failedAttempt < policy.attemptLimit.value) (eventId : OutboxEventId) :
    ∃ delay, policy.retryDelayMs eventId failedAttempt = .ok delay ∧
      policy.backoff failedAttempt - policy.backoffSpan failedAttempt ≤ delay ∧
      delay ≤ min (policy.backoff failedAttempt + policy.backoffSpan failedAttempt)
        policy.maxDelayMs ∧ 1 ≤ delay := by
  obtain ⟨low, high⟩ := policy.nominal_bounds failedAttempt
  have span := policy.jitterSpan_le failedAttempt
  refine ⟨_, policy.retryDelayMs_eq counted more eventId, ?_⟩
  rw [← nominal_eq, ← jitterSpan_eq]
  generalize policy.nominal failedAttempt = nominal at low high span
  generalize policy.jitterSpan failedAttempt = jitterSpan at span
  by_cases still : jitterSpan = 0
  · rw [if_pos still]
    omega
  · rw [if_neg still]
    have sample : deterministicJitterSample eventId failedAttempt (jitterSpan * 2 + 1) <
        jitterSpan * 2 + 1 := Nat.mod_lt _ (by omega)
    generalize deterministicJitterSample eventId failedAttempt (jitterSpan * 2 + 1) = drawn at sample
    omega

/-- With a sample of one more than the span the delay is longer, and with none it is shorter. -/
theorem retryDelayMs_either_side (counted : failedAttempt ≠ 0)
    (more : failedAttempt < policy.attemptLimit.value)
    (moved : 1 ≤ policy.backoffSpan failedAttempt)
    (within : policy.backoffSpan failedAttempt ≤ reachedSpan)
    (room : policy.backoff failedAttempt + policy.backoffSpan failedAttempt ≤ policy.maxDelayMs) :
    (∃ eventId delay, policy.retryDelayMs eventId failedAttempt = .ok delay ∧
      policy.backoff failedAttempt < delay) ∧
    ∃ eventId delay, policy.retryDelayMs eventId failedAttempt = .ok delay ∧
      delay < policy.backoff failedAttempt := by
  obtain ⟨low, high⟩ := policy.nominal_bounds failedAttempt
  have span := policy.jitterSpan_le failedAttempt
  have small : policy.jitterSpan failedAttempt + 1 < jitterHashModulus := by
    rw [jitterSpan_eq]
    exact Nat.lt_of_le_of_lt (Nat.succ_le_succ within) (by decide)
  rw [← nominal_eq, ← jitterSpan_eq] at room
  rw [← jitterSpan_eq] at moved
  rw [← nominal_eq]
  obtain ⟨above, drawnAbove⟩ := exists_sample failedAttempt small
  obtain ⟨below, drawnBelow⟩ := exists_sample failedAttempt (show 0 < jitterHashModulus by decide)
  constructor
  · refine ⟨above, _, policy.retryDelayMs_eq counted more above, ?_⟩
    rw [drawnAbove, if_neg (by omega), Nat.mod_eq_of_lt (by omega)]
    omega
  · refine ⟨below, _, policy.retryDelayMs_eq counted more below, ?_⟩
    rw [drawnBelow, if_neg (by omega), Nat.zero_mod]
    have longer : 1 < policy.nominal failedAttempt := by
      have product := policy.product_le failedAttempt
      have whole : policy.jitterSpan failedAttempt =
          policy.nominal failedAttempt * policy.jitterBasisPoints / 10000 := rfl
      omega
    omega

/-- A failure is not recorded only where there is nothing left to try, or the time cannot be told. -/
theorem transitionAfterFailure_error {state : DeliveryState} {failedAt : UnixMillis}
    {eventId : OutboxEventId} {failureClass : DeliveryFailureClass} {why : RetrySchedulingError}
    (failed : policy.transitionAfterFailure state failedAt eventId failureClass = .error why) :
    state.isTerminal = true ∨ policy.attemptLimit.value ≤ state.attempts ∨
      ∃ delay, policy.retryDelayMs eventId (state.attempts + 1) = .ok delay ∧
        u64Limit ≤ failedAt + delay := by
  by_cases live : state.isTerminal = true
  · exact .inl live
  by_cases room : policy.attemptLimit.value ≤ state.attempts
  · exact .inr (.inl room)
  rw [Bool.not_eq_true] at live
  by_cases last : state.attempts + 1 = policy.attemptLimit.value
  · rw [policy.transitionAfterFailure_last live last eventId failureClass] at failed
    cases failed
  · have more : state.attempts + 1 < policy.attemptLimit.value := by omega
    obtain ⟨delay, drawn, positive, -⟩ :=
      policy.retryDelayMs_eq_ok (Nat.succ_ne_zero state.attempts) more eventId
    refine .inr (.inr ⟨delay, drawn, Nat.not_lt.mp fun fits => ?_⟩)
    rw [policy.transitionAfterFailure_retry live more drawn positive fits failureClass] at failed
    cases failed

theorem retry_backoff (policy : RetryPolicy) :
    (∀ (eventId : OutboxEventId) (failedAttempt : Nat),
      failedAttempt ≠ 0 → failedAttempt < policy.attemptLimit.value →
      ∃ delay, policy.retryDelayMs eventId failedAttempt = .ok delay ∧
        policy.backoff failedAttempt - policy.backoffSpan failedAttempt ≤ delay ∧
        delay ≤ min (policy.backoff failedAttempt + policy.backoffSpan failedAttempt)
          policy.maxDelayMs ∧ 1 ≤ delay) ∧
    (∀ failedAttempt : Nat, failedAttempt ≠ 0 → failedAttempt < policy.attemptLimit.value →
      1 ≤ policy.backoffSpan failedAttempt → policy.backoffSpan failedAttempt ≤ reachedSpan →
      policy.backoff failedAttempt + policy.backoffSpan failedAttempt ≤ policy.maxDelayMs →
      (∃ eventId delay, policy.retryDelayMs eventId failedAttempt = .ok delay ∧
        policy.backoff failedAttempt < delay) ∧
      ∃ eventId delay, policy.retryDelayMs eventId failedAttempt = .ok delay ∧
        delay < policy.backoff failedAttempt) ∧
    ∀ (state : DeliveryState) (failedAt : UnixMillis) (eventId : OutboxEventId)
      (failureClass : DeliveryFailureClass) (why : RetrySchedulingError),
      policy.transitionAfterFailure state failedAt eventId failureClass = .error why →
      state.isTerminal = true ∨ policy.attemptLimit.value ≤ state.attempts ∨
        ∃ delay, policy.retryDelayMs eventId (state.attempts + 1) = .ok delay ∧
          u64Limit ≤ failedAt + delay := by
  refine ⟨?_, ?_, ?_⟩
  · intro eventId failedAttempt counted more
    exact retryDelayMs_bounds counted more eventId
  · intro failedAttempt counted more moved within room
    exact retryDelayMs_either_side counted more moved within room
  · intro state failedAt eventId failureClass why failed
    exact transitionAfterFailure_error failed

end RetryPolicy

namespace BackoffSamples

def usual : RetryPolicy where
  baseDelayMs := 1000
  maxDelayMs := 60000
  jitterBasisPoints := 2500
  attemptLimit := ⟨8, by decide, by decide⟩
  positive := by decide
  ordered := by decide
  bounded := by decide
  smallJitter := by decide

/-- Eleven hours at first: a quarter of it is more than the hash reaches. -/
def patient : RetryPolicy where
  baseDelayMs := 40000000
  maxDelayMs := 86400000
  jitterBasisPoints := 2500
  attemptLimit := ⟨5, by decide, by decide⟩
  positive := by decide
  ordered := by decide
  bounded := by decide
  smallJitter := by decide

def eventId : OutboxEventId := ⟨⟨"event-backoff-sample", by decide⟩⟩

/-- The third failure of the usual policy waits four seconds, give or take one. -/
theorem usual_either_side :
    (∃ delay, usual.retryDelayMs eventId 3 = .ok delay ∧ 3000 ≤ delay ∧ delay ≤ 5000) ∧
    (∃ other delay, usual.retryDelayMs other 3 = .ok delay ∧ 4000 < delay) ∧
    ∃ other delay, usual.retryDelayMs other 3 = .ok delay ∧ delay < 4000 := by
  obtain ⟨bounds, sides, -⟩ := RetryPolicy.retry_backoff usual
  obtain ⟨delay, drawn, low, high, -⟩ := bounds eventId 3 (by decide) (by decide)
  have both := sides 3 (by decide) (by decide) (by decide) (by decide) (by decide)
  exact ⟨⟨delay, drawn, low, Nat.le_trans high (by decide)⟩, both⟩

/-- What is delivered stays so, whatever is reported after; and the patient policy never waits
longer than its nominal delay, though its bound has room. -/
theorem delivered_fails :
    (usual.transitionAfterFailure (.delivered 1 500) 700 eventId .rejected =
        .error (.domainTransition .terminalState) ∧
      (DeliveryState.delivered 1 500).attempts < usual.attemptLimit.value ∧
      ∀ delay, usual.retryDelayMs eventId 2 = .ok delay → 700 + delay < u64Limit) ∧
    patient.backoffSpan 1 = 10000000 ∧
      patient.backoff 1 + patient.backoffSpan 1 ≤ patient.maxDelayMs ∧
      ∀ other delay, patient.retryDelayMs other 1 = .ok delay → delay < patient.backoff 1 := by
  refine ⟨⟨by decide, by decide, ?_⟩, by decide, by decide, ?_⟩
  · intro delay drawn
    obtain ⟨_, same, -, small⟩ := usual.retryDelayMs_eq_ok (by decide : 2 ≠ 0) (by decide) eventId
    rw [same] at drawn
    cases drawn
    exact Nat.lt_of_le_of_lt (Nat.add_le_add_left small 700) (by decide)
  · intro other delay drawn
    rw [patient.retryDelayMs_eq (by decide : 1 ≠ 0) (by decide) other, if_neg (by decide)] at drawn
    have hashed : deterministicJitterSample other 1 (patient.jitterSpan 1 * 2 + 1) < 1000003 :=
      Nat.lt_of_le_of_lt (Nat.mod_le _ _) (Nat.mod_lt _ (by decide))
    generalize deterministicJitterSample other 1 (patient.jitterSpan 1 * 2 + 1) = sample at drawn hashed
    cases drawn
    have nominal : patient.nominal 1 = 40000000 := rfl
    have span : patient.jitterSpan 1 = 10000000 := rfl
    have most : patient.backoff 1 = 40000000 := rfl
    rw [nominal, span, most]
    omega

end BackoffSamples

end ProfilePlatform.Notifications
