import ProfilePlatform.Certification.Verdicts
import ProfilePlatform.Foundation.Frames
import ProfilePlatform.Foundation.Fields

/-! The verdict over a matrix says what was observed, cannot improve with more of it, and is bound to
the matrix by the bytes that are hashed.
-/

set_option autoImplicit false

namespace ProfilePlatform.Certification

open Foundation

section Outcome

def SomeProhibited (policy : CertificationPolicy) (observations : List ObservationSet) : Prop :=
  ∃ rule ∈ policy.rules.values, rule.requirement = .prohibited ∧ Seen observations rule

def SomeMissing (policy : CertificationPolicy) (observations : List ObservationSet) : Prop :=
  ∃ rule ∈ policy.rules.values, rule.requirement = .required ∧ Missed observations rule

def SomeSpread (policy : CertificationPolicy) (observations : List ObservationSet) : Prop :=
  ∃ rule ∈ policy.rules.values, Spread observations rule

variable {policy : CertificationPolicy} {observations others : List ObservationSet} {rule : SignalRule}

theorem seen_perm (perm : observations.Perm others) : Seen observations rule ↔ Seen others rule := by
  simp only [Seen, perm.mem_iff]

theorem missed_perm (perm : observations.Perm others) : Missed observations rule ↔ Missed others rule := by
  simp only [Missed, perm.mem_iff]

theorem spread_perm (perm : observations.Perm others) : Spread observations rule ↔ Spread others rule := by
  simp only [Spread, perm.mem_iff]

theorem spread_seen (spread : Spread observations rule) : Seen observations rule := by
  obtain ⟨one, listed, low, told, -⟩ := spread
  exact ⟨one, listed, isSome_get?.mp (Option.isSome_iff_exists.mpr ⟨low, told⟩)⟩

theorem Seen.more (seen : Seen observations rule) (observation : ObservationSet) :
    Seen (observation :: observations) rule := by
  obtain ⟨one, listed, named⟩ := seen
  exact ⟨one, List.mem_cons_of_mem _ listed, named⟩

theorem Missed.more (missed : Missed observations rule) (observation : ObservationSet) :
    Missed (observation :: observations) rule := by
  obtain ⟨one, listed, unnamed⟩ := missed
  exact ⟨one, List.mem_cons_of_mem _ listed, unnamed⟩

theorem Spread.more (spread : Spread observations rule) (observation : ObservationSet) :
    Spread (observation :: observations) rule := by
  obtain ⟨one, listed, low, told, other, also, high, further, wide⟩ := spread
  exact ⟨one, List.mem_cons_of_mem _ listed, low, told, other, List.mem_cons_of_mem _ also, high,
    further, wide⟩

/-- The first of three conditions decides. -/
def verdict (prohibited missing spread : Prop) [Decidable prohibited] [Decidable missing]
    [Decidable spread] : CertificationOutcome :=
  if prohibited then .prohibited else if missing then .incomplete
  else if spread then .drifted else .stable

theorem verdict_eq {prohibited missing spread : Prop} [Decidable prohibited] [Decidable missing]
    [Decidable spread] : (verdict prohibited missing spread = .prohibited ↔ prohibited) ∧
    (¬prohibited → (verdict prohibited missing spread = .incomplete ↔ missing)) ∧
    (¬prohibited → ¬missing → (verdict prohibited missing spread = .drifted ↔ spread)) := by
  unfold verdict
  refine ⟨?_, fun clean => ?_, fun clean whole => ?_⟩
  · by_cases worst : prohibited
    · simp [worst]
    · rw [if_neg worst]
      refine iff_of_false (fun same => ?_) worst
      split at same
      · cases same
      · split at same <;> cases same
  · rw [if_neg clean]
    by_cases worse : missing
    · simp [worse]
    · rw [if_neg worse]
      refine iff_of_false (fun same => ?_) worse
      split at same <;> cases same
  · rw [if_neg clean, if_neg whole]
    by_cases bad : spread <;> simp [bad]

instance : Decidable (SomeProhibited policy observations) :=
  inferInstanceAs (Decidable (∃ rule ∈ policy.rules.values, _))

instance : Decidable (SomeMissing policy observations) :=
  inferInstanceAs (Decidable (∃ rule ∈ policy.rules.values, _))

instance : Decidable (SomeSpread policy observations) :=
  inferInstanceAs (Decidable (∃ rule ∈ policy.rules.values, _))

/-- Nothing prohibited and nothing missing: a rule whose values spread was judged. -/
theorem judged_of_spread (clean : ¬SomeProhibited policy observations)
    (whole : ¬SomeMissing policy observations) (listed : rule ∈ policy.rules.values)
    (spread : Spread observations rule) : Judged observations rule := by
  cases kind : rule.requirement with
  | required => exact .inl ⟨kind, fun missed => whole ⟨rule, listed, kind, missed⟩⟩
  | optional => exact .inr ⟨kind, spread_seen spread⟩
  | prohibited => exact absurd ⟨rule, listed, kind, spread_seen spread⟩ clean

theorem outcomeOf_tally : outcomeOf (tally observations policy.rules.values) =
    verdict (SomeProhibited policy observations) (SomeMissing policy observations)
      (SomeSpread policy observations) := by
  have prohibited : 0 < (tally observations policy.rules.values).prohibitedSignals ↔
      SomeProhibited policy observations := by
    simp [tally, SomeProhibited, List.countP_pos_iff]
  have missing : 0 < (tally observations policy.rules.values).missingRequiredSignals ↔
      SomeMissing policy observations := by
    simp [tally, SomeMissing, List.countP_pos_iff]
  unfold outcomeOf verdict
  simp only [prohibited, missing]
  split
  · rfl
  next clean =>
    split
    · rfl
    next whole =>
      have drifted : 0 < (tally observations policy.rules.values).driftedSignals ↔
          SomeSpread policy observations := by
        simp only [tally, List.countP_pos_iff, decide_eq_true_eq, SomeSpread]
        constructor
        · rintro ⟨rule, listed, -, spread⟩
          exact ⟨rule, listed, spread⟩
        · rintro ⟨rule, listed, spread⟩
          exact ⟨rule, listed, judged_of_spread clean whole listed spread, spread⟩
      simp only [drifted]

variable {sha256 : Bytes → Block 32} {report : CertificationReport}

theorem outcome_eq (evaluated : evaluateCertification sha256 policy observations = .ok report) :
    report.outcome = verdict (SomeProhibited policy observations) (SomeMissing policy observations)
      (SomeSpread policy observations) := by
  have perm := inOrder_perm observations
  have prohibited : SomeProhibited policy (inOrder observations) ↔ SomeProhibited policy observations := by
    simp only [SomeProhibited, seen_perm perm]
  have missing : SomeMissing policy (inOrder observations) ↔ SomeMissing policy observations := by
    simp only [SomeMissing, missed_perm perm]
  have spread : SomeSpread policy (inOrder observations) ↔ SomeSpread policy observations := by
    simp only [SomeSpread, spread_perm perm]
  rw [(evaluate_eq evaluated).2]
  dsimp only
  rw [outcomeOf_tally]
  unfold verdict
  simp only [prohibited, missing, spread]

end Outcome

section Evidence

/-- From the best outcome to the worst. -/
def CertificationOutcome.rank : CertificationOutcome → Nat
  | .stable => 0
  | .drifted => 1
  | .incomplete => 2
  | .prohibited => 3

theorem verdict_mono {prohibited missing spread prohibited' missing' spread' : Prop}
    [Decidable prohibited] [Decidable missing] [Decidable spread] [Decidable prohibited']
    [Decidable missing'] [Decidable spread'] (first : prohibited → prohibited')
    (second : missing → missing') (third : spread → spread') :
    (verdict prohibited missing spread).rank ≤ (verdict prohibited' missing' spread').rank := by
  unfold verdict
  by_cases worst : prohibited'
  · rw [if_pos worst]
    generalize (if prohibited then _ else _ : CertificationOutcome) = outcome
    cases outcome <;> decide
  · rw [if_neg worst, if_neg fun holds => worst (first holds)]
    by_cases worse : missing'
    · rw [if_pos worse]
      split
      · exact Nat.le_refl _
      · split <;> decide
    · rw [if_neg worse, if_neg fun holds => worse (second holds)]
      by_cases bad : spread'
      · rw [if_pos bad]
        split <;> decide
      · rw [if_neg bad, if_neg fun holds => bad (third holds)]

end Evidence

section Binding

variable {more other : Bytes}

theorem small_capacity {length : Nat} (small : length < u32Limit) : length < capacity 4 := small

theorem name_cancel {left right : SignalName}
    (same : frame 4 (utf8Bytes left.asStr) ++ more = frame 4 (utf8Bytes right.asStr) ++ other) :
    left = right ∧ more = other := by
  have short (name : SignalName) : (utf8Bytes name.asStr).length < capacity 4 := by
    have accepted := name.accepted
    simp only [acceptsSignalName, Bool.and_eq_true, decide_eq_true_eq] at accepted
    exact Nat.lt_of_le_of_lt accepted.1.2 (by decide)
  obtain ⟨names, rest⟩ := frame_cancel (short left) (short right) same
  exact ⟨SignalName.asStr_injective (eq_of_utf8 names), rest⟩

theorem code_injective : Function.Injective SignalRequirement.code := by
  intro left right same
  cases left <;> cases right <;> first | rfl | cases same

theorem ruleCode_cancel {left right : SignalRule} (same : ruleCode left ++ more = ruleCode right ++ other) :
    left = right ∧ more = other := by
  simp only [ruleCode, List.append_assoc, List.cons_append] at same
  obtain ⟨names, rest⟩ := name_cancel same
  obtain ⟨codes, rest⟩ := List.cons.inj rest
  obtain ⟨tolerances, rest⟩ := bigEndian_cancel left.tolerance.toNat_lt right.tolerance.toNat_lt rest
  refine ⟨?_, rest⟩
  cases left
  cases right
  cases names
  cases code_injective codes
  cases UInt64.toNat_inj.mp tolerances
  rfl

theorem toUInt64_injective : Function.Injective Int64.toUInt64 := by
  intro left right same
  cases left
  cases right
  cases same
  rfl

theorem valueCode_cancel {left right : SignalName × Int64}
    (same : valueCode left ++ more = valueCode right ++ other) : left = right ∧ more = other := by
  simp only [valueCode, List.append_assoc] at same
  obtain ⟨names, rest⟩ := name_cancel same
  obtain ⟨numbers, rest⟩ := bigEndian_cancel left.2.toUInt64.toNat_lt right.2.toUInt64.toNat_lt rest
  exact ⟨Prod.ext names (toUInt64_injective (UInt64.toNat_inj.mp numbers)), rest⟩

theorem flatMap_cancel {A : Type} {code : A → Bytes} {lefts rights : List A}
    (cancel : ∀ left ∈ lefts, ∀ right ∈ rights, ∀ more other,
      code left ++ more = code right ++ other → left = right ∧ more = other)
    (length : lefts.length = rights.length)
    (same : lefts.flatMap code ++ more = rights.flatMap code ++ other) : lefts = rights ∧ more = other := by
  obtain ⟨all, rest⟩ := forall₂_of_codes cancel length same
  rw [List.forall₂_eq_eq_eq] at all
  exact ⟨all, rest⟩

theorem observationCode_cancel {left right : ObservationSet}
    (fits : left.values.entries.length < u32Limit) (also : right.values.entries.length < u32Limit)
    (same : observationCode left ++ more = observationCode right ++ other) :
    left = right ∧ more = other := by
  simp only [observationCode, List.append_assoc] at same
  obtain ⟨sequences, rest⟩ := bigEndian_cancel left.sequence.toNat_lt right.sequence.toNat_lt same
  obtain ⟨lengths, rest⟩ := bigEndian_cancel (small_capacity fits) (small_capacity also) rest
  obtain ⟨values, rest⟩ := flatMap_cancel (fun _ _ _ _ _ _ => valueCode_cancel) lengths rest
  refine ⟨?_, rest⟩
  cases left
  cases right
  cases UInt32.toNat_inj.mp sequences
  cases OrderedMap.ext values
  rfl

theorem matrixCode_injective {policy opposite : CertificationPolicy} {observations others : List ObservationSet}
    (fits : ¬TooMany policy observations) (also : ¬TooMany opposite others)
    (same : matrixCode policy observations = matrixCode opposite others) :
    policy = opposite ∧ observations = others := by
  simp only [TooMany, not_or, not_exists, not_and, Nat.not_le] at fits also
  obtain ⟨rules, length, values⟩ := fits
  obtain ⟨rules', length', values'⟩ := also
  have rest := List.append_cancel_left same
  obtain ⟨versions, rest⟩ := bigEndian_cancel policy.version.toNat_lt opposite.version.toNat_lt rest
  obtain ⟨lengths, rest⟩ := bigEndian_cancel (small_capacity rules) (small_capacity rules') rest
  have counts : policy.rules.values.length = opposite.rules.values.length := by
    simpa [OrderedMap.values] using lengths
  obtain ⟨ruled, rest⟩ := flatMap_cancel (fun _ _ _ _ _ _ => ruleCode_cancel) counts rest
  obtain ⟨lengths, rest⟩ := bigEndian_cancel (small_capacity length) (small_capacity length') rest
  rw [← List.append_nil (observations.flatMap _), ← List.append_nil (others.flatMap _)] at rest
  obtain ⟨all, -⟩ := flatMap_cancel (fun left member right listed _ _ =>
    observationCode_cancel (values left member) (values' right listed)) lengths rest
  refine ⟨policy_ext (UInt32.toNat_inj.mp versions) (OrderedMap.ext ?_), all⟩
  have entries (policy : CertificationPolicy) :
      policy.rules.entries = policy.rules.values.map fun rule => (rule.name, rule) := by
    rw [OrderedMap.values, List.map_map]
    refine (List.map_id _).symm.trans (List.map_congr_left fun entry member => ?_)
    exact Prod.ext (policy.named entry member).symm rfl
  rw [entries policy, entries opposite, ruled]

end Binding

theorem observationSet_perm (sequence : UInt32) {values others : List (SignalName × Int64)}
    (perm : values.Perm others) : ObservationSet.new sequence values = ObservationSet.new sequence others := by
  unfold ObservationSet.new
  rw [OrderedMap.ofList?_perm perm]

/-- The verdict does not depend on any order; it is what was observed, as the first of three conditions
has it; more evidence never makes it better; and the bytes that are hashed tell the policy and the
matrix. -/
theorem verdicts_bound (sha256 : Bytes → Block 32) :
    (∀ (version : UInt32) (rules others : List SignalRule), rules.Perm others →
      SameOutcome (PolicyApplies version rules) (CertificationPolicy.new version rules)
        (CertificationPolicy.new version others)) ∧
    (∀ (sequence : UInt32) (values others : List (SignalName × Int64)), values.Perm others →
      ObservationSet.new sequence values = ObservationSet.new sequence others) ∧
    (∀ (policy : CertificationPolicy) (observations others : List ObservationSet),
      observations.Perm others →
      SameOutcome (Applies policy observations) (evaluateCertification sha256 policy observations)
        (evaluateCertification sha256 policy others)) ∧
    (∀ (policy : CertificationPolicy) (observations : List ObservationSet)
      (report : CertificationReport), evaluateCertification sha256 policy observations = .ok report →
      (report.outcome = .prohibited ↔ SomeProhibited policy observations) ∧
      (¬SomeProhibited policy observations →
        (report.outcome = .incomplete ↔ SomeMissing policy observations)) ∧
      (¬SomeProhibited policy observations → ¬SomeMissing policy observations →
        (report.outcome = .drifted ↔ SomeSpread policy observations))) ∧
    (∀ (policy : CertificationPolicy) (observations more : List ObservationSet)
      (observation : ObservationSet) (report after : CertificationReport),
      more.Perm (observation :: observations) →
      evaluateCertification sha256 policy observations = .ok report →
      evaluateCertification sha256 policy more = .ok after →
      report.outcome.rank ≤ after.outcome.rank) ∧
    (∀ (policy other : CertificationPolicy) (observations others : List ObservationSet)
      (report opposite : CertificationReport),
      evaluateCertification sha256 policy observations = .ok report →
      evaluateCertification sha256 other others = .ok opposite →
      ∃ bytes more, matrixBytes policy (inOrder observations) = .ok bytes ∧
        matrixBytes other (inOrder others) = .ok more ∧ report.matrixDigest = (sha256 bytes).val ∧
        opposite.matrixDigest = (sha256 more).val ∧
        (bytes = more → policy = other ∧ observations.Perm others)) := by
  refine ⟨fun version rules others => policy_perm version, ?_, fun policy observations others =>
    evaluate_perm, ?_, ?_, ?_⟩
  · intro sequence values others perm
    exact observationSet_perm sequence perm
  · intro policy observations report evaluated
    rw [outcome_eq evaluated]
    exact verdict_eq
  · intro policy observations more observation report after perm first second
    rw [outcome_eq first, outcome_eq second]
    refine verdict_mono ?_ ?_ ?_
    · rintro ⟨rule, listed, kind, seen⟩
      exact ⟨rule, listed, kind, (seen_perm perm).mpr (seen.more observation)⟩
    · rintro ⟨rule, listed, kind, missed⟩
      exact ⟨rule, listed, kind, (missed_perm perm).mpr (missed.more observation)⟩
    · rintro ⟨rule, listed, spread⟩
      exact ⟨rule, listed, (spread_perm perm).mpr (spread.more observation)⟩
  · intro policy other observations others report opposite first second
    obtain ⟨made, rfl⟩ := evaluate_eq first
    obtain ⟨also, rfl⟩ := evaluate_eq second
    refine ⟨_, _, made, also, rfl, rfl, fun same => ?_⟩
    obtain ⟨policies, sorted⟩ := matrixCode_injective
      (fun many => (matrixBytes_settles _ _).passed _ made _ ⟨rfl, many⟩)
      (fun many => (matrixBytes_settles _ _).passed _ also _ ⟨rfl, many⟩) same
    exact ⟨policies, (inOrder_perm observations).symm.trans (sorted ▸ inOrder_perm others)⟩

namespace MatrixSamples

def hash : SignalName := ⟨"webgl.hash", by decide⟩

def rule : SignalRule := ⟨hash, .required, 2, nofun⟩

def policy : CertificationPolicy :=
  ⟨3, ⟨[(hash, rule)], List.pairwise_singleton _ _⟩, by decide, by simp [rule],
    ⟨rule, List.mem_singleton_self _, rfl⟩⟩

def low : ObservationSet := ⟨1, ⟨[(hash, -5)], List.pairwise_singleton _ _⟩, by decide⟩

def high : ObservationSet := ⟨2, ⟨[(hash, 40)], List.pairwise_singleton _ _⟩, by decide⟩

/-- The SHA-256 of the matrix. -/
def matrixSha256 : Block 32 :=
  ⟨[50, 249, 179, 102, 4, 241, 96, 86, 104, 225, 5, 186, 153, 108, 238, 249, 252, 19, 42, 244, 83, 115,
    115, 157, 8, 99, 3, 6, 142, 245, 252, 222], by decide⟩

def drift : CertificationReport := ⟨3, 2, ⟨1, 1, 0, 0⟩, .drifted, matrixSha256.val⟩

/-- Two sets whose values are further apart than the rule tolerates, in either order. -/
theorem drift_found :
    evaluateCertification (fun _ => matrixSha256) policy [high, low] = .ok drift ∧
      (drift.outcome = .drifted ↔ SomeSpread policy [high, low]) ∧
      (∀ report, evaluateCertification (fun _ => matrixSha256) policy [high, low] = .ok report ↔
        evaluateCertification (fun _ => matrixSha256) policy [low, high] = .ok report) := by
  have evaluated : evaluateCertification (fun _ => matrixSha256) policy [high, low] = .ok drift := by
    decide +kernel
  obtain ⟨-, -, ordered, decided, -, -⟩ := verdicts_bound fun _ => matrixSha256
  refine ⟨evaluated, ?_, (ordered policy _ _ (List.Perm.swap low high [])).value⟩
  exact (decided policy _ _ evaluated).2.2 (by decide +kernel) (by decide +kernel)

end MatrixSamples

end ProfilePlatform.Certification
