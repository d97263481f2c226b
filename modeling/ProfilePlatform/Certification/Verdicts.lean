import ProfilePlatform.Certification.Matrix
import ProfilePlatform.Foundation.Reasons

/-! What an evaluation finds, whatever the order of the observations, of their values and of the
rules. -/

set_option autoImplicit false

namespace ProfilePlatform.Certification

open Foundation

section Tolerance

/-- Two of the values are further apart than is tolerated. -/
def Exceeds (values : List Int64) (tolerance : UInt64) : Prop :=
  ∃ low ∈ values, ∃ high ∈ values, (tolerance.toNat : Int) < high.toInt - low.toInt

instance (values : List Int64) (tolerance : UInt64) : Decidable (Exceeds values tolerance) :=
  inferInstanceAs (Decidable (∃ low ∈ values, _))

theorem i128_difference (left right : Int64) :
    i128 (left.toInt - right.toInt) = left.toInt - right.toInt := by
  have := left.le_toInt
  have := left.toInt_lt
  have := right.le_toInt
  have := right.toInt_lt
  unfold i128
  rw [Int.bmod_eq_of_le (by omega) (by omega)]

/-- The widest difference tells whether there is one that is too wide, and it never overflows. -/
theorem exceedsTolerance_eq {values : List Int64} (some_ : values ≠ []) (tolerance : UInt64) :
    exceedsTolerance values tolerance = .ok (decide (Exceeds values tolerance)) := by
  have occupied : values.map Int64.toInt ≠ [] := by simpa using some_
  obtain ⟨minimum, least⟩ := Option.isSome_iff_exists.mp (List.isSome_min?_iff.mpr occupied)
  obtain ⟨maximum, most⟩ := Option.isSome_iff_exists.mp (List.isSome_max?_iff.mpr occupied)
  obtain ⟨lowest, below⟩ := List.min?_eq_some_iff.mp least
  obtain ⟨highest, above⟩ := List.max?_eq_some_iff.mp most
  obtain ⟨low, lowListed, rfl⟩ := List.mem_map.mp lowest
  obtain ⟨high, highListed, rfl⟩ := List.mem_map.mp highest
  have ordered : low.toInt ≤ high.toInt := below _ highest
  have exact : tolerance.toNat < (high.toInt - low.toInt).toNat ↔ Exceeds values tolerance := by
    constructor
    · intro wide
      exact ⟨low, lowListed, high, highListed, by omega⟩
    · rintro ⟨other, listed, another, also, wide⟩
      have := below _ (List.mem_map_of_mem listed)
      have := above _ (List.mem_map_of_mem also)
      omega
  unfold exceedsTolerance
  rw [least, most]
  refine bind_eq_ok.mpr ⟨low.toInt, rfl, bind_eq_ok.mpr ⟨high.toInt, rfl, bind_eq_ok.mpr ⟨(), ?_, ?_⟩⟩⟩
  · rw [i128_difference]
    exact refuseIf_passes (by omega)
  · rw [i128_difference]
    exact congrArg Except.ok (decide_eq_decide.mpr exact)

end Tolerance

section Rules

variable (observations : List ObservationSet) (rule : SignalRule)

/-- Some observation has the signal. -/
def Seen : Prop := ∃ observation ∈ observations, rule.name ∈ observation.values.keys

/-- Some observation lacks the signal. -/
def Missed : Prop := ∃ observation ∈ observations, rule.name ∉ observation.values.keys

/-- Two observed values of the signal are further apart than the rule tolerates. -/
def Spread : Prop :=
  ∃ one ∈ observations, ∃ low ∈ one.values.get? rule.name,
    ∃ other ∈ observations, ∃ high ∈ other.values.get? rule.name,
      (rule.tolerance.toNat : Int) < high.toInt - low.toInt

instance : Decidable (Seen observations rule) :=
  inferInstanceAs (Decidable (∃ observation ∈ observations, _))

instance : Decidable (Missed observations rule) :=
  inferInstanceAs (Decidable (∃ observation ∈ observations, _))

instance : Decidable (Spread observations rule) :=
  inferInstanceAs (Decidable (∃ one ∈ observations, ∃ low ∈ one.values.get? rule.name,
    ∃ other ∈ observations, ∃ high ∈ other.values.get? rule.name, _))

variable {observations rule}

theorem mem_observed {value : Int64} : value ∈ observed observations rule.name ↔
    ∃ observation ∈ observations, value ∈ observation.values.get? rule.name := by
  simp [observed, List.mem_filterMap]

theorem isSome_get? {observation : ObservationSet} :
    (observation.values.get? rule.name).isSome = true ↔ rule.name ∈ observation.values.keys := by
  rw [← Option.ne_none_iff_isSome, ne_eq, OrderedMap.get?_eq_none, not_not]

theorem observed_ne_nil : observed observations rule.name ≠ [] ↔ Seen observations rule := by
  unfold observed Seen
  rw [ne_eq, List.filterMap_eq_nil_iff]
  simp only [← isSome_get?, Option.isSome_iff_ne_none, not_forall, exists_prop]

theorem length_observed :
    (observed observations rule.name).length ≠ observations.length ↔ Missed observations rule := by
  have shorter := List.length_filterMap_le (fun observation : ObservationSet =>
    observation.values.get? rule.name) observations
  have missing : (observed observations rule.name).length ≠ observations.length ↔
      (observed observations rule.name).length < observations.length := by
    unfold observed
    omega
  rw [missing, observed, List.length_filterMap_lt_length_iff_exists]
  simp only [Missed, OrderedMap.get?_eq_none, exists_prop]

theorem exceeds_observed : Exceeds (observed observations rule.name) rule.tolerance ↔
    Spread observations rule := by
  unfold Exceeds Spread
  simp only [mem_observed]
  constructor
  · rintro ⟨low, ⟨one, listed, first⟩, high, ⟨other, also, second⟩, wide⟩
    exact ⟨one, listed, low, first, other, also, high, second, wide⟩
  · rintro ⟨one, listed, low, first, other, also, high, second, wide⟩
    exact ⟨low, ⟨one, listed, first⟩, high, ⟨other, also, second⟩, wide⟩

end Rules

section Counting

/-- The spread is looked at where every set has a required signal, or some set an optional one. -/
def Judged (observations : List ObservationSet) (rule : SignalRule) : Prop :=
  rule.requirement = .required ∧ ¬Missed observations rule ∨
    rule.requirement = .optional ∧ Seen observations rule

instance (observations : List ObservationSet) (rule : SignalRule) :
    Decidable (Judged observations rule) := inferInstanceAs (Decidable (_ ∨ _))

def tally (observations : List ObservationSet) (rules : List SignalRule) : Counters where
  evaluatedSignals := rules.countP fun rule => Judged observations rule
  driftedSignals := rules.countP fun rule => Judged observations rule ∧ Spread observations rule
  missingRequiredSignals := rules.countP fun rule =>
    rule.requirement = .required ∧ Missed observations rule
  prohibitedSignals := rules.countP fun rule =>
    rule.requirement = .prohibited ∧ Seen observations rule

def Counters.plus (counters more : Counters) : Counters :=
  ⟨counters.evaluatedSignals + more.evaluatedSignals, counters.driftedSignals + more.driftedSignals,
    counters.missingRequiredSignals + more.missingRequiredSignals,
    counters.prohibitedSignals + more.prohibitedSignals⟩

/-- Some counter has no room for one more. -/
def Counters.Full (counters : Counters) : Prop :=
  u32Limit ≤ counters.evaluatedSignals + 1 ∨ u32Limit ≤ counters.driftedSignals + 1 ∨
    u32Limit ≤ counters.missingRequiredSignals + 1 ∨ u32Limit ≤ counters.prohibitedSignals + 1

variable {ordered : List ObservationSet} {counters : Counters} {rule : SignalRule}

theorem counted_cases (count : Nat) : counted count = .ok (count + 1) ∨
    counted count = .error .counterOverflow ∧ u32Limit ≤ count + 1 := by
  unfold counted
  split
  · exact .inl rfl
  next wide => exact .inr ⟨rfl, by omega⟩

theorem countEvaluated_cases {values : List Int64} (some_ : values ≠ []) (tolerance : UInt64) :
    countEvaluated counters values tolerance = .ok (counters.plus
      ⟨1, if Exceeds values tolerance then 1 else 0, 0, 0⟩) ∨
    countEvaluated counters values tolerance = .error .counterOverflow ∧ counters.Full := by
  unfold countEvaluated
  rcases counted_cases counters.evaluatedSignals with evaluated | ⟨evaluated, full⟩
  · rw [evaluated, exceedsTolerance_eq some_]
    by_cases exceeds : Exceeds values tolerance
    · rcases counted_cases counters.driftedSignals with drifted | ⟨drifted, full⟩
      · refine .inl ?_
        simp only [exceeds, decide_true, bind, Except.bind, drifted]
        rfl
      · refine .inr ⟨?_, .inr (.inl full)⟩
        simp only [exceeds, decide_true, bind, Except.bind, drifted]
        rfl
    · refine .inl ?_
      simp only [exceeds, decide_false, bind, Except.bind]
      rfl
  · rw [evaluated]
    exact .inr ⟨rfl, .inl full⟩

theorem countRule_cases (some_ : ordered ≠ []) :
    countRule ordered counters rule = .ok (counters.plus (tally ordered [rule])) ∨
    countRule ordered counters rule = .error .counterOverflow ∧ counters.Full := by
  have seen : (observed ordered rule.name).isEmpty = true ↔ ¬Seen ordered rule := by
    rw [← observed_ne_nil, not_not, List.isEmpty_iff]
  unfold countRule
  cases kind : rule.requirement with
  | prohibited =>
    by_cases present : Seen ordered rule
    · have told : tally ordered [rule] = ⟨0, 0, 0, 1⟩ := by simp [tally, Judged, kind, present]
      rw [told]
      dsimp only
      rw [if_neg (by rw [seen, not_not]; exact present)]
      rcases counted_cases counters.prohibitedSignals with made | ⟨made, full⟩
      · rw [made]
        exact .inl rfl
      · rw [made]
        exact .inr ⟨rfl, .inr (.inr (.inr full))⟩
    · have told : tally ordered [rule] = ⟨0, 0, 0, 0⟩ := by simp [tally, Judged, kind, present]
      rw [told]
      dsimp only
      rw [if_pos (seen.mpr present)]
      exact .inl rfl
  | required =>
    dsimp only
    by_cases lacking : Missed ordered rule
    · have told : tally ordered [rule] = ⟨0, 0, 1, 0⟩ := by simp [tally, Judged, kind, lacking]
      rw [told, if_pos (length_observed.mpr lacking)]
      rcases counted_cases counters.missingRequiredSignals with made | ⟨made, full⟩
      · rw [made]
        exact .inl rfl
      · rw [made]
        exact .inr ⟨rfl, .inr (.inr (.inl full))⟩
    · have told : tally ordered [rule] = ⟨1, if Spread ordered rule then 1 else 0, 0, 0⟩ := by
        simp [tally, Judged, kind, lacking, List.countP_cons]
      have occupied : observed ordered rule.name ≠ [] := by
        have whole := not_not.mp fun other => lacking (length_observed.mp other)
        rw [← List.length_pos_iff, whole, List.length_pos_iff]
        exact some_
      rw [told, if_neg fun other => lacking (length_observed.mp other)]
      simp only [← exceeds_observed]
      exact countEvaluated_cases occupied rule.tolerance
  | optional =>
    dsimp only
    by_cases present : Seen ordered rule
    · have told : tally ordered [rule] = ⟨1, if Spread ordered rule then 1 else 0, 0, 0⟩ := by
        simp [tally, Judged, kind, present, List.countP_cons]
      rw [told, if_neg (by rw [seen, not_not]; exact present)]
      simp only [← exceeds_observed]
      exact countEvaluated_cases (observed_ne_nil.mpr present) rule.tolerance
    · have told : tally ordered [rule] = ⟨0, 0, 0, 0⟩ := by simp [tally, Judged, kind, present]
      rw [told, if_pos (seen.mpr present)]
      exact .inl rfl

theorem tally_append (gone : List SignalRule) (rule : SignalRule) :
    (tally ordered gone).plus (tally ordered [rule]) = tally ordered (gone ++ [rule]) := by
  simp only [tally, Counters.plus, List.countP_append]

theorem tally_full {gone : List SignalRule} (full : (tally ordered gone).Full) :
    u32Limit ≤ gone.length + 1 := by
  have bound (some_ : SignalRule → Bool) : gone.countP some_ ≤ gone.length := List.countP_le_length
  simp only [Counters.Full, tally] at full
  have := bound fun rule => Judged ordered rule
  have := bound fun rule => Judged ordered rule ∧ Spread ordered rule
  have := bound fun rule => rule.requirement = .required ∧ Missed ordered rule
  have := bound fun rule => rule.requirement = .prohibited ∧ Seen ordered rule
  omega

/-- The loop counts every rule once, or there are more rules than can be counted. -/
theorem countRule_loop (some_ : ordered ≠ []) (rules : List SignalRule) :
    rules.foldlM (countRule ordered) ⟨0, 0, 0, 0⟩ = .ok (tally ordered rules) ∨
    rules.foldlM (countRule ordered) ⟨0, 0, 0, 0⟩ = .error .counterOverflow ∧
      u32Limit ≤ rules.length := by
  suffices turns : ∀ rest gone, rules = gone ++ rest →
      rest.foldlM (countRule ordered) (tally ordered gone) = .ok (tally ordered rules) ∨
      rest.foldlM (countRule ordered) (tally ordered gone) = .error .counterOverflow ∧
        u32Limit ≤ rules.length from turns rules [] rfl
  intro rest
  induction rest with
  | nil =>
    intro gone same
    rw [List.append_nil] at same
    exact .inl (same ▸ rfl)
  | cons rule rest ih =>
    intro gone same
    rw [List.foldlM_cons]
    rcases countRule_cases some_ with turn | ⟨turn, full⟩
    · rw [turn, tally_append]
      exact ih (gone ++ [rule]) (by rw [same, ← List.append_cons])
    · rw [turn]
      refine .inr ⟨rfl, ?_⟩
      have many := tally_full full
      rw [same, List.length_append, List.length_cons]
      omega

end Counting

section Checks

/-- What is wrong with the observations as such. -/
def Unreadable (policy : CertificationPolicy) (observations : List ObservationSet) (why : MatrixError) :
    Prop :=
  why = .duplicateObservationSequence ∧ ¬(observations.map ObservationSet.sequence).Nodup ∨
    why = .unknownSignal ∧ ∃ observation ∈ observations, ∃ name ∈ observation.values.keys,
      name ∉ policy.rules.keys

variable {policy : CertificationPolicy} {sequences : List UInt32} {observation : ObservationSet}

theorem known_settles (names : List SignalName) :
    Settles (names.forM fun name => refuseIf (policy.rules.get? name).isNone .unknownSignal)
      fun why => why = MatrixError.unknownSignal ∧ ∃ name ∈ names, name ∉ policy.rules.keys := by
  refine (Settles.forM (fun _ => Settles.refuseIf _ _) names).mono fun why => ?_
  simp only [Option.isNone_iff_eq_none, OrderedMap.get?_eq_none]
  constructor
  · rintro ⟨name, member, same, absent⟩
    exact ⟨same, name, member, absent⟩
  · rintro ⟨same, name, member, absent⟩
    exact ⟨name, member, same, absent⟩

theorem checkObservation_settles :
    Settles (checkObservation policy sequences observation) fun why =>
      why = .duplicateObservationSequence ∧ observation.sequence ∈ sequences ∨
      why = .unknownSignal ∧ ∃ name ∈ observation.values.keys, name ∉ policy.rules.keys := by
  unfold checkObservation
  refine ((Settles.refuseIf _ _).bind fun _ _ => (known_settles _).bind fun _ _ =>
    .done _).mono fun why => ?_
  rw [or_false]

theorem checkObservation_eq_ok {after : List UInt32}
    (checked : checkObservation policy sequences observation = .ok after) :
    after = observation.sequence :: sequences := by
  obtain ⟨_, -, rest⟩ := bind_eq_ok.mp checked
  obtain ⟨_, -, made⟩ := bind_eq_ok.mp rest
  cases made
  rfl

theorem checkObservations_settles (observations : List ObservationSet) :
    Settles (observations.foldlM (checkObservation policy) []) (Unreadable policy observations) := by
  suffices all : ∀ (rest : List ObservationSet) (sequences : List UInt32), sequences.Nodup →
      Settles (rest.foldlM (checkObservation policy) sequences) fun why =>
        why = .duplicateObservationSequence ∧ ¬(sequences ++ rest.map ObservationSet.sequence).Nodup ∨
        why = .unknownSignal ∧ ∃ observation ∈ rest, ∃ name ∈ observation.values.keys,
          name ∉ policy.rules.keys from all observations [] List.nodup_nil
  intro rest
  induction rest with
  | nil =>
    intro sequences distinct
    refine .ok fun why => ?_
    simp [distinct]
  | cons observation rest ih =>
    intro sequences distinct
    rw [List.foldlM_cons]
    have later : ∀ after, checkObservation policy sequences observation = .ok after →
        Settles (rest.foldlM (checkObservation policy) after) fun why =>
          why = .duplicateObservationSequence ∧
            ¬(observation.sequence :: sequences ++ rest.map ObservationSet.sequence).Nodup ∨
          why = .unknownSignal ∧ ∃ observation ∈ rest, ∃ name ∈ observation.values.keys,
            name ∉ policy.rules.keys := by
      intro after checked
      have fresh : observation.sequence ∉ sequences := fun member =>
        checkObservation_settles.passed _ checked _ (.inl ⟨rfl, member⟩)
      rw [checkObservation_eq_ok checked]
      exact ih _ (List.nodup_cons.mpr ⟨fresh, distinct⟩)
    refine (checkObservation_settles.bind later).mono fun why => ?_
    have moved : (sequences ++ (observation :: rest).map ObservationSet.sequence).Nodup ↔
        (observation.sequence :: sequences ++ rest.map ObservationSet.sequence).Nodup :=
      List.perm_middle.nodup_iff
    have repeated : observation.sequence ∈ sequences →
        ¬(observation.sequence :: sequences ++ rest.map ObservationSet.sequence).Nodup :=
      fun member distinct => (List.nodup_cons.mp distinct).1 (List.mem_append_left _ member)
    rw [moved, List.exists_mem_cons_iff]
    constructor
    · rintro ((⟨rfl, member⟩ | ⟨rfl, unknown⟩) | ⟨rfl, again⟩ | ⟨rfl, unknown⟩)
      · exact .inl ⟨rfl, repeated member⟩
      · exact .inr ⟨rfl, .inl unknown⟩
      · exact .inl ⟨rfl, again⟩
      · exact .inr ⟨rfl, .inr unknown⟩
    · rintro (⟨rfl, again⟩ | ⟨rfl, unknown | unknown⟩)
      · exact .inr (.inl ⟨rfl, again⟩)
      · exact .inl (.inr ⟨rfl, unknown⟩)
      · exact .inr (.inr ⟨rfl, unknown⟩)

end Checks

section Bytes

/-- Some number of entries does not fit in thirty-two bits. -/
def TooMany (policy : CertificationPolicy) (observations : List ObservationSet) : Prop :=
  u32Limit ≤ policy.rules.entries.length ∨ u32Limit ≤ observations.length ∨
    ∃ observation ∈ observations, u32Limit ≤ observation.values.entries.length

def ruleCode (rule : SignalRule) : Bytes :=
  frame 4 (utf8Bytes rule.name.asStr) ++ (rule.requirement.code :: bigEndian 8 rule.tolerance.toNat)

def valueCode (entry : SignalName × Int64) : Bytes :=
  frame 4 (utf8Bytes entry.1.asStr) ++ bigEndian 8 entry.2.toUInt64.toNat

def observationCode (observation : ObservationSet) : Bytes :=
  bigEndian 4 observation.sequence.toNat ++ (bigEndian 4 observation.values.entries.length ++
    observation.values.entries.flatMap valueCode)

def matrixCode (policy : CertificationPolicy) (observations : List ObservationSet) : Bytes :=
  matrixSchema ++ (bigEndian 4 policy.version.toNat ++ (bigEndian 4 policy.rules.entries.length ++
    (policy.rules.values.flatMap ruleCode ++ (bigEndian 4 observations.length ++
      observations.flatMap observationCode))))

theorem lengthPrefixed_name (name : SignalName) :
    lengthPrefixed (utf8Bytes name.asStr) = .ok (frame 4 (utf8Bytes name.asStr)) := by
  have accepted := name.accepted
  simp only [acceptsSignalName, Bool.and_eq_true, decide_eq_true_eq] at accepted
  have short : (utf8Bytes name.asStr).length < u32Limit :=
    Nat.lt_of_le_of_lt accepted.1.2 (by decide)
  unfold lengthPrefixed count32
  rw [if_pos short]
  rfl

theorem ruleBytes_eq (rule : SignalRule) : ruleBytes rule = .ok (ruleCode rule) := by
  unfold ruleBytes
  rw [lengthPrefixed_name]
  exact congrArg Except.ok (List.append_assoc _ _ _)

theorem valueBytes_eq (entry : SignalName × Int64) : valueBytes entry = .ok (valueCode entry) := by
  unfold valueBytes
  rw [lengthPrefixed_name]
  rfl

theorem mapM_ok {A B : Type} {visit : A → Except MatrixError B} {code : A → B}
    (yields : ∀ item, visit item = .ok (code item)) (items : List A) :
    items.mapM visit = .ok (items.map code) := by
  induction items with
  | nil => rfl
  | cons item rest ih =>
    rw [List.mapM_cons, yields, ih]
    rfl

theorem count32_settles (length : Nat) : Settles (count32 length) fun why =>
    why = .counterOverflow ∧ u32Limit ≤ length := by
  unfold count32
  split
  next fits => exact .ok fun _ applies => by omega
  next wide => exact .error ⟨rfl, by omega⟩

theorem count32_eq {length : Nat} {bytes : Bytes} (counted : count32 length = .ok bytes) :
    bytes = bigEndian 4 length := by
  unfold count32 at counted
  split at counted
  · exact (Except.ok.inj counted).symm
  · cases counted

theorem observationBytes_settles (observation : ObservationSet) :
    Settles (observationBytes observation) fun why =>
      why = .counterOverflow ∧ u32Limit ≤ observation.values.entries.length := by
  unfold observationBytes
  rw [mapM_ok valueBytes_eq]
  refine ((count32_settles _).bind fun _ _ => Settles.done _).mono fun why => ?_
  rw [or_false]

theorem observationBytes_eq {observation : ObservationSet} {bytes : Bytes}
    (made : observationBytes observation = .ok bytes) : bytes = observationCode observation := by
  unfold observationBytes at made
  rw [mapM_ok valueBytes_eq] at made
  obtain ⟨length, counted, made⟩ := bind_eq_ok.mp made
  cases made
  rw [count32_eq counted, observationCode, List.flatMap, List.append_assoc]

theorem matrixBytes_settles (policy : CertificationPolicy) (observations : List ObservationSet) :
    Settles (matrixBytes policy observations) fun why =>
      why = .counterOverflow ∧ TooMany policy observations := by
  unfold matrixBytes
  rw [mapM_ok ruleBytes_eq]
  refine ((count32_settles _).bind fun _ _ => (Settles.done _).bind fun _ _ =>
    (count32_settles _).bind fun _ _ => (Settles.mapM observationBytes_settles observations).bind
      fun _ _ => Settles.done _).mono fun why => ?_
  rw [TooMany]
  constructor
  · rintro (⟨rfl, many⟩ | impossible | ⟨rfl, many⟩ | ⟨observation, member, rfl, many⟩ | impossible)
    · exact ⟨rfl, .inl many⟩
    · cases impossible
    · exact ⟨rfl, .inr (.inl many)⟩
    · exact ⟨rfl, .inr (.inr ⟨observation, member, many⟩)⟩
    · cases impossible
  · rintro ⟨rfl, many | many | ⟨observation, member, many⟩⟩
    · exact .inl ⟨rfl, many⟩
    · exact .inr (.inr (.inl ⟨rfl, many⟩))
    · exact .inr (.inr (.inr (.inl ⟨observation, member, rfl, many⟩)))

theorem mapM_eq {A B : Type} {visit : A → Except MatrixError B} {code : A → B}
    (yields : ∀ item value, visit item = .ok value → value = code item) {items : List A} {values : List B}
    (made : items.mapM visit = .ok values) : values = items.map code := by
  induction items generalizing values with
  | nil =>
    cases made
    rfl
  | cons item rest ih =>
    rw [List.mapM_cons] at made
    obtain ⟨value, first, made⟩ := bind_eq_ok.mp made
    obtain ⟨others, later, made⟩ := bind_eq_ok.mp made
    cases made
    rw [yields item value first, ih later, List.map_cons]

theorem matrixBytes_eq {policy : CertificationPolicy} {observations : List ObservationSet} {bytes : Bytes}
    (made : matrixBytes policy observations = .ok bytes) : bytes = matrixCode policy observations := by
  unfold matrixBytes at made
  rw [mapM_ok ruleBytes_eq] at made
  obtain ⟨rules, rulesCounted, made⟩ := bind_eq_ok.mp made
  obtain ⟨_, ruled, made⟩ := bind_eq_ok.mp made
  obtain ⟨length, counted, made⟩ := bind_eq_ok.mp made
  obtain ⟨observed, told, made⟩ := bind_eq_ok.mp made
  cases ruled
  cases made
  rw [mapM_eq (fun _ _ => observationBytes_eq) told, count32_eq rulesCounted, count32_eq counted]
  simp only [matrixCode, List.flatMap, List.append_assoc]

end Bytes

section Evaluation

def inOrder (observations : List ObservationSet) : List ObservationSet :=
  sortBy (fun observation => observation.sequence.toNat) observations

/-- Every reason there is to refuse the matrix. -/
def Applies (policy : CertificationPolicy) (observations : List ObservationSet) (why : MatrixError) :
    Prop :=
  why = .emptyObservationMatrix ∧ observations = [] ∨ Unreadable policy observations why ∨
    why = .counterOverflow ∧ TooMany policy observations

variable {sha256 : Bytes → Block 32} {policy : CertificationPolicy}
  {observations others : List ObservationSet} {report : CertificationReport}

theorem unreadable_perm (perm : observations.Perm others) (why : MatrixError) :
    Unreadable policy observations why ↔ Unreadable policy others why := by
  unfold Unreadable
  rw [(perm.map ObservationSet.sequence).nodup_iff]
  simp only [perm.mem_iff]

theorem tooMany_perm (perm : observations.Perm others) :
    TooMany policy observations ↔ TooMany policy others := by
  unfold TooMany
  rw [perm.length_eq]
  simp only [perm.mem_iff]

theorem applies_perm (perm : observations.Perm others) (why : MatrixError) :
    Applies policy observations why ↔ Applies policy others why := by
  have empty : observations = [] ↔ others = [] := by
    rw [← List.length_eq_zero_iff, perm.length_eq, List.length_eq_zero_iff]
  rw [Applies, Applies, unreadable_perm perm, tooMany_perm perm, empty]

theorem inOrder_perm (observations : List ObservationSet) : (inOrder observations).Perm observations :=
  perm_sortBy _ observations

theorem inOrder_ne_nil (some_ : observations ≠ []) : inOrder observations ≠ [] := by
  rw [← List.length_pos_iff, (inOrder_perm observations).length_eq, List.length_pos_iff]
  exact some_

theorem evaluate_settles (observations : List ObservationSet) :
    Settles (evaluateCertification sha256 policy observations) (Applies policy observations) := by
  have perm := inOrder_perm observations
  by_cases empty : observations = []
  · have refused : evaluateCertification sha256 policy observations = .error .emptyObservationMatrix := by
      unfold evaluateCertification refuseIf
      rw [if_pos empty]
      rfl
    exact refused ▸ Settles.error (.inl ⟨rfl, empty⟩)
  · refine ((Settles.refuseIf _ _).bind fun _ _ => (checkObservations_settles _).bind fun _ _ =>
      (Settles.self _).bind fun _ _ => (Settles.refuseIf _ _).bind fun _ _ =>
        (matrixBytes_settles policy (inOrder observations)).bind fun _ _ => .done _).mono fun why => ?_
    change _ ∨ Unreadable policy (inOrder observations) why ∨ _ ↔ _
    rw [unreadable_perm perm, tooMany_perm perm, Applies]
    constructor
    · rintro (none_ | unreadable | overflow | ⟨rfl, long⟩ | ⟨rfl, many⟩ | impossible)
      · exact .inl none_
      · exact .inr (.inl unreadable)
      · rcases countRule_loop (inOrder_ne_nil empty) policy.rules.values with counts | ⟨failed, many⟩
        · rw [show sortBy _ observations = inOrder observations from rfl, counts] at overflow
          cases overflow
        · rw [show sortBy _ observations = inOrder observations from rfl, failed] at overflow
          cases overflow
          rw [OrderedMap.values, List.length_map] at many
          exact .inr (.inr ⟨rfl, .inl many⟩)
      · have same : (sortBy (fun observation => observation.sequence.toNat) observations).length =
            observations.length := perm.length_eq
        rw [same] at long
        exact .inr (.inr ⟨rfl, .inr (.inl long)⟩)
      · exact .inr (.inr ⟨rfl, many⟩)
      · cases impossible
    · rintro (none_ | unreadable | ⟨rfl, many⟩)
      · exact .inl none_
      · exact .inr (.inl unreadable)
      · exact .inr (.inr (.inr (.inr (.inl ⟨rfl, many⟩))))

theorem evaluate_eq (evaluated : evaluateCertification sha256 policy observations = .ok report) :
    matrixBytes policy (inOrder observations) = .ok (matrixCode policy (inOrder observations)) ∧
    report = ⟨policy.version, observations.length, tally (inOrder observations) policy.rules.values,
      outcomeOf (tally (inOrder observations) policy.rules.values),
      (sha256 (matrixCode policy (inOrder observations))).val⟩ := by
  obtain ⟨_, some_, evaluated⟩ := bind_eq_ok.mp evaluated
  obtain ⟨_, -, evaluated⟩ := bind_eq_ok.mp evaluated
  obtain ⟨counters, counts, evaluated⟩ := bind_eq_ok.mp evaluated
  obtain ⟨_, -, evaluated⟩ := bind_eq_ok.mp evaluated
  obtain ⟨bytes, made, evaluated⟩ := bind_eq_ok.mp evaluated
  have occupied := inOrder_ne_nil (refuseIf_eq_ok.mp some_)
  change policy.rules.values.foldlM (countRule (inOrder observations)) _ = _ at counts
  change matrixBytes policy (inOrder observations) = _ at made
  have coded := matrixBytes_eq made
  subst coded
  refine ⟨made, ?_⟩
  rcases countRule_loop occupied policy.rules.values with counted | ⟨failed, -⟩
  · rw [counted] at counts
    cases counts
    rw [← Except.ok.inj evaluated, (inOrder_perm observations).symm.length_eq]
    rfl
  · rw [failed] at counts
    cases counts

theorem evaluate_perm (perm : observations.Perm others) :
    SameOutcome (Applies policy observations) (evaluateCertification sha256 policy observations)
      (evaluateCertification sha256 policy others) := by
  have opposite : Settles (evaluateCertification sha256 policy others)
      (Applies policy observations) :=
    (evaluate_settles others).mono fun why => (applies_perm perm why).symm
  refine (evaluate_settles observations).sameOutcome opposite fun value more first second => ?_
  have readable := (evaluate_settles observations).passed value first .duplicateObservationSequence
  have distinct : (observations.map fun observation => observation.sequence.toNat).Nodup := by
    have sequences : (observations.map ObservationSet.sequence).Nodup := by
      by_contra repeated
      exact readable (.inr (.inl (.inl ⟨rfl, repeated⟩)))
    have numbers := sequences.map fun (left right : UInt32) same => UInt32.toNat_inj.mp same
    rwa [List.map_map] at numbers
  have same : inOrder observations = inOrder others := sortBy_perm perm distinct
  rw [(evaluate_eq first).2, (evaluate_eq second).2, same, perm.length_eq]

end Evaluation

section Policies

/-- Every reason there is to refuse a policy. -/
def PolicyApplies (version : UInt32) (rules : List SignalRule) (why : MatrixError) : Prop :=
  why = .invalidPolicy ∧ (version = 0 ∨ rules = [] ∨ countRequired rules = 0) ∨
    why = .duplicateSignal ∧ ¬(rules.map SignalRule.name).Nodup ∨
    why = .counterOverflow ∧ u32Limit ≤ countRequired rules

variable {version : UInt32} {rules others : List SignalRule} {policy : CertificationPolicy}

theorem indexRule_settles (indexed : Indexed) (rule : SignalRule) :
    Settles (indexRule indexed rule) fun why =>
      why = .counterOverflow ∧ rule.requirement = .required ∧ u32Limit ≤ indexed.1 + 1 ∨
      why = .duplicateSignal ∧ rule.name ∈ indexed.2.keys := by
  have count : Settles (countIfRequired indexed.1 rule) fun why =>
      why = .counterOverflow ∧ rule.requirement = .required ∧ u32Limit ≤ indexed.1 + 1 := by
    unfold countIfRequired counted
    split
    next required =>
      split
      next fits => exact .ok fun _ ⟨_, _, full⟩ => by omega
      next wide => exact .error ⟨rfl, required, by omega⟩
    next other => exact .ok fun _ ⟨_, required, _⟩ => other required
  have placed : Settles (okOr (indexed.2.insertNew rule.name rule) MatrixError.duplicateSignal)
      fun why => why = .duplicateSignal ∧ rule.name ∈ indexed.2.keys := by
    have absent_iff : indexed.2.insertNew rule.name rule = none ↔ rule.name ∈ indexed.2.keys :=
      OrderedMap.insertNew_eq_none
    rw [← absent_iff]
    cases indexed.2.insertNew rule.name rule with
    | none => exact .error ⟨rfl, rfl⟩
    | some rules => exact .ok fun _ ⟨_, absent⟩ => nomatch absent
  refine (count.bind fun _ _ => placed.bind fun _ _ => .done _).mono fun why => ?_
  rw [or_false]

theorem indexRules_settles (rules : List SignalRule) :
    Settles (rules.foldlM indexRule (0, .empty)) fun why =>
      why = .duplicateSignal ∧ ¬(rules.map SignalRule.name).Nodup ∨
      why = .counterOverflow ∧ u32Limit ≤ countRequired rules := by
  suffices all : ∀ (rest : List SignalRule) (indexed : Indexed), indexed.1 < u32Limit →
      Settles (rest.foldlM indexRule indexed) fun why =>
        why = .duplicateSignal ∧ ¬(indexed.2.keys ++ rest.map SignalRule.name).Nodup ∨
        why = .counterOverflow ∧ u32Limit ≤ indexed.1 + countRequired rest by
    refine (all rules (0, .empty) (by decide)).mono fun why => ?_
    rw [Nat.zero_add]
    rfl
  intro rest
  induction rest with
  | nil =>
    intro indexed small
    refine .ok fun why => ?_
    rintro (⟨-, repeated⟩ | ⟨-, many⟩)
    · exact repeated (by simpa using indexed.2.keys_nodup)
    · exact absurd many (Nat.not_le.mpr small)
  | cons rule rest ih =>
    intro indexed small
    rw [List.foldlM_cons]
    have later : ∀ after, indexRule indexed rule = .ok after →
        Settles (rest.foldlM indexRule after) fun why =>
          why = .duplicateSignal ∧ ¬(rule.name :: indexed.2.keys ++ rest.map SignalRule.name).Nodup ∨
          why = .counterOverflow ∧ u32Limit ≤ indexed.1 + countRequired (rule :: rest) := by
      intro after turn
      obtain ⟨placed, same, fits⟩ := indexRule_eq_ok.mp turn
      have keys : (after.2.keys ++ rest.map SignalRule.name).Perm
          (rule.name :: indexed.2.keys ++ rest.map SignalRule.name) :=
        ((OrderedMap.perm_of_insertNew placed).map Prod.fst).append_right _
      have count : after.1 + countRequired rest = indexed.1 + countRequired (rule :: rest) := by
        simp only [same, countRequired, List.countP_cons, List.countP_nil]
        omega
      have room : after.1 < u32Limit := by
        by_cases required : rule.requirement = .required
        · exact fits required
        · rw [same]
          simpa [countRequired, required] using small
      refine (ih after room).mono fun why => ?_
      rw [keys.nodup_iff, count]
    refine ((indexRule_settles indexed rule).bind later).mono fun why => ?_
    have moved : (indexed.2.keys ++ (rule :: rest).map SignalRule.name).Nodup ↔
        (rule.name :: indexed.2.keys ++ rest.map SignalRule.name).Nodup := List.perm_middle.nodup_iff
    have repeated : rule.name ∈ indexed.2.keys →
        ¬(rule.name :: indexed.2.keys ++ rest.map SignalRule.name).Nodup :=
      fun member distinct => (List.nodup_cons.mp distinct).1 (List.mem_append_left _ member)
    have counts : rule.requirement = .required → 1 ≤ countRequired (rule :: rest) := by
      intro required
      simp [countRequired, required]
    rw [moved]
    constructor
    · rintro ((⟨rfl, required, full⟩ | ⟨rfl, member⟩) | again)
      · have := counts required
        exact .inr ⟨rfl, by omega⟩
      · exact .inl ⟨rfl, repeated member⟩
      · exact again
    · exact .inr

theorem policy_settles (version : UInt32) (rules : List SignalRule) :
    Settles (CertificationPolicy.new version rules) (PolicyApplies version rules) := by
  have looped := indexRules_settles rules
  unfold CertificationPolicy.new
  split
  next invalid =>
    refine .error (.inl ⟨rfl, ?_⟩)
    rcases invalid with zero | empty
    · exact .inl zero
    · exact .inr (.inl empty)
  next valid =>
    split
    next why loop => exact .error (.inr (looped.failed why loop))
    next indexed loop =>
      have count := (indexRule_loop loop).2
      split
      next none_ => exact .error (.inl ⟨rfl, .inr (.inr (count ▸ none_))⟩)
      next some_ =>
        refine .ok fun why => ?_
        rintro (⟨-, zero | empty | unrequired⟩ | other)
        · exact valid (.inl zero)
        · exact valid (.inr empty)
        · exact some_ (count ▸ unrequired)
        · exact looped.passed indexed loop why other

theorem policy_eq (made : CertificationPolicy.new version rules = .ok policy) :
    policy.version = version ∧ policy.rules.entries.Perm (named rules) := by
  unfold CertificationPolicy.new at made
  split at made
  · cases made
  · split at made
    · cases made
    next indexed loop =>
      split at made
      · cases made
      · cases made
        exact ⟨rfl, (indexRule_loop loop).1⟩

theorem policy_ext {other : CertificationPolicy} (versions : policy.version = other.version)
    (rules : policy.rules = other.rules) : policy = other := by
  cases policy
  cases other
  cases versions
  cases rules
  rfl

theorem policy_perm (version : UInt32) (perm : rules.Perm others) :
    SameOutcome (PolicyApplies version rules) (CertificationPolicy.new version rules)
      (CertificationPolicy.new version others) := by
  have same (why : MatrixError) : PolicyApplies version others why ↔ PolicyApplies version rules why := by
    have empty : rules = [] ↔ others = [] := by
      rw [← List.length_eq_zero_iff, perm.length_eq, List.length_eq_zero_iff]
    have count : countRequired rules = countRequired others := perm.countP_eq _
    rw [PolicyApplies, PolicyApplies, empty, count, (perm.map SignalRule.name).nodup_iff]
  refine (policy_settles version rules).sameOutcome ((policy_settles version others).mono same) ?_
  intro policy other first second
  obtain ⟨version, placed⟩ := policy_eq first
  obtain ⟨also, opposite⟩ := policy_eq second
  refine policy_ext (version.trans also.symm) (OrderedMap.eq_of_perm ?_)
  exact placed.trans ((perm.map _).trans opposite.symm)

end Policies

end ProfilePlatform.Certification
