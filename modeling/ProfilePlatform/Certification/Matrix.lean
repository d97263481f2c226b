import Mathlib.Data.String.Basic
import ProfilePlatform.Foundation.Fallible
import ProfilePlatform.Foundation.Frames
import ProfilePlatform.Foundation.OrderedMap
import ProfilePlatform.Foundation.Sorting
import ProfilePlatform.Primitives

/-! The certification of a policy against a matrix of observed signals. -/

set_option autoImplicit false

namespace ProfilePlatform.Certification

open Foundation

abbrev Bytes : Type := List UInt8

def minSignalNameBytes : Nat := 3
def maxSignalNameBytes : Nat := 96

def matrixSchema : Bytes := utf8Bytes "profile-platform-certification-matrix-v1"

/-- The number of values of thirty-two bits. -/
def u32Limit : Nat := 0x100000000

inductive MatrixError where
  | invalidTolerance
  | invalidPolicy
  | duplicateSignal
  | invalidObservationSequence
  | emptyObservationMatrix
  | duplicateObservationSequence
  | unknownSignal
  | counterOverflow
  deriving DecidableEq, Repr

/-- Lowercase ASCII letters, digits, '.', '-' and '_'. -/
def isSignalByte (byte : UInt8) : Bool :=
  (97 ≤ byte && byte ≤ 122) || (48 ≤ byte && byte ≤ 57) || byte == 46 || byte == 45 || byte == 95

def acceptsSignalName (value : String) : Bool :=
  minSignalNameBytes ≤ (utf8Bytes value).length && (utf8Bytes value).length ≤ maxSignalNameBytes &&
    (utf8Bytes value).all isSignalByte

structure SignalName where
  asStr : String
  accepted : acceptsSignalName asStr = true

theorem SignalName.asStr_injective : Function.Injective SignalName.asStr := by
  intro left right same
  cases left
  cases right
  cases same
  rfl

instance : LinearOrder SignalName := LinearOrder.lift' SignalName.asStr SignalName.asStr_injective

inductive SignalRequirement where
  | required | optional | prohibited
  deriving DecidableEq, Repr

def SignalRequirement.code : SignalRequirement → UInt8
  | .required => 1
  | .optional => 2
  | .prohibited => 3

/-- A rule tolerates nothing of a prohibited signal. -/
structure SignalRule where
  name : SignalName
  requirement : SignalRequirement
  tolerance : UInt64
  strict : requirement = .prohibited → tolerance = 0

def SignalRule.new (name : SignalName) (requirement : SignalRequirement) (tolerance : UInt64) :
    Except MatrixError SignalRule :=
  if strict : requirement = .prohibited → tolerance = 0 then .ok ⟨name, requirement, tolerance, strict⟩
  else .error .invalidTolerance

/-- The next count, as long as it has thirty-two bits. -/
def counted (count : Nat) : Except MatrixError Nat :=
  if count + 1 < u32Limit then .ok (count + 1) else .error .counterOverflow

section Policy

structure CertificationPolicy where
  version : UInt32
  rules : OrderedMap SignalName SignalRule
  versioned : version ≠ 0
  named : ∀ entry ∈ rules.entries, entry.2.name = entry.1
  requires : ∃ rule ∈ rules.values, rule.requirement = .required

/-- How many rules are required so far, and the rules under their names. -/
abbrev Indexed : Type := Nat × OrderedMap SignalName SignalRule

def countIfRequired (count : Nat) (rule : SignalRule) : Except MatrixError Nat :=
  if rule.requirement = .required then counted count else .ok count

def indexRule (indexed : Indexed) (rule : SignalRule) : Except MatrixError Indexed := do
  let required ← countIfRequired indexed.1 rule
  let rules ← okOr (indexed.2.insertNew rule.name rule) .duplicateSignal
  return (required, rules)

theorem counted_eq_ok {count next : Nat} :
    counted count = .ok next ↔ next = count + 1 ∧ next < u32Limit := by
  unfold counted
  split
  next fits =>
    rw [Except.ok.injEq]
    exact ⟨fun same => ⟨same.symm, same ▸ fits⟩, fun same => same.1.symm⟩
  next wide =>
    refine ⟨nofun, ?_⟩
    rintro ⟨rfl, fits⟩
    exact absurd fits wide

def named (rules : List SignalRule) : List (SignalName × SignalRule) :=
  rules.map fun rule => (rule.name, rule)

def countRequired (rules : List SignalRule) : Nat :=
  rules.countP fun rule => rule.requirement = .required

theorem countIfRequired_eq_ok {count next : Nat} {rule : SignalRule} :
    countIfRequired count rule = .ok next ↔ next = count + countRequired [rule] ∧
      (rule.requirement = .required → next < u32Limit) := by
  unfold countIfRequired
  by_cases required : rule.requirement = .required
  · have one : countRequired [rule] = 1 := by simp [countRequired, required]
    rw [if_pos required, counted_eq_ok, one]
    exact ⟨fun told => ⟨told.1, fun _ => told.2⟩, fun told => ⟨told.1, told.2 required⟩⟩
  · have none_more : countRequired [rule] = 0 := by simp [countRequired, required]
    rw [if_neg required, Except.ok.injEq, none_more]
    exact ⟨fun same => ⟨same.symm, fun asked => absurd asked required⟩, fun told => told.1.symm⟩

theorem indexRule_eq_ok {indexed after : Indexed} {rule : SignalRule} :
    indexRule indexed rule = .ok after ↔ indexed.2.insertNew rule.name rule = some after.2 ∧
      after.1 = indexed.1 + countRequired [rule] ∧
      (rule.requirement = .required → after.1 < u32Limit) := by
  constructor
  · intro told
    obtain ⟨required, counted, onward⟩ := bind_eq_ok.mp told
    obtain ⟨rules, placed, same⟩ := bind_eq_ok.mp onward
    obtain ⟨sum, fits⟩ := countIfRequired_eq_ok.mp counted
    cases Except.ok.inj same
    exact ⟨okOr_eq_ok.mp placed, sum, fits⟩
  · rintro ⟨placed, sum, fits⟩
    exact bind_eq_ok.mpr ⟨after.1, countIfRequired_eq_ok.mpr ⟨sum, fits⟩,
      bind_eq_ok.mpr ⟨after.2, okOr_eq_ok.mpr placed, rfl⟩⟩

/-- A loop over the rules keeps each under its name, and counts those that are required. -/
theorem indexRule_loop {rules : List SignalRule} {indexed : Indexed}
    (loop : rules.foldlM indexRule (0, .empty) = .ok indexed) :
    indexed.2.entries.Perm (named rules) ∧ indexed.1 = countRequired rules := by
  refine foldlM_keeps loop (fun gone indexed => indexed.2.entries.Perm (named gone) ∧
    indexed.1 = countRequired gone) ⟨List.Perm.refl _, rfl⟩ ?_
  rintro gone rule _ before after - ⟨perm, count⟩ turn
  obtain ⟨placed, same, -⟩ := indexRule_eq_ok.mp turn
  constructor
  · rw [named, List.map_append]
    refine (OrderedMap.perm_of_insertNew placed).trans ((perm.cons _).trans ?_)
    exact (List.perm_append_singleton _ _).symm
  · rw [same, count, countRequired, countRequired, countRequired, List.countP_append]

theorem named_of_loop {rules : List SignalRule} {indexed : Indexed}
    (loop : rules.foldlM indexRule (0, .empty) = .ok indexed) :
    ∀ entry ∈ indexed.2.entries, entry.2.name = entry.1 := by
  intro entry member
  obtain ⟨rule, -, rfl⟩ := List.mem_map.mp ((indexRule_loop loop).1.mem_iff.mp member)
  rfl

theorem requires_of_loop {rules : List SignalRule} {indexed : Indexed}
    (loop : rules.foldlM indexRule (0, .empty) = .ok indexed) (some_ : indexed.1 ≠ 0) :
    ∃ rule ∈ indexed.2.values, rule.requirement = .required := by
  obtain ⟨perm, count⟩ := indexRule_loop loop
  rw [count, countRequired, ← Nat.pos_iff_ne_zero, List.countP_pos_iff] at some_
  obtain ⟨rule, listed, required⟩ := some_
  refine ⟨rule, ?_, of_decide_eq_true required⟩
  exact List.mem_map.mpr ⟨(rule.name, rule), perm.mem_iff.mpr (List.mem_map_of_mem listed), rfl⟩

def CertificationPolicy.new (version : UInt32) (rules : List SignalRule) :
    Except MatrixError CertificationPolicy :=
  if versioned : version = 0 ∨ rules = [] then .error .invalidPolicy
  else match loop : rules.foldlM indexRule (0, .empty) with
    | .error why => .error why
    | .ok indexed =>
      if requires : indexed.1 = 0 then .error .invalidPolicy
      else .ok ⟨version, indexed.2, fun zero => versioned (.inl zero), named_of_loop loop,
        requires_of_loop loop requires⟩

end Policy

structure ObservationSet where
  sequence : UInt32
  values : OrderedMap SignalName Int64
  numbered : sequence ≠ 0

def ObservationSet.new (sequence : UInt32) (values : List (SignalName × Int64)) :
    Except MatrixError ObservationSet :=
  if numbered : sequence = 0 then .error .invalidObservationSequence
  else match OrderedMap.ofList? values with
    | some values => .ok ⟨sequence, values, numbered⟩
    | none => .error .duplicateSignal

section Evaluation

inductive CertificationOutcome where
  | stable | drifted | incomplete | prohibited
  deriving DecidableEq, Repr

structure Counters where
  evaluatedSignals : Nat
  driftedSignals : Nat
  missingRequiredSignals : Nat
  prohibitedSignals : Nat
  deriving DecidableEq

structure CertificationReport where
  policyVersion : UInt32
  observationCount : Nat
  counters : Counters
  outcome : CertificationOutcome
  matrixDigest : Bytes
  deriving DecidableEq

variable (policy : CertificationPolicy)

/-- The sequences gone through so far, with that of the observation among them. -/
def checkObservation (sequences : List UInt32) (observation : ObservationSet) :
    Except MatrixError (List UInt32) := do
  refuseIf (observation.sequence ∈ sequences) .duplicateObservationSequence
  observation.values.keys.forM fun name => refuseIf (policy.rules.get? name).isNone .unknownSignal
  return observation.sequence :: sequences

/-- A number of a hundred and twenty-eight bits with a sign. -/
def i128 (value : Int) : Int := value.bmod 340282366920938463463374607431768211456

def exceedsTolerance (values : List Int64) (tolerance : UInt64) : Except MatrixError Bool := do
  let minimum ← okOr (values.map Int64.toInt).min? .emptyObservationMatrix
  let maximum ← okOr (values.map Int64.toInt).max? .emptyObservationMatrix
  let delta := i128 (maximum - minimum)
  refuseIf (delta < 0) .counterOverflow
  return tolerance.toNat < delta.toNat

def observed (observations : List ObservationSet) (name : SignalName) : List Int64 :=
  observations.filterMap fun observation => observation.values.get? name

def countEvaluated (counters : Counters) (values : List Int64) (tolerance : UInt64) :
    Except MatrixError Counters := do
  let evaluatedSignals ← counted counters.evaluatedSignals
  if ← exceedsTolerance values tolerance then
    let driftedSignals ← counted counters.driftedSignals
    return { counters with evaluatedSignals, driftedSignals }
  else
    return { counters with evaluatedSignals }

def countRule (ordered : List ObservationSet) (counters : Counters) (rule : SignalRule) :
    Except MatrixError Counters :=
  let values := observed ordered rule.name
  match rule.requirement with
  | .prohibited =>
    if values.isEmpty then .ok counters
    else do
      let prohibitedSignals ← counted counters.prohibitedSignals
      return { counters with prohibitedSignals }
  | .required =>
    if values.length ≠ ordered.length then do
      let missingRequiredSignals ← counted counters.missingRequiredSignals
      return { counters with missingRequiredSignals }
    else countEvaluated counters values rule.tolerance
  | .optional =>
    if values.isEmpty then .ok counters
    else countEvaluated counters values rule.tolerance

def outcomeOf (counters : Counters) : CertificationOutcome :=
  if 0 < counters.prohibitedSignals then .prohibited
  else if 0 < counters.missingRequiredSignals then .incomplete
  else if 0 < counters.driftedSignals then .drifted
  else .stable

end Evaluation

section Digest

/-- A length of thirty-two bits. -/
def count32 (length : Nat) : Except MatrixError Bytes :=
  if length < u32Limit then .ok (bigEndian 4 length) else .error .counterOverflow

def lengthPrefixed (value : Bytes) : Except MatrixError Bytes := do
  let length ← count32 value.length
  return length ++ value

def ruleBytes (rule : SignalRule) : Except MatrixError Bytes := do
  let name ← lengthPrefixed (utf8Bytes rule.name.asStr)
  return name ++ [rule.requirement.code] ++ bigEndian 8 rule.tolerance.toNat

def valueBytes (entry : SignalName × Int64) : Except MatrixError Bytes := do
  let name ← lengthPrefixed (utf8Bytes entry.1.asStr)
  return name ++ bigEndian 8 entry.2.toUInt64.toNat

def observationBytes (observation : ObservationSet) : Except MatrixError Bytes := do
  let length ← count32 observation.values.entries.length
  let values ← observation.values.entries.mapM valueBytes
  return bigEndian 4 observation.sequence.toNat ++ length ++ values.flatten

/-- The bytes that the digest of the matrix is taken of. -/
def matrixBytes (policy : CertificationPolicy) (observations : List ObservationSet) :
    Except MatrixError Bytes := do
  let rules ← count32 policy.rules.entries.length
  let ruled ← policy.rules.values.mapM ruleBytes
  let length ← count32 observations.length
  let observed ← observations.mapM observationBytes
  return matrixSchema ++ bigEndian 4 policy.version.toNat ++ rules ++ ruled.flatten ++ length ++
    observed.flatten

end Digest

def evaluateCertification (sha256 : Bytes → Block 32) (policy : CertificationPolicy)
    (observations : List ObservationSet) : Except MatrixError CertificationReport := do
  refuseIf (observations = []) .emptyObservationMatrix
  let ordered := sortBy (fun observation => observation.sequence.toNat) observations
  let _ ← ordered.foldlM (checkObservation policy) []
  let counters ← policy.rules.values.foldlM (countRule ordered) ⟨0, 0, 0, 0⟩
  refuseIf (u32Limit ≤ ordered.length) .counterOverflow
  let bytes ← matrixBytes policy ordered
  return ⟨policy.version, ordered.length, counters, outcomeOf counters, (sha256 bytes).val⟩

end ProfilePlatform.Certification
