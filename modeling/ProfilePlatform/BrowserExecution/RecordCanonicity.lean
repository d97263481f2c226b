import ProfilePlatform.BrowserExecution.RecordRoundTrip

/-! Round trips of identity records, and when an accepted record is the canonical one. -/

set_option autoImplicit false

namespace ProfilePlatform.BrowserExecution

open Foundation RecordField

variable {values : RecordValues} {record : String} {self : BrowserIdentityManifest}
  {stable : ProfileStableIdentity}

section Acceptance

/-- A record is accepted as native when it is written again as it was, and as profile-stable when
it has all fields and no others. -/
theorem fromCanonicalRecord_eq_ok :
    BrowserIdentityManifest.fromCanonicalRecord record = .ok self ↔
      ∃ values, parseRecord record = .ok values ∧
        ((values.lookup "schema" = some camoufoxRecordSchema ∧ values.length = 7 ∧
            parseNative values = .ok self ∧ self.toCanonicalRecord = record) ∨
          (values.length = recordFieldCount ∧ ∃ stable, self.profileStableIdentity = some stable ∧
            ∀ field ∈ stableTable self stable, Reads values field)) := by
  have other : recordSchema ≠ camoufoxRecordSchema := by decide
  unfold BrowserIdentityManifest.fromCanonicalRecord
  rw [bind_eq_ok]
  refine exists_congr fun values => and_congr Iff.rfl ?_
  rw [bind_eq_ok]
  constructor
  · rintro ⟨schema, named, accepted⟩
    have found := okOr_eq_ok.mp named
    split at accepted
    next native =>
      obtain ⟨_, counted, accepted⟩ := bind_eq_ok.mp accepted
      obtain ⟨identity, parsed, accepted⟩ := bind_eq_ok.mp accepted
      obtain ⟨_, same, accepted⟩ := bind_eq_ok.mp accepted
      cases accepted
      exact .inl ⟨native ▸ found, not_not.mp (refuseIf_eq_ok.mp counted), parsed,
        not_not.mp (refuseIf_eq_ok.mp same)⟩
    next =>
      obtain ⟨_, counted, accepted⟩ := bind_eq_ok.mp accepted
      obtain ⟨again, renamed, accepted⟩ := bind_eq_ok.mp accepted
      obtain ⟨_, same, accepted⟩ := bind_eq_ok.mp accepted
      obtain ⟨stable, identity, fields⟩ := parseProfileStable_eq_ok.mp accepted
      obtain rfl := not_not.mp (refuseIf_eq_ok.mp same)
      refine .inr ⟨not_not.mp (refuseIf_eq_ok.mp counted), stable, identity, ?_⟩
      exact List.forall_mem_cons.mpr ⟨required_eq_ok.mp renamed, fields⟩
  · rintro (⟨found, counted, parsed, same⟩ | ⟨counted, stable, identity, fields⟩)
    · refine ⟨camoufoxRecordSchema, okOr_eq_ok.mpr found, ?_⟩
      rw [if_pos rfl]
      refine bind_eq_ok.mpr ⟨(), refuseIf_passes (not_not_intro counted), ?_⟩
      refine bind_eq_ok.mpr ⟨self, parsed, ?_⟩
      exact bind_eq_ok.mpr ⟨(), refuseIf_passes (not_not_intro same), rfl⟩
    · obtain ⟨schema, fields⟩ := List.forall_mem_cons.mp fields
      have named := required_eq_ok.mpr schema
      refine ⟨recordSchema, named, ?_⟩
      rw [if_neg other]
      refine bind_eq_ok.mpr ⟨(), refuseIf_passes (not_not_intro counted), ?_⟩
      refine bind_eq_ok.mpr ⟨recordSchema, named, ?_⟩
      refine bind_eq_ok.mpr ⟨(), refuseIf_passes (not_not_intro rfl), ?_⟩
      exact parseProfileStable_eq_ok.mpr ⟨stable, identity, fields⟩

theorem parseNative_eq_ok : parseNative values = .ok self ↔
    self.profileStableIdentity = none ∧ ∀ field ∈ commonTable self, Reads values field := by
  have version : ∀ number, Reads values (u32 "compatibility_version" number) ↔
      parseNumber u32FromStr values "compatibility_version" = .ok number :=
    fun _ => parseNumber_eq_ok.symm
  simp only [parseNative, BrowserIdentityManifest.newNative, bind_eq_ok,
    BrowserIdentityManifest.newWithIdentity_eq_ok, commonTable, List.forall_mem_cons, version,
    ← required_eq_ok]
  constructor
  · rintro ⟨_, number, _, policy, _, runtime, _, inventory, _, source, _, config, rfl, rfl, rfl,
      rfl, rfl, rfl, identity⟩
    exact ⟨identity, number, policy, runtime, inventory, source, config, by simp⟩
  · rintro ⟨identity, number, policy, runtime, inventory, source, config, -⟩
    exact ⟨_, number, _, policy, _, runtime, _, inventory, _, source, _, config, rfl, rfl, rfl,
      rfl, rfl, rfl, identity⟩

end Acceptance

section RoundTrip

theorem lawful_stable : ∀ field ∈ stableTable self stable, field.Lawful := by
  refine List.forall_mem_cons.mpr ⟨lawful_exact (by decide), fun field member => ?_⟩
  rcases List.mem_append.mp member with common | part
  · exact lawful_common self field common
  · exact lawful_parts stable field part

theorem lawful_native : ∀ field ∈ nativeTable self, field.Lawful :=
  List.forall_mem_cons.mpr ⟨lawful_exact (by decide), lawful_common self⟩

/-- Lawful fields under keys of a record are well-formed values, in any order. -/
theorem wellFormed_of_lawful {table : List RecordField} (nonempty : values ≠ [])
    (keys : (table.map fun field => (field.key, field.numeric)).Sublist recordKeys)
    (lawful : ∀ field ∈ table, field.Lawful) (perm : values.Perm (table.map entry)) :
    WellFormed values := by
  have named : (table.map entry).map Prod.fst =
      (table.map fun field => (field.key, field.numeric)).map Prod.fst := by
    simp [entry, Function.comp_def]
  refine ⟨nonempty, ?_, ?_⟩
  · rw [(perm.map Prod.fst).nodup_iff, named]
    exact (keys.map Prod.fst).nodup recordKeys_distinct
  · intro pair member
    obtain ⟨field, known, rfl⟩ := List.mem_map.mp (perm.mem_iff.mp member)
    obtain ⟨nameless, separated, plain⟩ := recordKeys_plain _
      (keys.subset (List.mem_map_of_mem known))
    have value := (lawful field known).value
    exact ⟨nameless, value.1, separated, plain, value.2⟩

theorem reads_of_perm {table : List RecordField} (lawful : ∀ field ∈ table, field.Lawful)
    (perm : values.Perm (table.map entry)) (formed : WellFormed values) :
    ∀ field ∈ table, Reads values field := by
  intro field member
  refine ⟨field.text, ?_, (lawful field member).own⟩
  rw [Records.lookup_iff_mem formed.distinct, perm.mem_iff]
  exact List.mem_map_of_mem member

theorem fromCanonicalRecord_perm (identity : self.profileStableIdentity = some stable)
    (perm : values.Perm (stableFields self stable)) :
    BrowserIdentityManifest.fromCanonicalRecord (recordText values) = .ok self := by
  have nonempty : values ≠ [] := by
    rintro rfl
    cases perm.length_eq
  have formed : WellFormed values := @wellFormed_of_lawful values (stableTable self stable)
    nonempty (List.Sublist.refl _) lawful_stable perm
  refine fromCanonicalRecord_eq_ok.mpr ⟨values, parseRecord_eq_ok.mpr ⟨rfl, formed⟩, .inr ?_⟩
  exact ⟨perm.length_eq, stable, identity, reads_of_perm lawful_stable perm formed⟩

theorem fromCanonicalRecord_native (identity : self.profileStableIdentity = none) :
    BrowserIdentityManifest.fromCanonicalRecord (recordText (nativeFields self)) = .ok self := by
  have perm : (nativeFields self).Perm ((nativeTable self).map entry) := List.Perm.refl _
  have keys : ((nativeTable self).map fun field => (field.key, field.numeric)).Sublist recordKeys :=
    List.take_sublist 7 recordKeys
  have formed : WellFormed (nativeFields self) :=
    wellFormed_of_lawful (List.cons_ne_nil _ _) keys lawful_native perm
  have fields := reads_of_perm lawful_native perm formed
  have written : self.toCanonicalRecord = recordText (nativeFields self) := by
    unfold BrowserIdentityManifest.toCanonicalRecord
    rw [identity]
  refine fromCanonicalRecord_eq_ok.mpr ⟨_, parseRecord_eq_ok.mpr ⟨rfl, formed⟩, .inl ?_⟩
  refine ⟨?_, rfl, parseNative_eq_ok.mpr ⟨identity, (List.forall_mem_cons.mp fields).2⟩, written⟩
  exact (Records.lookup_iff_mem formed.distinct).mpr List.mem_cons_self

/-- Every identity is read back from its record. -/
theorem canonical_record_round_trip (self : BrowserIdentityManifest) :
    BrowserIdentityManifest.fromCanonicalRecord self.toCanonicalRecord = .ok self := by
  unfold BrowserIdentityManifest.toCanonicalRecord
  split
  next identity => exact fromCanonicalRecord_native identity
  next stable identity => exact fromCanonicalRecord_perm identity (List.Perm.refl _)

end RoundTrip

section Canonicity

theorem recordKeys_functional {key : String} {numeric : Bool} (one : (key, numeric) ∈ recordKeys)
    (other : (key, true) ∈ recordKeys) : numeric = true := by
  have first := (Records.lookup_iff_mem recordKeys_distinct).mpr one
  have second := (Records.lookup_iff_mem recordKeys_distinct).mpr other
  exact Option.some.inj (first.symm.trans second)

theorem recordKeys_of_mem {field : RecordField} (known : field ∈ stableTable self stable) :
    (field.key, field.numeric) ∈ recordKeys := by
  rw [← stableTable_keys self stable]
  exact List.mem_map_of_mem known

/-- A native record, or the keys of the schema in their order and every number spelled as it is
written. -/
def InCanonicalForm (record : String) : Prop :=
  ∃ values, parseRecord record = .ok values ∧
    (("schema", camoufoxRecordSchema) ∈ values ∨
      (values.map Prod.fst = recordKeys.map Prod.fst ∧
        ∀ pair ∈ values, (pair.1, true) ∈ recordKeys → canonicalNumeral pair.2 = true))

/-- Pairs that give the same keys in the same order, and nothing else to any of them, are equal. -/
theorem eq_of_keys {others : RecordValues} (keys : values.map Prod.fst = others.map Prod.fst)
    (distinct : (others.map Prod.fst).Nodup) (inside : ∀ pair ∈ values, pair ∈ others) :
    values = others := by
  have given : ∀ pair ∈ others, (pair.1, (others.lookup pair.1).getD "") = pair := by
    intro pair member
    rw [(Records.lookup_iff_mem distinct).mpr member]
    rfl
  have rebuilt : ∀ list : RecordValues, (∀ pair ∈ list, pair ∈ others) →
      (list.map Prod.fst).map (fun key => (key, (others.lookup key).getD "")) = list := by
    intro list known
    rw [List.map_map]
    exact (List.map_congr_left fun pair member => given pair (known pair member)).trans
      (List.map_id _)
  rw [← rebuilt values inside, keys, rebuilt others fun _ member => member]

/-- Values in the canonical order and spelling are the fields of the identity they are read as. -/
theorem stableFields_of_canonical (formed : WellFormed values)
    (fields : ∀ field ∈ stableTable self stable, Reads values field)
    (ordered : values.map Prod.fst = recordKeys.map Prod.fst)
    (spelled : ∀ pair ∈ values, (pair.1, true) ∈ recordKeys → canonicalNumeral pair.2 = true) :
    values = stableFields self stable := by
  have keys : (stableFields self stable).map Prod.fst = recordKeys.map Prod.fst := rfl
  refine eq_of_keys (ordered.trans keys.symm) (keys ▸ recordKeys_distinct) ?_
  intro pair member
  have named : pair.1 ∈ (stableTable self stable).map RecordField.key := by
    have listed : pair.1 ∈ values.map Prod.fst := List.mem_map_of_mem member
    rw [ordered] at listed
    exact listed
  obtain ⟨field, known, same⟩ := List.mem_map.mp named
  obtain ⟨text, found, read⟩ := fields field known
  have held : (pair.1, text) ∈ values := by
    rw [← same]
    exact (Records.lookup_iff_mem formed.distinct).mp found
  have value : text = pair.2 := by
    have first := (Records.lookup_iff_mem formed.distinct).mpr held
    have second := (Records.lookup_iff_mem formed.distinct).mpr member
    exact Option.some.inj (first.symm.trans second)
  have canonical : field.numeric = true → canonicalNumeral text = true := by
    intro numeric
    rw [value]
    refine spelled pair member ?_
    rw [← same, ← numeric]
    exact recordKeys_of_mem known
  have written := (lawful_stable field known).unique text read canonical
  rw [← stableTable_entries, List.mem_map]
  exact ⟨field, known, by rw [RecordField.entry, ← written, value, same]⟩

theorem canonical_stableFields :
    (stableFields self stable).map Prod.fst = recordKeys.map Prod.fst ∧
      ∀ pair ∈ stableFields self stable, (pair.1, true) ∈ recordKeys →
        canonicalNumeral pair.2 = true := by
  refine ⟨rfl, fun pair member numeric => ?_⟩
  rw [← stableTable_entries] at member
  obtain ⟨field, known, rfl⟩ := List.mem_map.mp member
  refine (lawful_stable field known).canonical ?_
  exact recordKeys_functional (recordKeys_of_mem known) numeric

/-- An accepted record is the record of what it is read as exactly when it is in canonical form:
the order of the lines and the spelling of the numbers are left open in one of the two schemas. -/
theorem canonical_record_iff (record : String) (self : BrowserIdentityManifest)
    (accepted : BrowserIdentityManifest.fromCanonicalRecord record = .ok self) :
    self.toCanonicalRecord = record ↔ InCanonicalForm record := by
  obtain ⟨values, parsed, schema⟩ := fromCanonicalRecord_eq_ok.mp accepted
  obtain ⟨whole, formed⟩ := parseRecord_eq_ok.mp parsed
  rcases schema with ⟨found, -, -, same⟩ | ⟨-, stable, identity, fields⟩
  · have native := (Records.lookup_iff_mem formed.distinct).mp found
    exact ⟨fun _ => ⟨values, parsed, .inl native⟩, fun _ => same⟩
  · have written : self.toCanonicalRecord = recordText (stableFields self stable) := by
      unfold BrowserIdentityManifest.toCanonicalRecord
      rw [identity]
    rw [written]
    constructor
    · intro same
      have formedFields : WellFormed (stableFields self stable) :=
        @wellFormed_of_lawful _ (stableTable self stable) (List.cons_ne_nil _ _)
          (List.Sublist.refl _) lawful_stable (List.Perm.refl _)
      exact ⟨stableFields self stable, parseRecord_eq_ok.mpr ⟨same.symm, formedFields⟩,
        .inr canonical_stableFields⟩
    · rintro ⟨others, again, native | ⟨ordered, spelled⟩⟩
      · cases parsed.symm.trans again
        have schema := (List.forall_mem_cons.mp fields).1
        have named := required_eq_ok.mpr schema
        rw [required, okOr_eq_ok, (Records.lookup_iff_mem formed.distinct).mpr native] at named
        exact absurd (Option.some.inj named) (by decide)
      · cases parsed.symm.trans again
        rw [whole, stableFields_of_canonical formed fields ordered spelled]

end Canonicity

namespace SwappedLines

def digest : String := "5a5a5a5a5a5a5a5a5a5a5a5a5a5a5a5a5a5a5a5a5a5a5a5a5a5a5a5a5a5a5a5a"

def parts : ProfileStableIdentity where
  schemaVersion := 1
  browserOs := ⟨"Mozilla/5.0 Firefox/152.0", 152, "Win32", "Windows NT 10.0; Win64; x64", by decide⟩
  hardware := ⟨8, none, 0, by decide⟩
  display := ⟨1920, 1080, 1920, 1040, 0, -3, 24, 24, 1000, by decide⟩
  graphics := ⟨"Google Inc. (NVIDIA)", "ANGLE (NVIDIA GeForce)", digest, digest, digest, digest,
    digest, by decide⟩
  fonts := ⟨digest, digest, by decide⟩
  originDeterministic := ⟨.originHmac, digest, digest, by decide⟩
  locale := ⟨"en-US", digest, none, by decide⟩
  accepted := by decide

def identity : BrowserIdentityManifest where
  compatibilityVersion := 2
  fingerprintPolicyVersion := "profile-stability-v1"
  runtimeVersion := "2.0.0"
  runtimeInventorySha256 := digest
  fingerprintSource := "profile-stability-v1-probe"
  fingerprintConfigSha256 := digest
  profileStableIdentity := some parts
  accepted := ⟨by decide, by decide, by decide⟩

/-- The record of the identity with its first two lines exchanged. -/
def swapped : RecordValues :=
  ("compatibility_version", "2") :: ("schema", recordSchema) :: (stableFields identity parts).drop 2

theorem swapped_accepted :
    BrowserIdentityManifest.fromCanonicalRecord (recordText swapped) = .ok identity :=
  fromCanonicalRecord_perm rfl (List.Perm.swap _ _ _)

theorem swapped_not_canonical :
    ¬∀ record self, BrowserIdentityManifest.fromCanonicalRecord record = .ok self →
      self.toCanonicalRecord = record := by
  intro always
  have same := always _ _ swapped_accepted
  have first : (recordText swapped).toList.head? = some 'c' := by
    rw [recordText_eq, Records.toList_unlines]
    rfl
  have schema : identity.toCanonicalRecord.toList.head? = some 's' := by
    show (recordText (stableFields identity parts)).toList.head? = some 's'
    rw [recordText_eq, Records.toList_unlines]
    rfl
  rw [same, first] at schema
  cases schema

theorem canonical_record_iff_swapped :
    identity.toCanonicalRecord = recordText swapped ↔ InCanonicalForm (recordText swapped) :=
  canonical_record_iff (recordText swapped) identity swapped_accepted

end SwappedLines

end ProfilePlatform.BrowserExecution
