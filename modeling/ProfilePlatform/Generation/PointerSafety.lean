import ProfilePlatform.Generation.NonceClaims

/-! The pointer and the records over whole runs, with objects corrupted in between.

Records are never removed and never leave quarantine, and only the two pointer
calls move the pointer. A container that still has the recorded digest is the one
that was published, so a restored plaintext is the published one.
-/

set_option autoImplicit false

namespace ProfilePlatform.Generation

open Foundation

abbrev RepositoryEntry := Entry CloudGenerationRepository RepositoryEvent RepositoryAnswer

/-- The record keeps what identifies its object, and stays in quarantine once it is there. -/
structure CloudGenerationRecord.Becomes (record later : CloudGenerationRecord) : Prop where
  metadata : later.metadata = record.metadata
  containerDigest : later.containerDigest = record.containerDigest
  quarantined : record.status = .quarantined → later.status = .quarantined

theorem CloudGenerationRecord.Becomes.refl (record : CloudGenerationRecord) :
    record.Becomes record :=
  ⟨rfl, rfl, id⟩

namespace CloudGenerationRepository

variable {aead : Aead} {sha256 : Sha256} {repository : CloudGenerationRepository}
  {generationId : GenerationId} {key : GenerationDek} {observedAt : UnixMillis}

/-- The three ways a restore ends. -/
inductive Restored (aead : Aead) (sha256 : Sha256) (repository : CloudGenerationRepository)
    (generationId : GenerationId) (key : GenerationDek) (observedAt : UnixMillis) :
    Except CloudGenerationError RestoreResult × CloudGenerationRepository → Prop where
  | refused (why : CloudGenerationError) :
      Restored aead sha256 repository generationId key observedAt (.error why, repository)
  | quarantined {record : CloudGenerationRecord}
      (known : repository.records generationId = some record) (why : CloudGenerationError) :
      Restored aead sha256 repository generationId key observedAt
        (.error why, { repository with
          records := repository.records.insert generationId record.quarantined })
  | restored {record : CloudGenerationRecord} {container : List UInt8} {opened : OpenedGeneration}
      (known : repository.records generationId = some record)
      (live : record.status ≠ .quarantined)
      (found : repository.objects record.objectKey = some container)
      (digest : sha256 container = record.containerDigest)
      (opens : openGeneration aead sha256 container key = .ok opened) :
      Restored aead sha256 repository generationId key observedAt
        (.ok ⟨opened.metadata, opened.plaintext⟩, { repository with
          records := repository.records.insert generationId (record.verifiedSince observedAt) })

theorem amendRecord_known {record : CloudGenerationRecord}
    (known : repository.records generationId = some record)
    (amend : CloudGenerationRecord → CloudGenerationRecord) :
    repository.amendRecord generationId amend =
      .ok { repository with records := repository.records.insert generationId (amend record) } := by
  simp only [amendRecord, known]

theorem restored : Restored aead sha256 repository generationId key observedAt
    (repository.restore aead sha256 generationId key observedAt) := by
  unfold restore
  split
  next => exact .refused _
  next record known =>
    split
    · exact .refused _
    next live =>
      split
      · exact .refused _
      · split
        next => exact .refused _
        next container found =>
          split
          · simp only [failQuarantined, quarantine, amendRecord_known known]
            exact .quarantined known _
          next digest =>
            split
            next => exact .refused _
            next opened expected =>
              split
              · exact .refused _
              · simp only [verify, amendRecord_known known]
                obtain ⟨_, opens, checked⟩ := bind_eq_ok.mp expected
                obtain ⟨_, -, same⟩ := bind_eq_ok.mp checked
                cases same
                exact .restored known live found (Decidable.not_not.mp digest)
                  (mapError_eq_ok.mp opens)

theorem openGenerationExpected_eq_ok {container : List UInt8} {opened : OpenedGeneration}
    (opens : openGeneration aead sha256 container key = .ok opened) :
    openGenerationExpected aead sha256 container key opened.metadata.tenantId
      opened.metadata.profileId opened.metadata.generationId = .ok opened :=
  bind_eq_ok.mpr ⟨_, mapError_eq_ok.mpr opens, bind_eq_ok.mpr
    ⟨(), refuseIf_passes (by simp only [ne_eq, not_true_eq_false, or_self, not_false_eq_true]), rfl⟩⟩

theorem restore_intact {record : CloudGenerationRecord} {container plaintext : List UInt8}
    (known : repository.records generationId = some record) (live : record.status ≠ .quarantined)
    (keyed : record.metadata.keyId = key.keyId)
    (found : repository.objects record.objectKey = some container)
    (digest : sha256 container = record.containerDigest)
    (opens : openGeneration aead sha256 container key = .ok ⟨record.metadata, plaintext⟩)
    (generation : record.metadata.generationId = generationId)
    (ordered : record.createdAt ≤ observedAt) :
    repository.restore aead sha256 generationId key observedAt =
      (.ok ⟨record.metadata, plaintext⟩, { repository with
        records := repository.records.insert generationId (record.verifiedSince observedAt) }) := by
  have expected := openGenerationExpected_eq_ok opens
  simp only [generation] at expected
  simp only [restore, known, if_neg live, keyed, found, digest, expected, verify,
    amendRecord_known known, ne_eq, not_true_eq_false, if_false, if_neg (Nat.not_lt.mpr ordered)]

/-- The three ways a pointer call ends. -/
inductive Moved (repository : CloudGenerationRepository) (expected : Nat)
    (generationId : GenerationId) :
    Except CloudGenerationError PointerSnapshot × CloudGenerationRepository → Prop where
  | refused (why : CloudGenerationError) : Moved repository expected generationId
      (.error why, repository)
  | kept : Moved repository expected generationId (.ok repository.pointer, repository)
  | moved {record : CloudGenerationRecord} (exact : repository.pointer.version = expected)
      (known : repository.records generationId = some record)
      (verified : record.status = .verified)
      (other : repository.pointer.currentGenerationId ≠ some generationId ∨
        repository.pointer.rollbackGenerationId = some generationId) :
      Moved repository expected generationId
        (.ok ⟨expected + 1, some generationId, repository.pointer.currentGenerationId⟩,
          { repository with
            pointer := ⟨expected + 1, some generationId, repository.pointer.currentGenerationId⟩ })

theorem requirePointerVersion_eq_ok {expected : Nat} {done : Unit} :
    repository.requirePointerVersion expected = .ok done ↔ repository.pointer.version = expected :=
  refuseIf_eq_ok.trans Decidable.not_not

theorem commitCurrent_moved {expected : Nat} :
    Moved repository expected generationId (repository.commitCurrent expected generationId) := by
  unfold commitCurrent
  split
  next => exact .refused _
  next exact =>
    split
    next => exact .refused _
    next record known =>
      split
      next => exact .refused _
      next => exact .refused _
      next verified =>
        split
        · exact .kept
        next other =>
          split
          next => exact .refused _
          next version fits =>
            have exact := requirePointerVersion_eq_ok.mp exact
            obtain ⟨rfl, -⟩ := checkedAdd_eq_some.mp fits
            rw [exact]
            exact .moved exact known verified (.inl other)

theorem rollback_moved {expected : Nat} :
    Moved repository expected generationId (repository.rollback expected generationId) := by
  unfold rollback
  split
  next => exact .refused _
  next exact =>
    split
    · exact .refused _
    next retained =>
      split
      next => exact .refused _
      next record known =>
        split
        · exact .refused _
        next verified =>
          split
          next => exact .refused _
          next version fits =>
            have exact := requirePointerVersion_eq_ok.mp exact
            obtain ⟨rfl, -⟩ := checkedAdd_eq_some.mp fits
            rw [exact]
            exact .moved exact known (Decidable.not_not.mp verified)
              (.inr (Decidable.not_not.mp retained))

/-- What one event can do. -/
inductive Effect (aead : Aead) (sha256 : Sha256) (repository : CloudGenerationRepository) :
    RepositoryEvent → RepositoryAnswer × CloudGenerationRepository → Prop where
  | published (call : PublishCall)
      (result : Except CloudGenerationError PublishResult × CloudGenerationRepository)
      (published : repository.Published aead sha256 call result) :
      Effect aead sha256 repository (.publish call) (.published result.1, result.2)
  | restored (generationId : GenerationId) (key : GenerationDek) (observedAt : UnixMillis)
      (result : Except CloudGenerationError RestoreResult × CloudGenerationRepository)
      (restored : repository.Restored aead sha256 generationId key observedAt result) :
      Effect aead sha256 repository (.restore generationId key observedAt)
        (.restored result.1, result.2)
  | moved (event : RepositoryEvent) (expected : Nat) (generationId : GenerationId)
      (called : event = .commitCurrent expected generationId ∨
        event = .rollback expected generationId)
      (result : Except CloudGenerationError PointerSnapshot × CloudGenerationRepository)
      (moved : repository.Moved expected generationId result) :
      Effect aead sha256 repository event (.pointed result.1, result.2)
  | corrupted (objectKey : String) (bytes : List UInt8) (objects : FakeImmutableObjectStore) :
      Effect aead sha256 repository (.corrupt objectKey bytes) (.corrupted, { repository with objects })

theorem step_effect (aead : Aead) (sha256 : Sha256) (repository : CloudGenerationRepository)
    (event : RepositoryEvent) :
    Effect aead sha256 repository event ((repositories aead sha256).step repository event) := by
  cases event with
  | publish call => exact .published call _ (repository.published aead sha256 call)
  | restore generationId key observedAt => exact .restored generationId key observedAt _ restored
  | commitCurrent expected generationId =>
    exact .moved _ expected generationId (.inl rfl) _ commitCurrent_moved
  | rollback expected generationId =>
    exact .moved _ expected generationId (.inr rfl) _ rollback_moved
  | corrupt objectKey bytes =>
    simp only [repositories, corrupt]
    split
    next => exact .corrupted objectKey bytes _
    next => exact .corrupted objectKey bytes repository.objects

/-- No record is lost, and none changes what it stands for. -/
def Grows (before after : CloudGenerationRepository) : Prop :=
  ∀ generationId record, before.records generationId = some record →
    ∃ later, after.records generationId = some later ∧ record.Becomes later

theorem grows_amended {record later : CloudGenerationRecord} {after : CloudGenerationRepository}
    (known : repository.records generationId = some record)
    (amended : after.records = repository.records.insert generationId later)
    (becomes : record.Becomes later) : repository.Grows after := by
  intro other old found
  rw [amended]
  by_cases same : other = generationId
  · subst same
    cases known.symm.trans found
    exact ⟨later, Table.insert_self, becomes⟩
  · exact ⟨old, (Table.insert_of_ne same).trans found, .refl old⟩

namespace Effect

variable {event : RepositoryEvent} {answer : RepositoryAnswer} {after : CloudGenerationRepository}

theorem grows (effect : Effect aead sha256 repository event (answer, after)) :
    repository.Grows after := by
  have unchanged (same : after.records = repository.records) : repository.Grows after := by
    intro generationId record known
    exact ⟨record, same ▸ known, .refl record⟩
  cases effect with
  | published call result published =>
    cases published with
    | refused | conflicting | repeated => exact unchanged rfl
    | registered stores new =>
      intro generationId record known
      exact ⟨record, Table.insert_absent new known, .refl record⟩
  | restored generationId key observedAt result restored =>
    cases restored with
    | refused => exact unchanged rfl
    | quarantined known => exact grows_amended known rfl ⟨rfl, rfl, fun _ => rfl⟩
    | restored known live =>
      exact grows_amended known rfl ⟨rfl, rfl, fun lost => absurd lost live⟩
  | moved event expected generationId called result moved =>
    cases moved with
    | refused | kept | moved => exact unchanged rfl
  | corrupted => exact unchanged rfl

end Effect

end CloudGenerationRepository

open CloudGenerationRepository

/-- The two names the pointer holds belong to two records. -/
structure CloudGenerationRepository.PointerSound (repository : CloudGenerationRepository) : Prop where
  current : ∀ generationId, repository.pointer.currentGenerationId = some generationId →
    repository.records generationId ≠ none
  rollback : ∀ generationId, repository.pointer.rollbackGenerationId = some generationId →
    repository.records generationId ≠ none
  distinct : ∀ generationId, repository.pointer.currentGenerationId = some generationId →
    repository.pointer.rollbackGenerationId ≠ some generationId

/-- The answer is a failure of the call. -/
def RepositoryAnswer.Failed : RepositoryAnswer → Prop
  | .published (.error _) | .restored (.error _) | .pointed (.error _) => True
  | _ => False

/-- The pointer moved because a pointer call named its exact version and a verified generation. -/
structure PointerMoved (entry : RepositoryEntry) (generationId : GenerationId)
    (record : CloudGenerationRecord) : Prop where
  called : entry.input = .commitCurrent entry.before.pointer.version generationId ∨
    entry.input = .rollback entry.before.pointer.version generationId
  answered : entry.output = .pointed (.ok entry.after.pointer)
  version : entry.after.pointer.version = entry.before.pointer.version + 1
  installed : entry.after.pointer.currentGenerationId = some generationId
  known : entry.before.records generationId = some record
  verified : record.status = .verified

/-- What holds of every single step. -/
structure StepSafe (entry : RepositoryEntry) : Prop where
  sound : entry.after.PointerSound
  moves : entry.after.pointer ≠ entry.before.pointer →
    ∃ generationId record, PointerMoved entry generationId record
  failed : entry.output.Failed → entry.after.pointer = entry.before.pointer
  quarantined : ∀ generationId record, entry.before.records generationId = some record →
    record.status = .quarantined →
      ∃ later, entry.after.records generationId = some later ∧ later.status = .quarantined

theorem default_pointerSound : default.PointerSound :=
  ⟨fun _ found => (nomatch found), fun _ found => (nomatch found), fun _ found => (nomatch found)⟩

section Steps

variable {aead : Aead} {sha256 : Sha256} {repository after : CloudGenerationRepository}
  {event : RepositoryEvent} {answer : RepositoryAnswer}

theorem CloudGenerationRepository.Grows.present (grows : repository.Grows after)
    {generationId : GenerationId} (present : repository.records generationId ≠ none) :
    after.records generationId ≠ none := by
  obtain ⟨record, known⟩ := Option.ne_none_iff_exists'.mp present
  obtain ⟨later, found, -⟩ := grows generationId record known
  rw [found]
  exact Option.some_ne_none _

theorem CloudGenerationRepository.PointerSound.kept (sound : repository.PointerSound)
    (grows : repository.Grows after) (same : after.pointer = repository.pointer) :
    after.PointerSound where
  current := fun generationId named => grows.present (sound.current generationId (same ▸ named))
  rollback := fun generationId named => grows.present (sound.rollback generationId (same ▸ named))
  distinct := fun generationId named => by
    rw [same] at named ⊢
    exact sound.distinct generationId named

namespace CloudGenerationRepository.Effect

theorem pointer_kept (effect : Effect aead sha256 repository event (answer, after)) :
    after.pointer = repository.pointer ∨
      ∃ generationId record, PointerMoved ⟨repository, event, answer, after⟩ generationId record ∧
        after.records = repository.records ∧
        after.pointer.rollbackGenerationId = repository.pointer.currentGenerationId ∧
        (repository.pointer.currentGenerationId ≠ some generationId ∨
          repository.pointer.rollbackGenerationId = some generationId) := by
  cases effect with
  | published call result published =>
    cases published with
    | refused | conflicting | repeated | registered => exact .inl rfl
  | restored generationId key observedAt result restored =>
    cases restored with
    | refused | quarantined | restored => exact .inl rfl
  | moved event expected generationId called result moved =>
    cases moved with
    | refused | kept => exact .inl rfl
    | moved exact known verified other =>
      cases exact
      exact .inr ⟨generationId, _, ⟨called, rfl, rfl, rfl, known, verified⟩, rfl, rfl, other⟩
  | corrupted => exact .inl rfl

theorem failed_keeps (effect : Effect aead sha256 repository event (answer, after))
    (failed : answer.Failed) : after.pointer = repository.pointer := by
  rcases effect.pointer_kept with kept | ⟨_, _, moved, -⟩
  · exact kept
  · have answered : answer = .pointed (.ok after.pointer) := moved.answered
    rw [answered] at failed
    exact failed.elim

theorem stepSafe (effect : Effect aead sha256 repository event (answer, after))
    (sound : repository.PointerSound) : StepSafe ⟨repository, event, answer, after⟩ where
  sound := by
    rcases effect.pointer_kept with kept | ⟨generationId, record, moved, records, retired, other⟩
    · exact sound.kept effect.grows kept
    · have installed : after.pointer.currentGenerationId = some generationId := moved.installed
      refine ⟨fun named current => ?_, fun named rollback => ?_, fun named current rollback => ?_⟩
      · cases installed.symm.trans current
        rw [records]
        exact moved.known ▸ Option.some_ne_none _
      · rw [records]
        exact sound.current named (retired.symm.trans rollback)
      · -- the generation that stood before would have to be the one installed
        cases installed.symm.trans current
        have before := retired.symm.trans rollback
        rcases other with other | retained
        · exact other before
        · exact sound.distinct generationId before retained
  moves := fun changed => by
    rcases effect.pointer_kept with kept | ⟨generationId, record, moved, -⟩
    · exact absurd kept changed
    · exact ⟨generationId, record, moved⟩
  failed := effect.failed_keeps
  quarantined := fun generationId record known lost => by
    obtain ⟨later, found, becomes⟩ := effect.grows generationId record known
    exact ⟨later, found, becomes.quarantined lost⟩

end CloudGenerationRepository.Effect

end Steps

/-- No two of these byte strings have one digest. -/
def CollisionFree (sha256 : Sha256) (inputs : List (List UInt8)) : Prop :=
  ∀ first ∈ inputs, ∀ second ∈ inputs, sha256 first = sha256 second → first = second

/-- The containers and plaintexts whose digests a step compares. -/
def hashedBy (aead : Aead) (sha256 : Sha256) (entry : RepositoryEntry) : List (List UInt8) :=
  match entry.input with
  | .publish call =>
    match sealGeneration aead sha256 call.metadata call.key call.plaintext with
    | .ok sealed => [call.plaintext, sealed.container]
    | .error _ => [call.plaintext]
  | .restore generationId _ _ =>
    let container := (entry.before.records generationId).bind fun record =>
      entry.before.objects record.objectKey
    match entry.output with
    | .restored (.ok result) => container.toList ++ [result.plaintext]
    | _ => container.toList
  | _ => []

/-- The entry is a publish call that succeeded. -/
structure Accepts (entry : RepositoryEntry) (call : PublishCall) : Prop where
  called : entry.input = .publish call
  accepted : ∃ result, entry.output = .published (.ok result)

/-- A successful restore gives back what was published, and nothing else was
published for that generation. -/
def RestoresPublished (past : List RepositoryEntry) (entry : RepositoryEntry) : Prop :=
  ∀ generationId key observedAt result, entry.input = .restore generationId key observedAt →
    entry.output = .restored (.ok result) →
      (∃ published ∈ past, ∃ call, Accepts published call ∧
        call.metadata.generationId = generationId ∧ call.metadata = result.metadata ∧
        call.plaintext = result.plaintext) ∧
      ∀ published ∈ past, ∀ call, Accepts published call →
        call.metadata.generationId = generationId → call.plaintext = result.plaintext

section Provenance

variable {aead : Aead} {sha256 : Sha256} {repository after : CloudGenerationRepository}
  {event : RepositoryEvent} {answer : RepositoryAnswer} {past : List RepositoryEntry}

/-- The call that a record out of quarantine stands for. -/
structure Origin (aead : Aead) (sha256 : Sha256) (past : List RepositoryEntry)
    (generationId : GenerationId) (record : CloudGenerationRecord) (call : PublishCall)
    (sealed : SealedGeneration) : Prop where
  accepted : ∃ entry ∈ past, Accepts entry call
  generation : call.metadata.generationId = generationId
  metadata : record.metadata = call.metadata
  made : sealGeneration aead sha256 call.metadata call.key call.plaintext = .ok sealed
  digest : record.containerDigest = sealed.containerDigest

theorem Origin.later {generationId : GenerationId} {record : CloudGenerationRecord}
    {call : PublishCall} {sealed : SealedGeneration}
    (origin : Origin aead sha256 past generationId record call sealed) (entry : RepositoryEntry) :
    Origin aead sha256 (past ++ [entry]) generationId record call sealed := by
  obtain ⟨published, earlier, accepts⟩ := origin.accepted
  exact { origin with accepted := ⟨published, List.mem_append_left _ earlier, accepts⟩ }

structure Traceable (aead : Aead) (sha256 : Sha256) (past : List RepositoryEntry)
    (repository : CloudGenerationRepository) : Prop where
  origin : ∀ generationId record, repository.records generationId = some record →
    record.status ≠ .quarantined → ∃ call sealed,
      Origin aead sha256 past generationId record call sealed
  accepted : ∀ entry ∈ past, ∀ call, Accepts entry call →
    sha256 call.plaintext = call.metadata.plaintextDigest ∧
      ∃ record, repository.records call.metadata.generationId = some record ∧
        record.metadata = call.metadata

theorem default_traceable : Traceable aead sha256 [] default :=
  ⟨fun _ _ found => (nomatch found), fun _ none => (nomatch none)⟩

theorem CloudGenerationRepository.Stores.plaintextDigest {call : PublishCall} {sealed : SealedGeneration} {created : Bool}
    {objects : FakeImmutableObjectStore}
    (stores : repository.Stores aead sha256 call sealed created objects) :
    sha256 call.plaintext = call.metadata.plaintextDigest :=
  (sealGeneration_eq_ok.mp stores.made).1.digest

namespace CloudGenerationRepository.Effect

/-- What a step leaves out of quarantine was published by it or was there before. -/
theorem origin (effect : Effect aead sha256 repository event (answer, after))
    (traceable : Traceable aead sha256 past repository) {generationId : GenerationId}
    {record : CloudGenerationRecord} (known : after.records generationId = some record)
    (live : record.status ≠ .quarantined) : ∃ call sealed,
      Origin aead sha256 (past ++ [⟨repository, event, answer, after⟩]) generationId record call
        sealed := by
  have old {earlier : CloudGenerationRecord}
      (before : repository.records generationId = some earlier)
      (alive : earlier.status ≠ .quarantined) (metadata : record.metadata = earlier.metadata)
      (digest : record.containerDigest = earlier.containerDigest) : ∃ call sealed,
        Origin aead sha256 (past ++ [⟨repository, event, answer, after⟩]) generationId record call
          sealed := by
    obtain ⟨call, sealed, origin⟩ := traceable.origin _ _ before alive
    exact ⟨call, sealed, { origin.later _ with
      metadata := metadata.trans origin.metadata, digest := digest.trans origin.digest }⟩
  cases effect with
  | published call result published =>
    cases published with
    | refused | conflicting | repeated => exact old known live rfl rfl
    | registered stores new outcome status verifiedAt settled =>
      by_cases same : generationId = call.metadata.generationId
      · subst same
        cases Table.insert_self.symm.trans known
        cases settled with
        | quarantined why => exact absurd rfl live
        | verified result =>
          exact ⟨call, _, ⟨⟨_, List.mem_append_right _ (.head _), rfl, result, rfl⟩, rfl, rfl,
            stores.made, rfl⟩⟩
      · exact old ((Table.insert_of_ne same).symm.trans known) live rfl rfl
  | restored named key observedAt result restored =>
    cases restored with
    | refused => exact old known live rfl rfl
    | quarantined =>
      by_cases same : generationId = named
      · subst same
        cases Table.insert_self.symm.trans known
        exact absurd rfl live
      · exact old ((Table.insert_of_ne same).symm.trans known) live rfl rfl
    | restored before alive =>
      by_cases same : generationId = named
      · subst same
        cases Table.insert_self.symm.trans known
        exact old before alive rfl rfl
      · exact old ((Table.insert_of_ne same).symm.trans known) live rfl rfl
  | moved named expected other called result moved =>
    cases moved with
    | refused | kept | moved => exact old known live rfl rfl
  | corrupted => exact old known live rfl rfl

theorem accepted (effect : Effect aead sha256 repository event (answer, after)) {call : PublishCall}
    (accepts : Accepts ⟨repository, event, answer, after⟩ call) :
    sha256 call.plaintext = call.metadata.plaintextDigest ∧
      ∃ record, after.records call.metadata.generationId = some record ∧
        record.metadata = call.metadata := by
  obtain ⟨called, outcome, succeeded⟩ := accepts
  cases effect with
  | published other result published =>
    cases called
    cases published with
    | refused | conflicting => cases succeeded
    | repeated stores known metadata =>
      exact ⟨stores.plaintextDigest, _, known, metadata⟩
    | registered stores => exact ⟨stores.plaintextDigest, _, Table.insert_self, rfl⟩
  | restored | corrupted => cases called
  | moved => cases succeeded

theorem traceable (effect : Effect aead sha256 repository event (answer, after))
    (traceable : Traceable aead sha256 past repository) :
    Traceable aead sha256 (past ++ [⟨repository, event, answer, after⟩]) after where
  origin := fun _ _ known live => effect.origin traceable known live
  accepted := fun entry member call accepts => by
    rcases List.mem_append.mp member with earlier | last
    · obtain ⟨digest, record, known, metadata⟩ := traceable.accepted entry earlier call accepts
      obtain ⟨later, found, becomes⟩ := effect.grows _ _ known
      exact ⟨digest, later, found, becomes.metadata.trans metadata⟩
    · cases List.mem_singleton.mp last
      exact effect.accepted accepts

end CloudGenerationRepository.Effect

/-- A framed container opens with the metadata of its frame, to a plaintext of its digest. -/
theorem opened_of_framed {metadata : GenerationMetadata} {body : List UInt8} {key : GenerationDek}
    {opened : OpenedGeneration}
    (opens : openGeneration aead sha256 (preludeBytes metadata.encoding ++ body) key = .ok opened) :
    opened.metadata = metadata ∧ sha256 opened.plaintext = metadata.plaintextDigest := by
  obtain ⟨named, plaintext⟩ := opened
  obtain ⟨-, -, metadataBytes, rest, shape⟩ := openGeneration_eq_ok.mp opens
  have read := readMetadata_eq_ok.mpr ⟨shape.framed, shape.nonempty, shape.short⟩
  rw [readMetadata_framed] at read
  have encoding : metadata.encoding = metadataBytes := (Prod.mk.inj (Except.ok.inj read)).1
  have decoded := shape.decoded
  rw [← encoding, metadata.decode_encoding] at decoded
  cases decoded
  exact ⟨rfl, shape.digest⟩

/-- With the recorded digest the container is the published one, whatever key
of that name opens it, and so is the plaintext with the digest in its metadata. -/
theorem restores_published (traceable : Traceable aead sha256 past repository)
    {inputs : List (List UInt8)} (collisionFree : CollisionFree sha256 inputs)
    (hashed : ∀ entry ∈ past, hashedBy aead sha256 entry ⊆ inputs)
    (latest : hashedBy aead sha256 ((repositories aead sha256).entry repository event) ⊆ inputs) :
    RestoresPublished past ((repositories aead sha256).entry repository event) := by
  intro generationId key observedAt result called answered
  have called : event = .restore generationId key observedAt := called
  subst called
  have restored := @CloudGenerationRepository.restored aead sha256 repository generationId key
    observedAt
  simp only [Machine.entry, repositories, hashedBy] at answered latest
  generalize repository.restore aead sha256 generationId key observedAt = outcome
    at restored answered latest
  cases restored with
  | refused | quarantined => cases answered
  | @restored record container opened known live found digest opens =>
    cases answered
    simp only [Prod.map, known, found, Option.bind_some, Option.toList_some, List.cons_append,
      List.nil_append, List.cons_subset, List.nil_subset, and_true] at latest
    obtain ⟨call, sealed, ⟨published, earlier, accepts⟩, generation, metadata, made, recorded⟩ :=
      traceable.origin _ _ known live
    obtain ⟨⟨body, framed⟩, sealedDigest⟩ := sealed_framed made
    have plaintextDigest := (traceable.accepted published earlier call accepts).1
    have compared := hashed published earlier
    simp only [hashedBy, accepts.called, made, List.cons_subset] at compared
    have sameContainer : container = sealed.container :=
      collisionFree _ latest.1 _ compared.2.1 (digest.trans (recorded.trans sealedDigest))
    rw [sameContainer, framed] at opens
    obtain ⟨named, openedDigest⟩ := opened_of_framed opens
    have samePlaintext : call.plaintext = opened.plaintext :=
      collisionFree _ compared.1 _ latest.2 (plaintextDigest.trans openedDigest.symm)
    refine ⟨⟨published, earlier, call, accepts, generation, named.symm, samePlaintext⟩,
      fun other before again accepted sameGeneration => ?_⟩
    -- every accepted call for this generation carried the recorded metadata
    obtain ⟨digest', record', known', metadata'⟩ := traceable.accepted other before again accepted
    rw [sameGeneration, known] at known'
    have described : again.metadata = call.metadata :=
      metadata'.symm.trans ((congrArg CloudGenerationRecord.metadata
        (Option.some.inj known').symm).trans metadata)
    have plain : again.plaintext ∈ inputs := by
      refine hashed other before ?_
      simp only [hashedBy, accepted.called]
      split <;> exact .head _
    exact collisionFree _ plain _ latest.2
      (digest'.trans ((congrArg GenerationMetadata.plaintextDigest described).trans
        openedDigest.symm))

end Provenance

theorem CollisionFree.of_subset {sha256 : Sha256} {inputs some : List (List UInt8)}
    (free : CollisionFree sha256 inputs) (subset : some ⊆ inputs) : CollisionFree sha256 some :=
  fun first member second member' => free first (subset member) second (subset member')

/-- Over every run: the pointer names two records, it moves only by an exact
compare-and-swap to a verified generation, failures leave it alone, quarantine is
final, and a restore gives back what was published. -/
theorem pointer_safety (aead : Aead) (sha256 : Sha256) (events : List RepositoryEvent)
    (collisionFree : CollisionFree sha256
      (((repositories aead sha256).history .default events).flatMap (hashedBy aead sha256))) :
    ((repositories aead sha256).final .default events).PointerSound ∧
      (∀ entry ∈ (repositories aead sha256).history .default events, StepSafe entry) ∧
      Justified RestoresPublished ((repositories aead sha256).history .default events) := by
  have run := (repositories aead sha256).history_invariant
    (fun past repository => repository.PointerSound ∧ Traceable aead sha256 past repository ∧
      (∀ entry ∈ past, StepSafe entry) ∧
      (CollisionFree sha256 (past.flatMap (hashedBy aead sha256)) →
        Justified RestoresPublished past))
    ⟨default_pointerSound, default_traceable, fun _ none => (nomatch none),
      fun _ => justified_nil _⟩
    (fun past repository event ⟨sound, traceable, safe, justified⟩ => by
      have effect := step_effect aead sha256 repository event
      have stepped : StepSafe ((repositories aead sha256).entry repository event) :=
        effect.stepSafe sound
      refine ⟨stepped.sound, effect.traceable traceable, fun entry member => ?_, fun free => ?_⟩
      · rcases List.mem_append.mp member with earlier | last
        · exact safe entry earlier
        · cases List.mem_singleton.mp last
          exact stepped
      · rw [List.flatMap_append, List.flatMap_singleton] at free
        refine justified_concat (justified (free.of_subset (List.subset_append_left _ _)))
          (restores_published traceable free (fun entry earlier bytes input => ?_)
            (List.subset_append_right _ _))
        exact List.mem_append_left _ (List.mem_flatMap.mpr ⟨entry, earlier, input⟩))
    events
  exact ⟨run.1, run.2.2.1, run.2.2.2 collisionFree⟩

namespace TwoTenants

def generationId : GenerationId := OneByte.identity.generationId

/-- Published, made current, restored, and lost afterwards. -/
def lifetime : List RepositoryEvent :=
  [.publish first, .commitCurrent 0 generationId, .restore generationId OneByte.key 3,
    .corrupt first.metadata.objectKey []]

def record (container : List UInt8) (status : CloudGenerationStatus)
    (verifiedAt : Option UnixMillis) : CloudGenerationRecord :=
  ⟨first.metadata, first.metadata.objectKey, sha256 container, status, 1, verifiedAt⟩

def published (container : List UInt8) : CloudGenerationRepository where
  objects := Table.empty.insert first.metadata.objectKey container
  records := Table.empty.insert generationId (record container .verified (some 1))
  nonceClaims :=
    Table.empty.insert (OneByte.key.nonceDomain sha256, OneByte.noncePrefix) generationId
  pointer := ⟨0, none, none⟩

theorem opens_first : ∃ sealed,
    sealGeneration aead sha256 first.metadata OneByte.key OneByte.plaintext = .ok sealed ∧
      openGeneration aead sha256 sealed.container OneByte.key =
        .ok ⟨first.metadata, OneByte.plaintext⟩ := by
  obtain ⟨metadata, sealed, described, made, opens⟩ := in_memory_round_trip sha256 OneByte.key
    OneByte.identity OneByte.noncePrefix OneByte.chunkSize aead_addsTag aead_inverts
    (show OneByte.plaintext.length ≤ maxPlaintextBytes by decide)
  obtain ⟨_, same⟩ := forPlaintext_eq sha256 OneByte.key OneByte.identity OneByte.noncePrefix
    OneByte.chunkSize (show OneByte.plaintext.length ≤ maxPlaintextBytes by decide)
  cases same.symm.trans described
  exact ⟨sealed, made, opens⟩

variable {sealed : SealedGeneration}

theorem publish_first
    (made : sealGeneration aead sha256 first.metadata OneByte.key OneByte.plaintext = .ok sealed)
    (opens : openGeneration aead sha256 sealed.container OneByte.key =
      .ok ⟨first.metadata, OneByte.plaintext⟩) :
    (repositories aead sha256).step default (.publish first) =
      (.published (.ok .created), published sealed.container) := by
  have admitted : default.sealUnclaimed aead sha256 first.metadata first.key first.plaintext =
      .ok sealed := sealUnclaimed_eq_ok.mpr ⟨made, fun _ held => nomatch held⟩
  have expected : openGenerationExpected aead sha256 sealed.container first.key
      first.metadata.tenantId first.metadata.profileId first.metadata.generationId =
        .ok ⟨first.metadata, OneByte.plaintext⟩ := openGenerationExpected_eq_ok opens
  have digest := (sealed_framed made).2
  have free : CloudGenerationRepository.default.objects first.metadata.objectKey = none := rfl
  have new : CloudGenerationRepository.default.records first.metadata.generationId = none := rfl
  simp only [repositories, publish, admitted, FakeImmutableObjectStore.putImmutable, free, new,
    verifyStored, Table.insert_self, expected, verify, amendRecord_staged, digest]
  rfl

theorem sha256_long {bytes : List UInt8} (long : 124 < bytes.length) :
    sha256 bytes = laterContainerDigest ∨ sha256 bytes = OneByte.containerDigest := by
  have other : bytes ≠ laterPlaintext := by
    rintro rfl
    exact absurd long (by decide)
  have unlike (length : Nat) (short : length ≤ 124) : ¬bytes.length = length := by omega
  simp only [sha256, OneByte.sha256, dif_neg (unlike 75 (by decide)), if_neg other,
    if_neg (unlike 124 (by decide)), if_neg (unlike 1 (by decide)), if_neg (unlike 123 (by decide))]
  split
  · exact .inl rfl
  · exact .inr rfl

def current (container : List UInt8) : CloudGenerationRepository :=
  { published container with pointer := ⟨1, some generationId, none⟩ }

theorem commit_first (container : List UInt8) :
    (repositories aead sha256).step (published container) (.commitCurrent 0 generationId) =
      (.pointed (.ok ⟨1, some generationId, none⟩), current container) := rfl

theorem restore_first
    (opens : openGeneration aead sha256 sealed.container OneByte.key =
      .ok ⟨first.metadata, OneByte.plaintext⟩) :
    ∃ after, (repositories aead sha256).step (current sealed.container)
        (.restore generationId OneByte.key 3) =
      (.restored (.ok ⟨first.metadata, OneByte.plaintext⟩), after) := by
  have known : (current sealed.container).records generationId =
      some (record sealed.container .verified (some 1)) := rfl
  have found : (current sealed.container).objects
      (record sealed.container .verified (some 1)).objectKey = some sealed.container := by
    simp only [current, published, record, Table.insert_self]
  have live : (record sealed.container .verified (some 1)).status ≠ .quarantined := by
    intro impossible
    cases impossible
  have restored := restore_intact known live rfl found rfl opens rfl (show 1 ≤ 3 by decide)
  exact ⟨_, congrArg (Prod.map RepositoryAnswer.restored id) restored⟩

theorem lifetime_collisionFree : CollisionFree sha256
    (((repositories aead sha256).history .default lifetime).flatMap (hashedBy aead sha256)) := by
  obtain ⟨sealed, made, opens⟩ := opens_first
  obtain ⟨after, restored⟩ := restore_first opens
  have long : 124 < sealed.container.length := by
    obtain ⟨body, framed⟩ := (sealed_framed made).1
    have framing : (preludeBytes first.metadata.encoding).length = 135 := by decide +kernel
    rw [framed, List.length_append, framing]
    omega
  have apart : sha256 OneByte.plaintext ≠ sha256 sealed.container := by
    rcases sha256_long long with digest | digest <;> rw [digest] <;> decide
  have hashed : ((repositories aead sha256).history .default lifetime).flatMap
      (hashedBy aead sha256) =
        [OneByte.plaintext, sealed.container, sealed.container, OneByte.plaintext] := by
    simp only [lifetime, Machine.history, Machine.entry, publish_first made opens, commit_first,
      restored, List.flatMap_cons, hashedBy]
    have made : sealGeneration aead sha256 first.metadata first.key first.plaintext = .ok sealed :=
      made
    have found : (((current sealed.container).records generationId).bind fun record =>
        (current sealed.container).objects record.objectKey) = some sealed.container := by
      simp only [current, published, record, Table.insert_self, Option.bind_some]
    rw [made, found]
    rfl
  rw [hashed]
  intro one member two member' same
  simp only [List.mem_cons, List.not_mem_nil, or_false] at member member'
  rcases member with rfl | rfl | rfl | rfl <;> rcases member' with rfl | rfl | rfl | rfl <;>
    first | rfl | exact absurd same apart | exact absurd same.symm apart

end TwoTenants

open TwoTenants in
theorem pointer_safety_lifetime :
    ((repositories aead sha256).final .default lifetime).PointerSound ∧
      (∀ entry ∈ (repositories aead sha256).history .default lifetime, StepSafe entry) ∧
      Justified RestoresPublished ((repositories aead sha256).history .default lifetime) :=
  pointer_safety aead sha256 lifetime lifetime_collisionFree

end ProfilePlatform.Generation
