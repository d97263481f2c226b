import Mathlib.Logic.Equiv.Basic
import ProfilePlatform.Generation.Publication
import ProfilePlatform.Generation.RoundTrip

/-! Nonce prefixes and the claims that guard them.

The claims keep one prefix from sealing two objects under one key as long as
every stored object belongs to a record. A call for a generation whose record
stands under another key stores its object first and is refused afterwards: that
object has no record and no claim.
-/

set_option autoImplicit false

namespace ProfilePlatform.Generation

open Foundation

abbrev PublicationEntry :=
  Entry CloudGenerationRepository PublishCall (Except CloudGenerationError PublishResult)

namespace CloudGenerationRepository

variable (aead : Aead) (sha256 : Sha256)

/-- The call gets past the nonce check, but its generation has a record under another key. -/
def LeavesOrphan (repository : CloudGenerationRepository) (call : PublishCall) : Prop :=
  (∃ sealed,
    repository.sealUnclaimed aead sha256 call.metadata call.key call.plaintext = .ok sealed) ∧
  ∃ record, repository.records call.metadata.generationId = some record ∧
    record.objectKey ≠ call.metadata.objectKey

variable {aead sha256} {repository : CloudGenerationRepository} {call : PublishCall}
  {sealed : SealedGeneration} {created : Bool} {objects : FakeImmutableObjectStore}

/-- The claim on the nonces, if there is one, is held by the generation being sealed. -/
theorem sealUnclaimed_eq_ok {metadata : GenerationMetadata} {key : GenerationDek}
    {plaintext : List UInt8} :
    repository.sealUnclaimed aead sha256 metadata key plaintext = .ok sealed ↔
      sealGeneration aead sha256 metadata key plaintext = .ok sealed ∧
        ∀ holder, repository.nonceClaims (key.nonceDomain sha256, metadata.noncePrefix) =
          some holder → holder = metadata.generationId := by
  constructor
  · intro succeeded
    obtain ⟨_, made, checked⟩ := bind_eq_ok.mp succeeded
    obtain ⟨_, unclaimed, same⟩ := bind_eq_ok.mp checked
    cases same
    refine ⟨mapError_eq_ok.mp made, fun holder held => ?_⟩
    simpa [held] using refuseIf_eq_ok.mp unclaimed
  · rintro ⟨made, own⟩
    refine bind_eq_ok.mpr ⟨_, mapError_eq_ok.mpr made, bind_eq_ok.mpr ⟨(), ?_, rfl⟩⟩
    refine refuseIf_passes fun foreign => ?_
    obtain ⟨holder, held, other⟩ := (Option.any_eq_true ..).mp foreign
    exact absurd (own holder held) (of_decide_eq_true other)

theorem Stores.made (stores : repository.Stores aead sha256 call sealed created objects) :
    sealGeneration aead sha256 call.metadata call.key call.plaintext = .ok sealed :=
  (sealUnclaimed_eq_ok.mp stores.admitted).1

theorem Stores.claimed (stores : repository.Stores aead sha256 call sealed created objects) :
    ∀ holder, repository.nonceClaims (call.key.nonceDomain sha256, call.metadata.noncePrefix) =
      some holder → holder = call.metadata.generationId :=
  (sealUnclaimed_eq_ok.mp stores.admitted).2

/-- A record describes the object under its key. -/
structure Describes (sha256 : Sha256) (repository : CloudGenerationRepository)
    (generationId : GenerationId) (record : CloudGenerationRecord) : Prop where
  generation : record.metadata.generationId = generationId
  objectKey : record.objectKey = record.metadata.objectKey
  object : ∃ body, repository.objects record.objectKey =
      some (preludeBytes record.metadata.encoding ++ body) ∧
    record.containerDigest = sha256 (preludeBytes record.metadata.encoding ++ body)

/-- Every object has a record, and every record an object. -/
structure Catalogued (sha256 : Sha256) (repository : CloudGenerationRepository) : Prop where
  described : ∀ generationId record, repository.records generationId = some record →
    repository.Describes sha256 generationId record
  owned : ∀ objectKey container, repository.objects objectKey = some container →
    ∃ generationId record, repository.records generationId = some record ∧
      record.objectKey = objectKey

/-- What a stored container leaves behind: its object, its record and its claim. -/
structure Traced (sha256 : Sha256) (repository : CloudGenerationRepository) (call : PublishCall)
    (container : List UInt8) : Prop where
  claim : repository.nonceClaims (call.key.nonceDomain sha256, call.metadata.noncePrefix) =
    some call.metadata.generationId
  object : repository.objects call.metadata.objectKey = some container
  record : ∃ record, repository.records call.metadata.generationId = some record ∧
    record.objectKey = call.metadata.objectKey

theorem default_catalogued : default.Catalogued sha256 where
  described := fun _ _ found => nomatch found
  owned := fun _ _ found => nomatch found

theorem Catalogued.absent (catalogued : repository.Catalogued sha256) {metadata : GenerationMetadata}
    (new : repository.records metadata.generationId = none) :
    repository.objects metadata.objectKey = none := by
  cases found : repository.objects metadata.objectKey with
  | none => rfl
  | some container =>
    obtain ⟨generationId, record, known, same⟩ := catalogued.owned _ _ found
    have described := catalogued.described _ _ known
    have sameGeneration := objectKey_generationId (described.objectKey.symm.trans same)
    rw [← sameGeneration, described.generation, known] at new
    cases new

/-- Where a record stands under the key, storing found the object it describes. -/
theorem Stores.found (stores : repository.Stores aead sha256 call sealed created objects)
    (catalogued : repository.Catalogued sha256) {record : CloudGenerationRecord}
    (known : repository.records call.metadata.generationId = some record)
    (same : record.objectKey = call.metadata.objectKey) :
    objects = repository.objects ∧ record.metadata = call.metadata ∧
      record.containerDigest = sealed.containerDigest := by
  obtain ⟨body, object, digest⟩ := (catalogued.described _ _ known).object
  obtain ⟨⟨rest, framed⟩, sealedDigest⟩ := sealed_framed stores.made
  rw [same] at object
  rcases putImmutable_eq_ok.mp stores.put with ⟨found, -, kept⟩ | ⟨absent, -, -⟩
  · have bytes : preludeBytes record.metadata.encoding ++ body = sealed.container :=
      Option.some.inj (object.symm.trans found)
    refine ⟨kept, metadata_of_framed (bytes.trans framed), ?_⟩
    rw [digest, bytes, sealedDigest]
  · rw [absent] at object
    cases object

end CloudGenerationRepository

open CloudGenerationRepository

section Calls

variable {aead : Aead} {sha256 : Sha256} {repository : CloudGenerationRepository}
  {call : PublishCall}

/-- Nothing stored so far is untraced, and a call keeps it so. -/
structure Keeps (aead : Aead) (sha256 : Sha256) (before : CloudGenerationRepository)
    (call : PublishCall) (after : CloudGenerationRepository) : Prop where
  catalogued : after.Catalogued sha256
  earlier : ∀ other container, before.Traced sha256 other container →
    after.Traced sha256 other container
  latest : ∀ sealed created objects, before.Stores aead sha256 call sealed created objects →
    after.Traced sha256 call sealed.container

theorem CloudGenerationRepository.Stores.unique {sealed other : SealedGeneration}
    {created again : Bool} {objects others : FakeImmutableObjectStore}
    (stores : repository.Stores aead sha256 call sealed created objects)
    (stores' : repository.Stores aead sha256 call other again others) : other = sealed := by
  cases stores.admitted.symm.trans stores'.admitted
  rfl

theorem keeps_registered (catalogued : repository.Catalogued sha256) {sealed : SealedGeneration}
    {created : Bool} {objects : FakeImmutableObjectStore}
    (stores : repository.Stores aead sha256 call sealed created objects)
    (new : repository.records call.metadata.generationId = none)
    (status : CloudGenerationStatus) (verifiedAt : Option UnixMillis) :
    Keeps aead sha256 repository call
      { repository with
        objects
        records := repository.records.insert call.metadata.generationId
          ⟨call.metadata, call.metadata.objectKey, sealed.containerDigest, status,
            call.observedAt, verifiedAt⟩
        nonceClaims := repository.nonceClaims.insert
          (call.key.nonceDomain sha256, call.metadata.noncePrefix) call.metadata.generationId } := by
  have absent := catalogued.absent new
  obtain ⟨body, framed⟩ := (sealed_framed stores.made).1
  have inserted : objects = repository.objects.insert call.metadata.objectKey sealed.container := by
    rcases putImmutable_eq_ok.mp stores.put with ⟨found, -⟩ | ⟨-, -, inserted⟩
    · rw [absent] at found
      cases found
    · exact inserted
  subst inserted
  refine ⟨⟨fun generationId record known => ?_, fun objectKey container found => ?_⟩,
    fun other container traced => ?_, fun again _ _ stores' => ?_⟩
  · by_cases same : generationId = call.metadata.generationId
    · subst same
      cases Table.insert_self.symm.trans known
      refine ⟨rfl, rfl, body, ?_, ?_⟩
      · simp only [Table.insert_self, framed]
      · simp only [(sealed_framed stores.made).2, framed]
    · have known := (Table.insert_of_ne same).symm.trans known
      obtain ⟨generation, key, body, object, digest⟩ := catalogued.described _ _ known
      exact ⟨generation, key, body, Table.insert_absent absent object, digest⟩
  · by_cases same : objectKey = call.metadata.objectKey
    · exact ⟨_, _, Table.insert_self, same.symm⟩
    · have found := (Table.insert_of_ne same).symm.trans found
      obtain ⟨generationId, record, known, key⟩ := catalogued.owned _ _ found
      exact ⟨generationId, record, Table.insert_absent new known, key⟩
  · obtain ⟨claim, object, record, known, key⟩ := traced
    refine ⟨?_, Table.insert_absent absent object, record, Table.insert_absent new known, key⟩
    -- a generation that held this claim would have a record
    by_cases same : (other.key.nonceDomain sha256, other.metadata.noncePrefix) =
        (call.key.nonceDomain sha256, call.metadata.noncePrefix)
    · rw [same] at claim
      rw [stores.claimed _ claim, new] at known
      cases known
    · exact (Table.insert_of_ne same).trans claim
  · cases stores.unique stores'
    exact ⟨Table.insert_self, Table.insert_self, _, Table.insert_self, rfl⟩

theorem keeps_repeated (catalogued : repository.Catalogued sha256) {sealed : SealedGeneration}
    {created : Bool} {objects : FakeImmutableObjectStore}
    (stores : repository.Stores aead sha256 call sealed created objects)
    {existing : CloudGenerationRecord}
    (known : repository.records call.metadata.generationId = some existing)
    (key : existing.objectKey = call.metadata.objectKey) :
    Keeps aead sha256 repository call
      { repository with
        objects
        nonceClaims := repository.nonceClaims.insertIfAbsent
          (call.key.nonceDomain sha256, call.metadata.noncePrefix) call.metadata.generationId } := by
  have object := found_after_put stores.put
  obtain ⟨rfl, -, -⟩ := stores.found catalogued known key
  refine ⟨⟨fun generationId record known => ?_, catalogued.owned⟩, fun other container traced => ?_,
    fun again _ _ stores' => ?_⟩
  · obtain ⟨generation, key, described⟩ := catalogued.described _ _ known
    exact ⟨generation, key, described⟩
  · exact ⟨Table.insertIfAbsent_of_some traced.claim, traced.object, traced.record⟩
  · cases stores.unique stores'
    exact ⟨Table.insertIfAbsent_self stores.claimed, object, existing, known, key⟩

theorem keeps_publish (catalogued : repository.Catalogued sha256)
    (covered : ¬repository.LeavesOrphan aead sha256 call) :
    Keeps aead sha256 repository call ((publications aead sha256).step repository call).2 := by
  have published := repository.published aead sha256 call
  simp only [publications]
  generalize repository.publish aead sha256 call.metadata call.key call.plaintext call.observedAt =
    result at published
  cases published with
  | refused why unstored =>
    exact ⟨catalogued, fun _ _ traced => traced, fun _ _ _ stores => absurd stores (unstored _ _ _)⟩
  | @conflicting sealed _ _ existing stores known differs =>
    have key : existing.objectKey = call.metadata.objectKey := by
      by_contra other
      exact covered ⟨⟨sealed, stores.admitted⟩, existing, known, other⟩
    obtain ⟨-, metadata, digest⟩ := stores.found catalogued known key
    rcases differs with differs | differs | differs
    · exact absurd metadata differs
    · exact absurd key differs
    · exact absurd digest differs
  | repeated stores known _ key _ => exact keeps_repeated catalogued stores known key
  | registered stores new answer status verifiedAt _ =>
    exact keeps_registered catalogued stores new status verifiedAt

/-- The calls so far left every container they stored traced. -/
structure Covers (aead : Aead) (sha256 : Sha256) (past : List PublicationEntry)
    (repository : CloudGenerationRepository) : Prop where
  catalogued : repository.Catalogued sha256
  traced : ∀ entry ∈ past, ∀ sealed created objects,
    entry.before.Stores aead sha256 entry.input sealed created objects →
      repository.Traced sha256 entry.input sealed.container

theorem Covers.step {past : List PublicationEntry} (covers : Covers aead sha256 past repository)
    (covered : ¬repository.LeavesOrphan aead sha256 call) :
    Covers aead sha256 (past ++ [(publications aead sha256).entry repository call])
      ((publications aead sha256).step repository call).2 := by
  have keeps := keeps_publish covers.catalogued covered
  refine ⟨keeps.catalogued, fun entry member sealed created objects stores => ?_⟩
  rcases List.mem_append.mp member with earlier | last
  · exact keeps.earlier _ _ (covers.traced entry earlier sealed created objects stores)
  · cases List.mem_singleton.mp last
    exact keeps.latest _ _ _ stores

/-- Two containers sealed under the same key bytes and the same prefix are one. -/
def NoncesUsedOnce (aead : Aead) (sha256 : Sha256) (past : List PublicationEntry) : Prop :=
  ∀ first ∈ past, ∀ second ∈ past, ∀ sealed created objects sealed' created' objects',
    first.before.Stores aead sha256 first.input sealed created objects →
    second.before.Stores aead sha256 second.input sealed' created' objects' →
    first.input.key.bytes = second.input.key.bytes →
    first.input.metadata.noncePrefix = second.input.metadata.noncePrefix →
      sealed.container = sealed'.container

theorem Covers.noncesUsedOnce {past : List PublicationEntry}
    (covers : Covers aead sha256 past repository) : NoncesUsedOnce aead sha256 past := by
  intro first earlier second later sealed created objects sealed' created' objects' stores stores'
    sameKey samePrefix
  obtain ⟨claim, object, record, known, key⟩ := covers.traced first earlier _ _ _ stores
  obtain ⟨claim', object', record', known', key'⟩ := covers.traced second later _ _ _ stores'
  have domain : first.input.key.nonceDomain sha256 = second.input.key.nonceDomain sha256 :=
    congrArg (nonceDomain sha256) sameKey
  -- one claim, so one generation, so one record and one object
  rw [domain, samePrefix, claim'] at claim
  rw [Option.some.inj claim, known] at known'
  rw [← key, Option.some.inj known', key', object'] at object
  exact (Option.some.inj object).symm

theorem nonces_used_once (aead : Aead) (sha256 : Sha256) (calls : List PublishCall)
    (covered : ∀ entry ∈ (publications aead sha256).history .default calls,
      ¬entry.before.LeavesOrphan aead sha256 entry.input) :
    NoncesUsedOnce aead sha256 ((publications aead sha256).history .default calls) := by
  have run := (publications aead sha256).history_invariant
    (fun past repository => (∀ entry ∈ past, ¬entry.before.LeavesOrphan aead sha256 entry.input) →
      Covers aead sha256 past repository)
    (fun _ => ⟨default_catalogued, fun _ none => nomatch none⟩)
    (fun past repository call before covered => by
      refine (before fun entry earlier => covered entry (List.mem_append_left _ earlier)).step ?_
      exact covered _ (List.mem_append_right _ (.head _)))
    calls covered
  exact run.noncesUsedOnce

/-- Every record was made by a call for its generation and its key. -/
def Recorded (past : List PublicationEntry) (repository : CloudGenerationRepository) : Prop :=
  ∀ generationId record, repository.records generationId = some record →
    ∃ entry ∈ past, entry.input.metadata.generationId = generationId ∧
      record.objectKey = entry.input.metadata.objectKey

theorem default_recorded : Recorded [] default := fun _ _ found => nomatch found

theorem Recorded.step {past : List PublicationEntry} (recorded : Recorded past repository)
    (call : PublishCall) :
    Recorded (past ++ [(publications aead sha256).entry repository call])
      ((publications aead sha256).step repository call).2 := by
  intro generationId record known
  have old (known : repository.records generationId = some record) :
      ∃ entry ∈ past ++ [(publications aead sha256).entry repository call],
        entry.input.metadata.generationId = generationId ∧
          record.objectKey = entry.input.metadata.objectKey := by
    obtain ⟨entry, earlier, found⟩ := recorded generationId record known
    exact ⟨entry, List.mem_append_left _ earlier, found⟩
  have published := repository.published aead sha256 call
  simp only [publications] at known
  generalize repository.publish aead sha256 call.metadata call.key call.plaintext call.observedAt =
    result at published known
  cases published with
  | refused | conflicting | repeated => exact old known
  | registered =>
    by_cases same : generationId = call.metadata.generationId
    · subst same
      cases Table.insert_self.symm.trans known
      exact ⟨_, List.mem_append_right _ (.head _), rfl, rfl⟩
    · exact old ((Table.insert_of_ne same).symm.trans known)

/-- Where a generation is always published for one tenant and profile, no call leaves an orphan. -/
theorem covered_of_consistent {calls : List PublishCall}
    (consistent : ∀ first ∈ calls, ∀ second ∈ calls,
      first.metadata.generationId = second.metadata.generationId →
        first.metadata.objectKey = second.metadata.objectKey) :
    ∀ entry ∈ (publications aead sha256).history .default calls,
      ¬entry.before.LeavesOrphan aead sha256 entry.input := by
  have run := (publications aead sha256).history_invariant
    (fun past repository => (∀ entry ∈ past, entry.input ∈ calls) → Recorded past repository ∧
      ∀ entry ∈ past, ¬entry.before.LeavesOrphan aead sha256 entry.input)
    (fun _ => ⟨default_recorded, fun _ none => nomatch none⟩)
    (fun past repository call before known => by
      obtain ⟨recorded, covered⟩ :=
        before fun entry earlier => known entry (List.mem_append_left _ earlier)
      refine ⟨recorded.step call, fun entry member => ?_⟩
      rcases List.mem_append.mp member with earlier | last
      · exact covered entry earlier
      · cases List.mem_singleton.mp last
        rintro ⟨-, record, found, other⟩
        obtain ⟨entry, earlier, sameGeneration, key⟩ := recorded _ _ found
        have inRun := known entry (List.mem_append_left _ earlier)
        have latest : call ∈ calls := known _ (List.mem_append_right _ (.head _))
        exact other (key.trans (consistent _ inRun _ latest sameGeneration)))
    calls fun entry member => Machine.input_mem_of_mem_history _ member
  exact run.2

/-- Two calls for one generation under two keys: the second one is refused with
its object stored, and both objects took their nonces from one prefix. -/
theorem reused_across_keys {first second : PublishCall} {sealed again : SealedGeneration}
    (made : sealGeneration aead sha256 first.metadata first.key first.plaintext = .ok sealed)
    (made' : sealGeneration aead sha256 second.metadata second.key second.plaintext = .ok again)
    (sameGeneration : first.metadata.generationId = second.metadata.generationId)
    (otherKey : first.metadata.objectKey ≠ second.metadata.objectKey)
    (sameBytes : first.key.bytes = second.key.bytes)
    (samePrefix : first.metadata.noncePrefix = second.metadata.noncePrefix) :
    ¬NoncesUsedOnce aead sha256 ((publications aead sha256).history .default [first, second]) := by
  intro once
  have firstStores : default.Stores aead sha256 first sealed true
      (default.objects.insert first.metadata.objectKey sealed.container) :=
    ⟨sealUnclaimed_eq_ok.mpr ⟨made, fun _ held => nomatch held⟩, rfl⟩
  have covered : ¬default.LeavesOrphan aead sha256 first := fun ⟨_, _, found, _⟩ => nomatch found
  have keeps := keeps_publish default_catalogued covered
  obtain ⟨claim, -, record, known, key⟩ := keeps.latest _ _ _ firstStores
  -- the claim admits the second call, and its key is still free
  have admitted := sealUnclaimed_eq_ok.mpr ⟨made', fun holder held => by
    have domain : second.key.nonceDomain sha256 = first.key.nonceDomain sha256 :=
      congrArg (nonceDomain sha256) sameBytes.symm
    rw [domain, ← samePrefix, claim] at held
    rw [← Option.some.inj held, sameGeneration]⟩
  have free : ((publications aead sha256).step default first).2.objects
      second.metadata.objectKey = none := by
    cases found : ((publications aead sha256).step default first).2.objects
        second.metadata.objectKey with
    | none => rfl
    | some container =>
      obtain ⟨generationId, owner, owned, same⟩ := keeps.catalogued.owned _ _ found
      have described := keeps.catalogued.described _ _ owned
      have generation := objectKey_generationId (described.objectKey.symm.trans same)
      rw [described.generation, ← sameGeneration] at generation
      rw [generation, known] at owned
      rw [Option.some.inj owned, same] at key
      exact absurd key.symm otherKey
  have containers := once _ (.head _) _ (.tail _ (.head _)) _ _ _ _ _ _ firstStores
    ⟨admitted, putImmutable_eq_ok.mpr (.inr ⟨free, rfl, rfl⟩)⟩ sameBytes samePrefix
  obtain ⟨body, framed⟩ := (sealed_framed made).1
  obtain ⟨rest, framed'⟩ := (sealed_framed made').1
  rw [containers, framed'] at framed
  exact otherKey (congrArg GenerationMetadata.objectKey (metadata_of_framed framed).symm)

end Calls

/-! One generation published for two tenants under a key of sevens, with the values of
SHA-256 and XChaCha20-Poly1305 on these inputs. -/

namespace TwoTenants

def laterPlaintext : List UInt8 := [66]

def laterPlaintextDigest : Block 32 :=
  ⟨[223, 126, 112, 229, 2, 21, 68, 244, 131, 75, 190, 230, 74, 158, 55, 137,
    254, 188, 75, 232, 20, 112, 223, 98, 156, 173, 109, 219, 3, 50, 10, 92], rfl⟩

def laterMetadataDigest : Block 32 :=
  ⟨[109, 226, 225, 212, 152, 225, 242, 108, 250, 229, 42, 95, 58, 212, 209, 32,
    172, 3, 68, 113, 6, 135, 137, 121, 142, 50, 188, 137, 188, 250, 188, 106], rfl⟩

def laterContainerDigest : Block 32 :=
  ⟨[248, 28, 202, 197, 18, 166, 53, 71, 98, 220, 182, 66, 26, 7, 47, 4,
    120, 167, 164, 21, 192, 148, 36, 57, 68, 17, 110, 112, 207, 101, 195, 56], rfl⟩

def domain : Block 32 :=
  ⟨[94, 81, 118, 64, 171, 90, 149, 25, 175, 156, 111, 68, 43, 176, 230, 245,
    226, 130, 107, 14, 229, 231, 24, 58, 124, 157, 238, 117, 92, 72, 34, 232], rfl⟩

/-- On the input of a nonce domain, a bijection that takes the key to its domain. -/
def sha256 : Sha256 := fun bytes =>
  if sized : bytes.length = 75 then
    Equiv.swap OneByte.key.bytes domain ⟨bytes.drop 43, by rw [List.length_drop, sized]⟩
  else if bytes = laterPlaintext then laterPlaintextDigest
  else if bytes.length = 124 then laterMetadataDigest
  else if bytes.length = 203 then laterContainerDigest
  else OneByte.sha256 bytes

def laterChunkTag : Block 16 :=
  ⟨[102, 240, 46, 85, 129, 139, 18, 167, 170, 205, 36, 208, 244, 249, 203, 113], rfl⟩

def laterFinalTag : Block 16 :=
  ⟨[27, 27, 2, 162, 92, 154, 88, 208, 177, 29, 215, 76, 210, 81, 176, 222], rfl⟩

/-- The associated data starts with the digest of the metadata. -/
def tag (aad message : List UInt8) : Block 16 :=
  if aad.take 32 = laterMetadataDigest.val then
    if message = [] then laterFinalTag else laterChunkTag
  else OneByte.tag message

def aead : Aead where
  encrypt _ _ aad message := some (OneByte.pad message ++ (tag aad message).val)
  decrypt _ _ aad ciphertext :=
    let message := OneByte.pad (ciphertext.take (ciphertext.length - tagBytes))
    if ciphertext.drop (ciphertext.length - tagBytes) = (tag aad message).val then some message
    else none

theorem aead_addsTag : aead.AddsTag := by
  rintro key nonce aad message ciphertext ⟨⟩
  rw [List.length_append, OneByte.length_pad, (tag aad message).property]
  rfl

theorem aead_inverts : aead.Inverts := by
  intro key nonce aad message _
  have body : (OneByte.pad message ++ (tag aad message).val).length - tagBytes =
      (OneByte.pad message).length := by
    rw [List.length_append, (tag aad message).property, tagBytes, Nat.add_sub_cancel]
  refine ⟨_, rfl, ?_⟩
  simp only [aead, body, List.take_left, List.drop_left, OneByte.pad_pad, if_pos]

theorem sha256_injective : Function.Injective (nonceDomain sha256) := by
  have swaps (key : Block 32) : nonceDomain sha256 key = Equiv.swap OneByte.key.bytes domain key := by
    have sized : (nonceDomainLabel ++ key.val).length = 75 := by
      rw [List.length_append, key.property]
      rfl
    have rest : (nonceDomainLabel ++ key.val).drop 43 = key.val := List.drop_left' rfl
    simp only [nonceDomain, sha256, dif_pos sized, rest]
  intro first second same
  rw [swaps, swaps] at same
  exact (Equiv.swap _ _).injective same

def laterIdentity : GenerationIdentity :=
  { OneByte.identity with tenantId := ⟨⟨"tenant-00004", by decide⟩⟩ }

def publishing (identity : GenerationIdentity) (plaintext : List UInt8)
    (fits : plaintext.length ≤ maxStreamPlaintextBytes) (observedAt : UnixMillis) : PublishCall where
  metadata := .describing sha256 OneByte.key identity OneByte.noncePrefix OneByte.chunkSize plaintext
    fits
  key := OneByte.key
  plaintext := plaintext
  observedAt := observedAt

def first : PublishCall := publishing OneByte.identity OneByte.plaintext (by decide) 1
def second : PublishCall := publishing laterIdentity laterPlaintext (by decide) 2

theorem seals (identity : GenerationIdentity) (plaintext : List UInt8)
    (small : plaintext.length ≤ maxPlaintextBytes)
    (fits : plaintext.length ≤ maxStreamPlaintextBytes) (observedAt : UnixMillis) :
    ∃ sealed, sealGeneration aead sha256 (publishing identity plaintext fits observedAt).metadata
      OneByte.key plaintext = .ok sealed := by
  obtain ⟨metadata, sealed, described, made, -⟩ := in_memory_round_trip sha256 OneByte.key identity
    OneByte.noncePrefix OneByte.chunkSize aead_addsTag aead_inverts small
  obtain ⟨_, same⟩ := forPlaintext_eq sha256 OneByte.key identity OneByte.noncePrefix
    OneByte.chunkSize small
  cases same.symm.trans described
  exact ⟨sealed, made⟩

end TwoTenants

open TwoTenants in
theorem nonces_used_once_retried :
    NoncesUsedOnce aead sha256 ((publications aead sha256).history .default [first, first]) :=
  nonces_used_once aead sha256 [first, first] (covered_of_consistent (by simp))

/-- A publish for another tenant reuses the nonces of the generation it is confused with. -/
theorem nonces_used_twice :
    ¬∀ (aead : Aead) (sha256 : Sha256), Function.Injective (nonceDomain sha256) →
      ∀ calls : List PublishCall,
        NoncesUsedOnce aead sha256 ((publications aead sha256).history .default calls) := by
  intro always
  obtain ⟨sealed, made⟩ := TwoTenants.seals OneByte.identity OneByte.plaintext (by decide)
    (by decide) 1
  obtain ⟨again, made'⟩ := TwoTenants.seals TwoTenants.laterIdentity TwoTenants.laterPlaintext
    (by decide) (by decide) 2
  have once := always TwoTenants.aead TwoTenants.sha256 TwoTenants.sha256_injective
    [TwoTenants.first, TwoTenants.second]
  exact reused_across_keys made made' rfl (by decide +kernel) rfl rfl once

end ProfilePlatform.Generation
