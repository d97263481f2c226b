import ProfilePlatform.WindowsDelivery.Journal

/-! The chain of snapshots in the journal, and what reading finds of it. -/

set_option autoImplicit false

namespace ProfilePlatform.WindowsDelivery

open Foundation Foundation.Calls

/-- An envelope and the bytes it is written as. -/
structure Snapshot where
  envelope : PersistedStateEnvelope
  bytes : List UInt8

section Chain

variable (codec : SnapshotCodec) (sha256 : List UInt8 → Block 32)

namespace Snapshot

def finalName (snapshot : Snapshot) : List UInt8 :=
  snapshotName finalStart snapshot.envelope.revision (sha256Hex sha256 snapshot.bytes)

def pendingName (snapshot : Snapshot) : List UInt8 :=
  snapshotName pendingStart snapshot.envelope.revision (sha256Hex sha256 snapshot.bytes)

def finalFile (snapshot : Snapshot) : File := ⟨snapshot.finalName sha256, snapshot.bytes⟩

/-- The snapshot under its pending name, as far as it was written. -/
def pendingFile (snapshot : Snapshot) (reached : Nat) : File :=
  ⟨snapshot.pendingName sha256, snapshot.bytes.take reached⟩

def named (snapshot : Snapshot) (file : File) : SnapshotFile :=
  ⟨snapshot.envelope.revision, sha256Hex sha256 snapshot.bytes, file⟩

def store (snapshot : Snapshot) : DeliveryStateStore :=
  ⟨snapshot.envelope.revision, sha256Hex sha256 snapshot.bytes, snapshot.envelope.state,
    snapshot.envelope.handoff⟩

/-- The snapshot follows one with this digest. -/
structure Follows (snapshot : Snapshot) (revision : Nat) (previous : Option (List UInt8)) :
    Prop where
  made : codec.toVec snapshot.envelope = some snapshot.bytes
  valid : snapshot.envelope.validate revision previous = .ok ()
  positive : 0 < revision
  within : revision < u64Limit

end Snapshot

/-- Every snapshot follows the one before it, from a revision on. -/
def Linked (revision : Nat) (previous : Option (List UInt8)) : List Snapshot → Prop
  | [] => True
  | snapshot :: rest => snapshot.Follows codec revision previous ∧
    Linked (revision + 1) (some (sha256Hex sha256 snapshot.bytes)) rest

end Chain

theorem linked_nil (codec : SnapshotCodec) (sha256 : List UInt8 → Block 32) (revision : Nat)
    (previous : Option (List UInt8)) : Linked codec sha256 revision previous [] := by
  unfold Linked
  trivial

section Chains

variable {codec : SnapshotCodec} {sha256 : List UInt8 → Block 32} {snapshot last : Snapshot}
  {chain : List Snapshot} {revision : Nat} {previous : Option (List UInt8)}

theorem Snapshot.Follows.revision_eq (follows : snapshot.Follows codec revision previous) :
    snapshot.envelope.revision = revision := by
  obtain ⟨_, same, -⟩ := bind_eq_ok.mp follows.valid
  have agrees := refuseIf_eq_ok.mp same
  by_contra other
  exact agrees (.inr (.inr (.inl other)))

/-- What the next snapshot of the chain names as its previous one. -/
def lastDigest (sha256 : List UInt8 → Block 32) (previous : Option (List UInt8)) :
    List Snapshot → Option (List UInt8)
  | [] => previous
  | snapshot :: rest => lastDigest sha256 (some (sha256Hex sha256 snapshot.bytes)) rest

theorem lastDigest_concat : lastDigest sha256 previous (chain ++ [last]) =
    some (sha256Hex sha256 last.bytes) := by
  induction chain generalizing previous with
  | nil => rfl
  | cons snapshot rest ih => exact ih

theorem linked_concat : Linked codec sha256 revision previous (chain ++ [last]) ↔
    Linked codec sha256 revision previous chain ∧
      last.Follows codec (revision + chain.length) (lastDigest sha256 previous chain) := by
  induction chain generalizing revision previous with
  | nil => simp [Linked, lastDigest]
  | cons snapshot rest ih =>
    rw [List.cons_append, Linked, ih, Linked, lastDigest, List.length_cons, and_assoc,
      Nat.add_right_comm, Nat.add_assoc]

theorem revisions_of_linked (linked : Linked codec sha256 revision previous chain) :
    chain.map (·.envelope.revision) = List.range' revision chain.length := by
  induction chain generalizing revision previous with
  | nil => rfl
  | cons snapshot rest ih =>
    rw [List.map_cons, List.length_cons, List.range'_succ, linked.1.revision_eq, ih linked.2]

/-- The names of the snapshots of a chain tell their revision and digest. -/
theorem named_of_linked (linked : Linked codec sha256 revision previous chain)
    (member : snapshot ∈ chain) :
    (∃ earlier before, snapshot.Follows codec earlier before) ∧
      revision ≤ snapshot.envelope.revision ∧
      snapshot.envelope.revision < revision + chain.length := by
  induction chain generalizing revision previous with
  | nil => cases member
  | cons first rest ih =>
    rw [List.length_cons]
    rcases List.mem_cons.mp member with rfl | later
    · have same := linked.1.revision_eq
      exact ⟨⟨_, _, linked.1⟩, by omega, by omega⟩
    · obtain ⟨follows, lower, upper⟩ := ih linked.2 later
      exact ⟨follows, by omega, by omega⟩

theorem Snapshot.Follows.parse_finalName (sha256 : List UInt8 → Block 32) (follows : snapshot.Follows codec revision previous) :
    parseSnapshotName (snapshot.finalName sha256) finalStart =
      some (snapshot.envelope.revision, sha256Hex sha256 snapshot.bytes) := by
  have same := follows.revision_eq
  refine parse_snapshotName ?_ ?_ (isLowerHexOf_sha256Hex sha256 _)
  · rw [same]
    exact follows.positive
  · rw [same]
    exact follows.within

theorem Snapshot.Follows.parse_pendingName (sha256 : List UInt8 → Block 32)
    (follows : snapshot.Follows codec revision previous) :
    parseSnapshotName (snapshot.pendingName sha256) finalStart = none ∧
      parseSnapshotName (snapshot.pendingName sha256) pendingStart =
        some (snapshot.envelope.revision, sha256Hex sha256 snapshot.bytes) := by
  have same := follows.revision_eq
  refine ⟨WindowsDelivery.parse_pendingName, parse_snapshotName ?_ ?_ (isLowerHexOf_sha256Hex sha256 _)⟩
  · rw [same]
    exact follows.positive
  · rw [same]
    exact follows.within

end Chains

section Scanning

variable {codec : SnapshotCodec} {sha256 : List UInt8 → Block 32} {root : Root} {files : List File}

/-- What the name of a final file tells, and what that of a pending one does. -/
def finalOf (file : File) : Option SnapshotFile :=
  (parseSnapshotName file.name finalStart).map fun identity => ⟨identity.1, identity.2, file⟩

def pendingOf (file : File) : Option SnapshotFile :=
  match finalOf file with
  | some _ => none
  | none => (parseSnapshotName file.name pendingStart).map fun identity =>
    ⟨identity.1, identity.2, file⟩

theorem reads_scan (named : ∀ file ∈ files, (finalOf file).isSome ∨ (pendingOf file).isSome) :
    Reads root (scan files) (.ok ⟨files.filterMap finalOf, files.filterMap pendingOf⟩) := by
  induction files with
  | nil => exact reads_pure _
  | cons file rest ih =>
    obtain ⟨first, later⟩ := List.forall_mem_cons.mp named
    refine reads_bind reads_observe (reads_bind reads_observe ?_)
    simp only [finalOf, pendingOf, List.filterMap_cons] at first ih ⊢
    generalize parseSnapshotName file.name finalStart = final at first ⊢
    generalize parseSnapshotName file.name pendingStart = pending at first ⊢
    cases final with
    | some identity => exact reads_bind (ih later) (reads_pure _)
    | none =>
      cases pending with
      | some identity => exact reads_bind (ih later) (reads_pure _)
      | none => simp at first

end Scanning

section Loading

variable {codec : SnapshotCodec} {sha256 : List UInt8 → Block 32} {root : Root}
  {snapshot last : Snapshot} {chain : List Snapshot} {revision : Nat}
  {previous : Option (List UInt8)} {loaded : Option (DeliveryState × Option DeliveryHandoffEvidence)}

def Snapshot.namedFinal (sha256 : List UInt8 → Block 32) (snapshot : Snapshot) : SnapshotFile :=
  snapshot.named sha256 (snapshot.finalFile sha256)

def Snapshot.contents (snapshot : Snapshot) : DeliveryState × Option DeliveryHandoffEvidence :=
  (snapshot.envelope.state, snapshot.envelope.handoff)

theorem reads_readSnapshot {file : File} (follows : snapshot.Follows codec revision previous)
    (whole : file.content = snapshot.bytes) :
    Reads root (readSnapshot codec sha256 file)
      (.ok (snapshot.envelope, sha256Hex sha256 snapshot.bytes)) := by
  refine reads_bind reads_observe (reads_bind reads_observe ?_)
  rw [whole, codec.reads _ _ follows.made]
  exact reads_bind (reads_told _) (reads_pure _)

theorem reads_refuseIf {condition : Prop} [Decidable condition] {why : DeliveryStateStoreError}
    (passes : ¬condition) : Reads root (told (refuseIf condition why)) (.ok ()) := by
  rw [refuseIf_passes passes]
  exact reads_told _

/-- The checks of a snapshot that follows are passed. Only the counter may be exhausted. -/
theorem reads_loadNext {loading : Loading} {result : Except DeliveryStateStoreError Loading}
    (follows : snapshot.Follows codec loading.expectedRevision loading.previousDigest)
    (counts : Reads root (do
      let expectedRevision ← told (okOr (checkedAdd loading.expectedRevision 1) .revisionExhausted)
      return Loading.mk expectedRevision (some (sha256Hex sha256 snapshot.bytes))
        (some snapshot.contents)) result) :
    Reads root (loadNext codec sha256 loading (snapshot.namedFinal sha256)) result := by
  have same := follows.revision_eq
  have valid : Reads root
      (told (snapshot.envelope.validate snapshot.envelope.revision loading.previousDigest))
      (.ok ()) := by
    rw [same, follows.valid]
    exact reads_told _
  refine reads_bind (reads_refuseIf (not_not.mpr same)) ?_
  refine reads_bind (reads_readSnapshot follows rfl) ?_
  exact reads_bind (reads_refuseIf (not_not.mpr rfl)) (reads_bind valid counts)

def Loading.next (sha256 : List UInt8 → Block 32) (loading : Loading) (snapshot : Snapshot) :
    Loading :=
  ⟨loading.expectedRevision + 1, some (sha256Hex sha256 snapshot.bytes), some snapshot.contents⟩

theorem reads_loadNexts {loading : Loading}
    (linked : Linked codec sha256 loading.expectedRevision loading.previousDigest chain)
    (room : loading.expectedRevision + chain.length < u64Limit) :
    Reads root ((chain.map (Snapshot.namedFinal sha256)).foldlM (loadNext codec sha256) loading)
      (.ok (chain.foldl (Loading.next sha256) loading)) := by
  induction chain generalizing loading with
  | nil => exact reads_pure _
  | cons snapshot rest ih =>
    rw [List.length_cons] at room
    have counts : checkedAdd loading.expectedRevision 1 = some (loading.expectedRevision + 1) :=
      checkedAdd_eq_some.mpr ⟨rfl, by omega⟩
    have step : Reads root (loadNext codec sha256 loading (snapshot.namedFinal sha256))
        (.ok (loading.next sha256 snapshot)) := by
      refine reads_loadNext linked.1 ?_
      rw [counts]
      exact reads_bind (reads_told _) (reads_pure _)
    have room : loading.expectedRevision + 1 + rest.length < u64Limit := by omega
    rw [List.map_cons, List.foldlM_cons]
    exact reads_bind step (ih linked.2 room)

theorem expectedRevision_next (sha256 : List UInt8 → Block 32) (chain : List Snapshot)
    (loading : Loading) :
    (chain.foldl (Loading.next sha256) loading).expectedRevision =
      loading.expectedRevision + chain.length := by
  induction chain generalizing loading with
  | nil => rfl
  | cons snapshot rest ih =>
    rw [List.foldl_cons, ih, List.length_cons]
    show loading.expectedRevision + 1 + rest.length = _
    omega

theorem previousDigest_next (sha256 : List UInt8 → Block 32) (chain : List Snapshot)
    (loading : Loading) :
    (chain.foldl (Loading.next sha256) loading).previousDigest =
      lastDigest sha256 loading.previousDigest chain := by
  induction chain generalizing loading with
  | nil => rfl
  | cons snapshot rest ih => exact ih _

theorem reads_loadFinalChain (linked : Linked codec sha256 1 none (chain ++ [last]))
    (room : chain.length + 2 < u64Limit) :
    Reads root (loadFinalChain codec sha256 ((chain ++ [last]).map (Snapshot.namedFinal sha256)))
      (.ok (last.store sha256)) := by
  have loop : Reads root (((chain ++ [last]).map (Snapshot.namedFinal sha256)).foldlM
      (loadNext codec sha256) ⟨1, none, none⟩)
      (.ok ((chain ++ [last]).foldl (Loading.next sha256) ⟨1, none, none⟩)) := by
    refine reads_loadNexts linked ?_
    rw [List.length_append, List.length_singleton]
    show 1 + (chain.length + 1) < u64Limit
    omega
  have revision : (chain.foldl (Loading.next sha256) ⟨1, none, none⟩).expectedRevision =
      last.envelope.revision := by
    rw [expectedRevision_next, (linked_concat.mp linked).2.revision_eq]
  refine reads_bind loop ?_
  rw [List.foldl_concat, Loading.next, revision]
  exact reads_bind (reads_told _) (reads_bind (reads_told _) (reads_pure _))

theorem reads_loadFinalChain_exhausted (linked : Linked codec sha256 1 none (chain ++ [last]))
    (full : u64Limit ≤ chain.length + 2) :
    Reads root (loadFinalChain codec sha256 ((chain ++ [last]).map (Snapshot.namedFinal sha256)))
      (.error .revisionExhausted) := by
  obtain ⟨front, follows⟩ := linked_concat.mp linked
  have within := follows.within
  have loop : Reads root ((chain.map (Snapshot.namedFinal sha256)).foldlM
      (loadNext codec sha256) ⟨1, none, none⟩)
      (.ok (chain.foldl (Loading.next sha256) ⟨1, none, none⟩)) := reads_loadNexts front within
  have stops : Reads root (loadNext codec sha256
      (chain.foldl (Loading.next sha256) ⟨1, none, none⟩) (last.namedFinal sha256))
      (.error .revisionExhausted) := by
    have here := expectedRevision_next sha256 chain ⟨1, none, none⟩
    have before := previousDigest_next sha256 chain ⟨1, none, none⟩
    refine reads_loadNext (by rw [here, before]; exact follows) ?_
    have counts : checkedAdd (chain.foldl (Loading.next sha256) ⟨1, none, none⟩).expectedRevision 1 =
        none := by
      rw [here]
      exact checkedAdd_eq_none.mpr (by show u64Limit ≤ 1 + chain.length + 1; omega)
    rw [counts]
    exact reads_bind_error (reads_told _)
  refine reads_bind_error ?_
  rw [List.map_append, List.foldlM_append]
  refine reads_bind loop ?_
  exact reads_bind_error stops

end Loading

section Listings

variable {codec : SnapshotCodec} {sha256 : List UInt8 → Block 32} {root : Root} {files : List File}
  {listing : Listing} {snapshot last : Snapshot} {chain : List Snapshot} {revision : Nat}
  {previous : Option (List UInt8)}

def finals (sha256 : List UInt8 → Block 32) (chain : List Snapshot) : List File :=
  chain.map (Snapshot.finalFile sha256)

theorem Snapshot.Follows.finalOf_finalFile (follows : snapshot.Follows codec revision previous) :
    finalOf (snapshot.finalFile sha256) = some (snapshot.namedFinal sha256) := by
  show (parseSnapshotName (snapshot.finalName sha256) finalStart).map _ = _
  rw [follows.parse_finalName sha256]
  rfl

theorem Snapshot.Follows.pendingOf_finalFile (follows : snapshot.Follows codec revision previous) :
    pendingOf (snapshot.finalFile sha256) = none := by
  rw [pendingOf, follows.finalOf_finalFile]

theorem Snapshot.Follows.of_pendingFile (sha256 : List UInt8 → Block 32)
    (follows : snapshot.Follows codec revision previous) (reached : Nat) :
    finalOf (snapshot.pendingFile sha256 reached) = none ∧
      pendingOf (snapshot.pendingFile sha256 reached) =
        some (snapshot.named sha256 (snapshot.pendingFile sha256 reached)) := by
  obtain ⟨unfinished, pending⟩ := follows.parse_pendingName sha256
  have absent : finalOf (snapshot.pendingFile sha256 reached) = none := by
    show (parseSnapshotName (snapshot.pendingName sha256) finalStart).map _ = _
    rw [unfinished]
    rfl
  refine ⟨absent, ?_⟩
  rw [pendingOf, absent]
  show (parseSnapshotName (snapshot.pendingName sha256) pendingStart).map _ = _
  rw [pending]
  rfl

theorem Snapshot.Follows.named_pendingFile (sha256 : List UInt8 → Block 32)
    (follows : snapshot.Follows codec revision previous) (reached : Nat) :
    ∀ file ∈ [snapshot.pendingFile sha256 reached],
      finalOf file = none ∧ (pendingOf file).isSome := by
  obtain ⟨unfinished, pending⟩ := follows.of_pendingFile sha256 reached
  intro file member
  rw [List.mem_singleton.mp member, pending]
  exact ⟨unfinished, rfl⟩

theorem Snapshot.Follows.perm_pendingFile {reached : Nat} {found : List SnapshotFile}
    (follows : snapshot.Follows codec revision previous)
    (same : found.Perm ([snapshot.pendingFile sha256 reached].filterMap pendingOf)) :
    found = [snapshot.named sha256 (snapshot.pendingFile sha256 reached)] := by
  rw [List.filterMap_cons, (follows.of_pendingFile sha256 reached).2] at same
  exact List.perm_singleton.mp same

theorem filterMap_finals (linked : Linked codec sha256 revision previous chain) :
    (finals sha256 chain).filterMap finalOf = chain.map (Snapshot.namedFinal sha256) ∧
      (finals sha256 chain).filterMap pendingOf = [] := by
  induction chain generalizing revision previous with
  | nil => exact ⟨rfl, rfl⟩
  | cons snapshot rest ih =>
    obtain ⟨found, nothing⟩ := ih linked.2
    simp only [finals, List.map_cons, List.filterMap_cons, linked.1.finalOf_finalFile,
      linked.1.pendingOf_finalFile]
    exact ⟨congrArg _ found, nothing⟩

theorem revisions_namedFinal (linked : Linked codec sha256 revision previous chain) :
    (chain.map (Snapshot.namedFinal sha256)).map SnapshotFile.revision =
      List.range' revision chain.length := by
  rw [List.map_map, ← revisions_of_linked linked]
  rfl

theorem ascending_namedFinal (linked : Linked codec sha256 revision previous chain) :
    (chain.map (Snapshot.namedFinal sha256)).Pairwise
      fun left right => left.revision < right.revision := by
  have ascending : (List.range' revision chain.length).Pairwise (· < ·) :=
    List.pairwise_lt_range' 1
  rw [← revisions_namedFinal linked] at ascending
  exact List.pairwise_map.mp ascending

/-- However the directory is listed, the finals are the chain once they are sorted. -/
theorem insertionSort_finals (linked : Linked codec sha256 revision previous chain)
    {found : List SnapshotFile} (listed : found.Perm (chain.map (Snapshot.namedFinal sha256))) :
    found.insertionSort (fun left right => left.revision ≤ right.revision) =
      chain.map (Snapshot.namedFinal sha256) := by
  have distinct : ((chain.map (Snapshot.namedFinal sha256)).map SnapshotFile.revision).Nodup := by
    rw [revisions_namedFinal linked]
    exact List.nodup_range'
  have total : Std.Total fun left right : SnapshotFile => left.revision ≤ right.revision :=
    ⟨fun left right => Nat.le_total _ _⟩
  have trans : IsTrans SnapshotFile fun left right => left.revision ≤ right.revision :=
    ⟨fun _ _ _ => Nat.le_trans⟩
  refine ((List.perm_insertionSort _ found).trans listed).eq_of_pairwise ?_
    (List.pairwise_insertionSort _ found) ((ascending_namedFinal linked).imp Nat.le_of_lt)
  intro left right member also lower upper
  have among := (List.perm_insertionSort _ found).trans listed |>.mem_iff.mp member
  exact List.inj_on_of_nodup_map distinct among also (Nat.le_antisymm lower upper)

theorem adjacent_of_pairwise {R : SnapshotFile → SnapshotFile → Prop} {list : List SnapshotFile}
    (related : list.Pairwise R) : ∀ pair ∈ list.zip list.tail, R pair.1 pair.2 := by
  induction list with
  | nil => simp
  | cons first rest ih =>
    obtain ⟨before, later⟩ := List.pairwise_cons.mp related
    cases rest with
    | nil => simp
    | cons second others =>
      exact List.forall_mem_cons.mpr ⟨before second List.mem_cons_self, ih later⟩

theorem reads_validateUniqueRevisions (linked : Linked codec sha256 revision previous chain) :
    Reads root (told (validateUniqueRevisions (chain.map (Snapshot.namedFinal sha256))))
      (.ok ()) := by
  refine reads_refuseIf ?_
  rintro ⟨pair, member, same⟩
  exact Nat.ne_of_lt (adjacent_of_pairwise (ascending_namedFinal linked) pair member) same

/-- The root as one finds it: the finals of a chain, and what stands beside them. -/
theorem reads_listed {files extra : List File} (linked : Linked codec sha256 1 none chain)
    (same : files = finals sha256 chain ++ extra)
    (named : ∀ file ∈ extra, finalOf file = none ∧ (pendingOf file).isSome) :
    ∃ found, Reads root (scan (listing.val files)) (.ok found) ∧
      found.finals.Perm (chain.map (Snapshot.namedFinal sha256)) ∧
      found.pending.Perm (extra.filterMap pendingOf) := by
  obtain ⟨finished, unfinished⟩ := filterMap_finals linked
  have beside : extra.filterMap finalOf = [] :=
    List.filterMap_eq_nil_iff.mpr fun file member => (named file member).1
  refine ⟨_, reads_scan fun file member => ?_, ?_, ?_⟩
  · rw [(listing.property files).mem_iff, same] at member
    rcases List.mem_append.mp member with among | other
    · obtain ⟨snapshot, held, rfl⟩ := List.mem_map.mp among
      obtain ⟨⟨_, _, follows⟩, -, -⟩ := named_of_linked linked held
      exact .inl (by rw [follows.finalOf_finalFile]; rfl)
    · exact .inr (named file other).2
  · refine ((listing.property files).filterMap finalOf).trans (.of_eq ?_)
    rw [same, List.filterMap_append, finished, beside, List.append_nil]
  · refine ((listing.property files).filterMap pendingOf).trans (.of_eq ?_)
    rw [same, List.filterMap_append, unfinished, List.nil_append]

end Listings

section Opening

variable {codec : SnapshotCodec} {sha256 : List UInt8 → Block 32} {root : Root}
  {listing : Listing} {snapshot last : Snapshot} {chain : List Snapshot} {allow : Bool}

theorem reads_loadChain_missing {extra : List File}
    (named : ∀ file ∈ extra, finalOf file = none ∧ (pendingOf file).isSome) :
    Reads root (loadChain codec sha256 listing extra allow) (.error .missingState) := by
  obtain ⟨found, scanned, nothing, -⟩ :=
    reads_listed (linked_nil codec sha256 1 none) rfl named
  refine reads_bind reads_observe (reads_bind scanned (reads_bind_error ?_))
  rw [List.perm_nil.mp nothing]
  exact reads_told _

theorem leads_loadChain {extra : List File} {clean : Prop}
    {returns : DeliveryStateStore → World Root → Prop}
    {fails : Stop DeliveryStateStoreError → World Root → Prop}
    (linked : Linked codec sha256 1 none (chain ++ [last])) (room : chain.length + 2 < u64Limit)
    (named : ∀ file ∈ extra, finalOf file = none ∧ (pendingOf file).isSome)
    (settles : ∀ pending, pending.Perm (extra.filterMap pendingOf) →
      Leads (At clean root) (settlePending codec sha256 allow (last.store sha256) pending) returns
        fails)
    (breaks : ∀ stop world, world.disk = root → ¬clean → fails stop world) :
    Leads (At clean root)
      (loadChain codec sha256 listing (finals sha256 (chain ++ [last]) ++ extra) allow) returns
      fails := by
  obtain ⟨found, scanned, all, beside⟩ := reads_listed linked rfl named
  have some_ : ¬found.finals = [] := by
    intro nothing
    rw [nothing] at all
    have empty := List.nil_perm.mp all
    simp at empty
  refine reads_observe.leads_bind (scanned.leads_bind ?_ breaks) breaks
  refine (reads_refuseIf some_).leads_bind ?_ breaks
  rw [insertionSort_finals linked all]
  refine (reads_validateUniqueRevisions linked).leads_bind ?_ breaks
  exact (reads_loadFinalChain linked room).leads_bind (settles found.pending beside) breaks

theorem reads_loadChain_exhausted {files extra : List File}
    (linked : Linked codec sha256 1 none (chain ++ [last])) (full : u64Limit ≤ chain.length + 2)
    (same : files = finals sha256 (chain ++ [last]) ++ extra)
    (named : ∀ file ∈ extra, finalOf file = none ∧ (pendingOf file).isSome) :
    Reads root (loadChain codec sha256 listing files allow) (.error .revisionExhausted) := by
  obtain ⟨found, scanned, all, beside⟩ := reads_listed linked same named
  have some_ : ¬found.finals = [] := by
    intro nothing
    rw [nothing] at all
    have empty := List.nil_perm.mp all
    simp at empty
  refine reads_bind reads_observe (reads_bind scanned ?_)
  refine reads_bind (reads_refuseIf some_) ?_
  rw [insertionSort_finals linked all]
  exact reads_bind (reads_validateUniqueRevisions linked) (reads_bind_error (reads_loadFinalChain_exhausted linked full))

theorem reads_loadChain_settled (linked : Linked codec sha256 1 none (chain ++ [last]))
    (room : chain.length + 2 < u64Limit) :
    Reads root (loadChain codec sha256 listing (finals sha256 (chain ++ [last])) allow)
      (.ok (last.store sha256)) := by
  intro clean
  rw [← List.append_nil (finals sha256 _)]
  refine leads_loadChain linked room (by simp) (fun pending nothing => ?_) fun _ _ same unclean =>
    ⟨same, fun holds => absurd holds unclean⟩
  rw [List.perm_nil.mp nothing]
  exact reads_pure _ clean

theorem reads_settlePending_torn {reached : Nat}
    (linked : Linked codec sha256 1 none (chain ++ [last] ++ [snapshot]))
    (torn : reached < snapshot.bytes.length) (room : chain.length + 2 < u64Limit) :
    ∃ why, Reads root (settlePending codec sha256 allow (last.store sha256)
      [snapshot.named sha256 (snapshot.pendingFile sha256 reached)]) (.error why) := by
  obtain ⟨front, follows⟩ := linked_concat.mp linked
  have counts : checkedAdd (last.store sha256).revision 1 = some snapshot.envelope.revision := by
    have here := (linked_concat.mp front).2.revision_eq
    have there := follows.revision_eq
    rw [List.length_append, List.length_singleton] at there
    refine checkedAdd_eq_some.mpr ⟨?_, ?_⟩
    · show _ = last.envelope.revision + 1
      omega
    · show last.envelope.revision + 1 < u64Limit
      omega
  have cut : Reads root (readSnapshot codec sha256 (snapshot.pendingFile sha256 reached))
      (.error .corruptState) := by
    refine reads_bind reads_observe (reads_bind reads_observe ?_)
    rw [Snapshot.pendingFile, codec.torn _ _ follows.made _ torn]
    exact reads_bind_error (reads_told _)
  cases allow with
  | false => exact ⟨.pendingRecoveryRequired, reads_bind_error (reads_told _)⟩
  | true =>
    refine ⟨.corruptState, reads_bind (reads_told _) (reads_bind (reads_told _) ?_)⟩
    unfold finalizePending
    rw [counts]
    refine reads_bind (reads_told _) (reads_bind (reads_refuseIf (not_not.mpr rfl)) ?_)
    exact reads_bind_error cut

/-- A pending snapshot that is not whole stops the journal from being opened. -/
theorem reads_loadChain_torn {reached : Nat}
    (linked : Linked codec sha256 1 none (chain ++ [last] ++ [snapshot]))
    (torn : reached < snapshot.bytes.length) :
    ∃ why, Reads root (loadChain codec sha256 listing
      (finals sha256 (chain ++ [last]) ++ [snapshot.pendingFile sha256 reached]) allow)
      (.error why) := by
  obtain ⟨front, follows⟩ := linked_concat.mp linked
  have named := follows.named_pendingFile sha256 reached
  rcases Nat.lt_or_ge (chain.length + 2) u64Limit with room | full
  · obtain ⟨why, stops⟩ : ∃ why, Reads root (settlePending codec sha256 allow (last.store sha256)
        [snapshot.named sha256 (snapshot.pendingFile sha256 reached)]) (.error why) :=
      reads_settlePending_torn linked torn room
    refine ⟨why, fun clean => leads_loadChain front room named (fun found same => ?_)
      fun _ _ same unclean => ⟨same, fun holds => absurd holds unclean⟩⟩
    rw [follows.perm_pendingFile same]
    exact stops clean
  · exact ⟨_, reads_loadChain_exhausted front full rfl named⟩

end Opening

end ProfilePlatform.WindowsDelivery
