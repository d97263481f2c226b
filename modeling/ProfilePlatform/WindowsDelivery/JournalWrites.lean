import ProfilePlatform.WindowsDelivery.JournalChain

/-! Writing the next snapshot of the chain, and what is left of a writing that breaks off. -/

set_option autoImplicit false

namespace ProfilePlatform.WindowsDelivery

open Foundation Foundation.Calls

section Names

variable {files : List File} {name other content : List UInt8} {file : File}

/-- No file has the name. -/
def Unnamed (files : List File) (name : List UInt8) : Prop := ∀ file ∈ files, file.name ≠ name

theorem has_eq_false (unnamed : Unnamed files name) : Root.has (some files) name = false := by
  simpa [Root.has, Unnamed] using unnamed

theorem fill_last (unnamed : Unnamed files name) :
    Root.fill name content (some (files ++ [⟨name, other⟩])) =
      some (files ++ [⟨name, content⟩]) := by
  have kept : (files.map fun file => if file.name = name then ⟨name, content⟩ else file) = files :=
    (List.map_congr_left fun file member => if_neg (unnamed file member)).trans (List.map_id _)
  simp [Root.fill, kept]

theorem rename_last (unnamed : Unnamed files name) (free : Unnamed files other)
    (differs : name ≠ other) :
    Root.rename name other (some (files ++ [⟨name, content⟩])) =
      some (files ++ [⟨other, content⟩]) := by
  have all : files.filter (fun file => file.name ≠ other) = files :=
    List.filter_eq_self.mpr fun file member => by simpa using free file member
  have kept : (files.map fun file => if file.name = name then File.mk other file.content else file) =
      files :=
    (List.map_congr_left fun file member => if_neg (unnamed file member)).trans (List.map_id _)
  simp only [Root.rename, Option.map_some, List.filter_append, all, List.map_append, kept]
  simp [differs]

variable {codec : SnapshotCodec} {sha256 : List UInt8 → Block 32} {snapshot : Snapshot}
  {chain : List Snapshot} {revision : Nat} {previous : Option (List UInt8)}

theorem unnamed_finals (linked : Linked codec sha256 1 none (chain ++ [snapshot])) :
    Unnamed (finals sha256 chain) (snapshot.finalName sha256) ∧
      Unnamed (finals sha256 chain) (snapshot.pendingName sha256) := by
  obtain ⟨front, follows⟩ := linked_concat.mp linked
  have here := follows.revision_eq
  constructor
  · intro file member same
    obtain ⟨earlier, held, rfl⟩ := List.mem_map.mp member
    obtain ⟨⟨_, _, before⟩, -, upper⟩ := named_of_linked front held
    have told := before.parse_finalName sha256
    rw [show earlier.finalName sha256 = snapshot.finalName sha256 from same,
      follows.parse_finalName sha256] at told
    have revisions : snapshot.envelope.revision = earlier.envelope.revision :=
      congrArg Prod.fst (Option.some.inj told)
    omega
  · intro file member same
    obtain ⟨earlier, held, rfl⟩ := List.mem_map.mp member
    obtain ⟨⟨_, _, before⟩, -, -⟩ := named_of_linked front held
    have told := before.parse_finalName sha256
    rw [show earlier.finalName sha256 = snapshot.pendingName sha256 from same,
      (follows.parse_pendingName sha256).1] at told
    cases told

theorem Snapshot.Follows.names_ne (follows : snapshot.Follows codec revision previous) :
    (snapshot.pendingName sha256) ≠ (snapshot.finalName sha256) := by
  intro same
  have told := follows.parse_finalName sha256
  rw [← same, (follows.parse_pendingName sha256).1] at told
  cases told

end Names

section Finalizing

variable {codec : SnapshotCodec} {sha256 : List UInt8 → Block 32} {listing : Listing}
  {snapshot last : Snapshot} {chain : List Snapshot} {clean : Prop}

/-- The root with the next snapshot under its final name. -/
def settledRoot (sha256 : List UInt8 → Block 32) (chain : List Snapshot) : Root :=
  some (finals sha256 chain)

def pendingRoot (sha256 : List UInt8 → Block 32) (chain : List Snapshot) (snapshot : Snapshot)
    (reached : Nat) : Root :=
  some (finals sha256 chain ++ [snapshot.pendingFile sha256 reached])

theorem settledRoot_concat : settledRoot sha256 (chain ++ [snapshot]) =
    some (finals sha256 chain ++ [snapshot.finalFile sha256]) := by
  simp [settledRoot, finals]

theorem rename_pendingRoot {reached : Nat}
    (linked : Linked codec sha256 1 none (chain ++ [snapshot]))
    (whole : snapshot.bytes.length ≤ reached) :
    Root.rename (snapshot.pendingName sha256) (snapshot.finalName sha256)
      (pendingRoot sha256 chain snapshot reached) = settledRoot sha256 (chain ++ [snapshot]) := by
  obtain ⟨free, unnamed⟩ := unnamed_finals linked
  rw [settledRoot_concat, pendingRoot, Snapshot.pendingFile, List.take_of_length_le whole]
  exact rename_last unnamed free (linked_concat.mp linked).2.names_ne

/-- A snapshot is renamed, made sure of and answered with, or the run goes wrong around the
rename. -/
theorem leads_rename {A : Type} (value : A) {reached : Nat}
    (linked : Linked codec sha256 1 none (chain ++ [snapshot]))
    (whole : snapshot.bytes.length ≤ reached) (clean : Prop) :
    Leads (At clean (pendingRoot sha256 chain snapshot reached))
      (do
        renameFile (snapshot.pendingName sha256) (snapshot.finalName sha256)
        observe .io
        observe .io
        return value)
      (fun answer world => answer = value ∧
        At clean (settledRoot sha256 (chain ++ [snapshot])) world)
      (fun _ world => ¬clean ∧ (world.disk = pendingRoot sha256 chain snapshot reached ∨
        world.disk = settledRoot sha256 (chain ++ [snapshot]))) := by
  have renames := rename_pendingRoot linked whole
  refine (leads_perform.weaken (fun _ here => here) (fun _ _ here => here) ?_).bind fun _ => ?_
  · rintro stop world ⟨unclean, -, gone, left⟩
    refine ⟨unclean, ?_⟩
    rw [left]
    by_cases untouched : gone = 0
    · exact .inl (if_pos untouched)
    · exact .inr ((if_neg untouched).trans renames)
  · rw [renames]
    have synced : Reads (settledRoot sha256 (chain ++ [snapshot]))
        (do observe .io; observe .io; return value : StoreCalls A) (.ok value) :=
      reads_bind reads_observe (reads_bind reads_observe (reads_pure value))
    refine (synced clean).weaken (fun _ here => here) ?_ ?_
    · rintro found world ⟨same, here⟩
      cases same
      exact ⟨rfl, here⟩
    · rintro stop world ⟨same, refused⟩
      refine ⟨fun holds => ?_, .inr same⟩
      obtain ⟨_, _, impossible⟩ := refused holds
      cases impossible

/-- The counter moves from the last snapshot of the chain to the next one. -/
theorem checkedAdd_next (linked : Linked codec sha256 1 none (chain ++ [last] ++ [snapshot])) :
    checkedAdd (last.store sha256).revision 1 = some snapshot.envelope.revision := by
  obtain ⟨front, follows⟩ := linked_concat.mp linked
  have here := (linked_concat.mp front).2.revision_eq
  have there := follows.revision_eq
  have within := follows.within
  rw [List.length_append, List.length_singleton] at there within
  refine checkedAdd_eq_some.mpr ⟨?_, ?_⟩
  · show _ = last.envelope.revision + 1
    omega
  · show last.envelope.revision + 1 < u64Limit
    omega

theorem has_finalName {reached : Nat} (linked : Linked codec sha256 1 none (chain ++ [snapshot])) :
    (pendingRoot sha256 chain snapshot reached).has (snapshot.finalName sha256) = false := by
  refine has_eq_false fun file member => ?_
  rcases List.mem_append.mp member with among | beside
  · exact (unnamed_finals linked).1 file among
  · rw [List.mem_singleton.mp beside]
    exact (linked_concat.mp linked).2.names_ne

theorem leads_settlePending_whole {reached : Nat}
    (linked : Linked codec sha256 1 none (chain ++ [last] ++ [snapshot]))
    (whole : snapshot.bytes.length ≤ reached) :
    Leads (At clean (pendingRoot sha256 (chain ++ [last]) snapshot reached))
      (settlePending codec sha256 true (last.store sha256)
        [snapshot.named sha256 (snapshot.pendingFile sha256 reached)])
      (fun store world => store = snapshot.store sha256 ∧
        At clean (settledRoot sha256 (chain ++ [last] ++ [snapshot])) world)
      (fun _ world => ¬clean ∧
        (world.disk = pendingRoot sha256 (chain ++ [last]) snapshot reached ∨
          world.disk = settledRoot sha256 (chain ++ [last] ++ [snapshot]))) := by
  have breaks : ∀ (stop : Stop DeliveryStateStoreError) (world : World Root),
      world.disk = pendingRoot sha256 (chain ++ [last]) snapshot reached → ¬clean →
      ¬clean ∧ (world.disk = pendingRoot sha256 (chain ++ [last]) snapshot reached ∨
        world.disk = settledRoot sha256 (chain ++ [last] ++ [snapshot])) :=
    fun _ _ same unclean => ⟨unclean, .inl same⟩
  obtain ⟨front, follows⟩ := linked_concat.mp linked
  have content : (snapshot.pendingFile sha256 reached).content = snapshot.bytes :=
    List.take_of_length_le whole
  have valid : snapshot.envelope.validate snapshot.envelope.revision
      (some (last.store sha256).snapshotSha256) = .ok () := by
    have valid := follows.valid
    rw [lastDigest_concat] at valid
    rw [follows.revision_eq]
    exact valid
  refine (reads_told _).leads_bind ?_ breaks
  refine (reads_told _).leads_bind ?_ breaks
  unfold finalizePending
  rw [checkedAdd_next linked]
  refine (reads_told _).leads_bind ?_ breaks
  refine (reads_refuseIf (not_not.mpr rfl)).leads_bind ?_ breaks
  refine (reads_readSnapshot follows content).leads_bind ?_ breaks
  refine (reads_refuseIf (not_not.mpr rfl)).leads_bind ?_ breaks
  rw [valid]
  refine (reads_told _).leads_bind ?_ breaks
  have asks : Leads (At clean (pendingRoot sha256 (chain ++ [last]) snapshot reached))
      (probe (·.has (snapshot.finalName sha256)) : StoreCalls Bool) _ _ :=
    leads_probe (has_finalName linked)
  refine (asks.weaken (fun _ here => here) (fun _ _ found => found)
    fun stop world ⟨unclean, same⟩ => breaks stop world same unclean).bind fun answer => ?_
  rintro world ⟨rfl, here⟩
  exact (reads_refuseIf (by decide)).leads_bind (leads_rename _ linked whole _) breaks world here

end Finalizing

section Writing

variable {codec : SnapshotCodec} {sha256 : List UInt8 → Block 32} {chain : List Snapshot}
  {envelope : PersistedStateEnvelope} {clean : Prop}

/-- What a writing leaves that does not come to its end. -/
inductive Interrupted (codec : SnapshotCodec) (sha256 : List UInt8 → Block 32)
    (chain : List Snapshot) (envelope : PersistedStateEnvelope) : Root → Prop where
  | untouched : Interrupted codec sha256 chain envelope (settledRoot sha256 chain)
  | pending {bytes : List UInt8} (made : codec.toVec envelope = some bytes) (reached : Nat) :
      Interrupted codec sha256 chain envelope (pendingRoot sha256 chain ⟨envelope, bytes⟩ reached)
  | renamed {bytes : List UInt8} (made : codec.toVec envelope = some bytes) :
      Interrupted codec sha256 chain envelope (settledRoot sha256 (chain ++ [⟨envelope, bytes⟩]))

theorem leads_createNew {snapshot : Snapshot}
    (unnamed : Unnamed (finals sha256 chain) (snapshot.pendingName sha256)) :
    Leads (At clean (settledRoot sha256 chain)) (createNew (snapshot.pendingName sha256))
      (fun _ => At clean (pendingRoot sha256 chain snapshot 0))
      (fun _ world => ¬clean ∧ (world.disk = settledRoot sha256 chain ∨
        world.disk = pendingRoot sha256 chain snapshot 0)) := by
  refine look_bind ?_
  have absent : (settledRoot sha256 chain).has (snapshot.pendingName sha256) = false :=
    has_eq_false unnamed
  rw [absent, if_neg Bool.false_ne_true]
  refine leads_perform.weaken (fun _ here => here) (fun _ _ here => here) ?_
  rintro stop world ⟨unclean, -, gone, left⟩
  refine ⟨unclean, ?_⟩
  rw [left]
  by_cases untouched : gone = 0
  · exact .inl (if_pos untouched)
  · exact .inr (if_neg untouched)

theorem leads_fillFile {snapshot : Snapshot} {reached : Nat}
    (unnamed : Unnamed (finals sha256 chain) (snapshot.pendingName sha256)) :
    Leads (At clean (pendingRoot sha256 chain snapshot reached))
      (fillFile (snapshot.pendingName sha256) snapshot.bytes)
      (fun _ => At clean (pendingRoot sha256 chain snapshot snapshot.bytes.length))
      (fun _ world => ¬clean ∧
        ∃ reached, world.disk = pendingRoot sha256 chain snapshot reached) := by
  have whole : pendingRoot sha256 chain snapshot snapshot.bytes.length =
      some (finals sha256 chain ++ [⟨snapshot.pendingName sha256, snapshot.bytes⟩]) := by
    rw [pendingRoot, Snapshot.pendingFile, List.take_length]
  refine leads_perform.weaken (fun _ here => here) ?_ ?_
  · rintro _ world ⟨same, rest⟩
    exact ⟨same.trans ((fill_last unnamed).trans whole.symm), rest⟩
  · rintro stop world ⟨unclean, -, gone, left⟩
    exact ⟨unclean, gone, left.trans (fill_last unnamed)⟩

theorem leads_writeSnapshot
    (valid : envelope.validate envelope.revision envelope.previousSnapshotSha256 = .ok ())
    (linked : ∀ bytes, codec.toVec envelope = some bytes →
      Linked codec sha256 1 none (chain ++ [⟨envelope, bytes⟩])) :
    Leads (At clean (settledRoot sha256 chain)) (writeSnapshot codec sha256 envelope)
      (fun digest world => ∃ bytes, codec.toVec envelope = some bytes ∧
        digest = sha256Hex sha256 bytes ∧
        At clean (settledRoot sha256 (chain ++ [⟨envelope, bytes⟩])) world)
      (fun _ world => (clean → codec.toVec envelope = none) ∧
        Interrupted codec sha256 chain envelope world.disk) := by
  have breaks : ∀ (stop : Stop DeliveryStateStoreError) (world : World Root),
      world.disk = settledRoot sha256 chain → ¬clean →
      (clean → codec.toVec envelope = none) ∧
        Interrupted codec sha256 chain envelope world.disk := by
    intro stop world same unclean
    rw [same]
    exact ⟨fun holds => absurd holds unclean, .untouched⟩
  unfold writeSnapshot
  rw [valid]
  refine (reads_told _).leads_bind ?_ breaks
  rcases Option.eq_none_or_eq_some (codec.toVec envelope) with unwritten | ⟨bytes, made⟩
  · have stops : Reads (settledRoot sha256 chain) (told (okOr (codec.toVec envelope)
        DeliveryStateStoreError.serialization) : StoreCalls (List UInt8))
        (.error .serialization) := by
      rw [unwritten]
      exact reads_told _
    refine Leads.weaken (reads_bind_error stops clean) (fun _ here => here) ?_ ?_
    · rintro _ _ ⟨impossible, -⟩
      cases impossible
    · rintro stop world ⟨same, -⟩
      rw [same]
      exact ⟨fun _ => unwritten, .untouched⟩
  · have writes : Reads (settledRoot sha256 chain) (told (okOr (codec.toVec envelope)
        DeliveryStateStoreError.serialization) : StoreCalls (List UInt8)) (.ok bytes) := by
      rw [made]
      exact reads_told _
    have chained := linked bytes made
    obtain ⟨free, unnamed⟩ := unnamed_finals chained
    have asks (name : List UInt8) (absent : Unnamed (finals sha256 chain) name) :
        Leads (At clean (settledRoot sha256 chain)) (probe (·.has name) : StoreCalls Bool)
          (fun answer world => answer = false ∧ At clean (settledRoot sha256 chain) world)
          (fun _ world => (clean → codec.toVec envelope = none) ∧
            Interrupted codec sha256 chain envelope world.disk) :=
      Leads.weaken (leads_probe (has_eq_false absent)) (fun _ here => here) (fun _ _ found => found)
        fun stop world ⟨unclean, same⟩ => breaks stop world same unclean
    refine writes.leads_bind ?_ breaks
    refine (asks _ free).bind fun answer => ?_
    rintro world ⟨rfl, here⟩
    refine (asks _ unnamed).bind (fun answer => ?_) world here
    rintro world ⟨rfl, here⟩
    refine (reads_refuseIf (by decide)).leads_bind ?_ breaks world here
    have breaks : ∀ (stop : Stop DeliveryStateStoreError) (world : World Root), ¬clean →
        Interrupted codec sha256 chain envelope world.disk →
        (clean → codec.toVec envelope = none) ∧
          Interrupted codec sha256 chain envelope world.disk :=
      fun _ _ unclean left => ⟨fun holds => absurd holds unclean, left⟩
    refine (Leads.weaken (leads_createNew unnamed) (fun _ here => here) (fun _ _ here => here)
      ?_).bind fun _ => ?_
    · rintro stop world ⟨unclean, same | same⟩
      · exact breaks stop world unclean (same ▸ .untouched)
      · exact breaks stop world unclean (same ▸ .pending made 0)
    have fills (reached : Nat) :
        Leads (At clean (pendingRoot sha256 chain ⟨envelope, bytes⟩ reached))
          (fillFile (Snapshot.pendingName sha256 ⟨envelope, bytes⟩) bytes)
          (fun _ => At clean (pendingRoot sha256 chain ⟨envelope, bytes⟩ bytes.length))
          (fun _ world => (clean → codec.toVec envelope = none) ∧
            Interrupted codec sha256 chain envelope world.disk) :=
      Leads.weaken (leads_fillFile unnamed) (fun _ here => here) (fun _ _ here => here)
        fun stop world ⟨unclean, reached, same⟩ =>
          breaks stop world unclean (same ▸ .pending made reached)
    refine (fills 0).bind fun _ => (fills bytes.length).bind fun _ => ?_
    have finishes := leads_rename (sha256Hex sha256 bytes) chained (Nat.le_refl bytes.length)
    refine Leads.weaken (finishes clean) (fun _ here => here) ?_ ?_
    · rintro digest world ⟨rfl, here⟩
      exact ⟨bytes, made, rfl, here⟩
    · rintro stop world ⟨unclean, same | same⟩
      · exact breaks stop world unclean (same ▸ .pending made bytes.length)
      · exact breaks stop world unclean (same ▸ .renamed made)

end Writing

end ProfilePlatform.WindowsDelivery
