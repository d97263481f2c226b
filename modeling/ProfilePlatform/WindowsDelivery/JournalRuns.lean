import ProfilePlatform.WindowsDelivery.JournalWrites

/-! Runs of the journal: what is opened again is what was acknowledged last, or what was being
written when the process broke off.
-/

set_option autoImplicit false

namespace ProfilePlatform.WindowsDelivery

open Foundation Foundation.Calls

abbrev JournalEntry : Type :=
  Entry Process Request (Option (Except (Stop DeliveryStateStoreError) Unit))

/-- The store that was answered with last, and what was tried since without an answer. -/
structure Memory where
  acknowledged : Option DeliveryStateStore
  interrupted : Option (DeliveryState × Option DeliveryHandoffEvidence)

/-- What a request is to leave in the journal. -/
def Request.attempts (request : Request) (before : Process) :
    Option (DeliveryState × Option DeliveryHandoffEvidence) :=
  match request.call with
  | .initialize_ => if before.root = none then some (.default, none) else none
  | call => before.store.bind call.persists

def Memory.after (memory : Memory) (entry : JournalEntry) : Memory :=
  match entry.output with
  | none => memory
  | some (.ok ()) => ⟨entry.after.store, none⟩
  | some (.error _) =>
    { memory with interrupted := (entry.input.attempts entry.before).or memory.interrupted }

def remembered (past : List JournalEntry) : Memory := past.foldl Memory.after ⟨none, none⟩

/-- The store holds what was acknowledged last, or what was tried after it. -/
def Memory.Allows (memory : Memory) (store : DeliveryStateStore) : Prop :=
  memory.acknowledged = some store ∨
    memory.interrupted = some (store.state, store.handoff) ∧
      store.revision = (memory.acknowledged.map DeliveryStateStore.revision).getD 0 + 1

section Stages

variable (codec : SnapshotCodec) (sha256 : List UInt8 → Block 32)

/-- Where the root stands: without a journal, with one, or with one and the next snapshot begun. -/
inductive Stage (memory : Memory) : Root → Prop where
  | absent (fresh : memory.acknowledged = none) : Stage memory none
  | bare {extra : List File} (fresh : memory.acknowledged = none)
      (named : ∀ file ∈ extra, finalOf file = none ∧ (pendingOf file).isSome) :
      Stage memory (some extra)
  | settled {chain : List Snapshot} {last : Snapshot}
      (linked : Linked codec sha256 1 none (chain ++ [last]))
      (allows : memory.Allows (last.store sha256)) :
      Stage memory (settledRoot sha256 (chain ++ [last]))
  | pending {chain : List Snapshot} {last snapshot : Snapshot} {reached : Nat}
      (linked : Linked codec sha256 1 none (chain ++ [last] ++ [snapshot]))
      (known : memory.acknowledged = some (last.store sha256))
      (begun : memory.interrupted = some snapshot.contents) :
      Stage memory (pendingRoot sha256 (chain ++ [last]) snapshot reached)

/-- The store is the one that the journal ends with. -/
def Opened (store : DeliveryStateStore) (root : Root) : Prop :=
  ∃ chain last, Linked codec sha256 1 none (chain ++ [last]) ∧ store = last.store sha256 ∧
    root = settledRoot sha256 (chain ++ [last])

/-- A store that nothing has failed on is up to date. -/
structure Sane (memory : Memory) (process : Process) : Prop where
  stage : Stage codec sha256 memory process.root
  held : ∀ store, process.store = some store → process.suspect = false →
    memory.acknowledged = some store ∧ Opened codec sha256 store process.root

/-- At least one final snapshot, none of them in part, and room for another revision. -/
def Whole (root : Root) : Prop :=
  ∃ files, root = some files ∧ (∃ file ∈ files, (finalOf file).isSome) ∧
    (∀ file ∈ files, (codec.fromSlice file.content).isSome) ∧
    (files.filterMap finalOf).length + 1 < u64Limit

end Stages

section Roots

variable {codec : SnapshotCodec} {sha256 : List UInt8 → Block 32} {listing : Listing}
  {memory : Memory} {root : Root} {chain : List Snapshot} {last snapshot : Snapshot}
  {reached : Nat} {allow : Bool}

theorem leads_of_refused {A : Type} {clean : Prop} {why : DeliveryStateStoreError}
    {run : StoreCalls A} {returns : A → World Root → Prop}
    {fails : Stop DeliveryStateStoreError → World Root → Prop}
    (reads : Reads root run (.error why)) (stops : ∀ stop world, world.disk = root → fails stop world) :
    Leads (At clean root) run returns fails := by
  apply (reads clean).weaken (fun _ here => here)
  · intro _ _ impossible
    cases impossible.1
  · exact fun stop world stopped => stops stop world stopped.1

theorem revision_next (linked : Linked codec sha256 1 none (chain ++ [last] ++ [snapshot])) :
    snapshot.envelope.revision = last.envelope.revision + 1 :=
  (checkedAdd_eq_some.mp (checkedAdd_next linked)).1

theorem finals_read (linked : Linked codec sha256 1 none chain) :
    ∀ file ∈ finals sha256 chain, (codec.fromSlice file.content).isSome := by
  intro file member
  obtain ⟨snapshot, held, rfl⟩ := List.mem_map.mp member
  obtain ⟨⟨_, _, follows⟩, -, -⟩ := named_of_linked linked held
  show (codec.fromSlice snapshot.bytes).isSome
  rw [codec.reads _ _ follows.made]
  rfl

theorem whole_settledRoot (linked : Linked codec sha256 1 none (chain ++ [last])) :
    Whole codec (settledRoot sha256 (chain ++ [last])) ↔ chain.length + 2 < u64Limit := by
  have count : ((finals sha256 (chain ++ [last])).filterMap finalOf).length + 1 =
      chain.length + 2 := by
    rw [(filterMap_finals linked).1]
    simp
  constructor
  · rintro ⟨files, same, -, -, room⟩
    cases same
    rwa [count] at room
  · intro room
    refine ⟨_, rfl, ⟨last.finalFile sha256, by simp [finals], ?_⟩, finals_read linked,
      count.symm ▸ room⟩
    rw [(linked_concat.mp linked).2.finalOf_finalFile]
    rfl

theorem whole_pendingRoot (linked : Linked codec sha256 1 none (chain ++ [last] ++ [snapshot])) :
    Whole codec (pendingRoot sha256 (chain ++ [last]) snapshot reached) ↔
      chain.length + 2 < u64Limit ∧ snapshot.bytes.length ≤ reached := by
  obtain ⟨front, follows⟩ := linked_concat.mp linked
  have count : ((finals sha256 (chain ++ [last]) ++
      [snapshot.pendingFile sha256 reached]).filterMap finalOf).length + 1 = chain.length + 2 := by
    rw [List.filterMap_append, (filterMap_finals front).1, List.filterMap_cons,
      (follows.of_pendingFile sha256 reached).1]
    simp
  constructor
  · rintro ⟨files, same, -, read, room⟩
    cases same
    refine ⟨count ▸ room, ?_⟩
    by_contra torn
    have cut := read (snapshot.pendingFile sha256 reached) (by simp)
    rw [Snapshot.pendingFile, codec.torn _ _ follows.made _ (Nat.not_le.mp torn)] at cut
    cases cut
  · rintro ⟨room, whole⟩
    refine ⟨_, rfl, ⟨last.finalFile sha256, by simp [finals], ?_⟩, fun file member => ?_,
      count.symm ▸ room⟩
    · rw [(linked_concat.mp front).2.finalOf_finalFile]
      rfl
    · rcases List.mem_append.mp member with among | beside
      · exact finals_read front file among
      · rw [List.mem_singleton.mp beside]
        show (codec.fromSlice (snapshot.bytes.take reached)).isSome
        rw [List.take_of_length_le whole, codec.reads _ _ follows.made]
        rfl

theorem not_whole_bare {extra : List File}
    (named : ∀ file ∈ extra, finalOf file = none ∧ (pendingOf file).isSome) :
    ¬Whole codec (some extra) := by
  rintro ⟨files, same, ⟨file, member, final⟩, -⟩
  cases same
  rw [(named file member).1] at final
  cases final

end Roots

section Opens

variable {codec : SnapshotCodec} {sha256 : List UInt8 → Block 32} {listing : Listing}
  {memory : Memory} {root : Root} {allow : Bool}

theorem reads_openRoot {files : List File} {result : Except DeliveryStateStoreError DeliveryStateStore}
    (loads : Reads (some files) (loadChain codec sha256 listing files allow) result) :
    Reads (some files) (DeliveryStateStore.openRoot codec sha256 listing allow) result :=
  reads_bind reads_observe (reads_bind reads_observe fun clean => look_bind (loads clean))

/-- Opening fails and changes nothing, or finds the journal settled, or settles it. -/
inductive Opens (codec : SnapshotCodec) (sha256 : List UInt8 → Block 32) (listing : Listing)
    (memory : Memory) (allow : Bool) (root : Root) : Prop where
  | refused {why : DeliveryStateStoreError}
      (reads : Reads root (DeliveryStateStore.openRoot codec sha256 listing allow) (.error why))
      (broken : allow = true → ¬Whole codec root)
  | settled {store : DeliveryStateStore} (opened : Opened codec sha256 store root)
      (allows : memory.Allows store) (whole : Whole codec root)
      (reads : Reads root (DeliveryStateStore.openRoot codec sha256 listing allow) (.ok store))
  | finalized {chain : List Snapshot} {last snapshot : Snapshot} {reached : Nat}
      (linked : Linked codec sha256 1 none (chain ++ [last] ++ [snapshot]))
      (known : memory.acknowledged = some (last.store sha256))
      (begun : memory.interrupted = some snapshot.contents) (whole : Whole codec root)
      (same : root = pendingRoot sha256 (chain ++ [last]) snapshot reached)
      (leads : ∀ clean, Leads (At clean root)
        (DeliveryStateStore.openRoot codec sha256 listing allow)
        (fun store world => store = snapshot.store sha256 ∧
          At clean (settledRoot sha256 (chain ++ [last] ++ [snapshot])) world)
        (fun _ world => ¬clean ∧ (world.disk = root ∨
          world.disk = settledRoot sha256 (chain ++ [last] ++ [snapshot]))))

theorem opens_of_stage (stage : Stage codec sha256 memory root) :
    Opens codec sha256 listing memory allow root := by
  cases stage with
  | absent fresh =>
    have missing : Reads none (DeliveryStateStore.openRoot codec sha256 listing allow)
        (.error .missingState) :=
      reads_bind reads_observe (reads_bind reads_observe fun clean => look_bind (reads_told _ clean))
    exact .refused missing fun _ ⟨_, impossible, _⟩ => by cases impossible
  | bare fresh named =>
    exact .refused (reads_openRoot (reads_loadChain_missing named)) fun _ => not_whole_bare named
  | @settled chain last linked allows =>
    rcases Nat.lt_or_ge (chain.length + 2) u64Limit with room | full
    · exact .settled ⟨_, _, linked, rfl, rfl⟩ allows ((whole_settledRoot linked).mpr room)
        (reads_openRoot (reads_loadChain_settled linked room))
    · exact .refused (reads_openRoot (reads_loadChain_exhausted linked full
        (List.append_nil _).symm (by simp))) fun _ whole =>
        absurd ((whole_settledRoot linked).mp whole) (Nat.not_lt.mpr full)
  | @pending chain last snapshot reached linked known begun =>
    obtain ⟨front, follows⟩ := linked_concat.mp linked
    have named := follows.named_pendingFile sha256 reached
    rcases Nat.lt_or_ge reached snapshot.bytes.length with torn | complete
    · obtain ⟨why, stops⟩ : ∃ why, Reads (pendingRoot sha256 (chain ++ [last]) snapshot reached)
          (loadChain codec sha256 listing _ allow) (.error why) := reads_loadChain_torn linked torn
      exact .refused (reads_openRoot stops) fun _ whole =>
        absurd ((whole_pendingRoot linked).mp whole).2 (Nat.not_le.mpr torn)
    rcases Nat.lt_or_ge (chain.length + 2) u64Limit with room | full
    · cases allow with
      | false =>
        have required : Reads (pendingRoot sha256 (chain ++ [last]) snapshot reached)
            (loadChain codec sha256 listing (finals sha256 (chain ++ [last]) ++
              [snapshot.pendingFile sha256 reached]) false) (.error .pendingRecoveryRequired) := by
          intro clean
          refine leads_loadChain front room named (fun found same => ?_) fun _ _ same unclean =>
            ⟨same, fun holds => absurd holds unclean⟩
          rw [follows.perm_pendingFile same]
          exact reads_bind_error (reads_told _) clean
        exact .refused (reads_openRoot required) fun impossible => by cases impossible
      | true =>
        refine .finalized linked known begun ((whole_pendingRoot linked).mpr ⟨room, complete⟩) rfl
          fun clean => ?_
        have breaks : ∀ (stop : Stop DeliveryStateStoreError) (world : World Root),
            world.disk = pendingRoot sha256 (chain ++ [last]) snapshot reached → ¬clean →
            ¬clean ∧ (world.disk = pendingRoot sha256 (chain ++ [last]) snapshot reached ∨
              world.disk = settledRoot sha256 (chain ++ [last] ++ [snapshot])) :=
          fun _ _ same unclean => ⟨unclean, .inl same⟩
        refine reads_observe.leads_bind (reads_observe.leads_bind (look_bind ?_) breaks) breaks
        refine leads_loadChain front room named (fun found same => ?_) breaks
        rw [follows.perm_pendingFile same]
        exact leads_settlePending_whole linked complete
    · exact .refused (reads_openRoot (reads_loadChain_exhausted front full rfl named)) fun _ whole =>
        absurd ((whole_pendingRoot linked).mp whole).1 (Nat.not_lt.mpr full)

end Opens

section Persists

variable {codec : SnapshotCodec} {sha256 : List UInt8 → Block 32} {chain : List Snapshot}
  {last : Snapshot} {state : DeliveryState} {handoff : Option DeliveryHandoffEvidence}
  {clean : Prop}

/-- The envelope that comes after the snapshot of a store. -/
def DeliveryStateStore.successor (store : DeliveryStateStore)
    (contents : DeliveryState × Option DeliveryHandoffEvidence) : PersistedStateEnvelope :=
  ⟨stateSchemaVersion, stateKind, store.revision + 1, some store.snapshotSha256, contents.1,
    contents.2⟩

/-- The contents are valid, the revisions not used up, and the contents can be written. -/
def DeliveryStateStore.Takes (codec : SnapshotCodec) (store : DeliveryStateStore)
    (contents : DeliveryState × Option DeliveryHandoffEvidence) : Prop :=
  PersistedStateEnvelope.validateContents contents.1 contents.2 = .ok () ∧
    store.revision + 1 < u64Limit ∧ (codec.toVec (store.successor contents)).isSome

theorem linked_successor (bytes : List UInt8) (linked : Linked codec sha256 1 none (chain ++ [last]))
    (valid : PersistedStateEnvelope.validateContents state handoff = .ok ())
    (room : last.envelope.revision + 1 < u64Limit)
    (made : codec.toVec ((last.store sha256).successor (state, handoff)) = some bytes) :
    Linked codec sha256 1 none
      (chain ++ [last] ++ [⟨(last.store sha256).successor (state, handoff), bytes⟩]) := by
  have here := (linked_concat.mp linked).2.revision_eq
  have count : 1 + (chain ++ [last]).length = last.envelope.revision + 1 := by
    rw [here, List.length_append, List.length_singleton]
    omega
  apply linked_concat.mpr
  refine ⟨linked, made, ?_, by omega, by omega⟩
  rw [lastDigest_concat, count]
  exact bind_eq_ok.mpr
    ⟨(), refuseIf_passes (by simp [DeliveryStateStore.successor, Snapshot.store]), valid⟩

/-- Persisting adds the next snapshot to the journal. What breaks off leaves the journal as it was,
or that snapshot begun. -/
theorem leads_persistSnapshot (linked : Linked codec sha256 1 none (chain ++ [last])) :
    Leads (At clean (settledRoot sha256 (chain ++ [last])))
      ((last.store sha256).persistSnapshot codec sha256 state handoff)
      (fun store world => ∃ snapshot : Snapshot, snapshot.contents = (state, handoff) ∧
        Linked codec sha256 1 none (chain ++ [last] ++ [snapshot]) ∧
        (last.store sha256).Takes codec (state, handoff) ∧ store = snapshot.store sha256 ∧
        At clean (settledRoot sha256 (chain ++ [last] ++ [snapshot])) world)
      (fun _ world => (clean → ¬(last.store sha256).Takes codec (state, handoff) ∧
          world.disk = settledRoot sha256 (chain ++ [last])) ∧
        (world.disk = settledRoot sha256 (chain ++ [last]) ∨
          ∃ snapshot : Snapshot, snapshot.contents = (state, handoff) ∧
            Linked codec sha256 1 none (chain ++ [last] ++ [snapshot]) ∧
            ((∃ reached, world.disk = pendingRoot sha256 (chain ++ [last]) snapshot reached) ∨
              world.disk = settledRoot sha256 (chain ++ [last] ++ [snapshot])))) := by
  unfold DeliveryStateStore.persistSnapshot
  -- Contents that are refused, and a counter at its end, leave the journal alone.
  cases valid : PersistedStateEnvelope.validateContents state handoff with
  | error why =>
    refine leads_of_refused (reads_bind_error (reads_told _)) fun _ _ same =>
      ⟨fun _ => ⟨fun able => ?_, same⟩, .inl same⟩
    have held := able.1
    simp only [valid] at held
    cases held
  | ok passed =>
    refine (reads_told _).leads_bind ?_ fun _ _ same unclean =>
      ⟨fun holds => absurd holds unclean, .inl same⟩
    by_cases room : last.envelope.revision + 1 < u64Limit
    · have counts : checkedAdd (last.store sha256).revision 1 = some (last.envelope.revision + 1) :=
        checkedAdd_eq_some.mpr ⟨rfl, room⟩
      have positive : 0 < last.envelope.revision := by
        rw [(linked_concat.mp linked).2.revision_eq]
        omega
      have fresh : PersistedStateEnvelope.new (last.envelope.revision + 1)
          (some (last.store sha256).snapshotSha256) state handoff =
          .ok ((last.store sha256).successor (state, handoff)) := by
        apply PersistedStateEnvelope.new_succeeds valid (Nat.succ_pos _)
        · intro first
          omega
        · intro _
          exact isLowerHexOf_sha256Hex sha256 _
      rw [counts]
      refine (reads_told _).leads_bind ?_ fun _ _ same unclean =>
        ⟨fun holds => absurd holds unclean, .inl same⟩
      rw [fresh]
      refine (reads_told _).leads_bind ?_ fun _ _ same unclean =>
        ⟨fun holds => absurd holds unclean, .inl same⟩
      have belongs : ((last.store sha256).successor (state, handoff)).validate
          ((last.store sha256).successor (state, handoff)).revision
          ((last.store sha256).successor (state, handoff)).previousSnapshotSha256 = .ok () :=
        bind_eq_ok.mpr ⟨(), refuseIf_passes (by simp [DeliveryStateStore.successor]), valid⟩
      have next := fun bytes made => linked_successor bytes linked valid room made
      refine Leads.bind (Leads.weaken (leads_writeSnapshot belongs next) (fun _ here => here)
        (fun _ _ here => here) ?_) fun digest => ?_
      · intro _ world stopped
        have unwritten : clean → ¬(last.store sha256).Takes codec (state, handoff) := by
          intro holds able
          have written := able.2.2
          simp only [stopped.1 holds] at written
          cases written
        -- The three places where writing may break off.
        have left := stopped.2
        generalize world.disk = root at left
        cases left with
        | untouched => exact ⟨fun holds => ⟨unwritten holds, rfl⟩, .inl rfl⟩
        | pending made reached =>
          refine ⟨fun holds => ?_, .inr ⟨_, rfl, next _ made, .inl ⟨reached, rfl⟩⟩⟩
          simp [stopped.1 holds] at made
        | renamed made =>
          refine ⟨fun holds => ?_, .inr ⟨_, rfl, next _ made, .inr rfl⟩⟩
          simp [stopped.1 holds] at made
      · apply Leads.pure
        intro world found
        obtain ⟨bytes, made, same, here⟩ := found
        subst same
        exact ⟨⟨_, bytes⟩, rfl, next bytes made, ⟨valid, room, by rw [made]; rfl⟩, rfl, here⟩
    · have counts : checkedAdd (last.store sha256).revision 1 = none :=
        checkedAdd_eq_none.mpr (Nat.not_lt.mp room)
      rw [counts]
      exact leads_of_refused (reads_bind_error (reads_told _)) fun _ _ same =>
        ⟨fun _ => ⟨fun able => room able.2.1, same⟩, .inl same⟩

end Persists

section Initializes

variable {codec : SnapshotCodec} {sha256 : List UInt8 → Block 32} {clean : Prop}

/-- The snapshot that a journal starts with. -/
def firstEnvelope : PersistedStateEnvelope :=
  ⟨stateSchemaVersion, stateKind, 1, none, .default, none⟩

theorem linked_first (bytes : List UInt8)
    (valid : PersistedStateEnvelope.validateContents .default none = .ok ())
    (made : codec.toVec firstEnvelope = some bytes) :
    Linked codec sha256 1 none ([] ++ [⟨firstEnvelope, bytes⟩]) := by
  apply linked_concat.mpr
  refine ⟨linked_nil _ _ _ _, made, ?_, by decide, by decide⟩
  exact bind_eq_ok.mpr ⟨(), refuseIf_passes (by simp [firstEnvelope, lastDigest]), valid⟩

theorem validate_default : PersistedStateEnvelope.validateContents .default none = .ok () := by
  rfl

theorem leads_initialize :
    Leads (At clean none) (DeliveryStateStore.initialize_ codec sha256)
      (fun store world => ∃ bytes, codec.toVec firstEnvelope = some bytes ∧
        Linked codec sha256 1 none ([] ++ [⟨firstEnvelope, bytes⟩]) ∧
        store = Snapshot.store sha256 ⟨firstEnvelope, bytes⟩ ∧
        At clean (settledRoot sha256 ([] ++ [⟨firstEnvelope, bytes⟩])) world)
      (fun _ world => (clean → codec.toVec firstEnvelope = none) ∧
        Stage codec sha256 ⟨none, some (.default, none)⟩ world.disk) := by
  have first : PersistedStateEnvelope.new 1 none .default none = .ok firstEnvelope :=
    PersistedStateEnvelope.new_succeeds validate_default (by decide) (fun _ => rfl)
      fun impossible => absurd impossible (Nat.lt_irrefl 1)
  have belongs : firstEnvelope.validate firstEnvelope.revision
      firstEnvelope.previousSnapshotSha256 = .ok () :=
    (PersistedStateEnvelope.new_eq_ok first).1
  have next : ∀ bytes, codec.toVec firstEnvelope = some bytes →
      Linked codec sha256 1 none ([] ++ [⟨firstEnvelope, bytes⟩]) :=
    fun bytes made => linked_first bytes validate_default made
  have bare : Stage codec sha256 ⟨none, some (.default, none)⟩ (some []) :=
    .bare rfl fun _ member => absurd member List.not_mem_nil
  unfold DeliveryStateStore.initialize_
  refine reads_observe.leads_bind ?_ fun _ _ same unclean =>
    ⟨fun holds => absurd holds unclean, same ▸ .absent rfl⟩
  -- The directory is there or it is not, when making it breaks off.
  refine Leads.bind (look_bind (Leads.weaken leads_perform (fun _ here => here)
    (fun _ _ here => here) ?_)) fun _ => ?_
  · intro stop world stopped
    obtain ⟨unclean, -, gone, left⟩ := stopped
    refine ⟨fun holds => absurd holds unclean, ?_⟩
    rw [left]
    by_cases untouched : gone = 0
    · rw [if_pos untouched]
      exact .absent rfl
    · rw [if_neg untouched]
      exact bare
  · rw [first]
    refine (reads_told _).leads_bind ?_ fun _ _ same unclean =>
      ⟨fun holds => absurd holds unclean, same ▸ bare⟩
    refine Leads.bind (Leads.weaken (leads_writeSnapshot belongs next) (fun _ here => here)
      (fun _ _ here => here) ?_)
      fun digest => ?_
    · intro _ world stopped
      refine ⟨stopped.1, ?_⟩
      have left := stopped.2
      generalize world.disk = root at left
      cases left with
      | untouched => exact bare
      | pending made reached =>
        apply Stage.bare rfl
        intro file member
        rw [List.mem_singleton.mp member]
        have begun := (linked_concat.mp (next _ made)).2.of_pendingFile sha256 reached
        exact ⟨begun.1, by rw [begun.2]; rfl⟩
      | renamed made => exact .settled (next _ made) (.inr ⟨rfl, rfl⟩)
    · apply Leads.pure
      intro world found
      obtain ⟨bytes, made, same, here⟩ := found
      subst same
      exact ⟨bytes, made, next bytes made, rfl, here⟩

theorem reads_initialize (codec : SnapshotCodec) (sha256 : List UInt8 → Block 32)
    (files : List File) :
    Reads (some files) (DeliveryStateStore.initialize_ codec sha256) (.error .alreadyInitialized) :=
  reads_bind reads_observe (reads_bind_error (reads_look (reads_bind reads_observe (reads_told _))))

end Initializes

section Steps

variable {codec : SnapshotCodec} {sha256 : List UInt8 → Block 32} {listing : Listing}
  {memory : Memory} {process : Process} {request : Request} {store : DeliveryStateStore}
  {root : Root} {chain : List Snapshot} {last snapshot : Snapshot}

/-- No call of the request goes wrong. -/
def Request.Undisturbed (request : Request) : Prop := ∀ fate ∈ request.fates, fate = .done

/-- A store is not persisted with once a call that persists has failed on it. -/
def Careful (entry : JournalEntry) : Prop :=
  entry.before.suspect = true → entry.before.store.bind entry.input.call.persists = none

/-- What the store holds after a request that was answered. -/
def Acknowledges (memory : Memory) (entry : JournalEntry) : Prop :=
  entry.output = some (.ok ()) → ∃ store, entry.after.store = some store ∧
    (entry.input.call = .initialize_ → entry.before.root = none ∧ store.revision = 1 ∧
      (store.state, store.handoff) = (.default, none)) ∧
    (entry.input.call = .open_ ∨ entry.input.call = .openReadOnly → memory.Allows store) ∧
    ∀ held contents, entry.before.store = some held →
      entry.input.call.persists held = some contents → memory.acknowledged = some held ∧
        store.revision = held.revision + 1 ∧ contents = (store.state, store.handoff)

/-- When a request with which nothing goes wrong is answered, and what it leaves otherwise. -/
def Serves (codec : SnapshotCodec) (entry : JournalEntry) : Prop :=
  entry.input.Undisturbed →
    (entry.input.call = .initialize_ → (entry.output = some (.ok ()) ↔
      entry.before.root = none ∧ (codec.toVec firstEnvelope).isSome)) ∧
    (entry.input.call = .open_ → (entry.output = some (.ok ()) ↔ Whole codec entry.before.root) ∧
      (entry.output ≠ some (.ok ()) → entry.after.root = entry.before.root)) ∧
    (entry.input.call = .openReadOnly → entry.output = some (.ok ()) →
      Whole codec entry.before.root) ∧
    ∀ held contents, entry.before.store = some held →
      entry.input.call.persists held = some contents →
        (entry.output = some (.ok ()) ↔ held.Takes codec contents) ∧
        (entry.output ≠ some (.ok ()) → entry.after.root = entry.before.root)

/-- What the request fails with, it leaves behind it. -/
def Memory.broken (memory : Memory) (request : Request) (process : Process) : Memory :=
  { memory with interrupted := (request.attempts process).or memory.interrupted }

def Process.broken (process : Process) (request : Request) (root : Root) : Process :=
  ⟨root, process.store, process.suspect || (process.store.bind request.call.persists).isSome⟩

theorem Opened.sane (opened : Opened codec sha256 store root) :
    Sane codec sha256 ⟨some store, none⟩ ⟨root, some store, false⟩ := by
  obtain ⟨chain, last, linked, rfl, rfl⟩ := opened
  refine ⟨.settled linked (.inl rfl), fun store same _ => ?_⟩
  cases same
  exact ⟨rfl, chain, last, linked, rfl, rfl⟩

theorem Sane.crashed {suspect : Bool} (sane : Sane codec sha256 memory ⟨root, process.store, suspect⟩) :
    Sane codec sha256 memory ⟨root, none, false⟩ :=
  ⟨sane.stage, fun _ impossible => by cases impossible⟩

theorem step_of_leads {run : StoreCalls DeliveryStateStore} (returns : DeliveryStateStore → Prop)
    (refuses : Root → Prop)
    (called : request.call.run codec sha256 listing process.store = some run)
    (leads : Leads (At request.Undisturbed process.root) run
      (fun store world => returns store ∧ Opened codec sha256 store world.disk)
      (fun _ world => (request.Undisturbed → refuses world.disk) ∧
        Sane codec sha256 (memory.broken request process) (process.broken request world.disk))) :
    Sane codec sha256 (memory.after ((journal codec sha256 listing).entry process request))
        ((journal codec sha256 listing).step process request).2 ∧
      (((journal codec sha256 listing).step process request).1 = some (.ok ()) →
        ∃ store, ((journal codec sha256 listing).step process request).2.store = some store ∧
          returns store) ∧
      (request.Undisturbed →
        ((journal codec sha256 listing).step process request).1 ≠ some (.ok ()) →
        refuses ((journal codec sha256 listing).step process request).2.root) := by
  have ends := leads ⟨process.root, request.fates⟩ ⟨rfl, fun undisturbed => undisturbed⟩
  simp only [Machine.entry, journal, called]
  generalize outcome run ⟨process.root, request.fates⟩ = result at ends
  obtain ⟨answer, world⟩ := result
  cases answer with
  | ok store => exact ⟨ends.2.sane, fun _ => ⟨store, rfl, ends.1⟩, fun _ other => absurd rfl other⟩
  | error stop =>
    cases stop with
    | crashed =>
      refine ⟨ends.2.crashed, ?_, fun calm _ => ends.1 calm⟩
      intro impossible
      cases impossible
    | failed why =>
      refine ⟨ends.2, ?_, fun calm _ => ends.1 calm⟩
      intro impossible
      cases impossible

theorem not_opened_pendingRoot {reached : Nat}
    (linked : Linked codec sha256 1 none (chain ++ [last] ++ [snapshot])) :
    ¬Opened codec sha256 store (pendingRoot sha256 (chain ++ [last]) snapshot reached) := by
  intro opened
  obtain ⟨others, final, settled, -, same⟩ := opened
  obtain ⟨-, follows⟩ := linked_concat.mp linked
  have among : snapshot.pendingFile sha256 reached ∈ finals sha256 (others ++ [final]) := by
    rw [← Option.some.inj same]
    simp
  obtain ⟨earlier, held, file⟩ := List.mem_map.mp among
  obtain ⟨⟨_, _, before⟩, -, -⟩ := named_of_linked settled held
  have told := (follows.of_pendingFile sha256 reached).1
  rw [← file, before.finalOf_finalFile] at told
  cases told

theorem Sane.broken (sane : Sane codec sha256 memory process)
    (nothing : request.attempts process = none)
    (quiet : process.store.bind request.call.persists = none) :
    Sane codec sha256 (memory.broken request process) (process.broken request process.root) := by
  have same : memory.broken request process = memory := by
    simp [Memory.broken, nothing]
  rw [same]
  refine ⟨sane.stage, fun store held trusted => ?_⟩
  simp only [Process.broken, quiet, Option.isSome_none, Bool.or_false] at trusted
  exact sane.held store held trusted

theorem leads_openRoot (listing : Listing) (allow : Bool) (sane : Sane codec sha256 memory process)
    (nothing : request.attempts process = none)
    (quiet : process.store.bind request.call.persists = none) :
    Leads (At request.Undisturbed process.root)
      (DeliveryStateStore.openRoot codec sha256 listing allow)
      (fun store world => (memory.Allows store ∧ Whole codec process.root) ∧
        Opened codec sha256 store world.disk)
      (fun _ world => (request.Undisturbed →
          (allow = true → ¬Whole codec process.root) ∧ world.disk = process.root) ∧
        Sane codec sha256 (memory.broken request process) (process.broken request world.disk)) := by
  have kept := sane.broken nothing quiet
  have opens : Opens codec sha256 listing memory allow process.root := opens_of_stage sane.stage
  cases opens with
  | refused reads broken =>
    refine leads_of_refused reads fun _ world same => ?_
    rw [same]
    exact ⟨fun _ => ⟨broken, rfl⟩, kept⟩
  | settled opened allows whole reads =>
    apply (reads request.Undisturbed).weaken (fun _ here => here)
    · intro store world found
      cases found.1
      exact ⟨⟨allows, whole⟩, found.2.1 ▸ opened⟩
    · intro _ world stopped
      rw [stopped.1]
      refine ⟨fun calm => ?_, kept⟩
      obtain ⟨_, -, impossible⟩ := stopped.2 calm
      cases impossible
  | @finalized chain last snapshot reached linked known begun whole same leads =>
    have grows := revision_next linked
    apply (leads request.Undisturbed).weaken (fun _ here => here)
    · intro store world found
      rw [found.1, found.2.1]
      refine ⟨⟨.inr ⟨begun, ?_⟩, whole⟩, _, _, linked, rfl, rfl⟩
      simpa [known, Snapshot.store] using grows
    · intro _ world stopped
      refine ⟨fun calm => absurd calm stopped.1, ?_⟩
      rcases stopped.2 with untouched | renamed
      · rw [untouched]
        exact kept
      · -- The rename was done, so what was begun is there; no store that is trusted was open.
        rw [renamed]
        refine ⟨.settled linked (.inr ⟨?_, ?_⟩), fun store held trusted => ?_⟩
        · simpa [Memory.broken, nothing, Snapshot.store, Snapshot.contents] using begun
        · simpa [Memory.broken, known, Snapshot.store] using grows
        · simp only [Process.broken, quiet, Option.isSome_none, Bool.or_false] at trusted
          have opened := (sane.held store held trusted).2
          rw [same] at opened
          exact absurd opened (not_opened_pendingRoot linked)

theorem leads_persisting {contents : DeliveryState × Option DeliveryHandoffEvidence}
    (sane : Sane codec sha256 memory process) (held : process.store = some store)
    (trusted : process.suspect = false) (attempted : request.attempts process = some contents)
    (persists : request.call.persists store = some contents) :
    Leads (At request.Undisturbed process.root)
      (store.persistSnapshot codec sha256 contents.1 contents.2)
      (fun next world => (memory.acknowledged = some store ∧ store.Takes codec contents ∧
          next.revision = store.revision + 1 ∧ contents = (next.state, next.handoff)) ∧
        Opened codec sha256 next world.disk)
      (fun _ world => (request.Undisturbed →
          ¬store.Takes codec contents ∧ world.disk = process.root) ∧
        Sane codec sha256 (memory.broken request process) (process.broken request world.disk)) := by
  obtain ⟨known, chain, last, linked, rfl, same⟩ := sane.held store held trusted
  have suspected : ∀ root, Stage codec sha256 (memory.broken request process) root →
      Sane codec sha256 (memory.broken request process) (process.broken request root) := by
    intro root stage
    refine ⟨stage, fun _ _ unsuspected => ?_⟩
    simp [Process.broken, held, persists] at unsuspected
  have begun : (memory.broken request process).interrupted = some contents := by
    simp [Memory.broken, attempted]
  rw [same]
  apply (leads_persistSnapshot linked).weaken (fun _ here => here)
  · intro next world found
    obtain ⟨snapshot, contained, chained, takes, rfl, here⟩ := found
    have grows := revision_next chained
    refine ⟨⟨known, takes, grows, contained.symm⟩, ?_⟩
    rw [here.1]
    exact ⟨_, _, chained, rfl, rfl⟩
  · intro _ world stopped
    refine ⟨stopped.1, suspected _ ?_⟩
    rcases stopped.2 with untouched | ⟨snapshot, contained, chained, left⟩
    · rw [untouched]
      exact .settled linked (.inl known)
    · have grows := revision_next chained
      rcases left with ⟨reached, pending⟩ | renamed
      · rw [pending]
        exact .pending chained known (begun.trans (congrArg some contained.symm))
      · rw [renamed]
        refine .settled chained (.inr ⟨begun.trans (congrArg some contained.symm), ?_⟩)
        simpa [Memory.broken, known, Snapshot.store] using grows

end Steps

section Runs

variable {codec : SnapshotCodec} {sha256 : List UInt8 → Block 32} {listing : Listing}
  {memory : Memory} {process : Process} {request : Request}

/-- What one request does to a journal that is as it should be. -/
structure Answers (codec : SnapshotCodec) (sha256 : List UInt8 → Block 32) (memory : Memory)
    (entry : JournalEntry) : Prop where
  sane : Sane codec sha256 (memory.after entry) entry.after
  acknowledges : Acknowledges memory entry
  serves : Serves codec entry

theorem answers_open (sane : Sane codec sha256 memory process) (allow : Bool)
    (same : request.call = if allow then .open_ else .openReadOnly) :
    Answers codec sha256 memory ((journal codec sha256 listing).entry process request) := by
  obtain ⟨call, fates⟩ := request
  have nothing : (Request.mk call fates).attempts process = none := by
    cases allow <;> cases same <;> cases held : process.store <;> simp [Request.attempts, held] <;> rfl
  have quiet : process.store.bind call.persists = none := by
    cases allow <;> cases same <;> cases process.store <;> rfl
  have called : call.run codec sha256 listing process.store =
      some (DeliveryStateStore.openRoot codec sha256 listing allow) := by
    cases allow <;> cases same <;> rfl
  have starts : call ≠ .initialize_ := by
    cases allow <;> cases same <;> decide
  obtain ⟨kept, answered, refused⟩ := step_of_leads
    (fun store => memory.Allows store ∧ Whole codec process.root)
    (fun root => (allow = true → ¬Whole codec process.root) ∧ root = process.root) called
    (leads_openRoot listing allow sane nothing quiet)
  have silent : ∀ held contents, process.store = some held → call.persists held ≠ some contents := by
    intro held contents present persists
    simp [present, persists] at quiet
  refine ⟨kept, fun output => ?_, fun calm => ⟨?_, ?_, ?_, ?_⟩⟩
  · obtain ⟨store, left, allows, -⟩ := answered output
    exact ⟨store, left, fun other => absurd other starts, fun _ => allows,
      fun held contents present persists => absurd persists (silent held contents present)⟩
  · intro other
    exact absurd other starts
  · intro opens
    cases allow with
    | false =>
      cases same.symm.trans opens
    | true =>
      refine ⟨⟨fun output => ?_, fun whole => ?_⟩, fun other => (refused calm other).2⟩
      · obtain ⟨_, -, -, whole⟩ := answered output
        exact whole
      · by_contra other
        exact (refused calm other).1 rfl whole
  · intro _ output
    obtain ⟨_, -, -, whole⟩ := answered output
    exact whole
  · intro held contents present persists
    exact absurd persists (silent held contents present)

theorem answers_persisting {call : StoreCall} {fates : List CallFate}
    (sane : Sane codec sha256 memory process)
    (careful : process.suspect = true → process.store.bind call.persists = none)
    (runs : ∀ store, call.run codec sha256 listing store = store.bind fun store =>
      (call.persists store).map fun next => store.persistSnapshot codec sha256 next.1 next.2)
    (attempts : (Request.mk call fates).attempts process = process.store.bind call.persists)
    (starts : call ≠ .initialize_) (opens : call ≠ .open_ ∧ call ≠ .openReadOnly) :
    Answers codec sha256 memory ((journal codec sha256 listing).entry process ⟨call, fates⟩) := by
  cases attempted : process.store.bind call.persists with
  | none =>
    -- Without a store there is nothing to persist with, and nothing is called.
    have idle : call.run codec sha256 listing process.store = none := by
      rw [runs]
      cases held : process.store with
      | none => rfl
      | some store =>
        rw [held] at attempted
        simpa using attempted
    have silent : ∀ held contents, process.store = some held →
        call.persists held ≠ some contents := by
      intro held contents present persists
      simp [present, persists] at attempted
    have stays : (journal codec sha256 listing).step process ⟨call, fates⟩ = (none, process) := by
      simp only [journal, idle]
    refine ⟨?_, ?_, fun calm => ⟨fun other => absurd other starts, fun other => absurd other opens.1,
      fun other => absurd other opens.2, fun held contents present persists =>
        absurd persists (silent held contents present)⟩⟩
    · simpa [Machine.entry, stays, Memory.after] using sane
    · intro output
      simp [Machine.entry, stays] at output
  | some contents =>
    obtain ⟨store, held, persists⟩ := Option.bind_eq_some_iff.mp attempted
    have trusted : process.suspect = false := by
      cases suspect : process.suspect with
      | false => rfl
      | true => simp [careful suspect] at attempted
    have called : call.run codec sha256 listing process.store =
        some (store.persistSnapshot codec sha256 contents.1 contents.2) := by
      simp [runs, held, persists]
    obtain ⟨kept, answered, refused⟩ := step_of_leads
      (fun next => memory.acknowledged = some store ∧ store.Takes codec contents ∧
        next.revision = store.revision + 1 ∧ contents = (next.state, next.handoff))
      (fun root => ¬store.Takes codec contents ∧ root = process.root) called
      (leads_persisting sane held trusted (attempts.trans attempted) persists)
    refine ⟨kept, fun output => ?_, fun calm => ⟨fun other => absurd other starts,
      fun other => absurd other opens.1, fun other => absurd other opens.2,
      fun earlier given present told => ?_⟩⟩
    · obtain ⟨next, left, known, -, grows, contained⟩ := answered output
      refine ⟨next, left, fun other => absurd other starts, ?_, ?_⟩
      · intro other
        exact absurd other (not_or.mpr opens)
      · intro earlier given present told
        cases held.symm.trans present
        cases persists.symm.trans told
        exact ⟨known, grows, contained⟩
    · cases held.symm.trans present
      cases persists.symm.trans told
      refine ⟨⟨fun output => ?_, fun takes => ?_⟩, fun other => (refused calm other).2⟩
      · obtain ⟨_, -, -, takes, -⟩ := answered output
        exact takes
      · by_contra other
        exact (refused calm other).1 takes

theorem leads_initializing {fates : List CallFate} (sane : Sane codec sha256 memory process) :
    Leads (At (Request.mk .initialize_ fates).Undisturbed process.root)
      (DeliveryStateStore.initialize_ codec sha256)
      (fun store world => ((process.root = none ∧ (codec.toVec firstEnvelope).isSome) ∧
          store.revision = 1 ∧ (store.state, store.handoff) = (.default, none)) ∧
        Opened codec sha256 store world.disk)
      (fun _ world => ((Request.mk .initialize_ fates).Undisturbed →
          ¬(process.root = none ∧ (codec.toVec firstEnvelope).isSome)) ∧
        Sane codec sha256 (memory.broken ⟨.initialize_, fates⟩ process)
          (process.broken ⟨.initialize_, fates⟩ world.disk)) := by
  have quiet : process.store.bind StoreCall.initialize_.persists = none := by
    cases process.store <;> rfl
  cases standing : process.root with
  | some files =>
    -- A root that is there is left as it is.
    have nothing : (Request.mk .initialize_ fates).attempts process = none := by
      simp [Request.attempts, standing]
    have refused := reads_initialize codec sha256 files
    refine leads_of_refused refused fun _ world same => ?_
    refine ⟨fun _ absent => (by cases absent.1), ?_⟩
    rw [same, ← standing]
    exact sane.broken nothing quiet
  | none =>
    have fresh : memory.acknowledged = none := by
      have stage := sane.stage
      rw [standing] at stage
      cases stage with
      | absent fresh => exact fresh
    have broken : memory.broken ⟨.initialize_, fates⟩ process = ⟨none, some (.default, none)⟩ := by
      simp [Memory.broken, Request.attempts, standing, fresh]
    apply leads_initialize.weaken (fun _ here => here)
    · intro store world found
      obtain ⟨bytes, made, linked, rfl, here⟩ := found
      refine ⟨⟨⟨rfl, by rw [made]; rfl⟩, rfl, rfl⟩, ?_⟩
      rw [here.1]
      exact ⟨_, _, linked, rfl, rfl⟩
    · intro _ world stopped
      refine ⟨fun calm able => ?_, ?_⟩
      · have written := able.2
        simp [stopped.1 calm] at written
      · rw [broken]
        refine ⟨stopped.2, fun store held trusted => ?_⟩
        -- A store that is trusted has a root.
        simp only [Process.broken, quiet, Option.isSome_none, Bool.or_false] at trusted
        obtain ⟨_, _, _, -, -, same⟩ := sane.held store held trusted
        rw [standing] at same
        cases same

theorem answers_initialize {fates : List CallFate} (sane : Sane codec sha256 memory process) :
    Answers codec sha256 memory
      ((journal codec sha256 listing).entry process ⟨.initialize_, fates⟩) := by
  have silent : ∀ held contents, StoreCall.initialize_.persists held ≠ some contents := by
    intro held contents persists
    cases persists
  have other : ∀ call, call ≠ .initialize_ →
      ((journal codec sha256 listing).entry process ⟨.initialize_, fates⟩).input.call ≠ call :=
    fun _ differs same => differs same.symm
  have opens := other .open_ (by decide)
  have looks := other .openReadOnly (by decide)
  obtain ⟨kept, answered, refused⟩ := step_of_leads
    (fun store => (process.root = none ∧ (codec.toVec firstEnvelope).isSome) ∧
      store.revision = 1 ∧ (store.state, store.handoff) = (.default, none))
    (fun _ => ¬(process.root = none ∧ (codec.toVec firstEnvelope).isSome)) rfl
    (leads_initializing sane)
  refine ⟨kept, fun output => ?_, fun calm => ⟨fun _ => ⟨fun output => ?_, fun able => ?_⟩,
    (absurd · opens), (absurd · looks), fun held contents _ persists =>
      absurd persists (silent held contents)⟩⟩
  · obtain ⟨store, left, able, first, contained⟩ := answered output
    exact ⟨store, left, fun _ => ⟨able.1, first, contained⟩, (absurd · (not_or.mpr ⟨opens, looks⟩)),
      fun held contents _ persists => absurd persists (silent held contents)⟩
  · obtain ⟨_, -, able, -⟩ := answered output
    exact able
  · by_contra other
    exact refused calm other able

/-- Every request keeps the journal sane and is answered as it should be, unless it persists with a
store on which persisting has failed. -/
theorem answers_step (sane : Sane codec sha256 memory process) (request : Request)
    (careful : Careful ((journal codec sha256 listing).entry process request)) :
    Answers codec sha256 memory ((journal codec sha256 listing).entry process request) := by
  obtain ⟨call, fates⟩ := request
  cases call with
  | initialize_ => exact answers_initialize sane
  | open_ => exact answers_open sane true rfl
  | openReadOnly => exact answers_open sane false rfl
  | persist state =>
    exact answers_persisting sane careful (fun _ => rfl) rfl (by simp) (by simp)
  | persistPreservingHandoff state =>
    exact answers_persisting sane careful (fun _ => rfl) rfl (by simp) (by simp)
  | persistHandoff state handoff =>
    exact answers_persisting sane careful (fun _ => rfl) rfl (by simp) (by simp)

/-- A journal before its first request. -/
def Process.fresh : Process := ⟨none, none, false⟩

/-- The final snapshots are numbered from one on, each number given once. -/
def Numbered (root : Root) : Prop :=
  ∀ files, root = some files → (files.filterMap finalOf).map SnapshotFile.revision =
    List.range' 1 (files.filterMap finalOf).length

theorem numbered_of_stage {root : Root} (stage : Stage codec sha256 memory root) :
    Numbered root := by
  intro files same
  cases stage with
  | absent => cases same
  | bare fresh named =>
    cases same
    have none_final : files.filterMap finalOf = [] :=
      List.filterMap_eq_nil_iff.mpr fun file member => (named file member).1
    rw [none_final]
    rfl
  | settled linked =>
    cases same
    rw [(filterMap_finals linked).1, revisions_namedFinal linked, List.length_map]
  | pending linked =>
    cases same
    obtain ⟨front, follows⟩ := linked_concat.mp linked
    rw [List.filterMap_append, (filterMap_finals front).1, List.filterMap_cons,
      (follows.of_pendingFile sha256 _).1, List.filterMap_nil, List.append_nil,
      revisions_namedFinal front, List.length_map]

/-- A careful run leaves a sane journal, and each of its requests was answered on one. -/
theorem sane_history (requests : List Request) :
    (∀ entry ∈ (journal codec sha256 listing).history .fresh requests, Careful entry) →
      Sane codec sha256 (remembered ((journal codec sha256 listing).history .fresh requests))
        ((journal codec sha256 listing).final .fresh requests) ∧
      Justified (fun past entry => Answers codec sha256 (remembered past) entry)
        ((journal codec sha256 listing).history .fresh requests) := by
  apply (journal codec sha256 listing).history_invariant (fun past process =>
    (∀ entry ∈ past, Careful entry) → Sane codec sha256 (remembered past) process ∧
      Justified (fun past entry => Answers codec sha256 (remembered past) entry) past)
  · intro _
    exact ⟨⟨.absent rfl, fun _ impossible => by cases impossible⟩, justified_nil _⟩
  · intro past process request before careful
    obtain ⟨sane, justified⟩ := before fun entry member =>
      careful entry (List.mem_append_left _ member)
    have answers := answers_step sane request
      (careful _ (List.mem_append_right _ List.mem_cons_self))
    refine ⟨?_, justified_concat justified answers⟩
    have folded : remembered (past ++ [(journal codec sha256 listing).entry process request]) =
        (remembered past).after ((journal codec sha256 listing).entry process request) := by
      simp only [remembered, List.foldl_append, List.foldl_cons, List.foldl_nil]
    rw [folded]
    exact answers.sane

section Samples

/-- A codec that writes two envelopes, as one byte each. -/
def sampleCodec (first second : PersistedStateEnvelope) : SnapshotCodec where
  toVec envelope := if envelope = first then some [7] else if envelope = second then some [8] else none
  fromSlice bytes := if bytes = [7] then some first else if bytes = [8] then some second else none
  reads envelope bytes written := by
    split at written
    next same => cases written; simp [same]
    next =>
      split at written
      next same => cases written; simp [same]
      next => cases written
  torn envelope bytes written reached short := by
    have single : bytes.length = 1 := by
      split at written
      next => cases written; rfl
      next =>
        split at written
        next => cases written; rfl
        next => cases written
    have start : reached = 0 := by omega
    simp [start]

def sampleDigest (_ : List UInt8) : Block 32 := ⟨List.replicate 32 0, rfl⟩

def sampleListing : Listing := ⟨id, fun _ => .refl _⟩

/-- A journal is started, its second snapshot is cut off while it is written, and it is opened. -/
def sampleRequests : List Request :=
  [⟨.initialize_, []⟩, ⟨.persist .default, [.done, .done, .done, .crashed 0]⟩, ⟨.open_, []⟩]

/-- The codec of the two snapshots that the run writes. -/
def sampleSnapshots : SnapshotCodec :=
  sampleCodec firstEnvelope (DeliveryStateStore.successor
    ⟨1, sha256Hex sampleDigest [7], .default, none⟩ (.default, none))

theorem suspect_initialize (process : Process) (fates : List CallFate)
    (trusted : process.suspect = false) :
    ((journal codec sha256 listing).step process ⟨.initialize_, fates⟩).2.suspect = false := by
  have quiet : process.store.bind StoreCall.initialize_.persists = none := by
    cases process.store <;> rfl
  simp only [journal, StoreCall.run]
  generalize outcome _ _ = result
  obtain ⟨answer, world⟩ := result
  cases answer with
  | ok store => rfl
  | error stop =>
    cases stop with
    | crashed => rfl
    | failed why => simp [trusted, quiet]

theorem sampleRequests_careful :
    ∀ entry ∈ (journal sampleSnapshots sampleDigest sampleListing).history .fresh sampleRequests,
      Careful entry := by
  intro entry member
  simp only [sampleRequests, Machine.history, List.mem_cons, List.not_mem_nil, or_false] at member
  rcases member with rfl | rfl | rfl
  · intro impossible
    cases impossible
  · intro suspected
    have trusted : Process.suspect ((journal sampleSnapshots sampleDigest sampleListing).step .fresh
        ⟨.initialize_, []⟩).2 = false := suspect_initialize .fresh [] rfl
    cases trusted.symm.trans suspected
  · intro _
    show Option.bind _ StoreCall.open_.persists = none
    generalize Process.store _ = store
    cases store <;> rfl

end Samples

/-- However a careful run is broken off, what is opened is what was acknowledged last or what was
being written since, a call that persists adds one revision to what was acknowledged, and no
revision has two final snapshots. -/
theorem journal_survives (codec : SnapshotCodec) (sha256 : List UInt8 → Block 32)
    (listing : Listing) (requests : List Request)
    (careful : ∀ entry ∈ (journal codec sha256 listing).history .fresh requests, Careful entry) :
    Justified (fun past entry => Acknowledges (remembered past) entry)
        ((journal codec sha256 listing).history .fresh requests) ∧
      Numbered ((journal codec sha256 listing).final .fresh requests).root := by
  obtain ⟨sane, justified⟩ := sane_history requests careful
  refine ⟨fun past entry future split => ?_, numbered_of_stage sane.stage⟩
  exact (justified past entry future split).acknowledges

theorem journal_survives_sample :
    Justified (fun past entry => Acknowledges (remembered past) entry)
        ((journal sampleSnapshots sampleDigest sampleListing).history .fresh sampleRequests) ∧
      Numbered ((journal sampleSnapshots sampleDigest sampleListing).final .fresh
        sampleRequests).root :=
  journal_survives sampleSnapshots sampleDigest sampleListing sampleRequests sampleRequests_careful

/-- After a careful run, a request with which nothing goes wrong succeeds exactly when the journal
has what it needs, and changes nothing otherwise. -/
theorem journal_serves (codec : SnapshotCodec) (sha256 : List UInt8 → Block 32)
    (listing : Listing) (requests : List Request)
    (careful : ∀ entry ∈ (journal codec sha256 listing).history .fresh requests, Careful entry) :
    ∀ entry ∈ (journal codec sha256 listing).history .fresh requests, Serves codec entry := by
  intro entry member
  obtain ⟨past, future, split⟩ := List.append_of_mem member
  exact ((sane_history requests careful).2 past entry future split).serves

theorem journal_serves_sample :
    ((journal sampleSnapshots sampleDigest sampleListing).history .fresh sampleRequests).Forall
      (Serves sampleSnapshots) :=
  List.forall_iff_forall_mem.mpr
    (journal_serves sampleSnapshots sampleDigest sampleListing sampleRequests sampleRequests_careful)

end Runs

end ProfilePlatform.WindowsDelivery
