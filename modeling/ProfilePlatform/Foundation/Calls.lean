import ProfilePlatform.Foundation.Leads

/-! Calls to a system that may fail or be cut short.

Every call meets its fate: it is done, it fails, or nothing comes after it. A call that is not done
may have had part of its effect. A run is clean when all its calls are done.
-/

set_option autoImplicit false

namespace Foundation

/-- What becomes of one call, and how far one got that is not done. -/
inductive CallFate where
  | done
  | failed (reached : Nat)
  | crashed (reached : Nat)
  deriving DecidableEq

/-- The system that is called, and the fates still to come. After them every call is done. -/
structure World (D : Type) where
  disk : D
  fates : List CallFate

inductive Stop (E : Type) where
  | failed (why : E)
  | crashed
  deriving DecidableEq

abbrev Calls (D E : Type) := ExceptT (Stop E) (StateM (World D))

namespace Calls

variable {D E A B : Type}

def look : Calls D E D := do
  let world ← get
  return world.disk

/-- A call with an effect, of which a part may be all there is. -/
def perform (full : D → D) (part : Nat → D → D) (why : E) : Calls D E Unit := do
  let world ← get
  match world.fates with
  | [] => set (World.mk (full world.disk) [])
  | .done :: later => set (World.mk (full world.disk) later)
  | .failed reached :: later => do
    set (World.mk (part reached world.disk) later)
    throw (.failed why)
  | .crashed reached :: later => do
    set (World.mk (part reached world.disk) later)
    throw .crashed

/-- A call that only looks. -/
def observe (why : E) : Calls D E Unit := perform id (fun _ => id) why

/-- A question whose answer is no when it cannot be asked. -/
def probe (test : D → Bool) : Calls D E Bool := do
  let world ← get
  match world.fates with
  | [] => return test world.disk
  | .done :: later => do
    set (World.mk world.disk later)
    return test world.disk
  | .failed _ :: later => do
    set (World.mk world.disk later)
    return false
  | .crashed _ :: later => do
    set (World.mk world.disk later)
    throw .crashed

/-- A change that is no call, and cannot fail. -/
def change (apply : D → D) : Calls D E Unit := do
  let world ← get
  set (World.mk (apply world.disk) world.fates)

/-- What can be told without a call. -/
def told (result : Except E A) : Calls D E A := given (result.mapError .failed)

section Outcomes

variable (next : A → Calls D E B) (goes : Unit → Calls D E B) (why : E) (disk : D)
  (fates : List CallFate)

end Outcomes

section Rules

variable {clean : Prop} {disk : D} {why : E}

/-- The system stands like this, and no call will go wrong if the run is clean. -/
def At (clean : Prop) (disk : D) (world : World D) : Prop :=
  world.disk = disk ∧ (clean → ∀ fate ∈ world.fates, fate = .done)

theorem look_bind {next : D → Calls D E B} {results : B → World D → Prop}
    {fails : Stop E → World D → Prop} (continues : Leads (At clean disk) (next disk) results fails) :
    Leads (At clean disk) (look >>= next) results fails := by
  rintro world ⟨rfl, kept⟩
  exact continues world ⟨rfl, kept⟩

theorem leads_perform {full : D → D} {part : Nat → D → D} :
    Leads (At clean disk) (perform full part why) (fun _ => At clean (full disk))
      (fun stop world => ¬clean ∧ (stop = .failed why ∨ stop = .crashed) ∧
        ∃ reached, world.disk = part reached disk) := by
  rintro ⟨_, fates⟩ ⟨rfl, kept⟩
  cases fates with
  | nil => exact ⟨rfl, kept⟩
  | cons fate later =>
    cases fate with
    | done => exact ⟨rfl, fun holds fate member => kept holds fate (List.mem_cons_of_mem _ member)⟩
    | failed reached =>
      have unclean : ¬clean := fun holds => by cases kept holds _ List.mem_cons_self
      exact ⟨unclean, .inl rfl, reached, rfl⟩
    | crashed reached =>
      have unclean : ¬clean := fun holds => by cases kept holds _ List.mem_cons_self
      exact ⟨unclean, .inr rfl, reached, rfl⟩

theorem leads_probe {test : D → Bool} (absent : test disk = false) :
    Leads (At clean disk) (probe test : Calls D E Bool) (fun answer world => answer = false ∧
      At clean disk world) (fun _ world => ¬clean ∧ world.disk = disk) := by
  rintro ⟨_, fates⟩ ⟨rfl, kept⟩
  cases fates with
  | nil => exact ⟨absent, rfl, kept⟩
  | cons fate later =>
    have rest : clean → ∀ fate ∈ later, fate = .done :=
      fun holds fate member => kept holds fate (List.mem_cons_of_mem _ member)
    cases fate with
    | done => exact ⟨absent, rfl, rest⟩
    | failed reached => exact ⟨rfl, rfl, rest⟩
    | crashed reached =>
      have unclean : ¬clean := fun holds => by cases kept holds _ List.mem_cons_self
      exact ⟨unclean, rfl⟩

/-- A computation that only looks. What it finds is the result, if nothing goes wrong. -/
def Reads (disk : D) (run : Calls D E A) (result : Except E A) : Prop :=
  ∀ clean, Leads (At clean disk) run (fun value world => result = .ok value ∧ At clean disk world)
    (fun stop world => world.disk = disk ∧ (clean → ∃ why, stop = .failed why ∧ result = .error why))

theorem reads_told (result : Except E A) : Reads disk (told result) result := by
  rintro clean world ⟨rfl, kept⟩
  cases result with
  | ok value => exact ⟨rfl, rfl, kept⟩
  | error why => exact ⟨rfl, fun _ => ⟨why, rfl, rfl⟩⟩

theorem reads_pure (value : A) : Reads disk (pure value : Calls D E A) (.ok value) :=
  reads_told (.ok value)

theorem reads_observe : Reads disk (observe why : Calls D E Unit) (.ok ()) := fun _ =>
  leads_perform.weaken (fun _ here => here) (fun _ _ here => ⟨rfl, here⟩)
    fun _ _ ⟨unclean, _, _, same⟩ => ⟨same, fun holds => absurd holds unclean⟩

/-- What is found is gone on with. Where looking goes wrong nothing has changed. -/
theorem Reads.leads_bind {run : Calls D E A} {value : A} {next : A → Calls D E B}
    {returns : B → World D → Prop} {fails : Stop E → World D → Prop}
    (reads : Reads disk run (.ok value))
    (later : Leads (At clean disk) (next value) returns fails)
    (breaks : ∀ stop world, world.disk = disk → ¬clean → fails stop world) :
    Leads (At clean disk) (run >>= next) returns fails := by
  refine ((reads clean).weaken (fun _ here => here) (fun _ _ found => found) ?_).bind fun found => ?_
  · rintro stop world ⟨same, refused⟩
    refine breaks stop world same fun holds => ?_
    obtain ⟨_, _, impossible⟩ := refused holds
    cases impossible
  · rintro world ⟨same, here⟩
    cases same
    exact later world here

theorem reads_look {next : D → Calls D E A} {result : Except E A}
    (later : Reads disk (next disk) result) : Reads disk (look >>= next) result :=
  fun clean => look_bind (later clean)

theorem reads_bind {run : Calls D E A} {value : A} {next : A → Calls D E B} {result : Except E B}
    (reads : Reads disk run (.ok value)) (later : Reads disk (next value) result) :
    Reads disk (run >>= next) result := fun clean =>
  reads.leads_bind (later clean) fun _ _ same unclean => ⟨same, fun holds => absurd holds unclean⟩

theorem reads_bind_error {run : Calls D E A} {next : A → Calls D E B}
    (reads : Reads disk run (.error why)) : Reads disk (run >>= next) (.error why) := by
  intro clean
  refine ((reads clean).weaken (fun _ here => here) (fun _ _ found => found) ?_).bind fun value => ?_
  · rintro stop world ⟨same, refused⟩
    refine ⟨same, fun holds => ?_⟩
    obtain ⟨other, stopped, found⟩ := refused holds
    cases found
    exact ⟨why, stopped, rfl⟩
  · rintro world ⟨impossible, -⟩
    cases impossible

/-- What is told is gone on with, or is where the run ends. -/
theorem leads_told_bind {result : Except E A} {next : A → Calls D E B}
    {results : B → World D → Prop} {fails : Stop E → World D → Prop}
    (continues : ∀ value, result = .ok value → Leads (At clean disk) (next value) results fails)
    (breaks : ∀ stop world, world.disk = disk → fails stop world) :
    Leads (At clean disk) (told result >>= next) results fails := by
  cases result with
  | ok value =>
    rintro world here
    exact continues value rfl world here
  | error why =>
    rintro world ⟨same, -⟩
    exact breaks _ world same

end Rules

end Calls

end Foundation
