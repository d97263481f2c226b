import ProfilePlatform.Snapshot.Materializing

/-! A generation is published whole or not at all: until the staging directory is renamed every
call is about that directory, and nothing comes after it that writes. -/

set_option autoImplicit false

namespace ProfilePlatform.Snapshot

open Foundation Foundation.Calls
open MaterializationRoot (newGeneration)

section Frames

variable {root : MaterializationRoot} {directory other : GenerationId} {files later : Files}

theorem filesIn_of_some (held : root.generations directory = some files) :
    root.filesIn directory = files := by
  rw [MaterializationRoot.filesIn, held]
  rfl

end Frames

namespace InMemory

variable {root : MaterializationRoot} {staging generation : GenerationId} {staged files : Files}

theorem leads_rename (held : root.generations staging = some files) :
    Leads (At False root) (rename staging generation)
      (fun _ => At False (root.rename staging generation files))
      (fun _ world => world.disk = root ∨ world.disk = root.rename staging generation files) := by
  have whole := filesIn_of_some held
  refine look_bind (leads_told_bind (fun _ _ => ?_) fun _ _ => .inl)
  refine leads_perform.weaken (fun _ here => here) ?_ ?_
  · intro _ world here
    rwa [whole] at here
  · rintro stop world ⟨-, -, reached, left⟩
    split at left
    next => exact .inl left
    next =>
      rw [whole] at left
      exact .inr left

/-- The generation is not there, or it is the marker and the files. -/
def Published (generation : GenerationId) (files : Files) (world : World MaterializationRoot) : Prop :=
  world.disk.generations generation = none ∨
    world.disk.generations generation = some (newGeneration ++ files)

end InMemory

section Statement

open InMemory

end Statement

end ProfilePlatform.Snapshot
