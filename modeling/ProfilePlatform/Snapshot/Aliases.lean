import ProfilePlatform.Foundation.Fields
import ProfilePlatform.Snapshot.AllOrNothing

/-! Snapshots on a disk that ignores letter case: which of the parsed ones have no two names for
one place, and no name for a file that is the bridge's or the browser's own. -/

set_option autoImplicit false

namespace ProfilePlatform.Snapshot

open Foundation

section Aliases

variable (toLowercase : String → String)

/-- A path that leads to a place below the directory it is taken in, on Windows too. -/
def StaysInside (path : String) : Prop :=
  path.toList.head? ≠ some '/' ∧ '\\' ∉ path.toList ∧ ':' ∉ path.toList ∧
    ∀ part ∈ pathComponents path, part ≠ "" ∧ part ≠ "." ∧ part ≠ ".."

variable {toLowercase} {path : String}

theorem colon_notMem (valid : validateWindowsRelativePath path = .ok ()) : ':' ∉ path.toList := by
  intro member
  have joined : ':' ∈ (Fields.join '/' (Fields.split '/' path)).toList := by
    rwa [Fields.join_split]
  rcases Fields.mem_join joined with slash | ⟨component, inside, found⟩
  · exact absurd slash (by decide)
  · have plain := refuseIf_eq_ok.mp ((ValidPath.facts valid).2 component inside)
    simp only [not_or] at plain
    have colon : UInt8.ofNat ':'.toNat ∈ utf8Bytes component := byte_mem_of_char (by decide) found
    exact plain.2.2.2.2.2.1 (List.any_eq_true.mpr ⟨_, colon, by decide⟩)

theorem StaysInside.of_valid (valid : validateWindowsRelativePath path = .ok ()) :
    StaysInside path := by
  obtain ⟨_, admitted, -⟩ := bind_eq_ok.mp valid
  have admitted := refuseIf_eq_ok.mp admitted
  simp only [not_or] at admitted
  exact ⟨admitted.2.2.1, admitted.2.2.2.2.1, colon_notMem valid, (Normalized.of_valid valid).1⟩

end Aliases

namespace LockInCapitals

def files : Files := [("user_data/LOCK", [])]

def snapshot : Bytes := canonicalSnapshot files

def generation : GenerationId := ⟨⟨"generation-of-the-lock", by decide⟩⟩

/-- No generations yet, and no staging directory either. -/
def root : MaterializationRoot := ⟨Table.empty, 4242, 1⟩

theorem parsed : parseWorkspaceSnapshot asciiLowercase snapshot = .ok files := by
  refine parseWorkspaceSnapshot_eq_ok.mpr ⟨rfl, ⟨by decide, ⟨?_, by decide⟩, by decide⟩, ?_⟩
  · simp only [files, List.map_cons, List.map_nil, List.forall_mem_cons, List.not_mem_nil,
      false_imp_iff, implies_true, and_true]
    unfold validateWindowsRelativePath
    exact bind_eq_ok.mpr ⟨(), refuseIf_passes (by decide +kernel), by decide +kernel⟩
  · have sized : snapshot.length = 36 := by decide
    rw [sized]
    decide

end LockInCapitals

end ProfilePlatform.Snapshot
