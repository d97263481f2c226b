import ProfilePlatform.WindowsDelivery.ArchiveReading

/-! Where the members of an accepted TAR stand: one behind the other, up to zeros. -/

set_option autoImplicit false

namespace ProfilePlatform.WindowsDelivery.Archive

open Foundation

/-- A member with its header at the place, and the place of the next one. -/
structure MemberAt (file : List UInt8) (start : Nat) (member : Member) (next : Nat) : Prop where
  here : member.start = start
  data : member.dataOffset = start + 512
  header : ∃ header, readAt file start 512 = some header ∧ isZero header = false ∧
    parseTarOctal (slice header 124 136) = .ok member.size
  before : member.stop ≤ next
  padding : next < member.stop + 512
  aligned : next % 512 = 0
  within : next ≤ file.length

/-- Members from one place to another, with nothing but padding between them. -/
inductive Tiles (file : List UInt8) : Nat → List Member → Nat → Prop where
  | done {place : Nat} : Tiles file place [] place
  | member {start next stop : Nat} {member : Member} {rest : List Member} :
      MemberAt file start member next → Tiles file next rest stop → Tiles file start (member :: rest) stop

section Steps

variable {sha256 : List UInt8 → Block 32} {file : List UInt8} {walk next : TarWalk}

end Steps

section Runs

variable {sha256 : List UInt8 → Block 32} {file : List UInt8}

theorem Tiles.inside {start stop : Nat} {members : List Member} (tiles : Tiles file start members stop) :
    ∀ member ∈ members, start + 512 ≤ member.dataOffset ∧ member.stop ≤ stop := by
  have forward : ∀ {start stop : Nat} {members : List Member}, Tiles file start members stop →
      start ≤ stop := by
    intro start stop members tiles
    induction tiles with
    | done => exact Nat.le_refl _
    | member placed _ ih =>
      have data := placed.data
      have before := placed.before
      simp only [Member.stop] at before
      omega
  induction tiles with
  | done => exact List.forall_mem_nil _
  | member placed rest ih =>
    have before := placed.before
    have onward := forward rest
    have data := placed.data
    intro member listed
    rcases List.mem_cons.mp listed with rfl | later
    · exact ⟨by omega, by omega⟩
    · obtain ⟨low, high⟩ := ih member later
      simp only [Member.stop] at before
      exact ⟨by omega, high⟩

end Runs

end ProfilePlatform.WindowsDelivery.Archive
