import ProfilePlatform.ReadModels.Paging

/-! Every listing is complete, yields nothing twice and leaks nothing. -/

set_option autoImplicit false

namespace ProfilePlatform.ReadModels

open Foundation
open Foundation.Pages (behind Ascending)

section Runs

variable {listing : Listing} {actor : ActorContext} {database : Database}
  {steps : List (Database × QueryPageSize)} {items : List GlobalSearchProjection}

theorem empty_lt_id (projection : GlobalSearchProjection) : "" < projection.id := by
  have accepted : OpaqueId.accepts projection.id = true := by
    cases projection with
    | client row => exact row.clientId.intoOpaque.accepted
    | profile row => exact row.profileId.intoOpaque.accepted
    | member row => exact row.actorId.intoOpaque.accepted
    | mailbox row => exact row.bindingId.intoOpaque.accepted
  exact empty_lt accepted

theorem steps_ascending (holds : ∀ step ∈ steps, step.1.Holds) :
    ∀ step ∈ steps.map (stepShown listing actor), Ascending GlobalSearchProjection.id step.1 := by
  intro step member
  obtain ⟨read, taken, rfl⟩ := List.mem_map.mp member
  exact shown_ascending (holds read taken) listing

/-- Pages that read changing states yield what was there to see, in order, and once what stays. -/
theorem Follows.changing (run : Follows listing actor none steps items)
    (holds : ∀ step ∈ steps, step.1.Holds) :
    Ascending GlobalSearchProjection.id items ∧
      (∀ projection ∈ items, ∃ step ∈ steps, Visible step.1 actor listing projection) ∧
      ∀ id, (∀ step ∈ steps, ∃ projection, Visible step.1 actor listing projection ∧
        projection.id = id) → (items.map GlobalSearchProjection.id).count id = 1 := by
  have pages := run.pages holds .beginning
  have sorted := @steps_ascending listing actor steps holds
  have ascending := pages.ascending sorted
  refine ⟨ascending, fun projection member => ?_, fun id throughout => ?_⟩
  · obtain ⟨step, taken, seen⟩ := pages.was_shown sorted projection member
    obtain ⟨read, listed, rfl⟩ := List.mem_map.mp taken
    exact ⟨read, listed, mem_shown.mp seen⟩
  · have everywhere : ∀ step ∈ steps.map (stepShown listing actor), ∃ item ∈ step.1, item.id = id := by
      intro step taken
      obtain ⟨read, listed, rfl⟩ := List.mem_map.mp taken
      obtain ⟨projection, seen, named⟩ := throughout read listed
      exact ⟨projection, mem_shown.mpr seen, named⟩
    have further : "" < id := by
      cases steps with
      | nil => cases run
      | cons step rest =>
        obtain ⟨projection, seen, rfl⟩ := throughout step List.mem_cons_self
        exact empty_lt_id projection
    obtain ⟨projection, member, named⟩ := pages.reaches sorted further everywhere
    exact List.count_eq_one_of_mem ascending.nodup (List.mem_map.mpr ⟨projection, member, named⟩)

theorem Follows.resting (run : Follows listing actor none steps items) (holds : database.Holds)
    (same : ∀ step ∈ steps, step.1 = database) : items = shown database actor listing := by
  have all_hold : ∀ step ∈ steps, step.1.Holds := fun step taken => same step taken ▸ holds
  obtain ⟨ascending, seen, throughout⟩ := run.changing all_hold
  refine ascending.eq (shown_ascending holds listing) fun item => ⟨fun member => ?_, fun member => ?_⟩
  · obtain ⟨step, taken, visible⟩ := seen item member
    rw [same step taken] at visible
    exact mem_shown.mpr visible
  · have once := throughout item.id fun step taken =>
      ⟨item, (same step taken).symm ▸ mem_shown.mp member, rfl⟩
    have present : item.id ∈ items.map GlobalSearchProjection.id :=
      List.count_pos_iff.mp (by omega)
    obtain ⟨other, listed, named⟩ := List.mem_map.mp present
    obtain ⟨step, taken, visible⟩ := seen other listed
    rw [same step taken] at visible
    rw [← (shown_ascending holds listing).eq_of_key (mem_shown.mpr visible) member named]
    exact listed

/-- The pages come to an end where only so many identifiers are ever seen. -/
theorem follows_ends (steps : Nat → Database × QueryPageSize) (ids : Finset String)
    (holds : ∀ time, (steps time).1.Holds)
    (within : ∀ time projection, Visible (steps time).1 actor listing projection → projection.id ∈ ids) :
    ∃ count items, Follows listing actor none ((List.range count).map steps) items := by
  have bounded : Pages.Within GlobalSearchProjection.id ids
      fun time => stepShown listing actor (steps time) :=
    fun time item seen => within time item (mem_shown.mp seen)
  obtain ⟨count, items, run⟩ := Pages.ends ids _ bounded
    (fun time => (steps time).2.admissible.1) 0 ""
  refine ⟨count + 1, items, follows_of_pages ?_ ?_ .beginning⟩
  · rw [List.range_eq_range', List.map_map]
    exact run
  · intro step taken
    obtain ⟨time, -, rfl⟩ := List.mem_map.mp taken
    exact holds time

end Runs

/-- From the first page to the last, a listing yields every row that the actor may see once and in
the order of the identifiers, whatever the sizes of the pages; rows that come and go between the
pages do not disturb those that stay. The search agrees with it, the listings of other projections
refuse its cursors, and what the actor may not see makes no difference to it. -/
theorem listing_complete (listing : Listing) (actor : ActorContext) :
    (∀ (database : Database) (limits : Nat → QueryPageSize), database.Holds →
      ∃ count items, Follows listing actor none
        ((List.range count).map fun page => (database, limits page)) items) ∧
    (∀ (database : Database) (steps : List (Database × QueryPageSize))
      (items : List GlobalSearchProjection), database.Holds → (∀ step ∈ steps, step.1 = database) →
      Follows listing actor none steps items →
      Ascending GlobalSearchProjection.id items ∧
      (∀ projection, projection ∈ items ↔ Visible database actor listing projection) ∧
      ∀ key, listing.searchedBy key = true →
        searchExact database actor key = .ok (items.find? fun projection => projection.key = key)) ∧
    (∀ (steps : List (Database × QueryPageSize)) (items : List GlobalSearchProjection),
      (∀ step ∈ steps, step.1.Holds) → Follows listing actor none steps items →
      Ascending GlobalSearchProjection.id items ∧
      (∀ projection ∈ items, ∃ step ∈ steps, Visible step.1 actor listing projection) ∧
      ∀ id, (∀ step ∈ steps, ∃ projection, Visible step.1 actor listing projection ∧
        projection.id = id) → (items.map GlobalSearchProjection.id).count id = 1) ∧
    (∀ (steps : Nat → Database × QueryPageSize) (ids : Finset String),
      (∀ time, (steps time).1.Holds) →
      (∀ time projection, Visible (steps time).1 actor listing projection → projection.id ∈ ids) →
      ∃ count items, Follows listing actor none ((List.range count).map steps) items) ∧
    (∀ (other : Listing) (database : Database) (page : QueryPageRequest)
      (result : QueryPage GlobalSearchProjection) (next : QueryCursor),
      list listing database actor page = .ok result → result.nextCursor = some next →
      other.front ≠ listing.front → ∀ elsewhere someone limit,
      list other elsewhere someone ⟨limit, some next⟩ = .error .invalidCursor) ∧
    (∀ first second : Database, first.Holds → second.Holds → Agree actor first second →
      ∀ page, list listing first actor page = list listing second actor page) := by
  refine ⟨fun database limits holds => ?_, fun database steps items holds same run => ?_,
    fun steps items holds run => run.changing holds, fun steps ids holds within => ?_,
    fun other database page result next listed continued differ => ?_,
    fun first second first_holds second_holds agree page => ?_⟩
  · refine follows_ends (fun page => (database, limits page))
      ((shown database actor listing).map GlobalSearchProjection.id).toFinset (fun _ => holds) ?_
    intro time projection seen
    exact List.mem_toFinset.mpr (List.mem_map_of_mem (mem_shown.mpr seen))
  · have all := run.resting holds same
    subst all
    exact ⟨shown_ascending holds listing, fun _ => mem_shown, fun _ => searchExact_shown holds⟩
  · exact follows_ends steps ids holds within
  · exact list_refuses differ listed continued
  · exact agree.list first_holds second_holds page

namespace ListingSamples

def owner : ActorContext :=
  ⟨⟨⟨⟨"tenant-of-listings", by decide +kernel⟩⟩⟩, ⟨⟨"owner-of-listings", by decide +kernel⟩⟩,
    ⟨⟨"correlation-of-listings", by decide +kernel⟩⟩⟩

def shopper : ClientId := ⟨⟨"client-shopper", by decide +kernel⟩⟩

/-- An owner with a client, two profiles that are both assigned to it, and a closed assignment. -/
def shop : Database where
  clients := [⟨"tenant-of-listings", "client-shopper", "PERSON", "Shopper", "ACTIVE", 1⟩]
  memberships := [⟨"tenant-of-listings", "owner-of-listings", "TENANT_OWNER", "ACTIVE"⟩]
  profiles := [⟨"tenant-of-listings", "profile-later", "READY", none, 3⟩,
    ⟨"tenant-of-listings", "profile-early", "DRAFT", none, 1⟩]
  assignments := [⟨"tenant-of-listings", "profile-later", "client-shopper", some 7⟩,
    ⟨"tenant-of-listings", "profile-later", "client-shopper", none⟩,
    ⟨"tenant-of-listings", "profile-early", "client-shopper", none⟩]
  mailboxBindings := []
  clientGrants := []
  profileGrants := []

theorem shop_holds : shop.Holds := by
  constructor <;> decide +kernel

def single : QueryPageSize := ⟨1, by decide⟩

/-- Pages of one profile each. -/
theorem shop_listed : ∃ count items, Follows .profiles owner none
      ((List.range count).map fun _ => (shop, single)) items ∧
    Ascending GlobalSearchProjection.id items ∧
    (∀ projection, projection ∈ items ↔ Visible shop owner .profiles projection) := by
  obtain ⟨exists_run, whole, -⟩ := listing_complete .profiles owner
  obtain ⟨count, items, run⟩ := exists_run shop (fun _ => single) shop_holds
  have same : ∀ step ∈ (List.range count).map fun _ => (shop, single), step.1 = shop := by
    intro step taken
    obtain ⟨page, -, rfl⟩ := List.mem_map.mp taken
    rfl
  obtain ⟨ascending, visible, -⟩ := whole shop _ items shop_holds same run
  exact ⟨count, items, run, ascending, visible⟩

/-- The profiles of one client go on behind the cursor of all profiles. -/
theorem shared_cursors : ¬∀ (listing other : Listing) (database : Database) (actor : ActorContext)
    (page : QueryPageRequest) (result : QueryPage GlobalSearchProjection) (next : QueryCursor),
    database.Holds → other ≠ listing → list listing database actor page = .ok result →
    result.nextCursor = some next → ∀ limit,
    list other database actor ⟨limit, some next⟩ = .error .invalidCursor := by
  intro refused
  obtain ⟨result, listed, held⟩ := list_page shop_holds .profiles owner ⟨single, none⟩ .beginning
  have two : single.value < (behind GlobalSearchProjection.id ""
      (shown shop owner .profiles)).length := by
    decide +kernel
  obtain ⟨final, next, -, continued, starts⟩ := held.continued two
  obtain ⟨page, answered, -⟩ := list_page shop_holds (.profilesForClient shopper) owner
    ⟨single, some next⟩ starts
  have fails := refused .profiles (.profilesForClient shopper) shop owner _ result next shop_holds
    nofun listed continued single
  rw [answered] at fails
  cases fails

end ListingSamples

end ProfilePlatform.ReadModels
