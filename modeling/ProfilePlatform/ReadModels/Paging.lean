import ProfilePlatform.ReadModels.Selection

/-! Following the cursors of a listing, while the database changes or stays as it is. -/

set_option autoImplicit false

namespace ProfilePlatform.ReadModels

open Foundation
open Foundation.Pages (behind Ascending)

/-- The items that the pages of a listing yield, each read in a state of its own and the next one
with the cursor of the one before, until there is no cursor. -/
inductive Follows (listing : Listing) (actor : ActorContext) :
    Option QueryCursor → List (Database × QueryPageSize) → List GlobalSearchProjection → Prop where
  | last {cursor : Option QueryCursor} {database : Database} {limit : QueryPageSize}
      {page : QueryPage GlobalSearchProjection} :
      list listing database actor ⟨limit, cursor⟩ = .ok page → page.nextCursor = none →
      Follows listing actor cursor [(database, limit)] page.items
  | more {cursor : Option QueryCursor} {database : Database} {limit : QueryPageSize}
      {page : QueryPage GlobalSearchProjection} {next : QueryCursor}
      {rest : List (Database × QueryPageSize)} {items : List GlobalSearchProjection} :
      list listing database actor ⟨limit, cursor⟩ = .ok page → page.nextCursor = some next →
      Follows listing actor (some next) rest items →
      Follows listing actor cursor ((database, limit) :: rest) (page.items ++ items)

section Page

def cursorPrefixes : List String :=
  [clientCursorPrefix, profileCursorPrefix, memberCursorPrefix, mailboxCursorPrefix]

theorem front_mem (listing : Listing) : listing.front ∈ cursorPrefixes := by
  cases listing <;> simp [Listing.front, cursorPrefixes]

theorem front_plain (listing : Listing) : Front listing.front := by
  have plain : ∀ front ∈ cursorPrefixes, (utf8Bytes front).length ≤ 16 ∧
      front.toList.any Ports.isControl = false := by
    decide +kernel
  exact ⟨(plain _ (front_mem listing)).1, (plain _ (front_mem listing)).2⟩

theorem PageBehind.map {Item Other : Type} {idOf : Item → String} {otherId : Other → String}
    {wrap : Item → Other} (same : ∀ item, otherId (wrap item) = idOf item) {front after : String}
    {items : List Item} {limit : Nat} {page : QueryPage Item}
    (held : PageBehind idOf front after items limit page) :
    PageBehind otherId front after (items.map wrap) limit (page.map wrap) := by
  have moved : behind otherId after (items.map wrap) = (behind idOf after items).map wrap := by
    rw [behind, behind, List.filter_map]
    congr 1
    exact List.filter_congr fun item _ => by simp only [Function.comp_apply, same]
  refine ⟨?_, fun fits => ?_, fun exceeds => ?_⟩
  · rw [moved, QueryPage.map, held.items, List.map_take]
  · rw [moved, List.length_map] at fits
    exact held.ended fits
  · rw [moved, List.length_map] at exceeds
    obtain ⟨final, cursor, ends, next, starts⟩ := held.continued exceeds
    refine ⟨wrap final, cursor, ?_, next, same final ▸ starts⟩
    rw [moved, ← List.map_take, List.getLast?_map, ends]
    rfl

variable {database : Database} {actor : ActorContext} {after : String}

theorem wrapped_page {Row Item : Type} {rowId : Row → String} {mapRow : Row → Answer Item}
    {idOf : Item → String} {rows : List Row} {front : String} (wrap : Item → GlobalSearchProjection)
    (same : ∀ item, (wrap item).id = idOf item) (readable : Readable rowId mapRow idOf rows)
    (plain : Front front) {page : QueryPageRequest} (starts : StartsAt front page.cursor after) :
    ∃ result, (listRows front rowId mapRow idOf rows page).map (QueryPage.map wrap) = .ok result ∧
      PageBehind GlobalSearchProjection.id front after ((readIn rowId mapRow rows).map wrap)
        page.limit.value result := by
  obtain ⟨result, listed, held⟩ := readable.page plain starts
  exact ⟨result.map wrap, by rw [listed]; rfl, held.map same⟩

theorem list_page (holds : database.Holds) (listing : Listing) (actor : ActorContext)
    (page : QueryPageRequest) (starts : StartsAt listing.front page.cursor after) :
    ∃ result, list listing database actor page = .ok result ∧
      PageBehind GlobalSearchProjection.id listing.front after (shown database actor listing)
        page.limit.value result := by
  have plain := front_plain listing
  cases listing with
  | clients => exact wrapped_page .client (fun _ => rfl) (clientRows_readable holds) plain starts
  | profiles => exact wrapped_page .profile (fun _ => rfl) (profileRows_readable holds) plain starts
  | profilesForClient clientId =>
    exact wrapped_page .profile (fun _ => rfl) (profileRowsForClient_readable holds clientId) plain starts
  | members => exact wrapped_page .member (fun _ => rfl) (memberRows_readable holds) plain starts
  | mailboxes => exact wrapped_page .mailbox (fun _ => rfl) (mailboxRows_readable holds) plain starts

theorem wrapped_ascending {Row Item : Type} {rowId : Row → String} {mapRow : Row → Answer Item}
    {idOf : Item → String} {rows : List Row} (wrap : Item → GlobalSearchProjection)
    (same : ∀ item, (wrap item).id = idOf item) (readable : Readable rowId mapRow idOf rows) :
    Ascending GlobalSearchProjection.id ((readIn rowId mapRow rows).map wrap) := by
  refine List.pairwise_map.mpr (readable.ascending.imp ?_)
  intro first second before
  rwa [same, same]

theorem shown_ascending (holds : database.Holds) (listing : Listing) :
    Ascending GlobalSearchProjection.id (shown database actor listing) := by
  cases listing with
  | clients => exact wrapped_ascending .client (fun _ => rfl) (clientRows_readable holds)
  | profiles => exact wrapped_ascending .profile (fun _ => rfl) (profileRows_readable holds)
  | profilesForClient clientId =>
    exact wrapped_ascending .profile (fun _ => rfl) (profileRowsForClient_readable holds clientId)
  | members => exact wrapped_ascending .member (fun _ => rfl) (memberRows_readable holds)
  | mailboxes => exact wrapped_ascending .mailbox (fun _ => rfl) (mailboxRows_readable holds)

end Page

section Runs

variable {listing : Listing} {actor : ActorContext} {after : String} {cursor : Option QueryCursor}
  {steps : List (Database × QueryPageSize)} {items : List GlobalSearchProjection}

/-- What a step of a run shows, and how much of it fits on the page. -/
def stepShown (listing : Listing) (actor : ActorContext) (step : Database × QueryPageSize) :
    List GlobalSearchProjection × Nat :=
  (shown step.1 actor listing, step.2.value)

/-- Following the cursors of a listing is following pages of what it shows. -/
theorem Follows.pages (run : Follows listing actor cursor steps items)
    (holds : ∀ step ∈ steps, step.1.Holds) (starts : StartsAt listing.front cursor after) :
    Pages.Follows GlobalSearchProjection.id after (steps.map (stepShown listing actor)) items := by
  induction run generalizing after with
  | last listed ended =>
    next cursor database limit page =>
    obtain ⟨result, same, held⟩ := list_page (holds _ List.mem_cons_self) listing actor
      ⟨limit, cursor⟩ starts
    cases Except.ok.inj (listed.symm.trans same)
    rcases Nat.lt_or_ge limit.value
      (behind GlobalSearchProjection.id after (shown database actor listing)).length with exceeds | fits
    · obtain ⟨final, next, -, continued, -⟩ := held.continued exceeds
      rw [ended] at continued
      cases continued
    · rw [held.items, List.take_of_length_le fits]
      exact .last fits
  | more listed next _ ih =>
    next cursor database limit page next_cursor rest items after =>
    obtain ⟨result, same, held⟩ := list_page (holds _ List.mem_cons_self) listing actor
      ⟨limit, cursor⟩ starts
    cases Except.ok.inj (listed.symm.trans same)
    rcases Nat.lt_or_ge limit.value
      (behind GlobalSearchProjection.id after (shown database actor listing)).length with exceeds | fits
    · obtain ⟨final, made, ends, continued, behind_final⟩ := held.continued exceeds
      rw [next] at continued
      cases continued
      rw [held.items]
      exact .more exceeds ends (ih (fun step member => holds step (List.mem_cons_of_mem _ member))
        behind_final)
    · rw [held.ended fits] at next
      cases next

theorem follows_of_pages {steps : List (Database × QueryPageSize)}
    (run : Pages.Follows GlobalSearchProjection.id after (steps.map (stepShown listing actor)) items)
    (holds : ∀ step ∈ steps, step.1.Holds) (starts : StartsAt listing.front cursor after) :
    Follows listing actor cursor steps items := by
  induction steps generalizing after cursor items with
  | nil => cases run
  | cons step rest ih =>
    obtain ⟨database, limit⟩ := step
    obtain ⟨result, listed, held⟩ := list_page (holds _ List.mem_cons_self) listing actor
      ⟨limit, cursor⟩ starts
    rw [List.map_cons] at run
    generalize others : rest.map (stepShown listing actor) = later at run
    cases run with
    | last fits =>
      cases List.map_eq_nil_iff.mp others
      have all := held.items
      rw [List.take_of_length_le fits] at all
      rw [← all]
      exact .last listed (held.ended fits)
    | more exceeds ends onward =>
      obtain ⟨final, next, ends_here, continued, behind_final⟩ := held.continued exceeds
      rw [ends] at ends_here
      cases ends_here
      rw [← held.items]
      rw [← others] at onward
      exact .more listed continued
        (ih onward (fun step member => holds step (List.mem_cons_of_mem _ member)) behind_final)

end Runs

/-! The listings as a whole: they yield what the actor may see, all of it and once, they agree with
the search, and they tell nothing of what is hidden.
-/

section Search

variable {Row Item : Type} {rowId : Row → String} {mapRow : Row → Answer Item} {idOf : Item → String}
  {rows : List Row}

theorem Readable.search (readable : Readable rowId mapRow idOf rows) (id : String) :
    ∃ found, firstRow mapRow (rows.filter fun row => rowId row == id) = .ok found ∧
      ∀ item, found = some item ↔ item ∈ readIn rowId mapRow rows ∧ idOf item = id := by
  rcases selected : rows.filter fun row => rowId row == id with _ | ⟨row, rest⟩
  · refine ⟨none, rfl, fun item => ⟨nofun, ?_⟩⟩
    rintro ⟨listed, named⟩
    obtain ⟨row, stored, read⟩ := mem_readIn.mp listed
    obtain ⟨other, same, whose⟩ := readable.reads row stored
    cases Except.ok.inj (read.symm.trans same)
    have kept : row ∈ rows.filter fun row => rowId row == id :=
      List.mem_filter.mpr ⟨stored, beq_iff_eq.mpr (whose.symm.trans named)⟩
    rw [selected] at kept
    exact (List.not_mem_nil kept).elim
  · have kept : row ∈ rows.filter fun row => rowId row == id := by
      rw [selected]
      exact List.mem_cons_self
    obtain ⟨stored, named⟩ := List.mem_filter.mp kept
    obtain ⟨item, read, whose⟩ := readable.reads row stored
    have its_id : idOf item = id := whose.trans (beq_iff_eq.mp named)
    have listed : item ∈ readIn rowId mapRow rows := mem_readIn.mpr ⟨row, stored, read⟩
    refine ⟨some item, by rw [firstRow, read]; rfl, fun other => ?_⟩
    constructor
    · intro same
      cases same
      exact ⟨listed, its_id⟩
    · rintro ⟨other_listed, other_named⟩
      exact congrArg some
        (readable.ascending.eq_of_key listed other_listed (its_id.trans other_named.symm))

theorem wrapped_search (wrap : Item → GlobalSearchProjection)
    (readable : Readable rowId mapRow idOf rows) {key : GlobalSearchKey} {id : String}
    (named : ∀ item, (wrap item).key = key ↔ idOf item = id) :
    (firstRow mapRow (rows.filter fun row => rowId row == id)).map (Option.map wrap) =
      .ok (((readIn rowId mapRow rows).map wrap).find? fun projection => projection.key = key) := by
  obtain ⟨found, first, whose⟩ := readable.search id
  rw [first, List.find?_map]
  change Except.ok (found.map wrap) = _
  congr 2
  cases found with
  | none =>
    refine (List.find?_eq_none.mpr fun item member same => ?_).symm
    have its_id := (named item).mp (of_decide_eq_true same)
    cases (whose item).mpr ⟨member, its_id⟩
  | some item =>
    obtain ⟨member, its_id⟩ := (whose item).mp rfl
    have exists_other : ((readIn rowId mapRow rows).find?
        ((fun projection => decide (projection.key = key)) ∘ wrap)).isSome = true :=
      List.find?_isSome.mpr ⟨item, member, decide_eq_true ((named item).mpr its_id)⟩
    obtain ⟨other, first⟩ := Option.isSome_iff_exists.mp exists_other
    have matching : ((fun projection => decide (projection.key = key)) ∘ wrap) other = true :=
      List.find?_some first
    have other_id := (named other).mp (of_decide_eq_true matching)
    exact ((whose other).mpr ⟨List.mem_of_find?_eq_some first, other_id⟩).trans first.symm

end Search

/-- The listings of which the search finds single rows. -/
def Listing.searchedBy : Listing → GlobalSearchKey → Bool
  | .clients, .client _ | .profiles, .profile _ | .mailboxes, .mailbox _ => true
  | _, _ => false

variable {database : Database} {actor : ActorContext} {listing : Listing}

theorem clientId_ext {first second : ClientId}
    (same : first.intoOpaque.asStr = second.intoOpaque.asStr) : first = second := by
  obtain ⟨⟨text, _⟩⟩ := first
  obtain ⟨⟨other, _⟩⟩ := second
  cases (show text = other from same)
  rfl

theorem bindingId_ext {first second : MailboxBindingId}
    (same : first.intoOpaque.asStr = second.intoOpaque.asStr) : first = second := by
  obtain ⟨⟨text, _⟩⟩ := first
  obtain ⟨⟨other, _⟩⟩ := second
  cases (show text = other from same)
  rfl

theorem searchExact_shown (holds : database.Holds) {key : GlobalSearchKey}
    (searched : listing.searchedBy key = true) :
    searchExact database actor key =
      .ok ((shown database actor listing).find? fun projection => projection.key = key) := by
  cases listing <;> cases key
  case clients.client clientId =>
    refine wrapped_search .client (clientRows_readable holds) fun item => ?_
    rw [GlobalSearchProjection.key, GlobalSearchKey.client.injEq]
    exact ⟨fun same => by rw [same], clientId_ext⟩
  case profiles.profile profileId =>
    refine wrapped_search .profile (profileRows_readable holds) fun item => ?_
    rw [GlobalSearchProjection.key, GlobalSearchKey.profile.injEq]
    exact ⟨fun same => by rw [same], TypedId.ext_asStr⟩
  case mailboxes.mailbox bindingId =>
    refine wrapped_search .mailbox (mailboxRows_readable holds) fun item => ?_
    rw [GlobalSearchProjection.key, GlobalSearchKey.mailbox.injEq]
    exact ⟨fun same => by rw [same], bindingId_ext⟩
  all_goals exact absurd searched Bool.false_ne_true

section Cursors

theorem stripPrefix_eq_some {front text rest : String} (stripped : stripPrefix front text = some rest) :
    text = front ++ rest := by
  rw [stripPrefix] at stripped
  split at stripped
  next is_front =>
    obtain ⟨chars, same⟩ := List.isPrefixOf_iff_prefix.mp is_front
    cases Option.some.inj stripped
    apply String.toList_inj.mp
    rw [String.toList_append, String.toList_ofList, ← same, List.drop_left]
  next => cases stripped

/-- A page is read from the beginning or behind an identifier, or the cursor is refused. -/
theorem starts_of_idCursor {front after : String} {page : QueryPageRequest}
    (read : idCursor front page = .ok after) : StartsAt front page.cursor after := by
  obtain ⟨limit, given⟩ := page
  cases given with
  | none =>
    cases read
    exact .beginning
  | some cursor =>
    obtain ⟨value, found, onward⟩ := bind_eq_ok.mp read
    obtain ⟨stripped, present⟩ := Option.filter_eq_some_iff.mp (okOr_eq_ok.mp found)
    have nonempty : value ≠ "" := of_decide_eq_true present
    simp only [nonempty, if_false] at onward
    obtain ⟨id, parsed, same⟩ := bind_eq_ok.mp onward
    cases Except.ok.inj same
    refine .behind (stripPrefix_eq_some stripped) ?_
    by_contra refused
    rw [OpaqueId.parse, dif_neg refused] at parsed
    cases parsed

theorem list_refused {why : QueryPortErrorClass} {page : QueryPageRequest}
    (refused : idCursor listing.front page = .error why) :
    list listing database actor page = .error why := by
  cases listing <;>
    simp only [list, listClients, listProfiles, listProfilesForClient, listMembers, listMailboxes,
      listRows] <;> (rw [Listing.front] at refused; rw [refused]; rfl)

theorem front_apart {other : Listing} (differ : other.front ≠ listing.front) (id : String) :
    stripPrefix other.front (listing.front ++ id) = none := by
  rw [stripPrefix, if_neg]
  intro is_front
  have begins := List.isPrefixOf_iff_prefix.mp is_front
  rw [String.toList_append] at begins
  have one_begins := List.prefix_or_prefix_of_prefix begins (List.prefix_append _ _)
  have apart : ∀ first ∈ cursorPrefixes, ∀ second ∈ cursorPrefixes, first ≠ second →
      ¬(first.toList <+: second.toList ∨ second.toList <+: first.toList) := by
    decide +kernel
  exact apart _ (front_mem other) _ (front_mem listing) differ one_begins

theorem listRows_cursor {Row Item : Type} {front : String} {rowId : Row → String}
    {mapRow : Row → Answer Item} {idOf : Item → String} {rows : List Row} {page : QueryPageRequest}
    {result : QueryPage Item} {next : QueryCursor}
    (listed : listRows front rowId mapRow idOf rows page = .ok result)
    (continued : result.nextCursor = some next) : ∃ id, next.asStr = front ++ id := by
  obtain ⟨after, -, onward⟩ := bind_eq_ok.mp listed
  obtain ⟨items, -, onward⟩ := bind_eq_ok.mp onward
  obtain ⟨made, written, same⟩ := bind_eq_ok.mp onward
  cases Except.ok.inj same
  cases continued
  rw [nextCursor] at written
  split at written
  · split at written
    next last _ =>
      obtain ⟨named, made, wrapped⟩ := map_eq_ok.mp written
      cases Option.some.inj wrapped
      rw [cursor] at made
      split at made
      · cases Except.ok.inj made
        exact ⟨_, rfl⟩
      · cases made
    · cases written
  · cases written

/-- The listings read no cursor of each other, unless they have one prefix. -/
theorem list_refuses {other : Listing} (differ : other.front ≠ listing.front)
    {page : QueryPageRequest} {result : QueryPage GlobalSearchProjection} {next : QueryCursor}
    (listed : list listing database actor page = .ok result) (continued : result.nextCursor = some next)
    (elsewhere : Database) (someone : ActorContext) (limit : QueryPageSize) :
    list other elsewhere someone ⟨limit, some next⟩ = .error .invalidCursor := by
  have named : ∃ id, next.asStr = listing.front ++ id := by
    cases listing <;>
    · obtain ⟨plain, read, same⟩ := map_eq_ok.mp listed
      cases same
      exact listRows_cursor read continued
  obtain ⟨id, text⟩ := named
  have refused : cursorValue ⟨limit, some next⟩ other.front = .error .invalidCursor := by
    simp only [cursorValue, text, front_apart differ]
    rfl
  refine list_refused ?_
  rw [idCursor, refused]
  rfl

end Cursors

section Agreement

/-- Two states agree on the actor's membership and grants, and on the rows that it may see. -/
structure Agree (actor : ActorContext) (first second : Database) : Prop where
  membership : ∀ row : MembershipColumns, row.tenantId = ActorContext.tenant actor →
    row.actorId = actor.actorId.asStr → (row ∈ first.memberships ↔ row ∈ second.memberships)
  clientGrants : ∀ row : GrantColumns, row.tenantId = ActorContext.tenant actor →
    row.actorId = actor.actorId.asStr → (row ∈ first.clientGrants ↔ row ∈ second.clientGrants)
  profileGrants : ∀ row : GrantColumns, row.tenantId = ActorContext.tenant actor →
    row.actorId = actor.actorId.asStr → (row ∈ first.profileGrants ↔ row ∈ second.profileGrants)
  clients : ∀ row : ClientColumns, row.tenantId = ActorContext.tenant actor →
    MayRead first actor first.clientGrants row.clientId → (row ∈ first.clients ↔ row ∈ second.clients)
  profiles : ∀ row : ProfileColumns, row.tenantId = ActorContext.tenant actor →
    MayRead first actor first.profileGrants row.profileId →
    (row ∈ first.profiles ↔ row ∈ second.profiles)
  assignments : ∀ row : AssignmentColumns, row.tenantId = ActorContext.tenant actor →
    MayRead first actor first.profileGrants row.profileId → row.closedAtMs = none →
    (row ∈ first.assignments ↔ row ∈ second.assignments)
  members : ActiveAs first actor "TENANT_OWNER" → ∀ row : MembershipColumns,
    row.tenantId = ActorContext.tenant actor → (row ∈ first.memberships ↔ row ∈ second.memberships)
  mailboxes : ActiveAs first actor "TENANT_OWNER" → ∀ row : MailboxColumns,
    row.tenantId = ActorContext.tenant actor →
    (row ∈ first.mailboxBindings ↔ row ∈ second.mailboxBindings)

variable {first second : Database}

theorem Agree.activeAs (agree : Agree actor first second) (role : String) :
    ActiveAs first actor role ↔ ActiveAs second actor role := by
  constructor
  · rintro ⟨membership, stored, tenant, whose, rest⟩
    exact ⟨membership, (agree.membership membership tenant whose).mp stored, tenant, whose, rest⟩
  · rintro ⟨membership, stored, tenant, whose, rest⟩
    exact ⟨membership, (agree.membership membership tenant whose).mpr stored, tenant, whose, rest⟩

theorem hasGrant_congr {grants others : List GrantColumns}
    (same : ∀ row : GrantColumns, row.tenantId = ActorContext.tenant actor →
      row.actorId = actor.actorId.asStr → (row ∈ grants ↔ row ∈ others)) (id : String) :
    HasGrant actor grants id ↔ HasGrant actor others id := by
  constructor
  · rintro ⟨row, stored, tenant, whose, rest⟩
    exact ⟨row, (same row tenant whose).mp stored, tenant, whose, rest⟩
  · rintro ⟨row, stored, tenant, whose, rest⟩
    exact ⟨row, (same row tenant whose).mpr stored, tenant, whose, rest⟩

theorem Agree.mayReadClient (agree : Agree actor first second) (id : String) :
    MayRead first actor first.clientGrants id ↔ MayRead second actor second.clientGrants id := by
  rw [MayRead, MayRead, agree.activeAs, agree.activeAs, hasGrant_congr agree.clientGrants]

theorem Agree.mayReadProfile (agree : Agree actor first second) (id : String) :
    MayRead first actor first.profileGrants id ↔ MayRead second actor second.profileGrants id := by
  rw [MayRead, MayRead, agree.activeAs, agree.activeAs, hasGrant_congr agree.profileGrants]

theorem Agree.symm (agree : Agree actor first second) : Agree actor second first where
  membership row tenant whose := (agree.membership row tenant whose).symm
  clientGrants row tenant whose := (agree.clientGrants row tenant whose).symm
  profileGrants row tenant whose := (agree.profileGrants row tenant whose).symm
  clients row tenant allowed := (agree.clients row tenant ((agree.mayReadClient _).mpr allowed)).symm
  profiles row tenant allowed :=
    (agree.profiles row tenant ((agree.mayReadProfile _).mpr allowed)).symm
  assignments row tenant allowed opened :=
    (agree.assignments row tenant ((agree.mayReadProfile _).mpr allowed) opened).symm
  members owner row tenant := (agree.members ((agree.activeAs _).mpr owner) row tenant).symm
  mailboxes owner row tenant := (agree.mailboxes ((agree.activeAs _).mpr owner) row tenant).symm

theorem Agree.linked (agree : Agree actor first second) {profile : ProfileColumns}
    (tenant : profile.tenantId = ActorContext.tenant actor)
    (allowed : MayRead first actor first.profileGrants profile.profileId) {linked : Option String}
    (link : Linked first profile linked) : Linked second profile linked := by
  cases linked with
  | none =>
    intro assignment stored same_tenant same_profile opened
    rw [← same_profile] at allowed
    have held := (agree.assignments assignment (same_tenant.trans tenant) allowed opened).mpr stored
    exact link assignment held same_tenant same_profile opened
  | some clientId =>
    obtain ⟨assignment, stored, same_tenant, same_profile, opened, named⟩ := link
    rw [← same_profile] at allowed
    exact ⟨assignment,
      (agree.assignments assignment (same_tenant.trans tenant) allowed opened).mp stored,
      same_tenant, same_profile, opened, named⟩

theorem Agree.seesProfile (agree : Agree actor first second) {linked : Option String}
    {projection : ProfileReadProjection} (seen : SeesProfile first actor linked projection) :
    SeesProfile second actor linked projection := by
  obtain ⟨profile, stored, tenant, allowed, link, read⟩ := seen
  exact ⟨profile, (agree.profiles profile tenant allowed).mp stored, tenant,
    (agree.mayReadProfile _).mp allowed, agree.linked tenant allowed link, read⟩

theorem Agree.visible (agree : Agree actor first second) {projection : GlobalSearchProjection}
    (seen : Visible first actor listing projection) : Visible second actor listing projection := by
  cases listing <;> cases projection
  case clients.client =>
    obtain ⟨client, stored, tenant, allowed, read⟩ := seen
    exact ⟨client, (agree.clients client tenant allowed).mp stored, tenant,
      (agree.mayReadClient _).mp allowed, read⟩
  case profiles.profile =>
    obtain ⟨linked, sees⟩ := seen
    exact ⟨linked, agree.seesProfile sees⟩
  case profilesForClient.profile => exact agree.seesProfile seen
  case members.member =>
    obtain ⟨membership, stored, tenant, owner, read⟩ := seen
    exact ⟨membership, (agree.members owner membership tenant).mp stored, tenant,
      (agree.activeAs _).mp owner, read⟩
  case mailboxes.mailbox =>
    obtain ⟨binding, stored, tenant, owner, read⟩ := seen
    exact ⟨binding, (agree.mailboxes owner binding tenant).mp stored, tenant,
      (agree.activeAs _).mp owner, read⟩
  all_goals exact seen.elim

theorem PageBehind.unique {Item : Type} {idOf : Item → String} {front after : String}
    {items : List Item} {limit : Nat} {page other : QueryPage Item}
    (held : PageBehind idOf front after items limit page)
    (other_held : PageBehind idOf front after items limit other) : page = other := by
  have same_items : page.items = other.items := held.items.trans other_held.items.symm
  have same_cursor : page.nextCursor = other.nextCursor := by
    rcases Nat.lt_or_ge limit (behind idOf after items).length with exceeds | fits
    · obtain ⟨final, cursor, ends, next, starts⟩ := held.continued exceeds
      obtain ⟨other_final, other_cursor, other_ends, other_next, other_starts⟩ :=
        other_held.continued exceeds
      cases Option.some.inj (ends.symm.trans other_ends)
      rw [next, other_next]
      obtain ⟨text, _⟩ := cursor
      obtain ⟨other_text, _⟩ := other_cursor
      cases starts with
      | behind named =>
        cases other_starts with
        | behind other_named =>
          cases (show text = other_text from named.trans other_named.symm)
          rfl
    · rw [held.ended fits, other_held.ended fits]
  obtain ⟨items, nextCursor⟩ := page
  cases same_items
  cases same_cursor
  rfl

theorem Agree.list (agree : Agree actor first second) (first_holds : first.Holds)
    (second_holds : second.Holds) (page : QueryPageRequest) :
    list listing first actor page = list listing second actor page := by
  have same : shown first actor listing = shown second actor listing := by
    refine (shown_ascending first_holds listing).eq (shown_ascending second_holds listing) fun item => ?_
    rw [mem_shown, mem_shown]
    exact ⟨agree.visible, agree.symm.visible⟩
  cases read : idCursor listing.front page with
  | error why => rw [list_refused read, list_refused read]
  | ok after =>
    have starts := starts_of_idCursor read
    obtain ⟨result, listed, held⟩ := list_page first_holds listing actor page starts
    obtain ⟨other, other_listed, other_held⟩ := list_page second_holds listing actor page starts
    rw [← same] at other_held
    rw [listed, other_listed, held.unique other_held]

end Agreement

end ProfilePlatform.ReadModels
