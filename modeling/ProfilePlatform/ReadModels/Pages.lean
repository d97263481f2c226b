import Mathlib.Data.List.Forall2
import ProfilePlatform.Foundation.Fields
import ProfilePlatform.Foundation.Pages
import ProfilePlatform.ReadModels.Listings

/-! One page of a listing is a page of what the rows read as, and its cursor names the last of
them.
-/

set_option autoImplicit false

namespace ProfilePlatform.ReadModels

open Foundation
open Foundation.Pages (behind Ascending)

section Identifiers

theorem idChar_of_accepts {id : String} (accepted : OpaqueId.accepts id = true) :
    8 ≤ (utf8Bytes id).length ∧ (utf8Bytes id).length ≤ 96 ∧
      ∀ char ∈ id.toList, Ports.isControl char = false := by
  simp only [OpaqueId.accepts, Bool.and_eq_true, decide_eq_true_eq, List.all_eq_true] at accepted
  obtain ⟨⟨long, short⟩, plain⟩ := accepted
  have graphic : ∀ byte ∈ utf8Bytes id, 32 ≤ byte.toNat ∧ byte.toNat < 127 := by
    intro byte member
    have allowed := plain byte member
    simp only [isIdByte, isAsciiAlphanumeric, Bool.or_eq_true, Bool.and_eq_true, decide_eq_true_eq,
      beq_iff_eq, UInt8.le_iff_toNat_le, ← UInt8.toNat_inj, UInt8.reduceToNat] at allowed
    omega
  have ascii : ∀ byte ∈ id.toUTF8.data.toList, byte < 128 := fun byte member =>
    UInt8.lt_iff_toNat_lt.mpr (Nat.lt_trans (graphic byte member).2 (by decide))
  obtain ⟨encoded, small⟩ := ascii_chars ascii
  refine ⟨long, short, fun char member => ?_⟩
  have among : UInt8.ofNat char.toNat ∈ utf8Bytes id := by
    rw [utf8Bytes, encoded]
    exact List.mem_map_of_mem member
  have printed := graphic _ among
  have fits := small char member
  have same : (UInt8.ofNat char.toNat).toNat = char.toNat := by
    rw [UInt8.toNat_ofNat']
    omega
  rw [same] at printed
  simp only [Ports.isControl, Bool.or_eq_false_iff, decide_eq_false_iff_not, Bool.and_eq_false_iff]
  omega

theorem accepts_ne_empty {id : String} (accepted : OpaqueId.accepts id = true) : id ≠ "" := by
  rintro rfl
  exact absurd accepted (by decide)

theorem empty_lt {id : String} (accepted : OpaqueId.accepts id = true) : "" < id := by
  rcases lt_trichotomy "" id with before | same | behind
  · exact before
  · exact absurd same.symm (accepts_ne_empty accepted)
  · have nothing : ¬id.toList < [] := List.not_lt_nil _
    exact absurd (String.lt_iff_toList_lt.mp behind) nothing

theorem idParse_eq_ok {id : String} (accepted : OpaqueId.accepts id = true) :
    OpaqueId.parse id = .ok ⟨id, accepted⟩ := by
  rw [OpaqueId.parse, dif_pos accepted]

end Identifiers

section Cursors

/-- The prefixes are short texts of letters and a colon. -/
structure Front (front : String) : Prop where
  short : (utf8Bytes front).length ≤ 16
  plain : front.toList.any Ports.isControl = false

variable {front after : String}

theorem acceptsCursor_append (plain : Front front) (accepted : OpaqueId.accepts after = true) :
    acceptsCursor (front ++ after) = true := by
  obtain ⟨long, short, graphic⟩ := idChar_of_accepts accepted
  have bytes : (utf8Bytes (front ++ after)).length =
      (utf8Bytes front).length + (utf8Bytes after).length := by
    rw [utf8Bytes, utf8_append, List.length_append]
    rfl
  have some_text : front ++ after ≠ "" := by
    intro empty
    rw [empty] at bytes
    have nothing : (utf8Bytes "").length = 0 := rfl
    omega
  have clean : (front ++ after).toList.any Ports.isControl = false := by
    rw [String.toList_append, List.any_append, plain.plain, Bool.false_or, List.any_eq_false]
    exact fun char member => by rw [graphic char member]; decide
  have fits := plain.short
  have bounded : (utf8Bytes (front ++ after)).length ≤ maxQueryCursorLength := by
    rw [maxQueryCursorLength]
    omega
  rw [acceptsCursor, clean, Bool.not_false, Bool.and_true, Bool.and_eq_true, decide_eq_true_eq,
    decide_eq_true_eq]
  exact ⟨some_text, bounded⟩

theorem stripPrefix_append : stripPrefix front (front ++ after) = some after := by
  rw [stripPrefix, String.toList_append, if_pos (by simp), List.drop_left, String.ofList_toList]

/-- A page that starts at the beginning, or behind the identifier in its cursor. -/
inductive StartsAt (front : String) : Option QueryCursor → String → Prop where
  | beginning : StartsAt front none ""
  | behind {cursor : QueryCursor} {after : String} : cursor.asStr = front ++ after →
      OpaqueId.accepts after = true → StartsAt front (some cursor) after

theorem StartsAt.idCursor {page : QueryPageRequest} (starts : StartsAt front page.cursor after) :
    idCursor front page = .ok after := by
  obtain ⟨limit, cursor⟩ := page
  cases starts with
  | beginning => rfl
  | behind named accepted =>
    next cursor =>
    have present := accepts_ne_empty accepted
    have read : cursorValue ⟨limit, some cursor⟩ front = .ok after := by
      simp only [cursorValue, named, stripPrefix_append, Option.filter_some, ne_eq, present,
        not_false_iff, decide_true, if_true, okOr]
    rw [ReadModels.idCursor, read]
    change (if after = "" then _ else _) = _
    rw [if_neg present, idParse_eq_ok accepted]
    rfl

end Cursors

section Rows

variable {Row Item : Type} {rowId : Row → String} {mapRow : Row → Answer Item} {idOf : Item → String}
  {rows : List Row} {front after : String}

/-- Rows that can be read, with identifiers of their own. -/
structure Readable (rowId : Row → String) (mapRow : Row → Answer Item) (idOf : Item → String)
    (rows : List Row) : Prop where
  reads : ∀ row ∈ rows, ∃ item, mapRow row = .ok item ∧ idOf item = rowId row
  accepted : ∀ row ∈ rows, OpaqueId.accepts (rowId row) = true
  distinct : (rows.map rowId).Nodup

/-- What the rows read as, in the order of the identifiers. -/
def readIn (rowId : Row → String) (mapRow : Row → Answer Item) (rows : List Row) : List Item :=
  (sortBy rowId rows).filterMap fun row => (mapRow row).toOption

theorem toOption_eq_some {answer : Answer Item} {item : Item} :
    answer.toOption = some item ↔ answer = .ok item := by
  cases answer <;> simp [Except.toOption]

theorem mem_readIn {item : Item} : item ∈ readIn rowId mapRow rows ↔ ∃ row ∈ rows, mapRow row = .ok item := by
  simp only [readIn, List.mem_filterMap, toOption_eq_some, (perm_sortBy rowId rows).mem_iff]

def Reads (rowId : Row → String) (mapRow : Row → Answer Item) (idOf : Item → String) (row : Row)
    (item : Item) : Prop := mapRow row = .ok item ∧ idOf item = rowId row

theorem reads_filterMap
    (reads : ∀ row ∈ rows, ∃ item, mapRow row = .ok item ∧ idOf item = rowId row) :
    List.Forall₂ (Reads rowId mapRow idOf) rows (rows.filterMap fun row => (mapRow row).toOption) := by
  induction rows with
  | nil => exact .nil
  | cons row rest ih =>
    obtain ⟨item, read, same⟩ := reads row List.mem_cons_self
    rw [List.filterMap_cons, toOption_eq_some.mpr read]
    exact .cons ⟨read, same⟩ (ih fun other member => reads other (List.mem_cons_of_mem _ member))

theorem mapM_of_reads {items : List Item} (read : List.Forall₂ (Reads rowId mapRow idOf) rows items) :
    rows.mapM mapRow = .ok items := by
  induction read with
  | nil => rfl
  | cons head _ ih =>
    rw [List.mapM_cons, head.1, ih]
    rfl

theorem map_of_reads {items : List Item} (read : List.Forall₂ (Reads rowId mapRow idOf) rows items) :
    items.map idOf = rows.map rowId := by
  induction read with
  | nil => rfl
  | cons head _ ih => rw [List.map_cons, List.map_cons, head.2, ih]

variable (readable : Readable rowId mapRow idOf rows)

include readable

theorem Readable.reads_readIn :
    List.Forall₂ (Reads rowId mapRow idOf) (sortBy rowId rows) (readIn rowId mapRow rows) :=
  reads_filterMap fun row member => readable.reads row ((perm_sortBy rowId rows).mem_iff.mp member)

theorem Readable.ascending : Ascending idOf (readIn rowId mapRow rows) := by
  have distinct : ((sortBy rowId rows).map rowId).Nodup :=
    ((perm_sortBy rowId rows).map rowId).nodup_iff.mpr readable.distinct
  have apart : (sortBy rowId rows).Pairwise fun first second => rowId first ≠ rowId second :=
    List.pairwise_map.mp distinct
  have sorted : (sortBy rowId rows).Pairwise fun first second => rowId first < rowId second := by
    refine ((sorted_sortBy rowId rows).and apart).imp ?_
    intro first second both
    exact lt_of_le_of_ne both.1 both.2
  have keys : ((sortBy rowId rows).map rowId).Pairwise (· < ·) := List.pairwise_map.mpr sorted
  rw [← map_of_reads readable.reads_readIn] at keys
  exact List.pairwise_map.mp keys

theorem Readable.accepted_readIn {item : Item} (member : item ∈ readIn rowId mapRow rows) :
    OpaqueId.accepts (idOf item) = true := by
  obtain ⟨row, stored, read⟩ := mem_readIn.mp member
  obtain ⟨other, same, named⟩ := readable.reads row stored
  rw [read] at same
  rw [Except.ok.inj same, named]
  exact readable.accepted row stored

theorem Readable.reads_behind (after : String) :
    List.Forall₂ (Reads rowId mapRow idOf)
      ((sortBy rowId rows).filter fun row => decide (after < rowId row))
      (behind idOf after (readIn rowId mapRow rows)) := by
  refine List.rel_filter ?_ readable.reads_readIn
  intro row item read
  simp only [decide_eq_true_eq, read.2]

/-- What a page holds, and the cursor it goes on with. -/
structure PageBehind (idOf : Item → String) (front after : String) (shown : List Item) (limit : Nat)
    (page : QueryPage Item) : Prop where
  items : page.items = (behind idOf after shown).take limit
  ended : (behind idOf after shown).length ≤ limit → page.nextCursor = none
  continued : limit < (behind idOf after shown).length → ∃ final cursor,
    ((behind idOf after shown).take limit).getLast? = some final ∧
    page.nextCursor = some cursor ∧ StartsAt front (some cursor) (idOf final)

theorem Readable.page {page : QueryPageRequest} (plain : Front front)
    (starts : StartsAt front page.cursor after) :
    ∃ result, listRows front rowId mapRow idOf rows page = .ok result ∧
      PageBehind idOf front after (readIn rowId mapRow rows) page.limit.value result := by
  have read := readable.reads_behind after
  have sized := read.length_eq
  have items := mapM_of_reads (List.forall₂_take page.limit.value read)
  have positive := page.limit.admissible.1
  have fetched : ((selectBehind rowId after (fetchLimit page) rows).take page.limit.value).mapM mapRow =
      .ok ((behind idOf after (readIn rowId mapRow rows)).take page.limit.value) := by
    rw [selectBehind, fetchLimit, List.take_take, Nat.min_eq_left (Nat.le_succ _)]
    exact items
  have more : (page.limit.value < (selectBehind rowId after (fetchLimit page) rows).length) ↔
      page.limit.value < (behind idOf after (readIn rowId mapRow rows)).length := by
    rw [selectBehind, fetchLimit, List.length_take, ← sized]
    omega
  rw [listRows, starts.idCursor]
  change ∃ result, pageOf _ _ _ _ _ = _ ∧ _
  rw [pageOf, fetched]
  change ∃ result, (nextCursor front idOf _ _ >>= _) = _ ∧ _
  rcases Nat.lt_or_ge page.limit.value (behind idOf after (readIn rowId mapRow rows)).length with
    exceeds | fits
  · have filled : ((behind idOf after (readIn rowId mapRow rows)).take page.limit.value) ≠ [] := by
      intro nothing
      have none_left := congrArg List.length nothing
      rw [List.length_take, List.length_nil] at none_left
      omega
    obtain ⟨final, ends⟩ := Option.isSome_iff_exists.mp (List.getLast?_isSome.mpr filled)
    have listed := Pages.mem_behind.mp (List.mem_of_mem_take (List.mem_of_getLast? ends))
    have accepted := readable.accepted_readIn listed.1
    have made := acceptsCursor_append plain accepted
    rw [nextCursor, decide_eq_true (more.mpr exceeds), if_pos rfl, ends]
    simp only [cursor, dif_pos made]
    refine ⟨_, rfl, rfl, fun fits => absurd fits (Nat.not_le_of_lt exceeds), fun _ => ?_⟩
    exact ⟨final, _, ends, rfl, .behind rfl accepted⟩
  · rw [nextCursor, decide_eq_false (more.not.mpr (Nat.not_lt_of_le fits))]
    exact ⟨_, rfl, rfl, fun _ => rfl, fun exceeds => absurd exceeds (Nat.not_lt_of_le fits)⟩

end Rows

/-! What an actor may see of the database, and that the listings select it.

An active owner sees its tenant. An active member sees the clients and profiles it has grants for.
-/

inductive Listing where
  | clients | profiles | profilesForClient (clientId : ClientId) | members | mailboxes
  deriving DecidableEq

def Listing.front : Listing → String
  | .clients => clientCursorPrefix
  | .profiles | .profilesForClient _ => profileCursorPrefix
  | .members => memberCursorPrefix
  | .mailboxes => mailboxCursorPrefix

def GlobalSearchProjection.key : GlobalSearchProjection → GlobalSearchKey
  | .client projection => .client projection.clientId
  | .profile projection => .profile projection.profileId
  | .member projection => .member projection.actorId
  | .mailbox projection => .mailbox projection.bindingId

def GlobalSearchKey.id : GlobalSearchKey → String
  | .client clientId => clientId.intoOpaque.asStr
  | .profile profileId => profileId.asStr
  | .member memberId => memberId.asStr
  | .mailbox bindingId => bindingId.intoOpaque.asStr

def GlobalSearchProjection.id (projection : GlobalSearchProjection) : String := projection.key.id

/-- The listings answer in the projections of the search. -/
def list (listing : Listing) (database : Database) (actor : ActorContext) (page : QueryPageRequest) :
    Answer (QueryPage GlobalSearchProjection) :=
  match listing with
  | .clients => (listClients database actor page).map (QueryPage.map .client)
  | .profiles => (listProfiles database actor page).map (QueryPage.map .profile)
  | .profilesForClient clientId =>
    (listProfilesForClient database actor page clientId).map (QueryPage.map .profile)
  | .members => (listMembers database actor page).map (QueryPage.map .member)
  | .mailboxes => (listMailboxes database actor page).map (QueryPage.map .mailbox)

section Sees

variable (database : Database) (actor : ActorContext)

/-- The actor is an active member of its tenant in the role. -/
def ActiveAs (role : String) : Prop :=
  ∃ membership ∈ database.memberships, membership.tenantId = ActorContext.tenant actor ∧
    membership.actorId = actor.actorId.asStr ∧ membership.status = "ACTIVE" ∧ membership.role = role

def HasGrant (grants : List GrantColumns) (id : String) : Prop :=
  ∃ grantRow ∈ grants, grantRow.tenantId = ActorContext.tenant actor ∧
    grantRow.actorId = actor.actorId.asStr ∧ grantRow.grantedId = id

def MayRead (grants : List GrantColumns) (id : String) : Prop :=
  ActiveAs database actor "TENANT_OWNER" ∨
    ActiveAs database actor "MEMBER" ∧ HasGrant actor grants id

/-- The client a profile is assigned to, or nothing where no assignment is open. -/
def Linked (profile : ProfileColumns) : Option String → Prop
  | some clientId => ∃ assignment ∈ database.assignments, assignment.tenantId = profile.tenantId ∧
      assignment.profileId = profile.profileId ∧ assignment.closedAtMs = none ∧
      assignment.clientId = clientId
  | none => ∀ assignment ∈ database.assignments, assignment.tenantId = profile.tenantId →
      assignment.profileId = profile.profileId → assignment.closedAtMs ≠ none

def SeesProfile (linked : Option String) (projection : ProfileReadProjection) : Prop :=
  ∃ profile ∈ database.profiles, profile.tenantId = ActorContext.tenant actor ∧
    MayRead database actor database.profileGrants profile.profileId ∧
    Linked database profile linked ∧ mapProfileRow (profile.row linked) = .ok projection

/-- The rows of a listing that the actor may see, as they read. -/
def Visible : Listing → GlobalSearchProjection → Prop
  | .clients, .client projection => ∃ client ∈ database.clients,
      client.tenantId = ActorContext.tenant actor ∧
      MayRead database actor database.clientGrants client.clientId ∧
      mapClientRow client.row = .ok projection
  | .profiles, .profile projection => ∃ linked, SeesProfile database actor linked projection
  | .profilesForClient clientId, .profile projection =>
      SeesProfile database actor (some clientId.intoOpaque.asStr) projection
  | .members, .member projection => ∃ membership ∈ database.memberships,
      membership.tenantId = ActorContext.tenant actor ∧
      ActiveAs database actor "TENANT_OWNER" ∧ mapMemberRow membership.row = .ok projection
  | .mailboxes, .mailbox projection => ∃ binding ∈ database.mailboxBindings,
      binding.tenantId = ActorContext.tenant actor ∧
      ActiveAs database actor "TENANT_OWNER" ∧ mapMailboxRow binding.row = .ok projection
  | _, _ => False

/-- What a listing shows of a state: all of it, in order. -/
def shown (listing : Listing) : List GlobalSearchProjection :=
  match listing with
  | .clients => (readIn ClientRow.clientId mapClientRow (clientRows database actor)).map .client
  | .profiles => (readIn ProfileRow.profileId mapProfileRow (profileRows database actor)).map .profile
  | .profilesForClient clientId =>
    (readIn ProfileRow.profileId mapProfileRow (profileRowsForClient database actor clientId)).map .profile
  | .members => (readIn MemberRow.actorId mapMemberRow (memberRows database actor)).map .member
  | .mailboxes => (readIn MailboxRow.bindingId mapMailboxRow (mailboxRows database actor)).map .mailbox

variable {database actor}

theorem owned_iff : owned database actor (ActorContext.tenant actor) = true ↔
    ActiveAs database actor "TENANT_OWNER" := by
  simp only [owned, ActiveAs, List.any_eq_true, Bool.and_eq_true, beq_iff_eq, and_assoc]

theorem granted_iff {grants : List GrantColumns} {id : String} :
    granted database actor grants (ActorContext.tenant actor) id = true ↔
      MayRead database actor grants id := by
  simp only [granted, MayRead, ActiveAs, HasGrant, List.any_eq_true, Bool.and_eq_true, Bool.or_eq_true,
    beq_iff_eq]
  constructor
  · rintro ⟨membership, stored, ⟨⟨⟨tenant, held⟩, active⟩, owner | ⟨member, grantRow, listed, ⟨same, whose⟩, for_id⟩⟩⟩
    · exact .inl ⟨membership, stored, tenant, held, active, owner⟩
    · exact .inr ⟨⟨membership, stored, tenant, held, active, member⟩, grantRow, listed, same,
        whose.trans held, for_id⟩
  · rintro (⟨membership, stored, tenant, held, active, owner⟩ |
      ⟨⟨membership, stored, tenant, held, active, member⟩, grantRow, listed, same, whose, for_id⟩)
    · exact ⟨membership, stored, ⟨⟨tenant, held⟩, active⟩, .inl owner⟩
    · exact ⟨membership, stored, ⟨⟨tenant, held⟩, active⟩,
        .inr ⟨member, grantRow, listed, ⟨same, whose.trans held.symm⟩, for_id⟩⟩

theorem mem_visibleProfiles {profile : ProfileColumns} :
    profile ∈ visibleProfiles database actor ↔ profile ∈ database.profiles ∧
      profile.tenantId = ActorContext.tenant actor ∧
      MayRead database actor database.profileGrants profile.profileId := by
  simp only [visibleProfiles, List.mem_filter, Bool.and_eq_true, beq_iff_eq]
  constructor
  · rintro ⟨stored, same, allowed⟩
    rw [same] at allowed
    exact ⟨stored, same, granted_iff.mp allowed⟩
  · rintro ⟨stored, same, allowed⟩
    rw [same]
    exact ⟨stored, rfl, granted_iff.mpr allowed⟩

theorem mem_openAssignments {profile : ProfileColumns} {assignment : AssignmentColumns} :
    assignment ∈ openAssignments database profile ↔ assignment ∈ database.assignments ∧
      assignment.tenantId = profile.tenantId ∧ assignment.profileId = profile.profileId ∧
      assignment.closedAtMs = none := by
  simp only [openAssignments, AssignmentColumns.isOpen, List.mem_filter, Bool.and_eq_true, beq_iff_eq,
    Option.isNone_iff_eq_none, and_assoc]

theorem mem_leftJoined {profile : ProfileColumns} {row : ProfileRow} :
    row ∈ leftJoined database profile ↔ ∃ linked, Linked database profile linked ∧
      row = profile.row linked := by
  rw [leftJoined]
  split
  next alone =>
    have closed : Linked database profile none := by
      intro assignment stored tenant same opened
      have listed := mem_openAssignments.mpr ⟨stored, tenant, same, opened⟩
      rw [alone] at listed
      exact List.not_mem_nil listed
    constructor
    · intro member
      exact ⟨none, closed, List.mem_singleton.mp member⟩
    · rintro ⟨linked, link, rfl⟩
      cases linked with
      | none => exact List.mem_singleton_self _
      | some clientId =>
        obtain ⟨assignment, stored, tenant, same, opened, -⟩ := link
        exact absurd opened (closed assignment stored tenant same)
  next found some_open =>
    constructor
    · intro member
      obtain ⟨assignment, listed, rfl⟩ := List.mem_map.mp member
      obtain ⟨stored, tenant, same, opened⟩ := mem_openAssignments.mp listed
      exact ⟨some assignment.clientId, ⟨assignment, stored, tenant, same, opened, rfl⟩, rfl⟩
    · rintro ⟨linked, link, rfl⟩
      cases linked with
      | none =>
        obtain ⟨assignment, listed⟩ := List.exists_mem_of_ne_nil _ some_open
        obtain ⟨stored, tenant, same, opened⟩ := mem_openAssignments.mp listed
        exact absurd opened (link assignment stored tenant same)
      | some clientId =>
        obtain ⟨assignment, stored, tenant, same, opened, rfl⟩ := link
        exact List.mem_map_of_mem (mem_openAssignments.mpr ⟨stored, tenant, same, opened⟩)

theorem mem_innerJoined {profile : ProfileColumns} {clientId : ClientId} {row : ProfileRow} :
    row ∈ innerJoined database clientId profile ↔
      Linked database profile (some clientId.intoOpaque.asStr) ∧
      row = profile.row (some clientId.intoOpaque.asStr) := by
  simp only [innerJoined, List.mem_map, List.mem_filter, mem_openAssignments, beq_iff_eq, Linked]
  constructor
  · rintro ⟨assignment, ⟨⟨stored, tenant, same, opened⟩, named⟩, rfl⟩
    exact ⟨⟨assignment, stored, tenant, same, opened, named⟩, by rw [named]⟩
  · rintro ⟨⟨assignment, stored, tenant, same, opened, named⟩, rfl⟩
    exact ⟨assignment, ⟨⟨stored, tenant, same, opened⟩, named⟩, by rw [named]⟩

end Sees

end ProfilePlatform.ReadModels
