import Mathlib.Data.String.Basic
import ProfilePlatform.Foundation.Fallible
import ProfilePlatform.Foundation.Sorting
import ProfilePlatform.Mailbox.JobTables
import ProfilePlatform.Ports.MailContent

/-! The tables that the read models select from, with the columns they look at.

Text columns hold strings, as the store returns them; what the schema allows in them is a check
of each row. Texts are compared byte by byte, which is the order of strings.
-/

set_option autoImplicit false

namespace ProfilePlatform.ReadModels

structure ClientColumns where
  tenantId : String
  clientId : String
  kind : String
  displayName : String
  status : String
  version : Int
  deriving DecidableEq

structure MembershipColumns where
  tenantId : String
  actorId : String
  role : String
  status : String
  deriving DecidableEq

structure ProfileColumns where
  tenantId : String
  profileId : String
  status : String
  activeGenerationId : Option String
  version : Int
  deriving DecidableEq

/-- A closed assignment has the time when it was closed. -/
structure AssignmentColumns where
  tenantId : String
  profileId : String
  clientId : String
  closedAtMs : Option Int
  deriving DecidableEq

structure MailboxColumns where
  tenantId : String
  bindingId : String
  provider : String
  status : String
  version : Int
  deriving DecidableEq

/-- A grant on a client or on a profile. -/
structure GrantColumns where
  tenantId : String
  actorId : String
  grantedId : String
  deriving DecidableEq

structure Database where
  clients : List ClientColumns
  memberships : List MembershipColumns
  profiles : List ProfileColumns
  assignments : List AssignmentColumns
  mailboxBindings : List MailboxColumns
  clientGrants : List GrantColumns
  profileGrants : List GrantColumns
  deriving DecidableEq

section Checks

def ClientColumns.checked (self : ClientColumns) : Bool :=
  OpaqueId.accepts self.clientId && ["PERSON", "ORGANIZATION"].contains self.kind &&
    ["ACTIVE", "ARCHIVED", "MERGED"].contains self.status && 1 ≤ self.version

def MembershipColumns.checked (self : MembershipColumns) : Bool :=
  OpaqueId.accepts self.actorId && ["TENANT_OWNER", "MEMBER"].contains self.role &&
    ["ACTIVE", "SUSPENDED", "REVOKED"].contains self.status

def ProfileColumns.checked (self : ProfileColumns) : Bool :=
  OpaqueId.accepts self.profileId &&
    ["DRAFT", "QUARANTINED", "READY", "IN_USE", "DIRTY_LOCAL", "SYNCING", "SUSPENDED", "DELETING",
      "DELETED"].contains self.status && 1 ≤ self.version &&
    self.activeGenerationId.all OpaqueId.accepts

def MailboxColumns.checked (self : MailboxColumns) : Bool :=
  OpaqueId.accepts self.bindingId &&
    ["GMAIL_API", "IMAP", "BROWSER_FALLBACK", "MICROSOFT_GRAPH"].contains self.provider &&
    ["ACTIVE", "REVOKED"].contains self.status && 1 ≤ self.version

def AssignmentColumns.isOpen (self : AssignmentColumns) : Bool := self.closedAtMs.isNone

/-- What the schema holds of every state: the checks of the rows, the primary keys, the index of
open assignments, and the foreign keys of assigned clients and of active generations, whose
identifiers have checks of their own. -/
structure Database.Holds (database : Database) : Prop where
  clients : ∀ row ∈ database.clients, row.checked = true
  memberships : ∀ row ∈ database.memberships, row.checked = true
  profiles : ∀ row ∈ database.profiles, row.checked = true
  mailboxes : ∀ row ∈ database.mailboxBindings, row.checked = true
  assigned : ∀ row ∈ database.assignments, OpaqueId.accepts row.clientId = true
  clientKeys : (database.clients.map fun row => (row.tenantId, row.clientId)).Nodup
  membershipKeys : (database.memberships.map fun row => (row.tenantId, row.actorId)).Nodup
  profileKeys : (database.profiles.map fun row => (row.tenantId, row.profileId)).Nodup
  mailboxKeys : (database.mailboxBindings.map fun row => (row.tenantId, row.bindingId)).Nodup
  openKeys : ((database.assignments.filter AssignmentColumns.isOpen).map fun row =>
    (row.tenantId, row.profileId)).Nodup

end Checks

/-! The paged listings and the exact search, as they select from one state of the database.

A listing asks for one row more than fits on the page, and goes on behind the last identifier that
did fit.
-/

open Foundation
open Catalog (MembershipRole MembershipStatus ProfileStatus)
open Mailbox (MailboxProvider MailboxBindingStatus)

inductive QueryPortErrorClass where
  | invalidCursor | integrityFailure | dependencyUnavailable
  deriving DecidableEq, Repr

abbrev Answer (A : Type) : Type := Except QueryPortErrorClass A

section Pages

def maxQueryPageSize : Nat := 100
def maxQueryCursorLength : Nat := 512

structure QueryPageSize where
  value : Nat
  admissible : 1 ≤ value ∧ value ≤ maxQueryPageSize
  deriving DecidableEq

def acceptsCursor (value : String) : Bool :=
  value ≠ "" && (utf8Bytes value).length ≤ maxQueryCursorLength &&
    !value.toList.any Ports.isControl

structure QueryCursor where
  asStr : String
  accepted : acceptsCursor asStr = true
  deriving DecidableEq

structure QueryPageRequest where
  limit : QueryPageSize
  cursor : Option QueryCursor
  deriving DecidableEq

structure QueryPage (A : Type) where
  items : List A
  nextCursor : Option QueryCursor
  deriving DecidableEq

def QueryPage.map {A B : Type} (convert : A → B) (page : QueryPage A) : QueryPage B :=
  ⟨page.items.map convert, page.nextCursor⟩

def clientCursorPrefix : String := "clients:"
def profileCursorPrefix : String := "profiles:"
def memberCursorPrefix : String := "members:"
def mailboxCursorPrefix : String := "mailboxes:"

def fetchLimit (page : QueryPageRequest) : Nat := page.limit.value + 1

def stripPrefix (front text : String) : Option String :=
  if front.toList.isPrefixOf text.toList then some (String.ofList (text.toList.drop front.toList.length))
  else none

/-- What the cursor says behind the prefix of its listing, or nothing without a cursor. -/
def cursorValue (page : QueryPageRequest) (front : String) : Answer String :=
  match page.cursor with
  | none => .ok ""
  | some cursor =>
    okOr ((stripPrefix front cursor.asStr).filter fun value => value ≠ "") .invalidCursor

/-- The identifier to go on behind. Clients, profiles, members and
mailboxes read theirs alike, each behind its own prefix. -/
def idCursor (front : String) (page : QueryPageRequest) : Answer String := do
  let value ← cursorValue page front
  if value = "" then return value
  else do
    let _ ← (OpaqueId.parse value).mapError fun _ => QueryPortErrorClass.invalidCursor
    return value

def cursor (front id : String) : Answer QueryCursor :=
  if accepted : acceptsCursor (front ++ id) = true then .ok ⟨front ++ id, accepted⟩
  else .error .integrityFailure

variable {Row Item : Type}

def nextCursor (front : String) (idOf : Item → String) (hasMore : Bool) (items : List Item) :
    Answer (Option QueryCursor) :=
  if hasMore then
    match items.getLast? with
    | some last => (cursor front (idOf last)).map some
    | none => .ok none
  else .ok none

/-- The rows that fit on the page, and the cursor if there is one more. -/
def pageOf (mapRow : Row → Answer Item) (idOf : Item → String) (front : String) (rows : List Row)
    (page : QueryPageRequest) : Answer (QueryPage Item) := do
  let items ← (rows.take page.limit.value).mapM mapRow
  let nextCursor ← nextCursor front idOf (page.limit.value < rows.length) items
  return ⟨items, nextCursor⟩

/-- The rows in the order of their identifiers, those behind one of them and so many at most. -/
def selectBehind (idOf : Row → String) (after : String) (limit : Nat) (rows : List Row) : List Row :=
  ((sortBy idOf rows).filter fun row => after < idOf row).take limit

/-- One page of the rows that a listing selects. The five listings differ in what they select and
in how they read it. -/
def listRows (front : String) (rowId : Row → String) (mapRow : Row → Answer Item)
    (idOf : Item → String) (rows : List Row) (page : QueryPageRequest) : Answer (QueryPage Item) := do
  let after ← idCursor front page
  pageOf mapRow idOf front (selectBehind rowId after (fetchLimit page) rows) page

end Pages

section Projections

inductive ClientKind where
  | person | organization
  deriving DecidableEq, Repr

inductive ClientStatus where
  | active | archived | merged
  deriving DecidableEq, Repr

structure ClientReadProjection where
  clientId : ClientId
  kind : ClientKind
  displayName : String
  status : ClientStatus
  version : AggregateVersion
  deriving DecidableEq

structure ProfileReadProjection where
  profileId : ProfileId
  status : ProfileStatus
  version : AggregateVersion
  linkedClientId : Option ClientId
  activeGenerationId : Option GenerationId
  deriving DecidableEq

structure MemberReadProjection where
  actorId : ActorId
  role : MembershipRole
  status : MembershipStatus
  deriving DecidableEq

structure MailboxReadProjection where
  bindingId : MailboxBindingId
  provider : MailboxProvider
  status : MailboxBindingStatus
  version : AggregateVersion
  deriving DecidableEq

structure ClientRow where
  clientId : String
  kind : String
  displayName : String
  status : String
  version : Int
  deriving DecidableEq

structure ProfileRow where
  profileId : String
  status : String
  version : Int
  linkedClientId : Option String
  activeGenerationId : Option String
  deriving DecidableEq

structure MemberRow where
  actorId : String
  role : String
  status : String
  deriving DecidableEq

structure MailboxRow where
  bindingId : String
  provider : String
  status : String
  version : Int
  deriving DecidableEq

/-- A text of the store that is none of the names it should be is an integrity failure. -/
def oneOf {A : Type} (names : List (String × A)) (value : String) : Answer A :=
  okOr ((names.find? fun name => name.1 = value).map Prod.snd) .integrityFailure

def clientKind : String → Answer ClientKind :=
  oneOf [("PERSON", .person), ("ORGANIZATION", .organization)]

def clientStatus : String → Answer ClientStatus :=
  oneOf [("ACTIVE", .active), ("ARCHIVED", .archived), ("MERGED", .merged)]

def profileStatus : String → Answer ProfileStatus :=
  oneOf [("DRAFT", .draft), ("QUARANTINED", .quarantined), ("READY", .ready), ("IN_USE", .inUse),
    ("DIRTY_LOCAL", .dirtyLocal), ("SYNCING", .syncing), ("SUSPENDED", .suspended),
    ("DELETING", .deleting), ("DELETED", .deleted)]

def membershipRole : String → Answer MembershipRole :=
  oneOf [("TENANT_OWNER", .tenantOwner), ("MEMBER", .member)]

def membershipStatus : String → Answer MembershipStatus :=
  oneOf [("ACTIVE", .active), ("SUSPENDED", .suspended), ("REVOKED", .revoked)]

def mailboxProvider : String → Answer MailboxProvider :=
  oneOf [("GMAIL_API", .gmailApi), ("IMAP", .imap), ("BROWSER_FALLBACK", .browserFallback),
    ("MICROSOFT_GRAPH", .microsoftGraph)]

def mailboxStatus : String → Answer MailboxBindingStatus :=
  oneOf [("ACTIVE", .active), ("REVOKED", .revoked)]

def aggregateVersion (value : Int) : Answer AggregateVersion :=
  if positive : value.toNat ≠ 0 then .ok ⟨value.toNat, positive⟩ else .error .integrityFailure

def parseId (value : String) : Answer OpaqueId :=
  (OpaqueId.parse value).mapError fun _ => .integrityFailure

/-- Null stays null. -/
def parseNullable : Option String → Answer (Option OpaqueId)
  | none => .ok none
  | some value => (parseId value).map some

def mapClientRow (row : ClientRow) : Answer ClientReadProjection := do
  let clientId ← parseId row.clientId
  let kind ← clientKind row.kind
  let status ← clientStatus row.status
  let version ← aggregateVersion row.version
  return ⟨⟨clientId⟩, kind, row.displayName, status, version⟩

def mapProfileRow (row : ProfileRow) : Answer ProfileReadProjection := do
  let profileId ← parseId row.profileId
  let status ← profileStatus row.status
  let version ← aggregateVersion row.version
  let linkedClientId ← parseNullable row.linkedClientId
  let activeGenerationId ← parseNullable row.activeGenerationId
  return ⟨⟨profileId⟩, status, version, linkedClientId.map ClientId.mk, activeGenerationId.map TypedId.mk⟩

def mapMemberRow (row : MemberRow) : Answer MemberReadProjection := do
  let actorId ← parseId row.actorId
  let role ← membershipRole row.role
  let status ← membershipStatus row.status
  return ⟨⟨actorId⟩, role, status⟩

def mapMailboxRow (row : MailboxRow) : Answer MailboxReadProjection := do
  let bindingId ← parseId row.bindingId
  let provider ← mailboxProvider row.provider
  let status ← mailboxStatus row.status
  let version ← aggregateVersion row.version
  return ⟨⟨bindingId⟩, provider, status, version⟩

end Projections

section Selection

def ClientColumns.row (self : ClientColumns) : ClientRow :=
  ⟨self.clientId, self.kind, self.displayName, self.status, self.version⟩

def ProfileColumns.row (self : ProfileColumns) (linkedClientId : Option String) : ProfileRow :=
  ⟨self.profileId, self.status, self.version, linkedClientId, self.activeGenerationId⟩

def MembershipColumns.row (self : MembershipColumns) : MemberRow := ⟨self.actorId, self.role, self.status⟩

def MailboxColumns.row (self : MailboxColumns) : MailboxRow :=
  ⟨self.bindingId, self.provider, self.status, self.version⟩

variable (database : Database) (actor : ActorContext)

/-- An active owner of the tenant, or an active member with a grant of the identifier. -/
def granted (grants : List GrantColumns) (tenantId id : String) : Bool :=
  database.memberships.any fun membership =>
    membership.tenantId == tenantId && membership.actorId == actor.actorId.asStr &&
    membership.status == "ACTIVE" && (membership.role == "TENANT_OWNER" ||
      (membership.role == "MEMBER" && grants.any fun grantRow => grantRow.tenantId == tenantId &&
        grantRow.actorId == membership.actorId && grantRow.grantedId == id))

/-- An active owner of the tenant. -/
def owned (tenantId : String) : Bool :=
  database.memberships.any fun requester =>
    requester.tenantId == tenantId && requester.actorId == actor.actorId.asStr &&
    requester.status == "ACTIVE" && requester.role == "TENANT_OWNER"

def ActorContext.tenant (actor : ActorContext) : String := actor.tenantScope.tenantId.asStr

def clientRows : List ClientRow :=
  (database.clients.filter fun client => client.tenantId == ActorContext.tenant actor &&
    granted database actor database.clientGrants client.tenantId client.clientId).map ClientColumns.row

/-- The open assignments of a profile. -/
def openAssignments (profile : ProfileColumns) : List AssignmentColumns :=
  database.assignments.filter fun assignment => assignment.tenantId == profile.tenantId &&
    assignment.profileId == profile.profileId && assignment.isOpen

/-- A profile stands beside each of its open assignments, or alone if it has none. -/
def leftJoined (profile : ProfileColumns) : List ProfileRow :=
  match openAssignments database profile with
  | [] => [profile.row none]
  | found => found.map fun assignment => profile.row (some assignment.clientId)

def innerJoined (clientId : ClientId) (profile : ProfileColumns) : List ProfileRow :=
  ((openAssignments database profile).filter fun assignment =>
    assignment.clientId == clientId.intoOpaque.asStr).map fun assignment =>
      profile.row (some assignment.clientId)

def visibleProfiles : List ProfileColumns :=
  database.profiles.filter fun profile => profile.tenantId == ActorContext.tenant actor &&
    granted database actor database.profileGrants profile.tenantId profile.profileId

def profileRows : List ProfileRow := (visibleProfiles database actor).flatMap (leftJoined database)

def profileRowsForClient (clientId : ClientId) : List ProfileRow :=
  (visibleProfiles database actor).flatMap (innerJoined database clientId)

def memberRows : List MemberRow :=
  (database.memberships.filter fun membership => membership.tenantId == ActorContext.tenant actor &&
    owned database actor membership.tenantId).map MembershipColumns.row

def mailboxRows : List MailboxRow :=
  (database.mailboxBindings.filter fun binding => binding.tenantId == ActorContext.tenant actor &&
    owned database actor binding.tenantId).map MailboxColumns.row

variable (page : QueryPageRequest)

def listClients : Answer (QueryPage ClientReadProjection) :=
  listRows clientCursorPrefix ClientRow.clientId mapClientRow
    (fun item => item.clientId.intoOpaque.asStr) (clientRows database actor) page

def listProfiles : Answer (QueryPage ProfileReadProjection) :=
  listRows profileCursorPrefix ProfileRow.profileId mapProfileRow (fun item => item.profileId.asStr)
    (profileRows database actor) page

/-- The cursors are those of all profiles. -/
def listProfilesForClient (clientId : ClientId) : Answer (QueryPage ProfileReadProjection) :=
  listRows profileCursorPrefix ProfileRow.profileId mapProfileRow (fun item => item.profileId.asStr)
    (profileRowsForClient database actor clientId) page

def listMembers : Answer (QueryPage MemberReadProjection) :=
  listRows memberCursorPrefix MemberRow.actorId mapMemberRow (fun item => item.actorId.asStr)
    (memberRows database actor) page

def listMailboxes : Answer (QueryPage MailboxReadProjection) :=
  listRows mailboxCursorPrefix MailboxRow.bindingId mapMailboxRow
    (fun item => item.bindingId.intoOpaque.asStr) (mailboxRows database actor) page

end Selection

section Search

inductive GlobalSearchKey where
  | client (clientId : ClientId)
  | profile (profileId : ProfileId)
  | member (memberId : ActorId)
  | mailbox (bindingId : MailboxBindingId)
  deriving DecidableEq

inductive GlobalSearchProjection where
  | client (projection : ClientReadProjection)
  | profile (projection : ProfileReadProjection)
  | member (projection : MemberReadProjection)
  | mailbox (projection : MailboxReadProjection)
  deriving DecidableEq

/-- The first row, read if there is one. -/
def firstRow {Row Item : Type} (mapRow : Row → Answer Item) : List Row → Answer (Option Item)
  | [] => .ok none
  | row :: _ => (mapRow row).map some

variable (database : Database) (actor : ActorContext)

def searchClient (clientId : ClientId) : Answer (Option ClientReadProjection) :=
  firstRow mapClientRow ((clientRows database actor).filter fun row =>
    row.clientId == clientId.intoOpaque.asStr)

def searchProfile (profileId : ProfileId) : Answer (Option ProfileReadProjection) :=
  firstRow mapProfileRow ((profileRows database actor).filter fun row => row.profileId == profileId.asStr)

/-- An active member finds the owner's view of itself, and the owner everyone. -/
def searchMember (memberId : ActorId) : Answer (Option MemberReadProjection) :=
  firstRow mapMemberRow ((database.memberships.filter fun membership =>
    membership.tenantId == ActorContext.tenant actor && membership.actorId == memberId.asStr &&
    database.memberships.any fun requester => requester.tenantId == membership.tenantId &&
      requester.actorId == actor.actorId.asStr && requester.status == "ACTIVE" &&
      (requester.role == "TENANT_OWNER" || requester.actorId == membership.actorId)).map
        MembershipColumns.row)

def searchMailbox (bindingId : MailboxBindingId) : Answer (Option MailboxReadProjection) :=
  firstRow mapMailboxRow ((mailboxRows database actor).filter fun row =>
    row.bindingId == bindingId.intoOpaque.asStr)

def searchExact : GlobalSearchKey → Answer (Option GlobalSearchProjection)
  | .client clientId => (searchClient database actor clientId).map (Option.map .client)
  | .profile profileId => (searchProfile database actor profileId).map (Option.map .profile)
  | .member memberId => (searchMember database actor memberId).map (Option.map .member)
  | .mailbox bindingId => (searchMailbox database actor bindingId).map (Option.map .mailbox)

end Search

end ProfilePlatform.ReadModels
