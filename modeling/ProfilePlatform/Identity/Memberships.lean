import ProfilePlatform.Catalog.Database
import ProfilePlatform.Foundation.Fallible
import ProfilePlatform.Foundation.Machine
import ProfilePlatform.Foundation.Rows

/-! Memberships of a tenant, and who decides about them.

The owner of a tenant hands it to an active member, and changes the status of the others. The
decisions look at the memberships they are given and at a count of the tenant's active owners.
-/

set_option autoImplicit false

namespace ProfilePlatform.Identity

open Foundation
open Catalog (MembershipRole MembershipStatus)

structure Membership where
  tenantId : TenantId
  actorId : ActorId
  role : MembershipRole
  status : MembershipStatus
  deriving DecidableEq

structure TenantBoundarySummary where
  membershipCount : Nat
  activeOwnerCount : Nat
  deriving DecidableEq

inductive MembershipLifecycleError where
  | tenantMismatch
  | ownerRequired
  | invalidSuccessor
  | ownerInvariantViolation
  | lastActiveOwner
  | invalidTransition
  deriving DecidableEq, Repr

structure OwnerTransferDecision where
  previousOwner : Membership
  nextOwner : Membership
  deriving DecidableEq

def decideOwnerTransfer (actor : ActorContext) (currentOwner nextOwner : Membership)
    (boundary : TenantBoundarySummary) : Except MembershipLifecycleError OwnerTransferDecision := do
  refuseIf (actor.tenantScope.tenantId ≠ currentOwner.tenantId ∨
    actor.tenantScope.tenantId ≠ nextOwner.tenantId) .tenantMismatch
  refuseIf (actor.actorId ≠ currentOwner.actorId ∨ currentOwner.role ≠ .tenantOwner ∨
    currentOwner.status ≠ .active) .ownerRequired
  refuseIf (nextOwner.actorId = currentOwner.actorId ∨ nextOwner.role ≠ .member ∨
    nextOwner.status ≠ .active) .invalidSuccessor
  refuseIf (boundary.activeOwnerCount ≠ 1) .ownerInvariantViolation
  return {
    previousOwner := ⟨currentOwner.tenantId, currentOwner.actorId, .member, .active⟩
    nextOwner := ⟨nextOwner.tenantId, nextOwner.actorId, .tenantOwner, .active⟩ }

inductive MembershipCommand where
  | activate | suspend | revoke
  deriving DecidableEq, Repr

def MembershipCommand.nextStatus : MembershipCommand → MembershipStatus
  | .activate => .active
  | .suspend => .suspended
  | .revoke => .revoked

def requireActiveOwner (actor : ActorContext) (membership : Membership) :
    Except MembershipLifecycleError Unit := do
  refuseIf (actor.tenantScope.tenantId ≠ membership.tenantId) .tenantMismatch
  refuseIf (actor.actorId ≠ membership.actorId ∨ membership.role ≠ .tenantOwner ∨
    membership.status ≠ .active) .ownerRequired

def decideMembershipStatusChange (actor : ActorContext) (actorMembership target : Membership)
    (boundary : TenantBoundarySummary) (command : MembershipCommand) :
    Except MembershipLifecycleError Membership := do
  requireActiveOwner actor actorMembership
  refuseIf (actor.tenantScope.tenantId ≠ target.tenantId) .tenantMismatch
  refuseIf (target.role = .tenantOwner ∧ target.status = .active ∧
    command.nextStatus ≠ .active ∧ boundary.activeOwnerCount ≤ 1) .lastActiveOwner
  refuseIf (target.status = .revoked ∧ command ≠ .revoke) .invalidTransition
  return ⟨target.tenantId, target.actorId, target.role, command.nextStatus⟩

section Decisions

variable {actor : ActorContext} {boundary : TenantBoundarySummary}

/-- When a transfer is allowed between two memberships of the actor's tenant, and what comes of
it. -/
theorem decideOwnerTransfer_eq_ok {currentOwner nextOwner : Membership}
    {decision : OwnerTransferDecision}
    (tenant : currentOwner.tenantId = actor.tenantScope.tenantId)
    (also : nextOwner.tenantId = actor.tenantScope.tenantId)
    (acts : currentOwner.actorId = actor.actorId) :
    decideOwnerTransfer actor currentOwner nextOwner boundary = .ok decision ↔
      (currentOwner.role = .tenantOwner ∧ currentOwner.status = .active) ∧
      (nextOwner.actorId ≠ currentOwner.actorId ∧ nextOwner.role = .member ∧
        nextOwner.status = .active) ∧ boundary.activeOwnerCount = 1 ∧
      decision = ⟨{ currentOwner with role := .member, status := .active },
        { nextOwner with role := .tenantOwner, status := .active }⟩ := by
  simp only [decideOwnerTransfer, bind_eq_ok, refuseIf_eq_ok, tenant, also, acts, ne_eq,
    not_true, or_false, not_false_iff, true_and, exists_const, false_or, not_or, not_not]
  constructor
  · rintro ⟨owner, successor, single, same⟩
    cases same
    exact ⟨owner, successor, single, rfl⟩
  · rintro ⟨owner, successor, single, rfl⟩
    exact ⟨owner, successor, single, rfl⟩

/-- When a change of status is allowed within the actor's tenant, and what comes of it. -/
theorem decideMembershipStatusChange_eq_ok {actorMembership target decided : Membership}
    {command : MembershipCommand}
    (tenant : actorMembership.tenantId = actor.tenantScope.tenantId)
    (also : target.tenantId = actor.tenantScope.tenantId)
    (acts : actorMembership.actorId = actor.actorId) :
    decideMembershipStatusChange actor actorMembership target boundary command = .ok decided ↔
      (actorMembership.role = .tenantOwner ∧ actorMembership.status = .active) ∧
      ¬(target.role = .tenantOwner ∧ target.status = .active ∧ command.nextStatus ≠ .active ∧
        boundary.activeOwnerCount ≤ 1) ∧
      ¬(target.status = .revoked ∧ command.nextStatus ≠ .revoked) ∧
      decided = { target with status := command.nextStatus } := by
  have revokes : command ≠ .revoke ↔ command.nextStatus ≠ .revoked := by cases command <;> decide
  simp only [decideMembershipStatusChange, requireActiveOwner, bind_eq_ok, refuseIf_eq_ok, tenant,
    also, acts, ne_eq, not_true, not_false_iff, true_and, exists_const, false_or, not_or, not_not,
    ← revokes]
  constructor
  · rintro ⟨owner, spared, moves, same⟩
    cases same
    exact ⟨owner, spared, moves, rfl⟩
  · rintro ⟨owner, spared, moves, rfl⟩
    exact ⟨owner, spared, moves, rfl⟩

end Decisions

/-! The table of memberships and the two commands that change it.

A command is a row of its journal: the trigger before the insert looks at the memberships, and the
one after it updates them. What the trigger before it checks was rewritten once, to tell a stale
version from a missing membership. Numbers are what the store can bind, and never negative.
-/

open Catalog (MembershipRole MembershipStatus Refusal)

structure MembershipKey where
  tenantId : TenantId
  actorId : ActorId
  deriving DecidableEq

structure MembershipRow where
  key : MembershipKey
  role : MembershipRole
  status : MembershipStatus
  version : Nat
  createdAtMs : Nat
  updatedAtMs : Nat
  deriving DecidableEq

namespace MembershipRow

def membership (row : MembershipRow) : Membership :=
  ⟨row.key.tenantId, row.key.actorId, row.role, row.status⟩

/-- The checks of the table, and the width of an integer column. -/
def Checked (row : MembershipRow) : Prop :=
  (1 ≤ row.version ∧ row.version < sqliteLimit) ∧
    row.createdAtMs ≤ row.updatedAtMs ∧ row.updatedAtMs < sqliteLimit

instance (row : MembershipRow) : Decidable row.Checked := inferInstanceAs (Decidable (_ ∧ _))

/-- The row is about an owner, suspended or not. -/
def IsOwnerOf (row : MembershipRow) (tenantId : TenantId) : Prop :=
  row.key.tenantId = tenantId ∧ row.role = .tenantOwner

instance (row : MembershipRow) (tenantId : TenantId) : Decidable (row.IsOwnerOf tenantId) :=
  inferInstanceAs (Decidable (_ ∧ _))

def IsActiveOwnerOf (row : MembershipRow) (tenantId : TenantId) : Prop :=
  row.IsOwnerOf tenantId ∧ row.status = .active

instance (row : MembershipRow) (tenantId : TenantId) : Decidable (row.IsActiveOwnerOf tenantId) :=
  inferInstanceAs (Decidable (_ ∧ _))

/-- The row after an update at that time. -/
def become (row : MembershipRow) (role : MembershipRole) (status : MembershipStatus)
    (executedAtMs : Nat) : MembershipRow :=
  { row with role, status, version := row.version + 1, updatedAtMs := executedAtMs }

end MembershipRow

structure OwnerTransferCommandRow where
  tenantId : TenantId
  commandId : String
  currentOwnerActorId : ActorId
  nextOwnerActorId : ActorId
  currentOwnerVersion : Nat
  nextOwnerVersion : Nat
  executedAtMs : Nat
  deriving DecidableEq

structure MembershipStatusCommandRow where
  tenantId : TenantId
  commandId : String
  commandActorId : ActorId
  targetActorId : ActorId
  expectedVersion : Nat
  nextStatus : MembershipStatus
  executedAtMs : Nat
  deriving DecidableEq

def OwnerTransferCommandRow.currentKey (command : OwnerTransferCommandRow) : MembershipKey :=
  ⟨command.tenantId, command.currentOwnerActorId⟩

def OwnerTransferCommandRow.nextKey (command : OwnerTransferCommandRow) : MembershipKey :=
  ⟨command.tenantId, command.nextOwnerActorId⟩

/-- The current owner once it has handed over. -/
def OwnerTransferCommandRow.demoted (command : OwnerTransferCommandRow) (row : MembershipRow) :
    MembershipRow := row.become .member row.status command.executedAtMs

/-- The successor once it owns the tenant. -/
def OwnerTransferCommandRow.promoted (command : OwnerTransferCommandRow) (row : MembershipRow) :
    MembershipRow := row.become .tenantOwner row.status command.executedAtMs

def MembershipStatusCommandRow.commandKey (command : MembershipStatusCommandRow) :
    MembershipKey := ⟨command.tenantId, command.commandActorId⟩

def MembershipStatusCommandRow.targetKey (command : MembershipStatusCommandRow) : MembershipKey :=
  ⟨command.tenantId, command.targetActorId⟩

def MembershipStatusCommandRow.moved (command : MembershipStatusCommandRow)
    (row : MembershipRow) : MembershipRow :=
  row.become row.role command.nextStatus command.executedAtMs

structure Tables where
  memberships : List MembershipRow
  ownerTransferCommands : List OwnerTransferCommandRow
  membershipStatusCommands : List MembershipStatusCommandRow
  deriving DecidableEq

/-- The triggers before an insert, as they were created and as they were rewritten. -/
inductive ValidateTriggers where
  | governedCommands
  | governedMutationErrorTaxonomy
  deriving DecidableEq

namespace Tables

def activeOwnerCount (tables : Tables) (tenantId : TenantId) : Nat :=
  (tables.memberships.filter fun row => row.IsActiveOwnerOf tenantId).length

def boundary (tables : Tables) (tenantId : TenantId) : TenantBoundarySummary where
  membershipCount := (tables.memberships.filter fun row => row.key.tenantId = tenantId).length
  activeOwnerCount := tables.activeOwnerCount tenantId

/-- `final_active_owner_cannot_be_suspended_or_revoked` fires on an update that sets the status. An
update here is about one row, so what it counts is the table before it. -/
def guardMembership (tables : Tables) (setsStatus : Bool) (old new : MembershipRow) :
    Except Refusal Unit := do
  refuseIf (setsStatus ∧ old.IsActiveOwnerOf old.key.tenantId ∧ new.status ≠ .active ∧
    tables.activeOwnerCount old.key.tenantId ≤ 1) (.abort "last_active_owner")
  refuseIf (¬new.Checked) .check

/-- `one_active_owner_per_tenant`, and the primary key. -/
def Clashes (other new : MembershipRow) : Prop :=
  other.key = new.key ∨
    other.IsActiveOwnerOf new.key.tenantId ∧ new.IsActiveOwnerOf new.key.tenantId

instance : DecidableRel Clashes := fun _ _ => inferInstanceAs (Decidable (_ ∨ _))

def updateMembership (tables : Tables) (key : MembershipKey) (setsStatus : Bool)
    (change : MembershipRow → MembershipRow) : Except Refusal Tables := do
  let memberships ← Rows.update (fun row => row.key = key) change
    (tables.guardMembership setsStatus) Clashes .unique [] tables.memberships
  return { tables with memberships }

/-- A membership arrives. The rows its foreign keys name are no concern of the commands. -/
def insertMembership (tables : Tables) (row : MembershipRow) : Except Refusal Tables := do
  refuseIf (¬row.Checked) .check
  refuseIf (∃ other ∈ tables.memberships, Clashes other row) .unique
  return { tables with memberships := tables.memberships ++ [row] }

section Transfer

def currentOwnerMatches (tables : Tables) (command : OwnerTransferCommandRow) : Prop :=
  ∃ row ∈ tables.memberships, row.key = command.currentKey ∧ row.role = .tenantOwner ∧
    row.status = .active ∧ row.version = command.currentOwnerVersion

/-- The successor is an active member, with the version when one is given. -/
def successorMatches (tables : Tables) (command : OwnerTransferCommandRow)
    (version : Nat → Prop) : Prop :=
  ∃ row ∈ tables.memberships, row.key = command.nextKey ∧ row.role = .member ∧
    row.status = .active ∧ version row.version

instance (tables : Tables) (command : OwnerTransferCommandRow) :
    Decidable (tables.currentOwnerMatches command) := inferInstanceAs (Decidable (∃ _ ∈ _, _))

instance (tables : Tables) (command : OwnerTransferCommandRow) (version : Nat → Prop)
    [DecidablePred version] : Decidable (tables.successorMatches command version) :=
  inferInstanceAs (Decidable (∃ _ ∈ _, _))

/-- `owner_transfer_command_validate`. -/
def ownerTransferCommandValidate (triggers : ValidateTriggers) (tables : Tables)
    (command : OwnerTransferCommandRow) : Except Refusal Unit := do
  refuseIf (¬tables.currentOwnerMatches command) (.abort "owner_transfer_current_owner_mismatch")
  match triggers with
  | .governedCommands =>
    refuseIf (command.currentOwnerActorId = command.nextOwnerActorId ∨
      ¬tables.successorMatches command (· = command.nextOwnerVersion))
      (.abort "owner_transfer_successor_mismatch")
  | .governedMutationErrorTaxonomy =>
    refuseIf (command.currentOwnerActorId = command.nextOwnerActorId ∨
      ¬tables.successorMatches command fun _ => True) (.abort "owner_transfer_successor_mismatch")
    refuseIf (tables.successorMatches command (· ≠ command.nextOwnerVersion))
      (.abort "owner_transfer_successor_version_mismatch")
  refuseIf (tables.activeOwnerCount command.tenantId ≠ 1) (.abort "owner_transfer_owner_invariant")

/-- `owner_transfer_command_apply`. -/
def ownerTransferCommandApply (tables : Tables) (command : OwnerTransferCommandRow) :
    Except Refusal Tables := do
  let tables ← tables.updateMembership command.currentKey false command.demoted
  tables.updateMembership command.nextKey false command.promoted

def transferOwner (triggers : ValidateTriggers) (tables : Tables)
    (command : OwnerTransferCommandRow) : Except Refusal Tables := do
  ownerTransferCommandValidate triggers tables command
  refuseIf (¬(1 ≤ command.currentOwnerVersion ∧ 1 ≤ command.nextOwnerVersion)) .check
  refuseIf (∃ other ∈ tables.ownerTransferCommands,
    other.tenantId = command.tenantId ∧ other.commandId = command.commandId) .unique
  let inserted :=
    { tables with ownerTransferCommands := tables.ownerTransferCommands ++ [command] }
  let after ← inserted.ownerTransferCommandApply command
  refuseIf (¬((∃ row ∈ after.memberships, row.key = command.currentKey) ∧
    ∃ row ∈ after.memberships, row.key = command.nextKey)) .foreignKey
  return after

end Transfer

section Status

def targetMatches (tables : Tables) (command : MembershipStatusCommandRow)
    (version : Nat → Prop) : Prop :=
  ∃ row ∈ tables.memberships, row.key = command.targetKey ∧ version row.version

instance (tables : Tables) (command : MembershipStatusCommandRow) (version : Nat → Prop)
    [DecidablePred version] : Decidable (tables.targetMatches command version) :=
  inferInstanceAs (Decidable (∃ _ ∈ _, _))

/-- `membership_status_command_validate`. -/
def membershipStatusCommandValidate (triggers : ValidateTriggers) (tables : Tables)
    (command : MembershipStatusCommandRow) : Except Refusal Unit := do
  refuseIf (¬∃ row ∈ tables.memberships,
    row.key = command.commandKey ∧ row.role = .tenantOwner ∧ row.status = .active)
    (.abort "membership_status_owner_required")
  match triggers with
  | .governedCommands =>
    refuseIf (¬tables.targetMatches command (· = command.expectedVersion))
      (.abort "membership_status_version_mismatch")
  | .governedMutationErrorTaxonomy =>
    refuseIf (¬tables.targetMatches command fun _ => True)
      (.abort "membership_status_target_missing")
    refuseIf (tables.targetMatches command (· ≠ command.expectedVersion))
      (.abort "membership_status_version_mismatch")
  refuseIf (∃ row ∈ tables.memberships,
    row.key = command.targetKey ∧ row.status = .revoked ∧ command.nextStatus ≠ .revoked)
    (.abort "membership_status_invalid_transition")
  refuseIf (command.nextStatus ≠ .active ∧
    (∃ row ∈ tables.memberships,
      row.key = command.targetKey ∧ row.role = .tenantOwner ∧ row.status = .active) ∧
    tables.activeOwnerCount command.tenantId ≤ 1) (.abort "last_active_owner")

/-- `membership_status_command_apply`. -/
def membershipStatusCommandApply (tables : Tables) (command : MembershipStatusCommandRow) :
    Except Refusal Tables :=
  tables.updateMembership command.targetKey true command.moved

def changeStatus (triggers : ValidateTriggers) (tables : Tables)
    (command : MembershipStatusCommandRow) : Except Refusal Tables := do
  membershipStatusCommandValidate triggers tables command
  refuseIf (¬1 ≤ command.expectedVersion) .check
  refuseIf (∃ other ∈ tables.membershipStatusCommands,
    other.tenantId = command.tenantId ∧ other.commandId = command.commandId) .unique
  let inserted :=
    { tables with membershipStatusCommands := tables.membershipStatusCommands ++ [command] }
  let after ← inserted.membershipStatusCommandApply command
  refuseIf (¬((∃ row ∈ after.memberships, row.key = command.commandKey) ∧
    ∃ row ∈ after.memberships, row.key = command.targetKey)) .foreignKey
  return after

end Status

inductive Statement where
  | transferOwner (command : OwnerTransferCommandRow)
  | changeStatus (command : MembershipStatusCommandRow)
  | insertMembership (row : MembershipRow)
  deriving DecidableEq

def run (triggers : ValidateTriggers) (tables : Tables) : Statement → Except Refusal Tables
  | .transferOwner command => tables.transferOwner triggers command
  | .changeStatus command => tables.changeStatus triggers command
  | .insertMembership row => tables.insertMembership row

end Tables

/-- A statement that is refused changes nothing. -/
def membershipStatements (triggers : ValidateTriggers) :
    Machine Tables Tables.Statement (Except Refusal Unit) where
  step tables statement :=
    match tables.run triggers statement with
    | .ok after => (.ok (), after)
    | .error why => (.error why, tables)

end ProfilePlatform.Identity
