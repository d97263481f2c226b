import Mathlib.Data.List.Nodup
import ProfilePlatform.Identity.Memberships

/-! What the two commands do to the memberships, said once.

A command goes through when the memberships are as it wants them and the tables can hold what comes
of it. The triggers before and after their rewriting accept the same commands.
-/

set_option autoImplicit false

namespace ProfilePlatform.Identity

open Foundation
open Catalog (MembershipRole MembershipStatus Refusal)

namespace Tables

/-- The primary key of the memberships. -/
def Keyed (tables : Tables) : Prop := (tables.memberships.map MembershipRow.key).Nodup

/-- Exactly one membership is an owner, and it is active. -/
def OneOwner (tables : Tables) (tenantId : TenantId) : Prop :=
  ∃ owner, tables.memberships.filter (fun row => row.IsOwnerOf tenantId) = [owner] ∧
    owner.status = .active

section Rows

variable {tables after : Tables} {row other : MembershipRow} {tenantId : TenantId}

theorem Keyed.unique (keyed : tables.Keyed) : Rows.Unique MembershipRow.key tables.memberships :=
  fun _ member _ among same => List.inj_on_of_nodup_map keyed member among same

theorem filter_eq_singleton {rows : List MembershipRow} {chosen : MembershipRow → Prop}
    [DecidablePred chosen] (distinct : rows.Nodup) :
    rows.filter (fun row => chosen row) = [row] ↔
      ∀ other, (other ∈ rows ∧ chosen other) ↔ other = row := by
  constructor
  · intro single other
    have among : other ∈ rows.filter (fun row => chosen row) ↔ other ∈ [row] := by rw [single]
    simpa using among
  · intro exactly
    refine List.perm_singleton.mp ((List.perm_ext_iff_of_nodup (distinct.filter _)
      (List.nodup_singleton _)).mpr fun other => ?_)
    simpa using exactly other

theorem oneOwner_iff (keyed : tables.Keyed) : tables.OneOwner tenantId ↔
    ∃ owner, (∀ row, (row ∈ tables.memberships ∧ row.IsOwnerOf tenantId) ↔ row = owner) ∧
      owner.status = .active := by
  unfold OneOwner
  simp only [filter_eq_singleton (List.Nodup.of_map _ keyed)]

theorem eq_of_activeOwnerCount (single : tables.activeOwnerCount tenantId = 1)
    (member : row ∈ tables.memberships) (owns : row.IsActiveOwnerOf tenantId)
    (among : other ∈ tables.memberships) (also : other.IsActiveOwnerOf tenantId) : row = other := by
  obtain ⟨owner, only⟩ := List.length_eq_one_iff.mp single
  have present : row ∈ [owner] := only ▸ List.mem_filter.mpr ⟨member, by simpa using owns⟩
  have rival : other ∈ [owner] := only ▸ List.mem_filter.mpr ⟨among, by simpa using also⟩
  rw [List.mem_singleton.mp present, List.mem_singleton.mp rival]

theorem OneOwner.activeOwnerCount (keyed : tables.Keyed) (one : tables.OneOwner tenantId) :
    tables.activeOwnerCount tenantId = 1 := by
  obtain ⟨owner, exactly, active⟩ := (oneOwner_iff keyed).mp one
  refine List.length_eq_one_iff.mpr ⟨owner, (filter_eq_singleton
    (List.Nodup.of_map _ keyed)).mpr fun row => ?_⟩
  constructor
  · rintro ⟨member, owns, -⟩
    exact (exactly row).mp ⟨member, owns⟩
  · rintro rfl
    exact ⟨((exactly row).mpr rfl).1, ((exactly row).mpr rfl).2, active⟩

theorem guardMembership_eq_ok {setsStatus : Bool} {new : MembershipRow} :
    tables.guardMembership setsStatus row new = .ok () ↔
      ¬(setsStatus = true ∧ row.IsActiveOwnerOf row.key.tenantId ∧ new.status ≠ .active ∧
        tables.activeOwnerCount row.key.tenantId ≤ 1) ∧ new.Checked := by
  unfold guardMembership
  simp only [bind_eq_ok, refuseIf_eq_ok, exists_const, not_not]

theorem updateMembership_eq_ok {setsStatus : Bool} {change : MembershipRow → MembershipRow}
    (keyed : tables.Keyed) (member : row ∈ tables.memberships) :
    tables.updateMembership row.key setsStatus change = .ok after ↔
      tables.guardMembership setsStatus row (change row) = .ok () ∧
      (∀ other ∈ tables.memberships, other.key ≠ row.key → ¬Clashes other (change row)) ∧
      after = { tables with
        memberships := Rows.amend (fun old => old.key = row.key) change tables.memberships } := by
  have updates (rows : List MembershipRow) :
      Rows.update (fun old => old.key = row.key) change (tables.guardMembership setsStatus) Clashes
          Refusal.unique [] tables.memberships = .ok rows ↔
        tables.guardMembership setsStatus row (change row) = .ok () ∧
        (∀ other ∈ tables.memberships, other.key ≠ row.key → ¬Clashes other (change row)) ∧
        rows = Rows.amend (fun old => old.key = row.key) change tables.memberships :=
    Rows.update_key_eq_ok keyed member
  unfold updateMembership
  rw [bind_eq_ok]
  constructor
  · rintro ⟨rows, updated, done⟩
    obtain ⟨passes, free, rfl⟩ := (updates rows).mp updated
    cases done
    exact ⟨passes, free, rfl⟩
  · rintro ⟨passes, free, rfl⟩
    exact ⟨_, (updates _).mpr ⟨passes, free, rfl⟩, rfl⟩

end Rows

section Transfer

variable {triggers : ValidateTriggers} {tables after : Tables} {command : OwnerTransferCommandRow}
  {current next row : MembershipRow}

/-- The two memberships a transfer names, as it wants to find them. -/
structure Transfers (tables : Tables) (command : OwnerTransferCommandRow)
    (current next : MembershipRow) : Prop where
  currentHeld : current ∈ tables.memberships
  nextHeld : next ∈ tables.memberships
  currentKey : current.key = command.currentKey
  nextKey : next.key = command.nextKey
  owns : current.role = .tenantOwner ∧ current.status = .active
  follows : next.role = .member ∧ next.status = .active
  versions : current.version = command.currentOwnerVersion ∧ next.version = command.nextOwnerVersion
  differ : command.currentOwnerActorId ≠ command.nextOwnerActorId
  single : tables.activeOwnerCount command.tenantId = 1

theorem ownerTransferCommandValidate_eq_ok (keyed : tables.Keyed) :
    ownerTransferCommandValidate triggers tables command = .ok () ↔
      ∃ current next, Transfers tables command current next := by
  have stale : (tables.successorMatches command fun _ => True) ∧
      ¬tables.successorMatches command (· ≠ command.nextOwnerVersion) ↔
      tables.successorMatches command (· = command.nextOwnerVersion) := by
    constructor
    · rintro ⟨⟨row, member, key, role, status, -⟩, fresh⟩
      refine ⟨row, member, key, role, status, ?_⟩
      by_contra old
      exact fresh ⟨row, member, key, role, status, old⟩
    · rintro ⟨row, member, key, role, status, version⟩
      refine ⟨⟨row, member, key, role, status, trivial⟩, ?_⟩
      rintro ⟨other, among, same, -, -, old⟩
      cases keyed.unique other among row member (same.trans key.symm)
      exact old version
  have validates : ownerTransferCommandValidate triggers tables command = .ok () ↔
      tables.currentOwnerMatches command ∧
      (command.currentOwnerActorId ≠ command.nextOwnerActorId ∧
        tables.successorMatches command (· = command.nextOwnerVersion)) ∧
      tables.activeOwnerCount command.tenantId = 1 := by
    unfold ownerTransferCommandValidate
    cases triggers with
    | governedCommands =>
      simp only [bind_eq_ok, refuseIf_eq_ok, exists_const, not_or, not_not, ne_eq]
    | governedMutationErrorTaxonomy =>
      simp only [bind_eq_ok, refuseIf_eq_ok, exists_const, not_or, not_not, ne_eq, ← stale,
        and_assoc]
  rw [validates]
  constructor
  · rintro ⟨⟨current, held, currentKey, role, status, version⟩, ⟨differ, next, nextHeld, nextKey,
      nextRole, nextStatus, nextVersion⟩, single⟩
    exact ⟨current, next, held, nextHeld, currentKey, nextKey, ⟨role, status⟩,
      ⟨nextRole, nextStatus⟩, ⟨version, nextVersion⟩, differ, single⟩
  · rintro ⟨current, next, transfers⟩
    exact ⟨⟨current, transfers.currentHeld, transfers.currentKey, transfers.owns.1,
      transfers.owns.2, transfers.versions.1⟩, ⟨transfers.differ, next, transfers.nextHeld,
      transfers.nextKey, transfers.follows.1, transfers.follows.2, transfers.versions.2⟩,
      transfers.single⟩

theorem Transfers.keys_ne (transfers : Transfers tables command current next) :
    next.key ≠ current.key := by
  rw [transfers.nextKey, transfers.currentKey]
  exact fun same => transfers.differ (congrArg MembershipKey.actorId same).symm

/-- What the tables themselves ask of a transfer: a new command, and rows they can hold. -/
structure Storable (tables : Tables) (command : OwnerTransferCommandRow)
    (current next : MembershipRow) : Prop where
  positive : 1 ≤ command.currentOwnerVersion ∧ 1 ≤ command.nextOwnerVersion
  fresh : ¬∃ other ∈ tables.ownerTransferCommands,
    other.tenantId = command.tenantId ∧ other.commandId = command.commandId
  demoted : (command.demoted current).Checked
  promoted : (command.promoted next).Checked

/-- The rows after a transfer. -/
def transferred (tables : Tables) (command : OwnerTransferCommandRow) : Tables :=
  { tables with
    memberships := Rows.amend (fun row => row.key = command.nextKey) command.promoted
      (Rows.amend (fun row => row.key = command.currentKey) command.demoted tables.memberships)
    ownerTransferCommands := tables.ownerTransferCommands ++ [command] }

theorem key_demoted (row : MembershipRow) : (command.demoted row).key = row.key := rfl

theorem key_promoted (row : MembershipRow) : (command.promoted row).key = row.key := rfl

theorem keyed_amend {chosen : MembershipRow → Prop} [DecidablePred chosen]
    {change : MembershipRow → MembershipRow} {journal : List OwnerTransferCommandRow}
    (keyed : tables.Keyed) (keeps : ∀ row, (change row).key = row.key) :
    Keyed { tables with
      memberships := Rows.amend chosen change tables.memberships
      ownerTransferCommands := journal } := by
  unfold Keyed
  rwa [Rows.map_amend keeps]

theorem keyed_transferred (keyed : tables.Keyed) : (tables.transferred command).Keyed := by
  unfold Keyed transferred
  rwa [Rows.map_amend key_promoted, Rows.map_amend key_demoted]

theorem mem_transferred (keyed : tables.Keyed)
    (transfers : Transfers tables command current next) :
    row ∈ (tables.transferred command).memberships ↔
      (row ∈ tables.memberships ∧ row.key ≠ current.key ∧ row.key ≠ next.key) ∨
      row = command.demoted current ∨ row = command.promoted next := by
  have demotes := Rows.replaced_amend keyed.unique transfers.currentHeld command.demoted
  have held := demotes.kept transfers.nextHeld transfers.keys_ne
  have promotes := Rows.replaced_amend (Rows.unique_amend key_demoted keyed.unique) held
    command.promoted
  unfold transferred
  rw [← transfers.currentKey, ← transfers.nextKey]
  refine (promotes row).trans ?_
  rw [demotes row]
  constructor
  · rintro (⟨⟨member, other⟩ | rfl, differs⟩ | rfl)
    · exact .inl ⟨member, other, differs⟩
    · exact .inr (.inl rfl)
    · exact .inr (.inr rfl)
  · rintro (⟨member, other, differs⟩ | rfl | rfl)
    · exact .inl ⟨.inl ⟨member, other⟩, differs⟩
    · exact .inl ⟨.inr rfl, transfers.keys_ne.symm⟩
    · exact .inr rfl

theorem ownerTransferCommandApply_eq_ok (keyed : tables.Keyed)
    (transfers : Transfers tables command current next) :
    ownerTransferCommandApply { tables with
        ownerTransferCommands := tables.ownerTransferCommands ++ [command] } command = .ok after ↔
      (command.demoted current).Checked ∧ (command.promoted next).Checked ∧
        after = tables.transferred command := by
  obtain ⟨currentKey, nextKey⟩ := And.intro transfers.currentKey transfers.nextKey
  have inserted : Keyed { tables with
    ownerTransferCommands := tables.ownerTransferCommands ++ [command] } := keyed
  have unguarded (mid : Tables) (old new : MembershipRow) :
      mid.guardMembership false old new = .ok () ↔ new.Checked := by
    simp [guardMembership_eq_ok]
  have plain (other : MembershipRow) (differs : other.key ≠ current.key) :
      ¬Clashes other (command.demoted current) := by
    rintro (same | ⟨-, owns, -⟩)
    · exact differs same
    · cases owns.2
  have alone (other : MembershipRow)
      (among : other ∈ Rows.amend (fun row => row.key = current.key) command.demoted
        tables.memberships) (differs : other.key ≠ next.key) :
      ¬Clashes other (command.promoted next) := by
    rintro (same | ⟨owns, -⟩)
    · exact differs same
    · rcases (Rows.replaced_amend keyed.unique transfers.currentHeld command.demoted other).mp
        among with ⟨member, left⟩ | rfl
      · have tenant : (command.promoted next).key.tenantId = command.tenantId := by
          rw [key_promoted, nextKey]
          rfl
        have held : current.IsActiveOwnerOf command.tenantId :=
          ⟨⟨by rw [currentKey]; rfl, transfers.owns.1⟩, transfers.owns.2⟩
        rw [tenant] at owns
        exact left (congrArg _ (eq_of_activeOwnerCount transfers.single member owns
          transfers.currentHeld held))
      · cases owns.1.2
  have held : next ∈ Rows.amend (fun row => row.key = current.key) command.demoted
      tables.memberships :=
    Rows.mem_amend_of_not_chosen transfers.nextHeld transfers.keys_ne
  unfold ownerTransferCommandApply transferred
  rw [← currentKey, ← nextKey, bind_eq_ok]
  constructor
  · rintro ⟨mid, demotes, promotes⟩
    obtain ⟨demoted, -, rfl⟩ := (updateMembership_eq_ok inserted transfers.currentHeld).mp demotes
    obtain ⟨promoted, -, rfl⟩ := (updateMembership_eq_ok
      (keyed_amend keyed key_demoted) held).mp promotes
    exact ⟨(unguarded _ _ _).mp demoted, (unguarded _ _ _).mp promoted, rfl⟩
  · rintro ⟨demoted, promoted, rfl⟩
    exact ⟨_, (updateMembership_eq_ok inserted transfers.currentHeld).mpr
        ⟨(unguarded _ _ _).mpr demoted, fun other _ => plain other, rfl⟩,
      (updateMembership_eq_ok (keyed_amend keyed key_demoted) held).mpr
        ⟨(unguarded _ _ _).mpr promoted, alone, rfl⟩⟩

/-- A transfer goes through when both memberships are as it wants them and the tables can hold what
comes of it. -/
theorem transferOwner_eq_ok (keyed : tables.Keyed) :
    transferOwner triggers tables command = .ok after ↔
      (∃ current next, Transfers tables command current next ∧
        Storable tables command current next) ∧ after = tables.transferred command := by
  unfold transferOwner
  constructor
  · intro executed
    obtain ⟨_, validates, executed⟩ := bind_eq_ok.mp executed
    obtain ⟨current, next, transfers⟩ := (ownerTransferCommandValidate_eq_ok keyed).mp validates
    obtain ⟨_, positive, executed⟩ := bind_eq_ok.mp executed
    obtain ⟨_, fresh, executed⟩ := bind_eq_ok.mp executed
    obtain ⟨_, applied, executed⟩ := bind_eq_ok.mp executed
    obtain ⟨_, -, same⟩ := bind_eq_ok.mp executed
    cases same
    obtain ⟨demoted, promoted, rfl⟩ :=
      (ownerTransferCommandApply_eq_ok keyed transfers).mp applied
    exact ⟨⟨current, next, transfers, not_not.mp (refuseIf_eq_ok.mp positive),
      refuseIf_eq_ok.mp fresh, demoted, promoted⟩, rfl⟩
  · rintro ⟨⟨current, next, transfers, storable⟩, rfl⟩
    have applied := (ownerTransferCommandApply_eq_ok keyed transfers).mpr
      ⟨storable.demoted, storable.promoted, rfl⟩
    have holds : (∃ row ∈ (tables.transferred command).memberships,
          row.key = command.currentKey) ∧
        ∃ row ∈ (tables.transferred command).memberships, row.key = command.nextKey :=
      ⟨⟨_, (mem_transferred keyed transfers).mpr (.inr (.inl rfl)), transfers.currentKey⟩,
        _, (mem_transferred keyed transfers).mpr (.inr (.inr rfl)), transfers.nextKey⟩
    refine bind_eq_ok.mpr ⟨(), (ownerTransferCommandValidate_eq_ok keyed).mpr
      ⟨current, next, transfers⟩, ?_⟩
    refine bind_eq_ok.mpr ⟨(), refuseIf_passes (not_not.mpr storable.positive), ?_⟩
    refine bind_eq_ok.mpr ⟨(), refuseIf_passes storable.fresh, ?_⟩
    refine bind_eq_ok.mpr ⟨_, applied, ?_⟩
    exact bind_eq_ok.mpr ⟨(), refuseIf_passes (not_not.mpr holds), rfl⟩

end Transfer

section Status

variable {triggers : ValidateTriggers} {tables after : Tables}
  {command : MembershipStatusCommandRow} {actor target row : MembershipRow}

/-- The owner who orders a change of status and the membership it is about. -/
structure Changes (tables : Tables) (command : MembershipStatusCommandRow)
    (actor target : MembershipRow) : Prop where
  actorHeld : actor ∈ tables.memberships
  actorKey : actor.key = command.commandKey
  owns : actor.role = .tenantOwner ∧ actor.status = .active
  targetHeld : target ∈ tables.memberships
  targetKey : target.key = command.targetKey
  version : target.version = command.expectedVersion
  moves : ¬(target.status = .revoked ∧ command.nextStatus ≠ .revoked)
  spared : ¬(command.nextStatus ≠ .active ∧ (target.role = .tenantOwner ∧ target.status = .active) ∧
    tables.activeOwnerCount command.tenantId ≤ 1)

theorem membershipStatusCommandValidate_eq_ok (keyed : tables.Keyed) :
    membershipStatusCommandValidate triggers tables command = .ok () ↔
      ∃ actor target, Changes tables command actor target := by
  have stale : (tables.targetMatches command fun _ => True) ∧
      ¬tables.targetMatches command (· ≠ command.expectedVersion) ↔
      tables.targetMatches command (· = command.expectedVersion) := by
    constructor
    · rintro ⟨⟨row, member, key, -⟩, fresh⟩
      refine ⟨row, member, key, ?_⟩
      by_contra old
      exact fresh ⟨row, member, key, old⟩
    · rintro ⟨row, member, key, version⟩
      refine ⟨⟨row, member, key, trivial⟩, ?_⟩
      rintro ⟨other, among, same, old⟩
      cases keyed.unique other among row member (same.trans key.symm)
      exact old version
  have validates : membershipStatusCommandValidate triggers tables command = .ok () ↔
      (∃ row ∈ tables.memberships,
        row.key = command.commandKey ∧ row.role = .tenantOwner ∧ row.status = .active) ∧
      tables.targetMatches command (· = command.expectedVersion) ∧
      (¬∃ row ∈ tables.memberships,
        row.key = command.targetKey ∧ row.status = .revoked ∧ command.nextStatus ≠ .revoked) ∧
      ¬(command.nextStatus ≠ .active ∧
        (∃ row ∈ tables.memberships,
          row.key = command.targetKey ∧ row.role = .tenantOwner ∧ row.status = .active) ∧
        tables.activeOwnerCount command.tenantId ≤ 1) := by
    unfold membershipStatusCommandValidate
    cases triggers with
    | governedCommands => simp only [bind_eq_ok, refuseIf_eq_ok, exists_const, not_not]
    | governedMutationErrorTaxonomy =>
      simp only [bind_eq_ok, refuseIf_eq_ok, exists_const, not_not, ← stale, and_assoc]
  rw [validates]
  constructor
  · rintro ⟨⟨actor, actorHeld, actorKey, owns⟩, ⟨target, targetHeld, targetKey, version⟩, moves,
      spared⟩
    exact ⟨actor, target, {
      actorHeld, actorKey, owns, targetHeld, targetKey, version
      moves := fun revives => moves ⟨target, targetHeld, targetKey, revives⟩
      spared := fun leaves =>
        spared ⟨leaves.1, ⟨target, targetHeld, targetKey, leaves.2.1⟩, leaves.2.2⟩ }⟩
  · rintro ⟨actor, target, changes⟩
    have only : ∀ row ∈ tables.memberships, row.key = command.targetKey → row = target :=
      fun row member key => keyed.unique row member target changes.targetHeld
        (key.trans changes.targetKey.symm)
    refine ⟨⟨actor, changes.actorHeld, changes.actorKey, changes.owns⟩,
      ⟨target, changes.targetHeld, changes.targetKey, changes.version⟩, ?_, ?_⟩
    · rintro ⟨row, member, key, revoked, other⟩
      cases only row member key
      exact changes.moves ⟨revoked, other⟩
    · rintro ⟨leaves, ⟨row, member, key, owner⟩, last⟩
      cases only row member key
      exact changes.spared ⟨leaves, owner, last⟩

/-- What the tables themselves ask of a change of status: a new command, and a row they can hold. -/
structure StatusStorable (tables : Tables) (command : MembershipStatusCommandRow)
    (target : MembershipRow) : Prop where
  positive : 1 ≤ command.expectedVersion
  fresh : ¬∃ other ∈ tables.membershipStatusCommands,
    other.tenantId = command.tenantId ∧ other.commandId = command.commandId
  moved : (command.moved target).Checked

/-- The rows after a change of status. -/
def statusChanged (tables : Tables) (command : MembershipStatusCommandRow) : Tables :=
  { tables with
    memberships := Rows.amend (fun row => row.key = command.targetKey) command.moved
      tables.memberships
    membershipStatusCommands := tables.membershipStatusCommands ++ [command] }

theorem key_moved (row : MembershipRow) : (command.moved row).key = row.key := rfl

theorem keyed_statusChanged (keyed : tables.Keyed) : (tables.statusChanged command).Keyed := by
  unfold Keyed statusChanged
  rwa [Rows.map_amend key_moved]

theorem mem_statusChanged (keyed : tables.Keyed) (changes : Changes tables command actor target) :
    row ∈ (tables.statusChanged command).memberships ↔
      (row ∈ tables.memberships ∧ row.key ≠ target.key) ∨ row = command.moved target := by
  unfold statusChanged
  rw [← changes.targetKey]
  exact Rows.replaced_amend keyed.unique changes.targetHeld command.moved row

/-- The guard of the update asks for nothing that was not asked before the insert. -/
theorem membershipStatusCommandApply_eq_ok (keyed : tables.Keyed)
    (changes : Changes tables command actor target) :
    membershipStatusCommandApply { tables with
        membershipStatusCommands := tables.membershipStatusCommands ++ [command] } command =
        .ok after ↔
      (command.moved target).Checked ∧
      (∀ other ∈ tables.memberships, other.key ≠ target.key →
        ¬Clashes other (command.moved target)) ∧ after = tables.statusChanged command := by
  have inserted : Keyed { tables with
    membershipStatusCommands := tables.membershipStatusCommands ++ [command] } := keyed
  have tenant : target.key.tenantId = command.tenantId := by
    rw [changes.targetKey]
    rfl
  have guarded : ¬(true = true ∧ target.IsActiveOwnerOf target.key.tenantId ∧
      (command.moved target).status ≠ .active ∧
      tables.activeOwnerCount target.key.tenantId ≤ 1) := by
    rintro ⟨-, owner, leaves, last⟩
    exact changes.spared ⟨leaves, ⟨owner.1.2, owner.2⟩, tenant ▸ last⟩
  unfold membershipStatusCommandApply statusChanged
  rw [← changes.targetKey]
  refine (updateMembership_eq_ok inserted changes.targetHeld).trans ?_
  rw [guardMembership_eq_ok]
  exact and_congr_left fun _ => and_iff_right guarded

theorem changeStatus_eq_ok (keyed : tables.Keyed) :
    changeStatus triggers tables command = .ok after ↔
      (∃ actor target, Changes tables command actor target ∧
        StatusStorable tables command target ∧ ∀ other ∈ tables.memberships,
          other.key ≠ target.key → ¬Clashes other (command.moved target)) ∧
        after = tables.statusChanged command := by
  unfold changeStatus
  constructor
  · intro executed
    obtain ⟨_, validates, executed⟩ := bind_eq_ok.mp executed
    obtain ⟨actor, target, changes⟩ := (membershipStatusCommandValidate_eq_ok keyed).mp validates
    obtain ⟨_, positive, executed⟩ := bind_eq_ok.mp executed
    obtain ⟨_, fresh, executed⟩ := bind_eq_ok.mp executed
    obtain ⟨_, applied, executed⟩ := bind_eq_ok.mp executed
    obtain ⟨_, -, same⟩ := bind_eq_ok.mp executed
    cases same
    obtain ⟨moved, alone, rfl⟩ := (membershipStatusCommandApply_eq_ok keyed changes).mp applied
    exact ⟨⟨actor, target, changes, ⟨not_not.mp (refuseIf_eq_ok.mp positive),
      refuseIf_eq_ok.mp fresh, moved⟩, alone⟩, rfl⟩
  · rintro ⟨⟨actor, target, changes, storable, alone⟩, rfl⟩
    have applied := (membershipStatusCommandApply_eq_ok keyed changes).mpr
      ⟨storable.moved, alone, rfl⟩
    have targetHeld : ∃ row ∈ (tables.statusChanged command).memberships,
        row.key = command.targetKey :=
      ⟨_, (mem_statusChanged keyed changes).mpr (.inr rfl), changes.targetKey⟩
    have actorHeld : ∃ row ∈ (tables.statusChanged command).memberships,
        row.key = command.commandKey := by
      by_cases itself : actor.key = target.key
      · exact ⟨_, (mem_statusChanged keyed changes).mpr (.inr rfl),
          itself.symm.trans changes.actorKey⟩
      · exact ⟨actor, (mem_statusChanged keyed changes).mpr (.inl ⟨changes.actorHeld, itself⟩),
          changes.actorKey⟩
    refine bind_eq_ok.mpr ⟨(), (membershipStatusCommandValidate_eq_ok keyed).mpr
      ⟨actor, target, changes⟩, ?_⟩
    refine bind_eq_ok.mpr ⟨(), refuseIf_passes (not_not.mpr storable.positive), ?_⟩
    refine bind_eq_ok.mpr ⟨(), refuseIf_passes storable.fresh, ?_⟩
    refine bind_eq_ok.mpr ⟨_, applied, ?_⟩
    exact bind_eq_ok.mpr ⟨(), refuseIf_passes (not_not.mpr ⟨actorHeld, targetHeld⟩), rfl⟩

end Status

end Tables

end ProfilePlatform.Identity
