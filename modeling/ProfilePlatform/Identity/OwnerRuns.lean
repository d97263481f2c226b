import ProfilePlatform.Identity.Statements

/-! Every tenant keeps its one owner.

The owner stays one whatever the statements are, and the triggers refuse what the decisions refuse.
-/

set_option autoImplicit false

namespace ProfilePlatform.Identity

open Foundation
open Catalog (MembershipRole MembershipStatus Refusal)
open Tables

section Steps

variable {triggers : ValidateTriggers} {tables after : Tables} {statement : Statement}
  {tenantId : TenantId}

/-- New members of the tenant arrive as members. -/
def Tables.Statement.ArrivesAsMember (statement : Statement) (tenantId : TenantId) : Prop :=
  ∀ row, statement = .insertMembership row → row.key.tenantId = tenantId → row.role = .member

theorem keyed_run (keyed : tables.Keyed) (ran : tables.run triggers statement = .ok after) :
    after.Keyed := by
  cases statement with
  | transferOwner command =>
    obtain ⟨-, rfl⟩ := (transferOwner_eq_ok keyed).mp ran
    exact keyed_transferred keyed
  | changeStatus command =>
    obtain ⟨-, rfl⟩ := (changeStatus_eq_ok keyed).mp ran
    exact keyed_statusChanged keyed
  | insertMembership row =>
    obtain ⟨_, -, ran⟩ := bind_eq_ok.mp ran
    obtain ⟨_, fresh, same⟩ := bind_eq_ok.mp ran
    cases same
    have free := refuseIf_eq_ok.mp fresh
    show (List.map MembershipRow.key (tables.memberships ++ [row])).Nodup
    rw [List.map_append, List.nodup_append]
    refine ⟨keyed, List.nodup_singleton _, ?_⟩
    rintro _ known _ new rfl
    obtain ⟨other, member, same⟩ := List.mem_map.mp known
    exact free ⟨other, member, .inl (same.trans (List.mem_singleton.mp new))⟩

theorem oneOwner_transferred {command : OwnerTransferCommandRow} {current next : MembershipRow}
    (keyed : tables.Keyed) (transfers : Transfers tables command current next)
    (one : tables.OneOwner tenantId) : (tables.transferred command).OneOwner tenantId := by
  obtain ⟨owner, exactly, active⟩ := (oneOwner_iff keyed).mp one
  have held := (exactly owner).mpr rfl
  have tenants : current.key.tenantId = command.tenantId ∧ next.key.tenantId = command.tenantId := by
    rw [transfers.currentKey, transfers.nextKey]
    exact ⟨rfl, rfl⟩
  refine (oneOwner_iff (keyed_transferred keyed)).mpr ?_
  by_cases here : command.tenantId = tenantId
  · obtain rfl := (exactly current).mp
      ⟨transfers.currentHeld, tenants.1.trans here, transfers.owns.1⟩
    refine ⟨command.promoted next, fun row => ?_, transfers.follows.2⟩
    rw [mem_transferred keyed transfers]
    constructor
    · rintro ⟨⟨member, other, -⟩ | rfl | rfl, owns⟩
      · exact absurd (congrArg _ ((exactly row).mp ⟨member, owns⟩)) other
      · cases owns.2
      · rfl
    · rintro rfl
      exact ⟨.inr (.inr rfl), tenants.2.trans here, rfl⟩
  · have elsewhere (row : MembershipRow) (owns : row.IsOwnerOf tenantId)
        (other : row.key.tenantId = command.tenantId) : False :=
      here (other.symm.trans owns.1)
    refine ⟨owner, fun row => ?_, active⟩
    rw [mem_transferred keyed transfers, ← exactly row]
    constructor
    · rintro ⟨⟨member, -, -⟩ | rfl | rfl, owns⟩
      · exact ⟨member, owns⟩
      · exact (elsewhere _ owns tenants.1).elim
      · exact (elsewhere _ owns tenants.2).elim
    · rintro ⟨member, owns⟩
      refine ⟨.inl ⟨member, ?_, ?_⟩, owns⟩
      · rintro same
        exact elsewhere row owns ((congrArg _ same).trans tenants.1)
      · rintro same
        exact elsewhere row owns ((congrArg _ same).trans tenants.2)

/-- The only owner is not the one whose status changes, unless it stays active. -/
theorem oneOwner_statusChanged {command : MembershipStatusCommandRow}
    {actor target : MembershipRow} (keyed : tables.Keyed)
    (changes : Changes tables command actor target) (one : tables.OneOwner tenantId) :
    (tables.statusChanged command).OneOwner tenantId := by
  obtain ⟨owner, exactly, active⟩ := (oneOwner_iff keyed).mp one
  have held := (exactly owner).mpr rfl
  refine (oneOwner_iff (keyed_statusChanged keyed)).mpr ?_
  by_cases itself : target.IsOwnerOf tenantId
  · obtain rfl := (exactly target).mp ⟨changes.targetHeld, itself⟩
    refine ⟨command.moved target, fun row => ?_, ?_⟩
    · rw [mem_statusChanged keyed changes]
      constructor
      · rintro ⟨⟨member, other⟩ | rfl, owns⟩
        · exact absurd (congrArg _ ((exactly row).mp ⟨member, owns⟩)) other
        · rfl
      · rintro rfl
        exact ⟨.inr rfl, itself⟩
    · have tenant : command.tenantId = tenantId := by
        rw [← itself.1, changes.targetKey]
        rfl
      by_contra leaves
      exact changes.spared ⟨leaves, ⟨itself.2, active⟩,
        Nat.le_of_eq (tenant ▸ one.activeOwnerCount keyed)⟩
  · refine ⟨owner, fun row => ?_, active⟩
    rw [mem_statusChanged keyed changes, ← exactly row]
    constructor
    · rintro ⟨⟨member, -⟩ | rfl, owns⟩
      · exact ⟨member, owns⟩
      · exact absurd owns itself
    · rintro ⟨member, owns⟩
      refine ⟨.inl ⟨member, fun same => itself ?_⟩, owns⟩
      rw [← keyed.unique row member target changes.targetHeld same]
      exact owns

theorem oneOwner_run (keyed : tables.Keyed) (one : tables.OneOwner tenantId)
    (arrives : statement.ArrivesAsMember tenantId)
    (ran : tables.run triggers statement = .ok after) : after.OneOwner tenantId := by
  cases statement with
  | transferOwner command =>
    obtain ⟨⟨current, next, transfers, -⟩, rfl⟩ := (transferOwner_eq_ok keyed).mp ran
    exact oneOwner_transferred keyed transfers one
  | changeStatus command =>
    obtain ⟨⟨actor, target, changes, -, -⟩, rfl⟩ := (changeStatus_eq_ok keyed).mp ran
    exact oneOwner_statusChanged keyed changes one
  | insertMembership row =>
    obtain ⟨owner, exactly, active⟩ := one
    obtain ⟨_, -, ran⟩ := bind_eq_ok.mp ran
    obtain ⟨_, -, same⟩ := bind_eq_ok.mp ran
    cases same
    have other : ¬row.IsOwnerOf tenantId := fun owns => by
      have role := arrives row rfl owns.1
      rw [owns.2] at role
      cases role
    refine ⟨owner, ?_, active⟩
    show (tables.memberships ++ [row]).filter _ = [owner]
    rw [List.filter_append, exactly, List.filter_cons_of_neg (by simpa using other)]
    rfl

/-- Who was revoked still is. -/
def StaysRevoked (before after : Tables) : Prop :=
  ∀ row ∈ before.memberships, row.status = .revoked →
    ∃ later ∈ after.memberships, later.key = row.key ∧ later.status = .revoked

theorem staysRevoked_run (keyed : tables.Keyed)
    (ran : tables.run triggers statement = .ok after) : StaysRevoked tables after := by
  intro row member revoked
  cases statement with
  | transferOwner command =>
    obtain ⟨⟨current, next, transfers, -⟩, rfl⟩ := (transferOwner_eq_ok keyed).mp ran
    have active (other : MembershipRow) (among : other ∈ tables.memberships)
        (status : other.status = .active) : row.key ≠ other.key := by
      intro same
      rw [← keyed.unique row member other among same, revoked] at status
      cases status
    exact ⟨row, (mem_transferred keyed transfers).mpr (.inl ⟨member,
      active current transfers.currentHeld transfers.owns.2,
      active next transfers.nextHeld transfers.follows.2⟩), rfl, revoked⟩
  | changeStatus command =>
    obtain ⟨⟨actor, target, changes, -, -⟩, rfl⟩ := (changeStatus_eq_ok keyed).mp ran
    by_cases itself : row.key = target.key
    · obtain rfl := keyed.unique row member target changes.targetHeld itself
      refine ⟨_, (mem_statusChanged keyed changes).mpr (.inr rfl), rfl, ?_⟩
      by_contra other
      exact changes.moves ⟨revoked, other⟩
    · exact ⟨row, (mem_statusChanged keyed changes).mpr (.inl ⟨member, itself⟩), rfl, revoked⟩
  | insertMembership new =>
    obtain ⟨_, -, ran⟩ := bind_eq_ok.mp ran
    obtain ⟨_, -, same⟩ := bind_eq_ok.mp ran
    cases same
    exact ⟨row, List.mem_append_left _ member, rfl, revoked⟩

end Steps

section Agreement

variable {triggers : ValidateTriggers} {tables after : Tables}

/-- The memberships with these keys are there, each moves on by one version, and no other
membership is touched. -/
structure Advances (before after : Tables) (keys : List MembershipKey) : Prop where
  held : ∀ key ∈ keys, ∃ row ∈ before.memberships, row.key = key
  moved : ∀ row ∈ before.memberships, row.key ∈ keys →
    ∃ later ∈ after.memberships, later.key = row.key ∧ later.version = row.version + 1
  kept : ∀ row ∈ before.memberships, row.key ∉ keys → row ∈ after.memberships

/-- With current versions a transfer goes through when it is decided so and the tables can hold
it, and leaves the memberships that were decided on. -/
def TransferAgrees (command : OwnerTransferCommandRow) (before : Tables)
    (output : Except Refusal Unit) (after : Tables) : Prop :=
  ∀ current ∈ before.memberships, ∀ next ∈ before.memberships,
    current.key = command.currentKey → next.key = command.nextKey →
    current.version = command.currentOwnerVersion → next.version = command.nextOwnerVersion →
    ∀ actor : ActorContext, actor.tenantScope.tenantId = command.tenantId →
      actor.actorId = command.currentOwnerActorId →
      let decides := decideOwnerTransfer actor current.membership next.membership
        (before.boundary command.tenantId)
      (output = .ok () ↔
        (∃ decision, decides = .ok decision) ∧ Storable before command current next) ∧
      ∀ decision, decides = .ok decision → output = .ok () →
        (∃ row ∈ after.memberships, row.membership = decision.previousOwner) ∧
        ∃ row ∈ after.memberships, row.membership = decision.nextOwner

/-- The same of a change of status, whose actor has to have a membership. -/
def StatusAgrees (command : MembershipStatusCommandRow) (before : Tables)
    (output : Except Refusal Unit) (after : Tables) : Prop :=
  ∀ target ∈ before.memberships, target.key = command.targetKey →
    target.version = command.expectedVersion →
    ∀ actor : ActorContext, actor.tenantScope.tenantId = command.tenantId →
      actor.actorId = command.commandActorId →
      ∀ order : MembershipCommand, order.nextStatus = command.nextStatus →
        let decides := fun actorRow : MembershipRow => decideMembershipStatusChange actor
          actorRow.membership target.membership (before.boundary command.tenantId) order
        (output = .ok () ↔
          (∃ actorRow ∈ before.memberships, actorRow.key = command.commandKey ∧
            ∃ decided, decides actorRow = .ok decided) ∧ StatusStorable before command target) ∧
        ∀ actorRow ∈ before.memberships, actorRow.key = command.commandKey →
          ∀ decided, decides actorRow = .ok decided → output = .ok () →
            ∃ row ∈ after.memberships, row.membership = decided

/-- Under one owner nobody is in the way of a membership that becomes active. -/
theorem alone_of_oneOwner {command : MembershipStatusCommandRow} {target other : MembershipRow}
    (keyed : tables.Keyed) (one : tables.OneOwner command.tenantId)
    (held : target ∈ tables.memberships) (key : target.key = command.targetKey)
    (member : other ∈ tables.memberships) (differs : other.key ≠ target.key) :
    ¬Clashes other (command.moved target) := by
  obtain ⟨owner, exactly, -⟩ := (oneOwner_iff keyed).mp one
  have tenant : (command.moved target).key.tenantId = command.tenantId := by
    rw [key_moved, key]
    rfl
  rintro (same | ⟨owns, also⟩)
  · exact differs same
  · rw [tenant] at owns also
    have first := (exactly other).mp ⟨member, owns.1⟩
    have second := (exactly target).mp ⟨held, also.1⟩
    exact differs (congrArg _ (first.trans second.symm))

theorem advances_transferred {command : OwnerTransferCommandRow} {current next : MembershipRow}
    (keyed : tables.Keyed) (transfers : Transfers tables command current next) :
    Advances tables (tables.transferred command) [command.currentKey, command.nextKey] where
  held := by
    simp only [List.mem_cons, List.not_mem_nil, or_false]
    rintro key (rfl | rfl)
    · exact ⟨current, transfers.currentHeld, transfers.currentKey⟩
    · exact ⟨next, transfers.nextHeld, transfers.nextKey⟩
  moved := by
    simp only [List.mem_cons, List.not_mem_nil, or_false, mem_transferred keyed transfers]
    rintro row member (key | key)
    · obtain rfl := keyed.unique row member current transfers.currentHeld
        (key.trans transfers.currentKey.symm)
      exact ⟨_, .inr (.inl rfl), rfl, rfl⟩
    · obtain rfl := keyed.unique row member next transfers.nextHeld
        (key.trans transfers.nextKey.symm)
      exact ⟨_, .inr (.inr rfl), rfl, rfl⟩
  kept := by
    simp only [List.mem_cons, List.not_mem_nil, or_false, not_or, mem_transferred keyed transfers]
    rintro row member ⟨other, differs⟩
    exact .inl ⟨member, transfers.currentKey ▸ other, transfers.nextKey ▸ differs⟩

theorem advances_statusChanged {command : MembershipStatusCommandRow}
    {actor target : MembershipRow} (keyed : tables.Keyed)
    (changes : Changes tables command actor target) :
    Advances tables (tables.statusChanged command) [command.targetKey] where
  held := by
    simp only [List.mem_singleton]
    rintro key rfl
    exact ⟨target, changes.targetHeld, changes.targetKey⟩
  moved := by
    simp only [List.mem_singleton, mem_statusChanged keyed changes]
    rintro row member key
    obtain rfl := keyed.unique row member target changes.targetHeld
      (key.trans changes.targetKey.symm)
    exact ⟨_, .inr rfl, rfl, rfl⟩
  kept := by
    simp only [List.mem_singleton, mem_statusChanged keyed changes]
    rintro row member other
    exact .inl ⟨member, changes.targetKey ▸ other⟩

theorem step_eq_ok {statement : Statement} :
    ((membershipStatements triggers).step tables statement).1 = .ok () ↔
      tables.run triggers statement = .ok ((membershipStatements triggers).step tables statement).2 := by
  simp only [membershipStatements]
  split
  next after ran => exact iff_of_true rfl ran
  next why ran => exact ⟨fun impossible => (by cases impossible), fun ok => by rw [ran] at ok; cases ok⟩

theorem step_eq_error {statement : Statement} {why : Refusal}
    (refused : ((membershipStatements triggers).step tables statement).1 = .error why) :
    ((membershipStatements triggers).step tables statement).2 = tables := by
  simp only [membershipStatements] at refused ⊢
  split at refused
  next => cases refused
  next => rfl

theorem decideOwnerTransfer_rows {command : OwnerTransferCommandRow} {current next : MembershipRow}
    {actor : ActorContext} {boundary : TenantBoundarySummary} {decision : OwnerTransferDecision}
    (tenant : actor.tenantScope.tenantId = command.tenantId)
    (acts : actor.actorId = command.currentOwnerActorId)
    (currentKey : current.key = command.currentKey) (nextKey : next.key = command.nextKey) :
    decideOwnerTransfer actor current.membership next.membership boundary = .ok decision ↔
      (current.role = .tenantOwner ∧ current.status = .active) ∧
      (command.currentOwnerActorId ≠ command.nextOwnerActorId ∧ next.role = .member ∧
        next.status = .active) ∧ boundary.activeOwnerCount = 1 ∧
      decision = ⟨{ current.membership with role := .member, status := .active },
        { next.membership with role := .tenantOwner, status := .active }⟩ := by
  have owner : current.membership.actorId = command.currentOwnerActorId :=
    congrArg MembershipKey.actorId currentKey
  have successor : next.membership.actorId = command.nextOwnerActorId :=
    congrArg MembershipKey.actorId nextKey
  have differ : (next.membership.actorId ≠ current.membership.actorId) =
      (command.currentOwnerActorId ≠ command.nextOwnerActorId) := by
    rw [owner, successor]
    exact propext ne_comm
  refine (decideOwnerTransfer_eq_ok ((congrArg MembershipKey.tenantId currentKey).trans tenant.symm)
    ((congrArg MembershipKey.tenantId nextKey).trans tenant.symm)
    (owner.trans acts.symm)).trans ?_
  rw [differ]
  rfl

theorem decideMembershipStatusChange_rows {command : MembershipStatusCommandRow}
    {actorRow target : MembershipRow} {actor : ActorContext} {boundary : TenantBoundarySummary}
    {order : MembershipCommand} {decided : Membership}
    (tenant : actor.tenantScope.tenantId = command.tenantId)
    (acts : actor.actorId = command.commandActorId)
    (ordered : order.nextStatus = command.nextStatus)
    (actorKey : actorRow.key = command.commandKey) (targetKey : target.key = command.targetKey) :
    decideMembershipStatusChange actor actorRow.membership target.membership boundary order =
        .ok decided ↔
      (actorRow.role = .tenantOwner ∧ actorRow.status = .active) ∧
      ¬(target.role = .tenantOwner ∧ target.status = .active ∧ command.nextStatus ≠ .active ∧
        boundary.activeOwnerCount ≤ 1) ∧
      ¬(target.status = .revoked ∧ command.nextStatus ≠ .revoked) ∧
      decided = { target.membership with status := command.nextStatus } := by
  rw [← ordered]
  exact decideMembershipStatusChange_eq_ok
    ((congrArg MembershipKey.tenantId actorKey).trans tenant.symm)
    ((congrArg MembershipKey.tenantId targetKey).trans tenant.symm)
    ((congrArg MembershipKey.actorId actorKey).trans acts.symm)

theorem transferAgrees_step (keyed : tables.Keyed) (command : OwnerTransferCommandRow) :
    TransferAgrees command tables
      ((membershipStatements triggers).step tables (.transferOwner command)).1
      ((membershipStatements triggers).step tables (.transferOwner command)).2 := by
  intro current held next nextHeld currentKey nextKey version nextVersion actor tenant acts
  have found (transfers : ∃ current next, Transfers tables command current next ∧
      Storable tables command current next) :
      Transfers tables command current next ∧ Storable tables command current next := by
    obtain ⟨first, second, transfers, storable⟩ := transfers
    obtain rfl := keyed.unique current held first transfers.currentHeld
      (currentKey.trans transfers.currentKey.symm)
    obtain rfl := keyed.unique next nextHeld second transfers.nextHeld
      (nextKey.trans transfers.nextKey.symm)
    exact ⟨transfers, storable⟩
  refine ⟨⟨fun accepted => ?_, ?_⟩, fun decision made accepted => ?_⟩
  · obtain ⟨transfers, storable⟩ :=
      found ((transferOwner_eq_ok keyed).mp (step_eq_ok.mp accepted)).1
    exact ⟨⟨_, (decideOwnerTransfer_rows tenant acts currentKey nextKey).mpr ⟨transfers.owns,
      ⟨transfers.differ, transfers.follows⟩, transfers.single, rfl⟩⟩, storable⟩
  · rintro ⟨⟨decision, made⟩, storable⟩
    obtain ⟨owns, ⟨differ, follows⟩, single, -⟩ :=
      (decideOwnerTransfer_rows tenant acts currentKey nextKey).mp made
    have ran : transferOwner triggers tables command = .ok (tables.transferred command) :=
      (transferOwner_eq_ok keyed).mpr ⟨⟨current, next, ⟨held, nextHeld, currentKey, nextKey, owns,
        follows, ⟨version, nextVersion⟩, differ, single⟩, storable⟩, rfl⟩
    simp only [membershipStatements, run, ran]
  · obtain ⟨transfers, same⟩ := (transferOwner_eq_ok keyed).mp (step_eq_ok.mp accepted)
    obtain ⟨transfers, -⟩ := found transfers
    obtain ⟨-, -, -, rfl⟩ := (decideOwnerTransfer_rows tenant acts currentKey nextKey).mp made
    rw [same]
    refine ⟨⟨_, (mem_transferred keyed transfers).mpr (.inr (.inl rfl)), ?_⟩,
      _, (mem_transferred keyed transfers).mpr (.inr (.inr rfl)), ?_⟩
    · exact congrArg (Membership.mk _ _ _) transfers.owns.2
    · exact congrArg (Membership.mk _ _ _) transfers.follows.2

theorem statusAgrees_step {command : MembershipStatusCommandRow} (keyed : tables.Keyed)
    (one : tables.OneOwner command.tenantId) :
    StatusAgrees command tables
      ((membershipStatements triggers).step tables (.changeStatus command)).1
      ((membershipStatements triggers).step tables (.changeStatus command)).2 := by
  intro target held targetKey version actor tenant acts order ordered
  refine ⟨⟨fun accepted => ?_, ?_⟩, fun actorRow actorHeld actorKey decided made accepted => ?_⟩
  · obtain ⟨⟨actorRow, found, changes, storable, -⟩, -⟩ :=
      (changeStatus_eq_ok keyed).mp (step_eq_ok.mp accepted)
    obtain rfl := keyed.unique target held found changes.targetHeld
      (targetKey.trans changes.targetKey.symm)
    refine ⟨⟨actorRow, changes.actorHeld, changes.actorKey, _,
      (decideMembershipStatusChange_rows tenant acts ordered changes.actorKey targetKey).mpr
        ⟨changes.owns, ?_, changes.moves, rfl⟩⟩, storable⟩
    rintro ⟨role, status, leaves, last⟩
    exact changes.spared ⟨leaves, ⟨role, status⟩, last⟩
  · rintro ⟨⟨actorRow, actorHeld, actorKey, decided, made⟩, storable⟩
    obtain ⟨owns, spared, moves, -⟩ :=
      (decideMembershipStatusChange_rows tenant acts ordered actorKey targetKey).mp made
    have changes : Changes tables command actorRow target := {
      actorHeld, actorKey, owns, targetHeld := held, targetKey, version, moves
      spared := fun ⟨leaves, ⟨role, status⟩, last⟩ => spared ⟨role, status, leaves, last⟩ }
    have ran : changeStatus triggers tables command = .ok (tables.statusChanged command) :=
      (changeStatus_eq_ok keyed).mpr ⟨⟨actorRow, target, changes, storable, fun _ member differs =>
        alone_of_oneOwner keyed one held targetKey member differs⟩, rfl⟩
    simp only [membershipStatements, run, ran]
  · obtain ⟨⟨_, found, changes, -, -⟩, same⟩ :=
      (changeStatus_eq_ok keyed).mp (step_eq_ok.mp accepted)
    obtain rfl := keyed.unique target held found changes.targetHeld
      (targetKey.trans changes.targetKey.symm)
    obtain ⟨-, -, -, rfl⟩ :=
      (decideMembershipStatusChange_rows tenant acts ordered actorKey targetKey).mp made
    rw [same]
    exact ⟨_, (mem_statusChanged keyed changes).mpr (.inr rfl), rfl⟩

end Agreement

section Runs

variable {triggers : ValidateTriggers} {tables : Tables} {tenantId : TenantId}

/-- What one statement leaves, whether it goes through or not. -/
structure Conforms (tenantId : TenantId)
    (entry : Entry Tables Statement (Except Refusal Unit)) : Prop where
  owner : entry.after.OneOwner tenantId
  refused : ∀ why, entry.output = .error why → entry.after = entry.before
  transfers : ∀ command, entry.input = .transferOwner command → command.tenantId = tenantId →
    TransferAgrees command entry.before entry.output entry.after ∧
    (entry.output = .ok () →
      Advances entry.before entry.after [command.currentKey, command.nextKey])
  changes : ∀ command, entry.input = .changeStatus command → command.tenantId = tenantId →
    StatusAgrees command entry.before entry.output entry.after ∧
    (entry.output = .ok () → Advances entry.before entry.after [command.targetKey])

theorem keyed_step (keyed : tables.Keyed) (statement : Statement) :
    ((membershipStatements triggers).step tables statement).2.Keyed := by
  simp only [membershipStatements]
  split
  next after ran => exact keyed_run keyed ran
  next => exact keyed

theorem oneOwner_step {statement : Statement} (keyed : tables.Keyed)
    (one : tables.OneOwner tenantId) (arrives : statement.ArrivesAsMember tenantId) :
    ((membershipStatements triggers).step tables statement).2.OneOwner tenantId := by
  simp only [membershipStatements]
  split
  next after ran => exact oneOwner_run keyed one arrives ran
  next => exact one

theorem staysRevoked_step (keyed : tables.Keyed) (statement : Statement) :
    StaysRevoked tables ((membershipStatements triggers).step tables statement).2 := by
  simp only [membershipStatements]
  split
  next after ran => exact staysRevoked_run keyed ran
  next => exact fun row member revoked => ⟨row, member, rfl, revoked⟩

theorem conforms_step {statement : Statement} (keyed : tables.Keyed)
    (one : tables.OneOwner tenantId) (arrives : statement.ArrivesAsMember tenantId) :
    Conforms tenantId ((membershipStatements triggers).entry tables statement) where
  owner := oneOwner_step keyed one arrives
  refused := fun _ refused => step_eq_error refused
  transfers := by
    rintro command rfl -
    refine ⟨transferAgrees_step keyed command, fun accepted => ?_⟩
    obtain ⟨⟨current, next, transfers, -⟩, same⟩ :=
      (transferOwner_eq_ok keyed).mp (step_eq_ok.mp accepted)
    simp only [Machine.entry, same]
    exact advances_transferred keyed transfers
  changes := by
    rintro command rfl rfl
    refine ⟨statusAgrees_step keyed one, fun accepted => ?_⟩
    obtain ⟨⟨actor, target, changes, -⟩, same⟩ :=
      (changeStatus_eq_ok keyed).mp (step_eq_ok.mp accepted)
    simp only [Machine.entry, same]
    exact advances_statusChanged keyed changes

theorem conforms_history (keyed : tables.Keyed) (one : tables.OneOwner tenantId)
    (statements : List Statement)
    (arrive : ∀ statement ∈ statements, statement.ArrivesAsMember tenantId) :
    ∀ entry ∈ (membershipStatements triggers).history tables statements,
      Conforms tenantId entry := by
  induction statements generalizing tables with
  | nil => simp
  | cons statement rest ih =>
    obtain ⟨arrives, later⟩ := List.forall_mem_cons.mp arrive
    exact List.forall_mem_cons.mpr ⟨conforms_step keyed one arrives,
      ih (keyed_step keyed statement) (oneOwner_step keyed one arrives) later⟩

theorem staysRevoked_final (keyed : tables.Keyed) (statements : List Statement) :
    StaysRevoked tables ((membershipStatements triggers).final tables statements) := by
  induction statements generalizing tables with
  | nil => exact fun row member revoked => ⟨row, member, rfl, revoked⟩
  | cons statement rest ih =>
    intro row member revoked
    obtain ⟨next, moved, key, still⟩ := staysRevoked_step keyed statement row member revoked
    obtain ⟨later, held, same, last⟩ := ih (keyed_step keyed statement) next moved still
    exact ⟨later, held, same.trans key, last⟩

/-- A tenant that starts with its one owner keeps exactly one, nobody revoked comes back, and the
triggers let through what the decisions allow. -/
theorem always_one_owner (triggers : ValidateTriggers) {tables : Tables} (keyed : tables.Keyed)
    {tenantId : TenantId} (one : tables.OneOwner tenantId) (statements : List Statement)
    (arrive : ∀ statement ∈ statements, statement.ArrivesAsMember tenantId) :
    (∀ entry ∈ (membershipStatements triggers).history tables statements,
      Conforms tenantId entry) ∧
    ∀ earlier later, statements = earlier ++ later →
      StaysRevoked ((membershipStatements triggers).final tables earlier)
        ((membershipStatements triggers).final tables statements) := by
  refine ⟨conforms_history keyed one statements arrive, ?_⟩
  rintro earlier later rfl
  have held : ((membershipStatements triggers).final tables earlier).Keyed :=
    (membershipStatements triggers).invariant Keyed
      (fun tables statement keyed => keyed_step keyed statement) keyed earlier
  rw [Machine.final_append]
  exact staysRevoked_final held later

end Runs

namespace SampleOwner

def tenantId : TenantId := ⟨⟨"tenant-one-owner", by decide⟩⟩
def founder : ActorId := ⟨⟨"actor-one-owner", by decide⟩⟩
def colleague : ActorId := ⟨⟨"actor-one-member", by decide⟩⟩

def owner : MembershipRow := ⟨⟨tenantId, founder⟩, .tenantOwner, .active, 1, 4100, 4100⟩
def member : MembershipRow := ⟨⟨tenantId, colleague⟩, .member, .active, 1, 4200, 4200⟩
def tables : Tables := ⟨[owner, member], [], []⟩

def suspends (executedAtMs : Nat) : MembershipStatusCommandRow :=
  ⟨tenantId, "command-one-suspends", founder, colleague, 1, .suspended, executedAtMs⟩

def handsOver : OwnerTransferCommandRow :=
  ⟨tenantId, "command-one-hands-over", founder, colleague, 1, 1, 4300⟩

def statements : List Statement :=
  [.transferOwner handsOver, .transferOwner handsOver, .changeStatus (suspends 4400)]

def actor : ActorContext := ⟨⟨tenantId⟩, founder, ⟨⟨"correlation-one-owner", by decide⟩⟩⟩

end SampleOwner

open SampleOwner in
theorem always_one_owner_transfer :
    ((membershipStatements .governedCommands).history tables statements).map Entry.output =
        [.ok (), .error (.abort "owner_transfer_current_owner_mismatch"),
          .error (.abort "membership_status_owner_required")] ∧
      (∀ entry ∈ (membershipStatements .governedCommands).history tables statements,
        Conforms tenantId entry) ∧
      ∀ earlier later, statements = earlier ++ later →
        StaysRevoked ((membershipStatements .governedCommands).final tables earlier)
          ((membershipStatements .governedCommands).final tables statements) := by
  have keyed : tables.Keyed := by unfold Keyed; decide
  have arrive : ∀ statement ∈ statements, statement.ArrivesAsMember tenantId := by
    rintro _ member row rfl
    simp [statements] at member
  exact ⟨by decide, always_one_owner .governedCommands keyed ⟨owner, by decide, rfl⟩ statements arrive⟩

open SampleOwner in
/-- A change of status leaves the membership of the owner who orders it at its version. One that is
dated before the member arrived is decided on with current versions, and is not let through. -/
theorem acting_owner_not_advanced :
    (((membershipStatements .governedCommands).step tables (.changeStatus (suspends 4300))).1 =
        .ok () ∧
      ¬Advances tables
        ((membershipStatements .governedCommands).step tables (.changeStatus (suspends 4300))).2
        [(suspends 4300).commandKey, (suspends 4300).targetKey]) ∧
    (member.key = (suspends 4100).targetKey ∧ member.version = (suspends 4100).expectedVersion ∧
      (∃ decided, decideMembershipStatusChange actor owner.membership member.membership
        (tables.boundary tenantId) .suspend = .ok decided) ∧
      ((membershipStatements .governedCommands).step tables (.changeStatus (suspends 4100))).1 =
        .error .check) := by
  refine ⟨⟨by decide, fun advances => ?_⟩, rfl, rfl, ⟨_, rfl⟩, by decide⟩
  exact absurd (advances.moved owner (by decide) (by decide)) (by decide)

end ProfilePlatform.Identity
