import ProfilePlatform.ReadModels.Pages

/-! Under the schema every selected row reads, and the listings show what the actor may see. -/

set_option autoImplicit false

namespace ProfilePlatform.ReadModels

open Foundation

section Shown

variable {database : Database} {actor : ActorContext}

theorem sees_iff {linked : Option String} {projection : ProfileReadProjection} :
    SeesProfile database actor linked projection ↔
      ∃ profile ∈ visibleProfiles database actor,
        Linked database profile linked ∧ mapProfileRow (profile.row linked) = .ok projection := by
  simp only [SeesProfile, mem_visibleProfiles, and_assoc]

theorem mem_wrapped {Item : Type} {wrap : Item → GlobalSearchProjection}
    (injective : Function.Injective wrap) {items : List Item} {item : Item} :
    wrap item ∈ items.map wrap ↔ item ∈ items :=
  List.mem_map_of_injective injective

theorem mem_shown_clients {projection : ClientReadProjection} :
    .client projection ∈ shown database actor .clients ↔
      Visible database actor .clients (.client projection) := by
  rw [shown, mem_wrapped fun _ _ => GlobalSearchProjection.client.inj, mem_readIn, Visible]
  simp only [clientRows, List.mem_map, List.mem_filter, Bool.and_eq_true, beq_iff_eq]
  constructor
  · rintro ⟨row, ⟨client, ⟨stored, same, allowed⟩, rfl⟩, read⟩
    rw [same] at allowed
    exact ⟨client, stored, same, granted_iff.mp allowed, read⟩
  · rintro ⟨client, stored, same, allowed, read⟩
    refine ⟨client.row, ⟨client, ⟨stored, same, ?_⟩, rfl⟩, read⟩
    rw [same]
    exact granted_iff.mpr allowed

theorem mem_shown_profiles {projection : ProfileReadProjection} :
    .profile projection ∈ shown database actor .profiles ↔
      Visible database actor .profiles (.profile projection) := by
  rw [shown, mem_wrapped fun _ _ => GlobalSearchProjection.profile.inj, mem_readIn, Visible]
  simp only [profileRows, List.mem_flatMap, mem_leftJoined, sees_iff]
  constructor
  · rintro ⟨row, ⟨profile, seen, linked, link, rfl⟩, read⟩
    exact ⟨linked, profile, seen, link, read⟩
  · rintro ⟨linked, profile, seen, link, read⟩
    exact ⟨_, ⟨profile, seen, linked, link, rfl⟩, read⟩

theorem mem_shown_profilesForClient {clientId : ClientId} {projection : ProfileReadProjection} :
    .profile projection ∈ shown database actor (.profilesForClient clientId) ↔
      Visible database actor (.profilesForClient clientId) (.profile projection) := by
  rw [shown, mem_wrapped fun _ _ => GlobalSearchProjection.profile.inj, mem_readIn, Visible]
  simp only [profileRowsForClient, List.mem_flatMap, mem_innerJoined, sees_iff]
  constructor
  · rintro ⟨row, ⟨profile, seen, link, rfl⟩, read⟩
    exact ⟨profile, seen, link, read⟩
  · rintro ⟨profile, seen, link, read⟩
    exact ⟨_, ⟨profile, seen, link, rfl⟩, read⟩

theorem mem_shown_members {projection : MemberReadProjection} :
    .member projection ∈ shown database actor .members ↔
      Visible database actor .members (.member projection) := by
  rw [shown, mem_wrapped fun _ _ => GlobalSearchProjection.member.inj, mem_readIn, Visible]
  simp only [memberRows, List.mem_map, List.mem_filter, Bool.and_eq_true, beq_iff_eq]
  constructor
  · rintro ⟨row, ⟨membership, ⟨stored, same, allowed⟩, rfl⟩, read⟩
    rw [same] at allowed
    exact ⟨membership, stored, same, owned_iff.mp allowed, read⟩
  · rintro ⟨membership, stored, same, allowed, read⟩
    refine ⟨membership.row, ⟨membership, ⟨stored, same, ?_⟩, rfl⟩, read⟩
    rw [same]
    exact owned_iff.mpr allowed

theorem mem_shown_mailboxes {projection : MailboxReadProjection} :
    .mailbox projection ∈ shown database actor .mailboxes ↔
      Visible database actor .mailboxes (.mailbox projection) := by
  rw [shown, mem_wrapped fun _ _ => GlobalSearchProjection.mailbox.inj, mem_readIn, Visible]
  simp only [mailboxRows, List.mem_map, List.mem_filter, Bool.and_eq_true, beq_iff_eq]
  constructor
  · rintro ⟨row, ⟨binding, ⟨stored, same, allowed⟩, rfl⟩, read⟩
    rw [same] at allowed
    exact ⟨binding, stored, same, owned_iff.mp allowed, read⟩
  · rintro ⟨binding, stored, same, allowed, read⟩
    refine ⟨binding.row, ⟨binding, ⟨stored, same, ?_⟩, rfl⟩, read⟩
    rw [same]
    exact owned_iff.mpr allowed

theorem mem_shown {listing : Listing} {projection : GlobalSearchProjection} :
    projection ∈ shown database actor listing ↔ Visible database actor listing projection := by
  cases listing <;> cases projection
  case clients.client => exact mem_shown_clients
  case profiles.profile => exact mem_shown_profiles
  case profilesForClient.profile => exact mem_shown_profilesForClient
  case members.member => exact mem_shown_members
  case mailboxes.mailbox => exact mem_shown_mailboxes
  all_goals simp [shown, Visible]

end Shown

section Reading

variable {A : Type}

theorem oneOf_reads {names : List (String × A)} {value : String}
    (listed : (names.map Prod.fst).contains value = true) : ∃ result, oneOf names value = .ok result := by
  rw [List.contains_iff_mem, List.mem_map] at listed
  obtain ⟨name, member, rfl⟩ := listed
  have found : (names.find? fun other => other.1 = name.1).isSome = true :=
    List.find?_isSome.mpr ⟨name, member, decide_eq_true rfl⟩
  obtain ⟨other, first⟩ := Option.isSome_iff_exists.mp found
  exact ⟨other.2, by rw [oneOf, first]; rfl⟩

theorem parseId_reads {value : String} (accepted : OpaqueId.accepts value = true) :
    parseId value = .ok ⟨value, accepted⟩ := by
  rw [parseId, idParse_eq_ok accepted]
  rfl

theorem parseNullable_reads {value : Option String} (accepted : value.all OpaqueId.accepts = true) :
    ∃ result, parseNullable value = .ok result := by
  cases value with
  | none => exact ⟨none, rfl⟩
  | some text => exact ⟨some ⟨text, accepted⟩, by rw [parseNullable, parseId_reads accepted]; rfl⟩

theorem aggregateVersion_reads {value : Int} (positive : 1 ≤ value) :
    ∃ version, aggregateVersion value = .ok version := by
  have some_version : value.toNat ≠ 0 := by omega
  exact ⟨⟨value.toNat, some_version⟩, by rw [aggregateVersion, dif_pos some_version]⟩

theorem mapClientRow_reads {client : ClientColumns} (checked : client.checked = true) :
    ∃ projection, mapClientRow client.row = .ok projection ∧
      projection.clientId.intoOpaque.asStr = client.clientId := by
  simp only [ClientColumns.checked, Bool.and_eq_true, decide_eq_true_eq] at checked
  obtain ⟨⟨⟨accepted, kinds⟩, statuses⟩, positive⟩ := checked
  obtain ⟨kind, kind_read⟩ : ∃ kind, clientKind client.kind = .ok kind := oneOf_reads kinds
  obtain ⟨status, status_read⟩ : ∃ status, clientStatus client.status = .ok status :=
    oneOf_reads statuses
  obtain ⟨version, version_read⟩ := aggregateVersion_reads positive
  refine ⟨⟨⟨⟨client.clientId, accepted⟩⟩, kind, client.displayName, status, version⟩, ?_, rfl⟩
  simp only [mapClientRow, ClientColumns.row, parseId_reads accepted, kind_read, status_read,
    version_read]
  rfl

theorem mapProfileRow_reads {profile : ProfileColumns} {linked : Option String}
    (checked : profile.checked = true) (assigned : linked.all OpaqueId.accepts = true) :
    ∃ projection, mapProfileRow (profile.row linked) = .ok projection ∧
      projection.profileId.asStr = profile.profileId := by
  simp only [ProfileColumns.checked, Bool.and_eq_true, decide_eq_true_eq] at checked
  obtain ⟨⟨⟨accepted, statuses⟩, positive⟩, generated⟩ := checked
  obtain ⟨status, status_read⟩ : ∃ status, profileStatus profile.status = .ok status :=
    oneOf_reads statuses
  obtain ⟨version, version_read⟩ := aggregateVersion_reads positive
  obtain ⟨client, client_read⟩ := parseNullable_reads assigned
  obtain ⟨generation, generation_read⟩ := parseNullable_reads generated
  refine ⟨⟨⟨⟨profile.profileId, accepted⟩⟩, status, version, client.map ClientId.mk,
    generation.map TypedId.mk⟩, ?_, rfl⟩
  simp only [mapProfileRow, ProfileColumns.row, parseId_reads accepted, status_read, version_read,
    client_read, generation_read]
  rfl

theorem mapMemberRow_reads {membership : MembershipColumns} (checked : membership.checked = true) :
    ∃ projection, mapMemberRow membership.row = .ok projection ∧
      projection.actorId.asStr = membership.actorId := by
  simp only [MembershipColumns.checked, Bool.and_eq_true] at checked
  obtain ⟨⟨accepted, roles⟩, statuses⟩ := checked
  obtain ⟨role, role_read⟩ : ∃ role, membershipRole membership.role = .ok role := oneOf_reads roles
  obtain ⟨status, status_read⟩ : ∃ status, membershipStatus membership.status = .ok status :=
    oneOf_reads statuses
  refine ⟨⟨⟨⟨membership.actorId, accepted⟩⟩, role, status⟩, ?_, rfl⟩
  simp only [mapMemberRow, MembershipColumns.row, parseId_reads accepted, role_read, status_read]
  rfl

theorem mapMailboxRow_reads {binding : MailboxColumns} (checked : binding.checked = true) :
    ∃ projection, mapMailboxRow binding.row = .ok projection ∧
      projection.bindingId.intoOpaque.asStr = binding.bindingId := by
  simp only [MailboxColumns.checked, Bool.and_eq_true, decide_eq_true_eq] at checked
  obtain ⟨⟨⟨accepted, providers⟩, statuses⟩, positive⟩ := checked
  obtain ⟨provider, provider_read⟩ : ∃ provider, mailboxProvider binding.provider = .ok provider :=
    oneOf_reads providers
  obtain ⟨status, status_read⟩ : ∃ status, mailboxStatus binding.status = .ok status :=
    oneOf_reads statuses
  obtain ⟨version, version_read⟩ := aggregateVersion_reads positive
  refine ⟨⟨⟨⟨binding.bindingId, accepted⟩⟩, provider, status, version⟩, ?_, rfl⟩
  simp only [mapMailboxRow, MailboxColumns.row, parseId_reads accepted, provider_read, status_read,
    version_read]
  rfl

end Reading

section Distinct

variable {database : Database} {actor : ActorContext}

theorem nodup_of_tenant {Columns : Type} {tenantOf idOf : Columns → String} {stored kept : List Columns}
    (tenantId : String) (keys : (stored.map fun row => (tenantOf row, idOf row)).Nodup)
    (among : kept.Sublist stored) (same : ∀ row ∈ kept, tenantOf row = tenantId) :
    (kept.map idOf).Nodup := by
  have apart := List.pairwise_map.mp (keys.sublist (among.map fun row => (tenantOf row, idOf row)))
  refine List.pairwise_map.mpr (apart.imp_of_mem ?_)
  intro first second first_kept second_kept differ equal
  exact differ (Prod.ext ((same first first_kept).trans (same second second_kept).symm) equal)

theorem openAssignments_small (holds : database.Holds) (profile : ProfileColumns) :
    (openAssignments database profile).length ≤ 1 := by
  have among : (openAssignments database profile).Sublist
      (database.assignments.filter AssignmentColumns.isOpen) := by
    have narrowed : openAssignments database profile =
        (database.assignments.filter AssignmentColumns.isOpen).filter fun assignment =>
          assignment.tenantId == profile.tenantId && assignment.profileId == profile.profileId := by
      rw [List.filter_filter]
      exact List.filter_congr fun assignment _ => by rw [Bool.and_comm]
    rw [narrowed]
    exact List.filter_sublist
  have apart := List.pairwise_map.mp (holds.openKeys.sublist (among.map _))
  rcases found : openAssignments database profile with _ | ⟨first, _ | ⟨second, rest⟩⟩
  · exact Nat.zero_le 1
  · exact Nat.le_refl 1
  · have first_listed : first ∈ openAssignments database profile := by simp [found]
    have second_listed : second ∈ openAssignments database profile := by simp [found]
    obtain ⟨-, first_tenant, first_profile, -⟩ := mem_openAssignments.mp first_listed
    obtain ⟨-, second_tenant, second_profile, -⟩ := mem_openAssignments.mp second_listed
    rw [found] at apart
    have differ := (List.pairwise_cons.mp apart).1 second List.mem_cons_self
    exact absurd (Prod.ext (first_tenant.trans second_tenant.symm)
      (first_profile.trans second_profile.symm)) differ

theorem leftJoined_small (holds : database.Holds) (profile : ProfileColumns) :
    ((leftJoined database profile).map ProfileRow.profileId).Sublist [profile.profileId] := by
  have small := openAssignments_small holds profile
  rw [leftJoined]
  split
  next => exact List.Sublist.refl _
  next =>
    rw [List.map_map]
    generalize openAssignments database profile = found at small
    rcases found with _ | ⟨first, _ | ⟨second, rest⟩⟩
    · exact List.nil_sublist _
    · exact List.Sublist.refl _
    · simp at small

theorem innerJoined_small (holds : database.Holds) (clientId : ClientId) (profile : ProfileColumns) :
    ((innerJoined database clientId profile).map ProfileRow.profileId).Sublist [profile.profileId] := by
  have small := openAssignments_small holds profile
  have kept : ((openAssignments database profile).filter fun assignment =>
      assignment.clientId == clientId.intoOpaque.asStr).length ≤ 1 :=
    Nat.le_trans (List.length_filter_le _ _) small
  rw [innerJoined, List.map_map]
  generalize ((openAssignments database profile).filter fun assignment =>
    assignment.clientId == clientId.intoOpaque.asStr) = found at kept
  rcases found with _ | ⟨first, _ | ⟨second, rest⟩⟩
  · exact List.nil_sublist _
  · exact List.Sublist.refl _
  · simp at kept

theorem flatMap_sublist {joined : ProfileColumns → List ProfileRow} {profiles : List ProfileColumns}
    (small : ∀ profile,
      ((joined profile).map ProfileRow.profileId).Sublist [profile.profileId]) :
    ((profiles.flatMap joined).map ProfileRow.profileId).Sublist
      (profiles.map ProfileColumns.profileId) := by
  induction profiles with
  | nil => exact List.Sublist.refl _
  | cons profile rest ih =>
    rw [List.flatMap_cons, List.map_append, List.map_cons, ← List.singleton_append]
    exact (small profile).append ih

theorem visibleProfiles_distinct (holds : database.Holds) :
    ((visibleProfiles database actor).map ProfileColumns.profileId).Nodup := by
  refine nodup_of_tenant (ActorContext.tenant actor) holds.profileKeys List.filter_sublist fun profile member => ?_
  exact (mem_visibleProfiles.mp member).2.1

theorem linked_accepted (holds : database.Holds) {profile : ProfileColumns} {linked : Option String}
    (link : Linked database profile linked) : linked.all OpaqueId.accepts = true := by
  cases linked with
  | none => rfl
  | some clientId =>
    obtain ⟨assignment, stored, -, -, -, rfl⟩ := link
    exact holds.assigned assignment stored

end Distinct

section Readable

variable {database : Database} {actor : ActorContext} (holds : database.Holds)

include holds

theorem clientRows_readable : Readable ClientRow.clientId mapClientRow
    (fun item => item.clientId.intoOpaque.asStr) (clientRows database actor) := by
  have checked : ∀ row ∈ clientRows database actor, ∃ client : ClientColumns,
      client.checked = true ∧ client.row = row := by
    intro row member
    obtain ⟨client, listed, same⟩ := List.mem_map.mp member
    exact ⟨client, holds.clients client (List.mem_of_mem_filter listed), same⟩
  refine ⟨fun row member => ?_, fun row member => ?_, ?_⟩
  · obtain ⟨client, sound, rfl⟩ := checked row member
    exact mapClientRow_reads sound
  · obtain ⟨client, sound, rfl⟩ := checked row member
    simp only [ClientColumns.checked, Bool.and_eq_true] at sound
    exact sound.1.1.1
  · rw [clientRows, List.map_map]
    refine nodup_of_tenant (ActorContext.tenant actor) holds.clientKeys List.filter_sublist fun client member => ?_
    have selected := (List.mem_filter.mp member).2
    simp only [Bool.and_eq_true, beq_iff_eq] at selected
    exact selected.1

theorem memberRows_readable : Readable MemberRow.actorId mapMemberRow
    (fun item => item.actorId.asStr) (memberRows database actor) := by
  have checked : ∀ row ∈ memberRows database actor, ∃ membership : MembershipColumns,
      membership.checked = true ∧ membership.row = row := by
    intro row member
    obtain ⟨membership, listed, same⟩ := List.mem_map.mp member
    exact ⟨membership, holds.memberships membership (List.mem_of_mem_filter listed), same⟩
  refine ⟨fun row member => ?_, fun row member => ?_, ?_⟩
  · obtain ⟨membership, sound, rfl⟩ := checked row member
    exact mapMemberRow_reads sound
  · obtain ⟨membership, sound, rfl⟩ := checked row member
    simp only [MembershipColumns.checked, Bool.and_eq_true] at sound
    exact sound.1.1
  · rw [memberRows, List.map_map]
    refine nodup_of_tenant (ActorContext.tenant actor) holds.membershipKeys List.filter_sublist fun membership member => ?_
    have selected := (List.mem_filter.mp member).2
    simp only [Bool.and_eq_true, beq_iff_eq] at selected
    exact selected.1

theorem mailboxRows_readable : Readable MailboxRow.bindingId mapMailboxRow
    (fun item => item.bindingId.intoOpaque.asStr) (mailboxRows database actor) := by
  have checked : ∀ row ∈ mailboxRows database actor, ∃ binding : MailboxColumns,
      binding.checked = true ∧ binding.row = row := by
    intro row member
    obtain ⟨binding, listed, same⟩ := List.mem_map.mp member
    exact ⟨binding, holds.mailboxes binding (List.mem_of_mem_filter listed), same⟩
  refine ⟨fun row member => ?_, fun row member => ?_, ?_⟩
  · obtain ⟨binding, sound, rfl⟩ := checked row member
    exact mapMailboxRow_reads sound
  · obtain ⟨binding, sound, rfl⟩ := checked row member
    simp only [MailboxColumns.checked, Bool.and_eq_true] at sound
    exact sound.1.1.1
  · rw [mailboxRows, List.map_map]
    refine nodup_of_tenant (ActorContext.tenant actor) holds.mailboxKeys List.filter_sublist fun binding member => ?_
    have selected := (List.mem_filter.mp member).2
    simp only [Bool.and_eq_true, beq_iff_eq] at selected
    exact selected.1

/-- Both joins of the profiles give rows of linked profiles, one of each at most. -/
theorem joined_readable {joined : ProfileColumns → List ProfileRow}
    (linked : ∀ profile, ∀ row ∈ joined profile, ∃ link, Linked database profile link ∧
      row = profile.row link)
    (small : ∀ profile,
      ((joined profile).map ProfileRow.profileId).Sublist [profile.profileId]) :
    Readable ProfileRow.profileId mapProfileRow (fun item => item.profileId.asStr)
      ((visibleProfiles database actor).flatMap joined) := by
  have checked : ∀ row ∈ (visibleProfiles database actor).flatMap joined,
      ∃ (profile : ProfileColumns) (link : Option String), profile.checked = true ∧
        Linked database profile link ∧ row = profile.row link := by
    intro row member
    obtain ⟨profile, seen, within⟩ := List.mem_flatMap.mp member
    obtain ⟨link, holds_link, same⟩ := linked profile row within
    exact ⟨profile, link, holds.profiles profile (mem_visibleProfiles.mp seen).1, holds_link, same⟩
  refine ⟨fun row member => ?_, fun row member => ?_, ?_⟩
  · obtain ⟨profile, link, sound, holds_link, rfl⟩ := checked row member
    exact mapProfileRow_reads sound (linked_accepted holds holds_link)
  · obtain ⟨profile, link, sound, -, rfl⟩ := checked row member
    simp only [ProfileColumns.checked, Bool.and_eq_true] at sound
    exact sound.1.1.1
  · exact (visibleProfiles_distinct holds).sublist (flatMap_sublist small)

theorem profileRows_readable : Readable ProfileRow.profileId mapProfileRow
    (fun item => item.profileId.asStr) (profileRows database actor) :=
  joined_readable holds (fun _ _ member => mem_leftJoined.mp member) (leftJoined_small holds)

theorem profileRowsForClient_readable (clientId : ClientId) :
    Readable ProfileRow.profileId mapProfileRow (fun item => item.profileId.asStr)
      (profileRowsForClient database actor clientId) :=
  joined_readable holds (fun _ _ member => ⟨_, mem_innerJoined.mp member⟩)
    (innerJoined_small holds clientId)

end Readable

end ProfilePlatform.ReadModels
