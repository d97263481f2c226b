import ProfilePlatform.Adapters.Document
import ProfilePlatform.Foundation.Fallible
import ProfilePlatform.Session.Invariant

/-! The stored forms convert back to what they were made from. -/

set_option autoImplicit false

namespace ProfilePlatform.Adapters

open Foundation Session ProfileCoordinatorState

@[simp] theorem parseId_asStr {kind : IdKind} (id : TypedId kind) : parseId id.asStr = .ok id := by
  rw [parseId, TypedId.parse_asStr]
  rfl

@[simp] theorem parseVersion_value (version : AggregateVersion) :
    parseVersion version.value = .ok version := by
  rw [parseVersion, AggregateVersion.new_value]
  rfl

@[simp] theorem StoredCoordinatorStatus.toDomain_ofDomain (status : CoordinatorStatus) :
    (StoredCoordinatorStatus.ofDomain status).toDomain = status := by
  cases status <;> rfl

@[simp] theorem StoredPendingIntent.intoDomain_ofDomain (intent : PendingLaunchIntent) :
    (StoredPendingIntent.ofDomain intent).intoDomain = .ok intent := by
  simp only [StoredPendingIntent.intoDomain, StoredPendingIntent.ofDomain, parseId_asStr]
  rfl

theorem StoredActiveLease.intoDomain_ofDomain {s : ProfileCoordinatorState}
    {lease : CoordinatorLease} (ordered : s.LeaseOrdered lease) :
    (StoredActiveLease.ofDomain lease).intoDomain = .ok lease := by
  simp only [StoredActiveLease.intoDomain, StoredActiveLease.ofDomain, parseId_asStr]
  exact congrArg (Except.mapError CoordinatorAdapterError.domain) ordered.restored

theorem convertOptional_map {A B : Type} (encode : A → B)
    (convert : B → Except CoordinatorAdapterError A) (value : Option A)
    (back : ∀ present, value = some present → convert (encode present) = .ok present) :
    convertOptional convert (value.map encode) = .ok value := by
  cases value with
  | none => rfl
  | some present =>
    simp only [Option.map_some, convertOptional, back present rfl]
    rfl

theorem StoredCoordinatorCheckpoint.intoDomain_fromState {s : ProfileCoordinatorState}
    (wellFormed : s.WellFormed) (lastClaim : Option StoredClaimIdentity) :
    (fromState s lastClaim).intoDomain = .ok s.checkpoint := by
  have intent : convertOptional StoredPendingIntent.intoDomain
      (s.pendingIntent.map StoredPendingIntent.ofDomain) = .ok s.pendingIntent :=
    convertOptional_map _ _ _ fun present _ => StoredPendingIntent.intoDomain_ofDomain present
  have lease : convertOptional StoredActiveLease.intoDomain
      (s.activeLease.map StoredActiveLease.ofDomain) = .ok s.activeLease :=
    convertOptional_map _ _ _ fun present held =>
      StoredActiveLease.intoDomain_ofDomain (wellFormed.lease present held)
  simp only [StoredCoordinatorCheckpoint.intoDomain, fromState, checkpoint, intent, lease,
    parseVersion_value, StoredCoordinatorStatus.toDomain_ofDomain]
  rfl

theorem parseId_eq_ok {kind : IdKind} {value : String} {id : TypedId kind} :
    parseId value = .ok id ↔ value = id.asStr := by
  constructor
  · intro parsed
    exact (TypedId.asStr_of_parse (mapError_eq_ok.mp parsed)).symm
  · rintro rfl
    exact parseId_asStr id

theorem parseVersion_eq_ok {value : Nat} {version : AggregateVersion} :
    parseVersion value = .ok version ↔ value = version.value := by
  constructor
  · intro parsed
    exact (AggregateVersion.value_of_new (mapError_eq_ok.mp parsed)).symm
  · rintro rfl
    exact parseVersion_value version

@[simp] theorem StoredReleaseDisposition.ofDomain_toDomain
    (disposition : StoredReleaseDisposition) : .ofDomain disposition.toDomain = disposition := by
  cases disposition <;> rfl

@[simp] theorem StoredReleaseDisposition.toDomain_ofDomain (disposition : ReleaseDisposition) :
    (ofDomain disposition).toDomain = disposition := by
  cases disposition <;> rfl

@[simp] theorem toDomain_storedCommand (command : CoordinatorCommand) :
    (storedCommand command).toDomain = .ok command := by
  cases command <;> simp [storedCommand, StoredCoordinatorCommand.toDomain] <;> rfl

/-- A stored command that parses is the stored form of what it parses to. -/
theorem storedCommand_of_toDomain {stored : StoredCoordinatorCommand} {command : CoordinatorCommand}
    (converted : stored.toDomain = .ok command) : stored = storedCommand command := by
  cases stored <;>
    simp only [StoredCoordinatorCommand.toDomain, bind_eq_ok, parseId_eq_ok, pure, Except.pure,
      Except.ok.injEq] at converted
  case issueLaunchIntent | recoverAndIssueLaunchIntent =>
    obtain ⟨intent, rfl, actor, rfl, device, rfl, rfl⟩ := converted
    rfl
  case claim =>
    obtain ⟨intent, rfl, actor, rfl, device, rfl, session, rfl, token, rfl, rfl⟩ := converted
    rfl
  case heartbeat | renewLease =>
    obtain ⟨session, rfl, token, rfl, rfl⟩ := converted
    rfl
  case release =>
    obtain ⟨session, rfl, token, rfl, rfl⟩ := converted
    simp [storedCommand]
  case beginDrain | tick | markRecovered =>
    obtain rfl := converted
    rfl

theorem toDomain_storedEnvelope (envelope : CoordinatorCommandEnvelope) :
    (storedEnvelope envelope).toDomain = .ok envelope := by
  have made : CoordinatorCommandEnvelope.new envelope.idempotencyKey envelope.sequence
      envelope.expectedVersion envelope.command = .ok envelope := dif_neg envelope.sequence_pos
  simp only [StoredCoordinatorEnvelope.toDomain, storedEnvelope, parseId_asStr,
    parseVersion_value, toDomain_storedCommand]
  exact congrArg (Except.mapError CoordinatorAdapterError.domain) made

theorem storedEnvelope_of_toDomain {stored : StoredCoordinatorEnvelope}
    {envelope : CoordinatorCommandEnvelope} (converted : stored.toDomain = .ok envelope) :
    stored = storedEnvelope envelope := by
  simp only [StoredCoordinatorEnvelope.toDomain, bind_eq_ok, parseId_eq_ok, parseVersion_eq_ok,
    mapError_eq_ok] at converted
  obtain ⟨key, sameKey, version, sameVersion, command, parsed, made⟩ := converted
  unfold CoordinatorCommandEnvelope.new at made
  split at made
  · cases made
  · cases made
    obtain ⟨storedKey, sequence, storedVersion, form⟩ := stored
    have sameCommand : form = storedCommand command := storedCommand_of_toDomain parsed
    cases sameKey
    cases sameVersion
    cases sameCommand
    rfl

end ProfilePlatform.Adapters
