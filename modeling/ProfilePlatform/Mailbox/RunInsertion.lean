import Mathlib.Data.List.Nodup
import ProfilePlatform.Mailbox.JobTables

/-! The insertion of a run command, once the rows it names are known.

The trigger before the insertion lets the command pass or aborts it. After that only the
update of the binding can fail, on the checks of its row.
-/

set_option autoImplicit false

namespace ProfilePlatform.Mailbox

open Foundation
open Catalog (Refusal Surroundings)
open Tables (ranJob movedBinding retryTimeInvalid)

section Texts

theorem isProviderStatusByte_char : ∀ value < 128, isProviderStatusByte (UInt8.ofNat value) =
    isProviderStatusChar (Char.ofNat value) := by decide +kernel

theorem isProviderStatusByte_ascii {byte : UInt8} (accepted : isProviderStatusByte byte = true) :
    byte < 128 := by
  simp only [isProviderStatusByte, isIdByte, isAsciiAlphanumeric, Bool.or_eq_true,
    Bool.and_eq_true, decide_eq_true_eq, beq_iff_eq, UInt8.le_iff_toNat_le, UInt8.lt_iff_toNat_lt,
    ← UInt8.toNat_inj] at accepted ⊢
  simp at accepted ⊢
  omega

theorem isProviderStatus_of_accepts {text : String} (accepted : acceptsProviderStatus text = true) :
    isProviderStatus text = true := by
  simp only [acceptsProviderStatus, Bool.and_eq_true, decide_eq_true_eq] at accepted
  obtain ⟨⟨named, short⟩, plain⟩ := accepted
  obtain ⟨seen, safe⟩ := sql_of_bytes (fun _ => isProviderStatusByte_ascii)
    isProviderStatusByte_char rfl (List.all_eq_true.mp plain)
  unfold isProviderStatus
  simp only [Bool.and_eq_true, decide_eq_true_eq]
  rw [seen]
  exact ⟨⟨named, short⟩, safe⟩

theorem sqlLength_of_validateCursor {cursor : Option String} (bounded : validateCursor cursor = .ok ()) :
    cursor.all (sqlLength · ≤ 512) = true := by
  cases cursor with
  | none => rfl
  | some text =>
    have short : ¬maxCursorLength < (utf8Bytes text).length := by
      simpa [validateCursor] using refuseIf_eq_ok.mp bounded
    have seen := sqlLength_le_utf8 text
    simp only [Option.all_some, decide_eq_true_eq]
    exact Nat.le_trans seen (Nat.le_of_not_lt short)

end Texts

section Insertion

variable {tables result : Tables} {row : JobRow} {bindingRow : BindingRow} {command : RunCommandRow}

/-- The rows of a database that keeps its own constraints. -/
structure Tables.Valid (tables : Tables) : Prop where
  jobsDistinct : (tables.jobs.map JobRow.key).Nodup
  bindingsDistinct : (tables.bindings.map BindingRow.key).Nodup
  jobsChecked : ∀ row ∈ tables.jobs, row.checked = true
  bindingsChecked : ∀ row ∈ tables.bindings, row.checked = true

/-- An active owner sends a command that the journal does not have yet. -/
structure Tables.Receives (tables : Tables) (command : RunCommandRow) : Prop where
  owner : tables.surroundings.IsOwner command.tenantId command.commandActorId
  fresh : ¬∃ old ∈ tables.runCommands, old.tenantId = command.tenantId ∧
    old.commandId = command.commandId

/-- The stored job and the stored binding of a command. -/
structure Tables.Names (tables : Tables) (command : RunCommandRow) (row : JobRow)
    (bindingRow : BindingRow) : Prop where
  job : row ∈ tables.jobs
  binding : bindingRow ∈ tables.bindings
  jobKey : row.key = command.job
  bindingKey : bindingRow.key = command.binding
  executable : bindingRow.IsExecutable

/-- What the trigger before the insertion wants to see. -/
structure Validated (row : JobRow) (command : RunCommandRow) : Prop where
  waits : row.Waits
  version : row.version = command.expectedJobVersion
  due : row.nextRunAtMs ≤ command.executedAtMs
  left : row.attempt < row.maxAttempts
  room : command.expectedJobVersion ≤ 9223372036854775804
  accepted : isProviderStatus command.providerStatus = true
  short : command.nextCursor.any (512 < sqlLength ·) = false
  timed : retryTimeInvalid command = false
  forward : row.updatedAtMs ≤ command.executedAtMs

theorem hasJob_iff (valid : tables.Valid) (names : tables.Names command row bindingRow)
    (property : JobRow → Prop) : tables.HasJob command property ↔ property row := by
  constructor
  · rintro ⟨other, member, same, holds⟩
    rwa [List.inj_on_of_nodup_map valid.jobsDistinct member names.job
      (same.trans names.jobKey.symm)] at holds
  · exact fun holds => ⟨row, names.job, names.jobKey, holds⟩

theorem hasBinding_of (names : tables.Names command row bindingRow) {property : BindingRow → Prop}
    (holds : property bindingRow) : tables.HasBinding command property :=
  ⟨bindingRow, names.binding, names.bindingKey, holds⟩

/-- A check that fails aborts the statement. -/
def Aborts (checks : Except Refusal Unit) : Prop :=
  ∀ why, checks = .error why → ∃ message, why = .abort message

theorem aborts_refuseIf {condition : Prop} [Decidable condition] {message : String} :
    Aborts (refuseIf condition (.abort message)) := by
  intro why refused
  unfold refuseIf at refused
  split at refused
  · cases refused
    exact ⟨message, rfl⟩
  · cases refused

theorem Aborts.bind {first : Except Refusal Unit} {next : Unit → Except Refusal Unit}
    (aborts : Aborts first) (later : Aborts (next ())) : Aborts (first >>= next) := by
  intro why refused
  cases first with
  | error earlier => exact aborts why refused
  | ok done => exact later why refused

theorem aborts_validateRun : Aborts (tables.validateRun command) := by
  iterate 11 refine aborts_refuseIf.bind ?_
  exact aborts_refuseIf

theorem validateRun_eq_ok (valid : tables.Valid) (names : tables.Names command row bindingRow)
    (receives : tables.Receives command) :
    tables.validateRun command = .ok () ↔ Validated row command := by
  unfold Tables.validateRun
  rw [refuseIf_passes (not_not_intro receives.owner),
    refuseIf_passes (not_not_intro (hasBinding_of names trivial)),
    refuseIf_passes (not_not_intro (hasBinding_of names names.executable)),
    refuseIf_passes (not_not_intro ((hasJob_iff valid names _).mpr trivial))]
  simp only [bind_eq_ok, refuseIf_eq_ok, hasJob_iff valid names, exists_const, true_and, not_not, not_lt,
    not_le, Bool.not_eq_true, Bool.not_eq_false]
  constructor
  · rintro ⟨⟨waits, version⟩, due, left, room, accepted, short, timed, forward⟩
    exact ⟨waits, version, due, left, room, accepted, short, timed, forward⟩
  · rintro ⟨waits, version, due, left, room, accepted, short, timed, forward⟩
    exact ⟨⟨waits, version⟩, due, left, room, accepted, short, timed, forward⟩

theorem retryTime_of_validated (validated : Validated row command)
    (retries : command.outcome = .retryPending) :
    ∃ retryAtMs, command.retryAtMs = some retryAtMs ∧ command.executedAtMs < retryAtMs := by
  have timed := validated.timed
  unfold retryTimeInvalid at timed
  rw [retries] at timed
  cases planned : command.retryAtMs with
  | none => simp [planned] at timed
  | some retryAtMs =>
    simp only [planned, decide_eq_false_iff_not, Nat.not_le] at timed
    exact ⟨retryAtMs, rfl, timed⟩

theorem ranJob_checked (valid : row.checked = true) (checked : command.checked = true)
    (validated : Validated row command) : (ranJob command row).checked = true := by
  have cursor : (ranJob command row).cursor.all (sqlLength · ≤ 512) = true := by
    have short := validated.short
    simp only [JobRow.checked, Bool.and_eq_true] at valid
    simp only [ranJob]
    split
    · cases written : command.nextCursor with
      | none => rfl
      | some cursor => simpa [written] using short
    · exact valid.1.1.1.1.1.1.1.1.1.1
  have next : (ranJob command row).nextRunAtMs < sqliteLimit := by
    simp only [JobRow.checked, RunCommandRow.checked, Bool.and_eq_true, decide_eq_true_eq]
      at valid checked
    simp only [ranJob]
    split
    next retries =>
      obtain ⟨retryAtMs, planned, -⟩ := retryTime_of_validated validated retries
      have fits := checked.1.2
      simp only [planned, Option.all_some, decide_eq_true_eq] at fits
      simpa [planned] using fits
    next => exact valid.1.1.1.1.1.1.2
  have room := validated.room
  have forward := validated.forward
  have left := validated.left
  have version := validated.version
  simp only [JobRow.checked, RunCommandRow.checked, Bool.and_eq_true, decide_eq_true_eq]
    at valid checked ⊢
  refine ⟨⟨⟨⟨⟨⟨⟨⟨⟨⟨cursor, ?_⟩, valid.1.1.1.1.1.1.1.1.2⟩, valid.1.1.1.1.1.1.1.2⟩, next⟩, ?_⟩,
    ?_⟩, ?_⟩, ?_⟩, ?_⟩, ?_⟩
  · show row.attempt + 1 ≤ 10
    have most := valid.1.1.1.1.1.1.1.2
    omega
  · simpa [ranJob] using validated.accepted
  · exact checked.1.1.2
  · show 1 ≤ row.version + 3
    omega
  · show row.version + 3 < sqliteLimit
    unfold sqliteLimit
    omega
  · show row.createdAtMs ≤ command.executedAtMs
    exact Nat.le_trans valid.1.2 forward
  · exact checked.2

theorem guardJob_ranJob (valid : row.checked = true) (checked : command.checked = true)
    (validated : Validated row command) (jobKey : row.key = command.job)
    (sent : command ∈ tables.runCommands) :
    tables.guardJob row (ranJob command row) = .ok () := by
  have governed : tables.RunsJob row (ranJob command row) := by
    refine ⟨command, sent, jobKey.symm, validated.version.symm, rfl, rfl, rfl, rfl, rfl, rfl, ?_, ?_⟩
    · simp only [ranJob]
      split <;> rfl
    · simp only [ranJob]
      split
      next retries =>
        obtain ⟨retryAtMs, planned, -⟩ := retryTime_of_validated validated retries
        simp [planned]
      next => rfl
  have moves : ¬(¬row.Waits ∨
      (ranJob command row).lifecycleStatus ∉ [MailboxJobStatus.succeeded, .retryPending,
        .authRequired, .suspended, .failed] ∨
      (ranJob command row).attempt ≠ row.attempt + 1 ∨
      (ranJob command row).version ≠ row.version + 3) := by
    have ended : command.outcome.status ∈ [MailboxJobStatus.succeeded, .retryPending,
        .authRequired, .suspended, .failed] := by
      cases command.outcome <;> decide
    rintro (stays | unknown | counted | advanced)
    · exact stays validated.waits
    · exact unknown ended
    · exact counted rfl
    · exact advanced rfl
  have same : (ranJob command row).identity = row.identity := rfl
  unfold Tables.guardJob
  rw [refuseIf_passes (not_not_intro same), refuseIf_passes (not_not_intro governed),
    refuseIf_passes moves, refuseIf_passes]
  · rfl
  · rw [ranJob_checked valid checked validated]
    decide

theorem guardBinding_movedBinding (names : tables.Names command row bindingRow)
    (moves : command.outcome.executionStatus ≠ none)
    (sent : command ∈ result.runCommands) :
    result.guardBinding bindingRow (movedBinding command bindingRow) = .ok () ↔
      (movedBinding command bindingRow).checked = true := by
  obtain ⟨target, moved⟩ := Option.ne_none_iff_exists'.mp moves
  have governed : result.MovesBinding bindingRow (movedBinding command bindingRow) :=
    .inr ⟨command, sent, names.bindingKey.symm, by simp [movedBinding, moved], rfl, rfl⟩
  have aside : target ≠ .active := by
    rintro rfl
    cases ended : command.outcome <;> simp [ended, RunOutcome.executionStatus] at moved
  have allowed : bindingRow.status = .active ∧
      (movedBinding command bindingRow).status = .active ∧
      bindingRow.executionStatus = .active ∧
      (movedBinding command bindingRow).executionStatus ≠ .active ∧
      (movedBinding command bindingRow).version = bindingRow.version + 1 :=
    ⟨names.executable.1, names.executable.1, names.executable.2,
      by simpa [movedBinding, moved] using aside, rfl⟩
  have same : (movedBinding command bindingRow).identity = bindingRow.identity := rfl
  unfold Tables.guardBinding
  rw [refuseIf_passes (not_not_intro same), refuseIf_passes (not_not_intro governed),
    refuseIf_passes (fun refused => refused.2 allowed)]
  simp [bind, Except.bind, refuseIf_eq_ok]

/-- The tables once the command is in its journal. -/
def Tables.sending (tables : Tables) (command : RunCommandRow) : Tables :=
  { tables with runCommands := tables.runCommands ++ [command] }

theorem mem_sending : command ∈ (tables.sending command).runCommands :=
  List.mem_append.mpr (.inr (List.mem_singleton.mpr rfl))

/-- Once the trigger has let the command pass, only the update of the binding can fail. -/
theorem insertRun_eq (valid : tables.Valid) (names : tables.Names command row bindingRow)
    (receives : tables.Receives command) (checked : command.checked = true)
    (validated : Validated row command) :
    tables.insertRun command = (do
      let bindings ← Rows.update
        (fun row => row.key = command.binding ∧ row.IsExecutable ∧
          command.outcome.executionStatus ≠ none)
        (movedBinding command) (tables.sending command).guardBinding
        (fun other new => other.key = new.key) .unique [] tables.bindings
      return { tables.sending command with
        jobs := Rows.amend (fun row => row.key = command.job) (ranJob command) tables.jobs
        bindings }) := by
  have guarded : ∀ other ∈ tables.jobs, other.key = command.job →
      (tables.sending command).guardJob other (ranJob command other) = .ok () := by
    intro other member same
    have found : other = row := List.inj_on_of_nodup_map valid.jobsDistinct member names.job
      (same.trans names.jobKey.symm)
    rw [found]
    exact guardJob_ranJob (valid.jobsChecked row names.job) checked validated names.jobKey
      mem_sending
  have ran : Rows.update (fun row => row.key = command.job) (ranJob command)
      (tables.sending command).guardJob (fun other new => other.key = new.key) Refusal.unique []
      tables.jobs = .ok ([] ++ Rows.amend (fun row => row.key = command.job) (ranJob command)
        tables.jobs) :=
    Rows.update_succeeds (fun _ => rfl) guarded valid.jobsDistinct
  have readable : ¬command.checked = false := by simp [checked]
  unfold Tables.insertRun
  rw [(validateRun_eq_ok valid names receives).mpr validated, refuseIf_passes readable,
    refuseIf_passes receives.fresh]
  show Tables.applyRun (tables.sending command) command = _
  unfold Tables.applyRun
  show (Rows.update _ _ _ _ _ _ tables.jobs >>= _) = _
  rw [ran]
  rfl

theorem insertRun_eq_ok (valid : tables.Valid) (names : tables.Names command row bindingRow)
    (receives : tables.Receives command) (checked : command.checked = true)
    (validated : Validated row command) :
    (∃ result, tables.insertRun command = .ok result) ↔
      (command.outcome.executionStatus ≠ none →
        (movedBinding command bindingRow).checked = true) := by
  have sent : command ∈ (tables.sending command).runCommands := mem_sending
  have guard (moves : command.outcome.executionStatus ≠ none) :=
    guardBinding_movedBinding names moves sent
  rw [insertRun_eq valid names receives checked validated]
  constructor
  · rintro ⟨result, inserted⟩ moves
    obtain ⟨bindings, updated, -⟩ := bind_eq_ok.mp inserted
    have passed := (Rows.update_eq_ok updated).2 bindingRow names.binding
      ⟨names.bindingKey, names.executable, moves⟩
    exact (guard moves).mp passed
  · intro movable
    have guarded : ∀ other ∈ tables.bindings, (other.key = command.binding ∧ other.IsExecutable ∧
        command.outcome.executionStatus ≠ none) →
        (tables.sending command).guardBinding other (movedBinding command other) = .ok () := by
      rintro other member ⟨same, -, moves⟩
      have found : other = bindingRow := List.inj_on_of_nodup_map valid.bindingsDistinct member
        names.binding (same.trans names.bindingKey.symm)
      rw [found]
      exact (guard moves).mpr (movable moves)
    have moved : Rows.update
        (fun row => row.key = command.binding ∧ row.IsExecutable ∧
          command.outcome.executionStatus ≠ none)
        (movedBinding command) (tables.sending command).guardBinding
        (fun other new => other.key = new.key) Refusal.unique [] tables.bindings = .ok _ :=
      Rows.update_succeeds (fun _ => rfl) guarded valid.bindingsDistinct
    exact ⟨_, bind_eq_ok.mpr ⟨_, moved, rfl⟩⟩

theorem jobs_of_insertRun (valid : tables.Valid) (names : tables.Names command row bindingRow)
    (receives : tables.Receives command) (checked : command.checked = true)
    (validated : Validated row command) (inserted : tables.insertRun command = .ok result) :
    Rows.Replaced JobRow.key row (ranJob command row) tables.jobs result.jobs := by
  rw [insertRun_eq valid names receives checked validated] at inserted
  obtain ⟨bindings, -, same⟩ := bind_eq_ok.mp inserted
  cases same
  have unique : Rows.Unique JobRow.key tables.jobs := fun left memberLeft right memberRight same =>
    List.inj_on_of_nodup_map valid.jobsDistinct memberLeft memberRight same
  have replaced := Rows.replaced_amend unique names.job (ranJob command)
  rwa [names.jobKey] at replaced

theorem movedBinding_checked (checked : command.checked = true) :
    (movedBinding command bindingRow).checked = true ↔
      bindingRow.createdAtMs ≤ command.executedAtMs ∧ bindingRow.version + 1 < sqliteLimit := by
  unfold movedBinding
  simp only [BindingRow.checked, RunCommandRow.checked, Bool.and_eq_true, decide_eq_true_eq]
    at checked ⊢
  constructor
  · rintro ⟨⟨⟨-, fits⟩, later⟩, -⟩
    exact ⟨later, fits⟩
  · rintro ⟨later, fits⟩
    exact ⟨⟨⟨Nat.le_add_left 1 _, fits⟩, later⟩, checked.2⟩

end Insertion

end ProfilePlatform.Mailbox
