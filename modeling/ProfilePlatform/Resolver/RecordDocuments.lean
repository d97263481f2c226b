import ProfilePlatform.Resolver.RecordRuns

/-! The documents of the records, while all workers encrypt under one key.

A row that is encrypted again holds what it held before. This is where the workers have to agree: a
row is encrypted again by its old key version alone, and a worker that still writes under that
version would have its document replaced by the older one.
-/

set_option autoImplicit false

namespace ProfilePlatform.Resolver

open Foundation Program

section Documents

variable (cipher : RecordCipher) (version : Nat)

def EncryptedRecord.context (row : EncryptedRecord) : AuthenticatedContext :=
  ⟨row.key.tenantId, row.provider, row.key.recordKind, row.logicalId⟩

/-- What the value holds when it is read in a context. -/
def EncryptedValue.document (value : EncryptedValue) (context : AuthenticatedContext) :
    Option (List UInt8) :=
  cipher.decrypt value.keyVersion context value.nonceHex value.ciphertextHex

def EncryptedRecord.document (row : EncryptedRecord) : Option (List UInt8) :=
  row.encrypted.document cipher row.context

/-- The document that an operation is to write. -/
def RecordOperation.writes : RecordOperation → Option (List UInt8)
  | .store _ document _ _ => some document
  | .commitRefresh _ _ document _ => some document
  | _ => none

abbrev RecordServed := Served RecordRequest RecordAnswer RecordCall

/-- Some answer of the record had the row in it. -/
def Seen (record : List RecordServed) (row : EncryptedRecord) : Prop :=
  ∃ served ∈ record, ∃ rows, served.answer = some rows ∧ row ∈ rows

/-- What a request has to do with the call that makes it and with what was seen before. -/
def Fits (record : List RecordServed) (call : RecordCall) (request : RecordRequest) : Prop :=
  match request with
  | .upsert insertion => insertion.encrypted.keyVersion = version ∧
    insertion.logicalId = insertion.key.lookupDigest ∧
    ∃ document, call.operation.writes = some document ∧
      insertion.row.document cipher = some document
  | .update key (.commit provider encrypted ..) => encrypted.keyVersion = version ∧
    ∃ document, call.operation.writes = some document ∧ encrypted.document cipher
      ⟨key.tenantId, provider, key.recordKind, key.lookupDigest⟩ = some document
  | .update key (.reencrypt encrypted previous _) => encrypted.keyVersion = version ∧
    previous ≠ version ∧ ∃ row, Seen record row ∧ row.key = key ∧
      row.encrypted.keyVersion = previous ∧
      encrypted.document cipher row.context = row.document cipher
  | _ => True

/-- The statement gives the row a document of its own. -/
def RecordRequest.writes : RecordRequest → Bool
  | .upsert _ | .update _ (.commit ..) => true
  | _ => false

/-- A change keeps the document, or was asked for by a call that writes the one it leaves. -/
def Documented (record : List RecordServed) (event : RecordEvent) : Prop :=
  ∀ touched ∈ event.touched,
    (event.request.writes = false →
      ∃ before, touched.before = some before ∧ touched.after.document cipher = before.document cipher) ∧
    (event.request.writes = true → ∃ served ∈ record, served.request = event.request ∧
      (served.call.operation.writes).isSome ∧
      touched.after.document cipher = served.call.operation.writes)

/-- A row that was seen under another key than the active one is unchanged while it stays there. -/
structure Consistent (record : List RecordServed) (log : List RecordEvent) : Prop where
  identified : ∀ key row, latest log key = some row → row.logicalId = row.key.lookupDigest
  unchanged : ∀ row, Seen record row → row.encrypted.keyVersion ≠ version →
    ∃ now, latest log row.key = some now ∧
      (now.encrypted.keyVersion = row.encrypted.keyVersion →
        now.encrypted = row.encrypted ∧ now.context = row.context)
  documented : ∀ event ∈ log, Documented cipher record event

end Documents

section Changes

variable {cipher : RecordCipher} {version : Nat} {record : List RecordServed}
  {log past : List RecordEvent} {event : RecordEvent} {call : RecordCall} {request : RecordRequest}
  {key : RecordKey} {row after : EncryptedRecord} {standing : Option EncryptedRecord}

theorem Seen.later {more : List RecordServed} (seen : Seen record row) : Seen (record ++ more) row := by
  obtain ⟨served, member, found⟩ := seen
  exact ⟨served, List.mem_append_left _ member, found⟩

theorem Documented.later {more : List RecordServed} (documented : Documented cipher record event) :
    Documented cipher (record ++ more) event := by
  intro touched member
  obtain ⟨keeps, writes⟩ := documented touched member
  refine ⟨keeps, fun wrote => ?_⟩
  obtain ⟨served, among, told⟩ := writes wrote
  exact ⟨served, List.mem_append_left _ among, told⟩

/-- A change leaves the value as it was, or puts it under the active key. -/
theorem encrypted_of_makes (fits : Fits cipher version record call request)
    (makes : request.Makes standing after) :
    after.encrypted.keyVersion = version ∨
      ∃ before, standing = some before ∧ after.encrypted = before.encrypted ∧
        after.context = before.context := by
  cases request with
  | candidates | select | refreshState | stale | remaining => exact absurd makes id
  | upsert insertion =>
    left
    obtain ⟨-, rfl⟩ := makes
    cases standing <;> exact fits.1
  | update key statement =>
    obtain ⟨row, rfl, -, -, rfl⟩ := makes
    cases statement with
    | acquire | release | markReauth | discard | consume => exact .inr ⟨row, rfl, rfl, rfl⟩
    | commit => exact .inl fits.1
    | reencrypt => exact .inl fits.1

theorem identified_of_makes (fits : Fits cipher version record call request)
    (makes : request.Makes standing after)
    (before : ∀ row, standing = some row → row.logicalId = row.key.lookupDigest) :
    after.logicalId = after.key.lookupDigest := by
  cases request with
  | candidates | select | refreshState | stale | remaining => exact absurd makes id
  | upsert insertion =>
    obtain ⟨keyed, rfl⟩ := makes
    rw [keyed]
    cases standing <;> exact fits.2.1
  | update key statement =>
    obtain ⟨row, rfl, -, -, rfl⟩ := makes
    have same := before row rfl
    cases statement <;> exact same

theorem document_of_makes (consistent : Consistent cipher version record log)
    (fits : Fits cipher version record call request)
    (makes : request.Makes (latest log after.key) after) :
    (request.writes = false → ∃ before, latest log after.key = some before ∧
      after.document cipher = before.document cipher) ∧
    (request.writes = true → (call.operation.writes).isSome ∧
      after.document cipher = call.operation.writes) := by
  cases request with
  | candidates | select | refreshState | stale | remaining => exact absurd makes id
  | upsert insertion =>
    refine ⟨(absurd · Bool.false_ne_true.symm), fun _ => ?_⟩
    obtain ⟨-, -, document, written, holds⟩ := fits
    obtain ⟨keyed, made⟩ := makes
    have same : after.document cipher = insertion.row.document cipher := by
      generalize latest log after.key = standing at made
      cases standing with
      | none => exact congrArg (EncryptedRecord.document cipher) made
      | some row =>
        rw [made, Option.map_some, Option.getD_some, key_overwritten] at keyed
        rw [made]
        simp only [EncryptedRecord.document, EncryptedRecord.context, Option.map_some,
          Option.getD_some, key_overwritten, keyed]
        rfl
    exact ⟨by simp [written], (same.trans holds).trans written.symm⟩
  | update key statement =>
    obtain ⟨row, standing, named, holds, made⟩ := makes
    have keyed : after.key = key := by
      rw [made, key_sets, named]
    have known := consistent.identified _ row standing
    cases statement with
    | acquire | release | markReauth | discard | consume =>
      refine ⟨fun _ => ⟨row, standing, ?_⟩, (absurd · Bool.false_ne_true)⟩
      rw [made]
      rfl
    | commit provider encrypted generation owner now =>
      refine ⟨(absurd · Bool.false_ne_true.symm), fun _ => ?_⟩
      obtain ⟨-, document, written, readable⟩ := fits
      have place : row.context = ⟨key.tenantId, provider, key.recordKind, key.lookupDigest⟩ := by
        rw [EncryptedRecord.context, known, named, holds.1]
      have same : after.document cipher = encrypted.document cipher row.context := by
        rw [made]
        rfl
      rw [same, place, readable, written]
      exact ⟨rfl, rfl⟩
    | reencrypt encrypted previous now =>
      refine ⟨fun _ => ⟨row, standing, ?_⟩, (absurd · Bool.false_ne_true)⟩
      obtain ⟨-, stale, old, seen, oldKey, oldVersion, readable⟩ := fits
      -- The row that was seen is the one that stands there, since its key version is the same.
      obtain ⟨now', found, same⟩ := consistent.unchanged old seen (by rw [oldVersion]; exact stale)
      rw [oldKey, ← keyed, standing] at found
      cases found
      obtain ⟨value, context⟩ := same (by rw [holds.1, oldVersion])
      have written : after.document cipher = encrypted.document cipher row.context := by
        rw [made]
        rfl
      rw [written, context, readable, EncryptedRecord.document, EncryptedRecord.document, value,
        context]

theorem Consistent.step (consistent : Consistent cipher version record log)
    (lawful : Lawful log event) (fits : Fits cipher version record call event.request)
    (thread : Nat) :
    Consistent cipher version (record ++ [⟨thread, call, event.request, event.answer⟩])
      (log ++ [event]) := by
  constructor
  · intro key row standing
    rw [latest_concat] at standing
    cases left : event.leaves key with
    | none =>
      rw [left, Option.none_or] at standing
      exact consistent.identified key row standing
    | some after =>
      rw [left] at standing
      cases standing
      exact identified_of_makes fits (lawful.makes left).1 (consistent.identified key)
  · intro row seen stale
    obtain ⟨served, member, rows, answered, among⟩ := seen
    rcases List.mem_append.mp member with before | last
    · obtain ⟨now, standing, same⟩ :=
        consistent.unchanged row ⟨served, before, rows, answered, among⟩ stale
      rw [latest_concat]
      cases left : event.leaves row.key with
      | none => exact ⟨now, standing, same⟩
      | some after =>
        refine ⟨after, rfl, fun agrees => ?_⟩
        rcases encrypted_of_makes fits (lawful.makes left).1 with active | ⟨old, found, value, context⟩
        · exact absurd (agrees.symm.trans active) stale
        · cases standing.symm.trans found
          rw [value] at agrees
          obtain ⟨valueSame, contextSame⟩ := same agrees
          exact ⟨value.trans valueSame, context.trans contextSame⟩
    · rw [List.mem_singleton.mp last] at answered
      exact ⟨row, lawful.answered rows answered row among, fun _ => ⟨rfl, rfl⟩⟩
  · intro other member
    rcases List.mem_append.mp member with before | last
    · exact (consistent.documented other before).later
    · rw [List.mem_singleton.mp last]
      intro touched among
      rcases lawful.touched with quiet | ⟨single, only, before, makes⟩
      · rw [quiet] at among
        cases among
      · rw [only] at among
        cases List.mem_singleton.mp among
        rw [before] at makes
        obtain ⟨keeps, writes⟩ := document_of_makes consistent fits makes
        refine ⟨fun silent => ?_, fun wrote => ?_⟩
        · obtain ⟨old, found, same⟩ := keeps silent
          exact ⟨old, before.trans found, same⟩
        · obtain ⟨written, same⟩ := writes wrote
          exact ⟨_, List.mem_append_right _ List.mem_cons_self, rfl, written, same⟩

end Changes

section Serving

variable {cipher : RecordCipher} {version : Nat} {record : List RecordServed}
  {database : RecordDatabase} {call : RecordCall} {request : RecordRequest}

/-- What the record and the database have to do with one another. -/
structure Valid (cipher : RecordCipher) (version : Nat) (record : List RecordServed)
    (database : RecordDatabase) : Prop where
  ledger : Ledger database
  consistent : Consistent cipher version record database.log

theorem serve_log (database : RecordDatabase) (request : RecordRequest) :
    ∃ touched, (database.serve request).2.log =
      database.log ++ [⟨request, (database.serve request).1, touched⟩] := by
  unfold RecordDatabase.serve
  split
  · split <;> exact ⟨_, rfl⟩
  · exact ⟨_, rfl⟩

theorem Valid.serve (valid : Valid cipher version record database)
    (fits : Fits cipher version record call request) (thread : Nat) :
    Valid cipher version (record ++ [⟨thread, call, request, (database.serve request).1⟩])
      (database.serve request).2 := by
  obtain ⟨touched, grown⟩ := serve_log database request
  have ledger := valid.ledger.serve request
  have lawful : Lawful database.log ⟨request, (database.serve request).1, touched⟩ :=
    ledger.lawful database.log _ [] grown
  refine ⟨ledger, ?_⟩
  rw [grown]
  exact valid.consistent.step lawful fits thread

end Serving

section Threads

variable {cipher : RecordCipher} {handleHmac : Nat → String → String → String}
  {fleet : Nat → ResolverCrypto} {version thread : Nat} {call : RecordCall}
  {record later : List RecordServed} {A B : Type}

/-- The rest of an operation asks for nothing that does not fit. -/
def Steady (cipher : RecordCipher) (handleHmac : Nat → String → String → String)
    (fleet : Nat → ResolverCrypto) (version thread : Nat) (call : RecordCall)
    (record : List RecordServed) (rest : Operation RecordOutcome) : Prop :=
  (recordStore cipher handleHmac fleet).Safe (Valid cipher version) (fun _ _ => True) thread call
    rest.run record

/-- A part of an operation that is steady, whatever it comes to. -/
def Quiet (cipher : RecordCipher) (handleHmac : Nat → String → String → String)
    (fleet : Nat → ResolverCrypto) (version thread : Nat) (call : RecordCall)
    (part : Operation A) : Prop :=
  ∀ record (next : A → Operation RecordOutcome),
    (∀ value later, record <+: later →
      Steady cipher handleHmac fleet version thread call later (next value)) →
    Steady cipher handleHmac fleet version thread call record (part >>= next)

theorem steady_done (result : Except RefreshAcquireError RecordOutcome) :
    Steady cipher handleHmac fleet version thread call record (decided result) :=
  .done fun _ _ => trivial

theorem Quiet.bind {part : Operation A} {next : A → Operation B}
    (first : Quiet cipher handleHmac fleet version thread call part)
    (second : ∀ value, Quiet cipher handleHmac fleet version thread call (next value)) :
    Quiet cipher handleHmac fleet version thread call (part >>= next) := by
  intro record last continues
  rw [bind_assoc]
  apply first
  intro value later extends_
  apply second
  intro result again further
  exact continues result again (extends_.trans further)

theorem Quiet.last {part : Operation RecordOutcome}
    (quiet : Quiet cipher handleHmac fleet version thread call part) :
    Steady cipher handleHmac fleet version thread call record part := by
  have ends := quiet record pure fun value later _ => steady_done (.ok value)
  rwa [bind_pure] at ends

end Threads

section Operations

variable {cipher : RecordCipher} {handleHmac : Nat → String → String → String}
  {fleet : Nat → ResolverCrypto} {version thread : Nat} {call : RecordCall}
  {record : List RecordServed}

end Operations

section Runs

variable (cipher : RecordCipher) (handleHmac : Nat → String → String → String)
  (fleet : Nat → ResolverCrypto) (version : Nat)

end Runs

end ProfilePlatform.Resolver
