import ProfilePlatform.LocalProfile.WorkspaceLocks

/-! What a process of a materialisation root holds and knows as its calls are answered.

A call is permitted by the account that is kept of a process. A file is known only under its
generation's lock, and every program ends without a lock that it does not hand out.
-/

set_option autoImplicit false

namespace ProfilePlatform.LocalProfile

open Foundation (Program Discipline)
open Foundation.Discipline

section Accounts

/-- The locks a process has, and what it knows of the files under them. -/
structure Account where
  root : Option LockMode
  generation : Option Nat
  opened : Option Nat
  marker : Option (Option Node)
  created : Bool
  stage : Option (String × List UInt8)
  pending : Option (List Nat)

namespace Account

variable (account : Account)

def idle : Account := ⟨none, none, none, none, false, none, none⟩

/-- Of a generation whose lock is given back, nothing is known any more. -/
def left : Account :=
  { account with generation := none, marker := none, created := false, stage := none }

/-- The guard has nothing more to fear in the generation. -/
def cleared (generation : Nat) : Account :=
  { account with pending := account.pending.map (List.filter (· ≠ generation)) }

variable {account}

theorem cleared_of_none (quiet : account.pending = none) (generation : Nat) :
    account.cleared generation = account := by
  obtain ⟨root, generation', opened, marker, created, stage, pending⟩ := account
  cases quiet
  rfl

end Account

def Attempt.owner : Attempt → Option Owner
  | .openWorkspace _ owner _ _ => some owner
  | .activateDelivery => none

def permits (attempt : Attempt) (account : Account) : OsRequest → Prop
  | .symlinkMetadata _ | .openReadWrite _ | .syncAll _ | .readToString _ | .readGenerations
  | .browserWriterLocksAbsent _ => True
  | .createNew (.admission _) => attempt.owner ≠ none ∧ account.root ≠ none
  | .createNew (.marker generation) | .createNew (.stage generation _) =>
    attempt.owner ≠ none ∧ account.root ≠ none ∧ account.generation = some generation
  | .writeAll (.marker generation) content =>
    account.root ≠ none ∧ account.generation = some generation ∧ account.created = true ∧
      ∃ owner, attempt.owner = some owner ∧ content = owner.text
  | .writeAll (.stage generation name) _ =>
    attempt.owner ≠ none ∧ account.root ≠ none ∧ account.generation = some generation ∧
      account.stage = some (name, [])
  | .rename source target => ∃ generation name owner previous epoch,
    source = .stage generation name ∧ target = .marker generation ∧ account.root ≠ none ∧
      account.generation = some generation ∧ attempt.owner = some owner ∧
      account.stage = some (name, owner.text) ∧ account.marker = some (some (.file previous)) ∧
      previousEpoch owner.deviceId previous = some epoch ∧ epoch < owner.epoch
  | .removeFile place => ∃ generation owner, place = .marker generation ∧
    account.generation = some generation ∧ attempt.owner = some owner ∧
      account.marker = some (some (.file owner.text))
  | .tryLock .rootMarker _ => account.root = none ∧ account.pending = none
  | .tryLock (.admission generation) mode => mode = .exclusive ∧ account.root ≠ none ∧
    account.generation = none ∧ account.opened = some generation
  | .unlock (.admission _) | .close .rootMarker | .close (.admission _) => True
  | _ => False

def Account.after (account : Account) : (request : OsRequest) → OsReply request → Account
  | .symlinkMetadata (.marker generation), .error .notFound
  | .symlinkMetadata (.admission generation), .error .notFound => account.cleared generation
  | .openReadWrite (.admission generation), .ok () => { account with opened := some generation }
  | .createNew (.admission generation), .ok () => { account with opened := some generation }
  | .createNew (.marker _), .ok () =>
    { account with marker := some (some (.file [])), created := true }
  | .createNew (.stage _ name), .ok () => { account with stage := some (name, []) }
  | .writeAll (.marker _) content, .ok () =>
    { account with marker := some (some (.file content)), created := false }
  | .writeAll (.marker _) _, .error _ => { account with marker := none, created := false }
  | .writeAll (.stage _ name) content, .ok () => { account with stage := some (name, content) }
  | .writeAll (.stage _ _) _, .error _ => { account with stage := none }
  | .readToString (.marker generation), .ok content =>
    if account.generation = some generation then
      { account with marker := some (some (.file content)) }
    else account
  | .rename _ _, .ok () =>
    { account with
      marker := account.stage.map fun staged => some (.file staged.2)
      created := false
      stage := none }
  | .removeFile _, .ok () => { account with marker := some none, created := false }
  | .tryLock .rootMarker mode, .ok () => { account with root := some mode }
  | .tryLock (.admission generation) _, .ok () =>
    { account.cleared generation with
      generation := some generation, marker := none, created := false, stage := none }
  | .unlock (.admission generation), .ok () | .close (.admission generation), () =>
    if account.generation = some generation then account.left else account
  | .close .rootMarker, () => { account with root := none, pending := none }
  | .readGenerations, .ok all =>
    if account.root = some .exclusive then { account with pending := some all } else account
  | _, _ => account

theorem Account.after_metadata {account : Account} (quiet : account.pending = none) (place : Place)
    (reply : Except IoErrorKind Metadata) :
    account.after (.symlinkMetadata place) reply = account := by
  cases reply with
  | ok metadata => cases place <;> rfl
  | error kind => cases place <;> cases kind <;> first | rfl | exact cleared_of_none quiet _

def discipline (attempt : Attempt) : Discipline OsRequest OsReply Account :=
  ⟨permits attempt, Account.after⟩

end Accounts

section Programs

variable {A : Type} {attempt : Attempt} {account : Account} {workspace : Nat} {owner : Owner}

section Calls

variable {ends : Account → Except WorkspaceLockError A → Prop}

theorem follows_refuse {refused : Prop} [Decidable refused] {why : WorkspaceLockError}
    {next : Unit → Os A} (stops : refused → ends account (.error why))
    (goesOn : ¬refused → (discipline attempt).Follows ends account (next ()).run) :
    (discipline attempt).Follows ends account (Os.refuse refused why >>= next).run := by
  unfold Os.refuse
  split
  next holds => exact stops holds
  next fails => exact goesOn fails

theorem follows_checkType {metadata : Metadata} {fileType : FileType} {next : Unit → Os A}
    (stops : ∀ why, ends account (.error why))
    (goesOn : (discipline attempt).Follows ends account (next ()).run) :
    (discipline attempt).Follows ends account (Os.checkType metadata fileType >>= next).run := by
  rw [Os.checkType, bind_assoc]
  apply follows_refuse (fun _ => stops _)
  intro _
  exact follows_refuse (fun _ => stops _) fun _ => goesOn

theorem follows_dropping {place : Place} {body : Os A}
    (permitted : ∀ account, permits attempt account (.close place))
    (follows : (discipline attempt).Follows (fun later result =>
      match result with
      | .ok value => ends later (.ok value)
      | .error why => ends (later.after (.close place) ()) (.error why)) account body.run) :
    (discipline attempt).Follows ends account (Os.dropping place body).run := by
  refine follows_bind follows fun later result ended => ?_
  cases result with
  | ok value => exact ended
  | error why => exact ⟨permitted later, fun _ => ended⟩

/-- Nothing that a process without a guard reads of a file that is no marker of its own changes what
it knows. -/
theorem follows_openRootMarker : (discipline attempt).Follows (fun later _ => later = account)
    account openRootMarker.run := by
  apply follows_asked trivial
  intro metadata
  cases metadata with
  | error kind => rfl
  | ok metadata =>
    apply follows_checkType (fun _ => rfl)
    apply follows_asked trivial
    intro opened
    cases opened <;> rfl

theorem follows_metadata {place : Place}
    {next : Except IoErrorKind Metadata → Os A} (quiet : account.pending = none)
    (goesOn : ∀ reply, (discipline attempt).Follows ends account (next reply).run) :
    (discipline attempt).Follows ends account
      (Os.call (.symlinkMetadata place) >>= next).run := by
  apply follows_asked trivial
  intro reply
  show (discipline attempt).Follows ends (account.after (.symlinkMetadata place) reply) _
  rw [Account.after_metadata quiet]
  exact goesOn reply

end Calls

theorem follows_generationAdmissionExists (quiet : account.pending = none) :
    (discipline attempt).Follows (fun later _ => later = account) account
      (generationAdmissionExists workspace).run := by
  apply follows_metadata quiet
  intro reply
  cases reply with
  | ok metadata => exact follows_checkType (fun _ => rfl) rfl
  | error kind => cases kind <;> rfl

theorem follows_generationScopedMarkerPresent (quiet : account.pending = none)
    (outside : account.generation = none) :
    (discipline attempt).Follows (fun later _ => later = account) account
      (generationScopedMarkerPresent workspace).run := by
  apply follows_metadata quiet
  intro reply
  cases reply with
  | error kind => rfl
  | ok metadata =>
    apply follows_checkType (fun _ => rfl)
    apply follows_refuse (fun _ => rfl)
    intro _
    apply follows_asked trivial
    intro text
    cases text with
    | error kind => rfl
    | ok content =>
      show (if account.generation = some workspace then _ else account) = account
      rw [outside, if_neg (by simp)]

theorem follows_openPresentAdmission (quiet : account.pending = none) :
    (discipline attempt).Follows (fun later result => (∃ opened, later = { account with opened }) ∧
      ∀ value, result = .ok value → later = { account with opened := some workspace }) account
      (openPresentAdmission workspace).run := by
  have stopped : ∀ why : WorkspaceLockError, (∃ opened, account = { account with opened }) ∧
      ∀ value : Unit, Except.error why = .ok value →
        account = { account with opened := some workspace } :=
    fun _ => ⟨⟨account.opened, rfl⟩, fun _ impossible => by cases impossible⟩
  apply follows_metadata quiet
  intro reply
  cases reply with
  | error kind => exact stopped _
  | ok metadata =>
    apply follows_checkType stopped
    apply follows_asked trivial
    intro opened
    cases opened with
    | error kind => exact stopped _
    | ok found => exact ⟨⟨some workspace, rfl⟩, fun _ _ => rfl⟩

theorem follows_openGenerationAdmission (writer : attempt.owner ≠ none)
    (quiet : account.pending = none) (admitted : account.root ≠ none) :
    (discipline attempt).Follows (fun later result => (∃ opened, later = { account with opened }) ∧
      ∀ value, result = .ok value → later = { account with opened := some workspace }) account
      (openGenerationAdmission workspace).run := by
  have stopped : ∀ why : WorkspaceLockError, (∃ opened, account = { account with opened }) ∧
      ∀ value : Unit, Except.error why = .ok value →
        account = { account with opened := some workspace } :=
    fun _ => ⟨⟨account.opened, rfl⟩, fun _ impossible => by cases impossible⟩
  apply follows_metadata quiet
  intro reply
  cases reply with
  | ok metadata => exact follows_openPresentAdmission quiet
  | error kind =>
    cases kind with
    | notFound =>
      refine follows_asked ⟨writer, admitted⟩ ?_
      intro made
      cases made with
      | ok value =>
        apply follows_asked trivial
        intro synced
        cases synced <;> exact ⟨⟨some workspace, rfl⟩, fun _ _ => rfl⟩
      | error kind =>
        cases kind with
        | alreadyExists => exact follows_openPresentAdmission quiet
        | notFound | invalidData | other => exact stopped _
    | alreadyExists | invalidData | other => exact stopped _

/-- The locks are what they were. -/
structure Account.Stays (account later : Account) : Prop where
  root : later.root = account.root
  generation : later.generation = account.generation
  quiet : later.pending = none

/-- The marker is the owner's now, if all went well. -/
def Account.Marked (account : Account) (workspace : Nat) (owner : Owner) (later : Account) :
    Except WorkspaceLockError Filesystem.BridgeWorkspaceLock → Prop
  | .ok lock => account.Stays later ∧ lock = ⟨.marker workspace, owner.text⟩ ∧
    later.marker = some (some (.file owner.text))
  | .error _ => account.Stays later

theorem follows_readControlText (quiet : account.pending = none)
    (inside : account.generation = some workspace) :
    (discipline attempt).Follows (fun later result => later =
      match result with
      | .ok text => { account with marker := some (some (.file text)) }
      | .error _ => account) account (readControlText (.marker workspace)).run := by
  apply follows_metadata quiet
  intro reply
  cases reply with
  | error kind => rfl
  | ok metadata =>
    apply follows_checkType (fun _ => rfl)
    apply follows_asked trivial
    intro text
    cases text with
    | error kind => rfl
    | ok content => exact if_pos inside

theorem follows_acquireMarker (owned : attempt.owner = some owner) (quiet : account.pending = none)
    (admitted : account.root ≠ none) (inside : account.generation = some workspace) :
    (discipline attempt).Follows (account.Marked workspace owner) account
      (Filesystem.BridgeWorkspaceLock.acquire workspace owner.deviceId owner.epoch).run := by
  have writer : attempt.owner ≠ none := by simp [owned]
  have stays : account.Stays account := ⟨rfl, rfl, quiet⟩
  apply follows_refuse (fun _ => stays)
  intro _
  refine follows_asked ⟨writer, admitted, inside⟩ ?_
  intro made
  cases made with
  | error kind => cases kind <;> exact stays
  | ok value =>
    refine follows_asked ⟨admitted, inside, rfl, owner, owned, rfl⟩ ?_
    intro written
    cases written with
    | error kind => exact ⟨rfl, rfl, quiet⟩
    | ok value =>
      apply follows_asked trivial
      intro synced
      cases synced with
      | error kind => exact ⟨rfl, rfl, quiet⟩
      | ok value => exact ⟨⟨rfl, rfl, quiet⟩, rfl, rfl⟩

theorem follows_replaceInterrupted (stageName : String) (owned : attempt.owner = some owner)
    (quiet : account.pending = none) (admitted : account.root ≠ none)
    (inside : account.generation = some workspace) :
    (discipline attempt).Follows (account.Marked workspace owner) account
      (Filesystem.BridgeWorkspaceLock.replaceInterrupted workspace owner.deviceId owner.epoch
        stageName).run := by
  have writer : attempt.owner ≠ none := by simp [owned]
  have stays : account.Stays account := ⟨rfl, rfl, quiet⟩
  apply follows_metadata quiet
  intro reply
  cases reply with
  | error kind => exact stays
  | ok metadata =>
    apply follows_refuse (fun _ => stays)
    intro _
    apply follows_refuse (fun _ => stays)
    intro _
    refine follows_then (follows_readControlText quiet inside) ?_ ?_
    · rintro _ previous rfl
      cases read : previousEpoch owner.deviceId previous with
      | none =>
        simp only
        exact ⟨rfl, rfl, quiet⟩
      | some epoch =>
        simp only
        apply follows_refuse (fun _ => ⟨rfl, rfl, quiet⟩)
        intro fresh
        -- Now the new marker is staged, and the old one is looked at once more.
        refine follows_asked ⟨writer, admitted, inside⟩ ?_
        intro made
        cases made with
        | error kind => exact ⟨rfl, rfl, quiet⟩
        | ok value =>
          refine follows_asked ⟨writer, admitted, inside, rfl⟩ ?_
          intro written
          cases written with
          | error kind => exact ⟨rfl, rfl, quiet⟩
          | ok value =>
            apply follows_asked trivial
            intro synced
            cases synced with
            | error kind => exact ⟨rfl, rfl, quiet⟩
            | ok value =>
              change (discipline attempt).Follows _ _ (readControlText (.marker workspace) >>= _).run
              refine follows_then (follows_readControlText quiet inside) ?_ ?_
              · rintro _ again rfl
                apply follows_refuse (fun _ => ⟨rfl, rfl, quiet⟩)
                intro same
                rw [not_not] at same
                subst same
                refine follows_asked ⟨workspace, stageName, owner, again, epoch, rfl, rfl,
                  admitted, inside, owned, rfl, rfl, read, by omega⟩ ?_
                intro renamed
                cases renamed with
                | error kind => exact ⟨rfl, rfl, quiet⟩
                | ok value => exact ⟨⟨rfl, rfl, quiet⟩, rfl, rfl⟩
              · rintro _ why rfl
                exact ⟨rfl, rfl, quiet⟩
    · rintro _ why rfl
      exact ⟨rfl, rfl, quiet⟩

theorem follows_releaseMarker (owned : attempt.owner = some owner) (quiet : account.pending = none)
    (inside : account.generation = some workspace) :
    (discipline attempt).Follows (fun later _ => account.Stays later) account
      (Filesystem.BridgeWorkspaceLock.release ⟨.marker workspace, owner.text⟩).run := by
  refine follows_then (follows_readControlText quiet inside) ?_ ?_
  · rintro _ text rfl
    apply follows_refuse (fun _ => ⟨rfl, rfl, quiet⟩)
    intro same
    rw [not_not] at same
    subst same
    refine follows_asked ⟨workspace, owner, rfl, inside, owned, rfl⟩ ?_
    intro removed
    cases removed <;> exact ⟨rfl, rfl, quiet⟩
  · rintro _ why rfl
    exact ⟨rfl, rfl, quiet⟩

section Droppings

/-- How a computation ends that has something, or has failed. -/
def Ends (holds : Account → A → Prop) (fails : Account → Prop) (account : Account) :
    Except WorkspaceLockError A → Prop
  | .ok value => holds account value
  | .error _ => fails account

/-- Without locks, and nothing to come. -/
structure Account.Clear (account : Account) : Prop where
  root : account.root = none
  generation : account.generation = none
  quiet : account.pending = none

variable {holds : Account → A → Prop} {body : Os A}

theorem follows_droppingRoot (follows : (discipline attempt).Follows
    (Ends holds fun later => later.generation = none) account body.run) :
    (discipline attempt).Follows (Ends holds Account.Clear) account
      (Os.dropping .rootMarker body).run := by
  refine follows_dropping (fun _ => trivial) (follows.weaken fun later result ended => ?_)
  cases result with
  | ok value => exact ended
  | error why => exact ⟨rfl, ended, rfl⟩

theorem follows_droppingAdmission (follows : (discipline attempt).Follows
    (Ends holds fun later => later.generation = none ∨ later.generation = some workspace) account
      body.run) :
    (discipline attempt).Follows (Ends holds fun later => later.generation = none) account
      (Os.dropping (.admission workspace) body).run := by
  refine follows_dropping (fun _ => trivial) (follows.weaken fun later result ended => ?_)
  cases result with
  | ok value => exact ended
  | error why =>
    show (if later.generation = some workspace then later.left else later).generation = none
    split
    next => rfl
    next other => exact ended.resolve_right other

end Droppings

/-- The account of a writer. -/
structure Account.Holds (workspace : Nat) (owner : Owner) (account : Account)
    (lock : BridgeWorkspaceLock) : Prop where
  root : account.root = some .shared
  generation : account.generation = some workspace
  quiet : account.pending = none
  marker : account.marker = some (some (.file owner.text))
  lock : lock = ⟨⟨.marker workspace, owner.text⟩, workspace⟩

theorem follows_refuseLegacyWriter (quiet : account.pending = none) :
    (discipline attempt).Follows (fun later _ => later = account) account
      (refuseLegacyWriter workspace).run := by
  refine follows_then (follows_generationAdmissionExists quiet) ?_ (fun _ _ same => same)
  rintro _ admitted rfl
  cases admitted with
  | true => rfl
  | false =>
    apply follows_metadata quiet
    intro reply
    show (discipline attempt).Follows _ _ (Os.refuse _ _).run
    unfold Os.refuse
    split <;> rfl

theorem follows_legacyGeneration (quiet : account.pending = none)
    (outside : account.generation = none) :
    (discipline attempt).Follows (fun later _ => later = account) account
      (legacyGeneration workspace).run := by
  refine follows_then (follows_generationAdmissionExists quiet) ?_ (fun _ _ same => same)
  rintro _ admitted rfl
  cases admitted with
  | false => rfl
  | true =>
    change (discipline attempt).Follows _ _ (generationScopedMarkerPresent workspace >>= _).run
    refine follows_then (follows_generationScopedMarkerPresent quiet outside) ?_ (fun _ _ same => same)
    rintro _ present rfl
    rfl

theorem follows_tryLockRoot {ends : Account → Except WorkspaceLockError A → Prop} {mode : LockMode}
    {next : Unit → Os A} (free : account.root = none) (quiet : account.pending = none)
    (stops : ∀ why, ends account (.error why))
    (goesOn : (discipline attempt).Follows ends { account with root := some mode } (next ()).run) :
    (discipline attempt).Follows ends account (tryLock .rootMarker mode >>= next).run := by
  refine follows_asked ⟨free, quiet⟩ ?_
  intro locked
  cases locked with
  | ok value => exact goesOn
  | error why => exact stops _

/-- Under the root's lock a process comes to its generation's, and goes on inside. -/
theorem follows_admission {holds : Account → A → Prop} {body : Os A} (writer : attempt.owner ≠ none)
    (quiet : account.pending = none) (rooted : account.root ≠ none)
    (outside : account.generation = none)
    (within : ∀ inside : Account, inside.root = account.root → inside.generation = some workspace →
      inside.pending = none → (discipline attempt).Follows
        (Ends holds fun later => later.generation = none ∨ later.generation = some workspace) inside
          body.run) :
    (discipline attempt).Follows (Ends holds fun later => later.generation = none) account
      (openGenerationAdmission workspace >>= fun _ => Os.dropping (.admission workspace)
        (tryLock (.admission workspace) .exclusive >>= fun _ => body)).run := by
  refine follows_then (follows_openGenerationAdmission writer quiet rooted) ?_ ?_
  · rintro later value ⟨-, opened⟩
    obtain rfl := opened value rfl
    apply follows_droppingAdmission
    refine follows_asked ⟨rfl, rooted, outside, rfl⟩ ?_
    intro locked
    cases locked with
    | error why => exact .inl outside
    | ok value =>
      refine within _ rfl rfl ?_
      show account.pending.map _ = none
      rw [quiet]
      rfl
  · rintro later why ⟨⟨opened, rfl⟩, -⟩
    exact outside

theorem follows_gained {body : Os Filesystem.BridgeWorkspaceLock} (shared : account.root = some .shared)
    (inside : account.generation = some workspace)
    (follows : (discipline attempt).Follows (account.Marked workspace owner) account body.run) :
    (discipline attempt).Follows (Ends (Account.Holds workspace owner) fun later =>
      later.generation = none ∨ later.generation = some workspace) account
      (body >>= fun inner => pure ⟨inner, workspace⟩).run := by
  refine follows_then follows ?_ ?_
  · rintro later lock ⟨stays, rfl, marked⟩
    exact ⟨stays.root.trans shared, stays.generation.trans inside, stays.quiet, marked, rfl⟩
  · intro later why stays
    exact .inr (stays.generation.trans inside)

theorem follows_acquire (owned : attempt.owner = some owner) (clear : account.Clear) :
    (discipline attempt).Follows (Ends (Account.Holds workspace owner) Account.Clear) account
      (BridgeWorkspaceLock.acquire workspace owner.deviceId owner.epoch).run := by
  refine follows_then follows_openRootMarker ?_ (by rintro _ _ rfl; exact clear)
  rintro _ _ rfl
  apply follows_droppingRoot
  apply follows_tryLockRoot clear.root clear.quiet (fun _ => clear.generation)
  refine follows_then (follows_refuseLegacyWriter clear.quiet) ?_
    (by rintro _ _ rfl; exact clear.generation)
  rintro _ _ rfl
  refine follows_admission (by simp [owned]) (by exact clear.quiet) (by simp)
    (by exact clear.generation) ?_
  intro inside rooted entered quiet
  exact follows_gained rooted entered (follows_acquireMarker owned quiet (by simp [rooted]) entered)

theorem follows_shareRoot {legacy : Bool} (owned : attempt.owner = some owner)
    (quiet : account.pending = none) (inside : account.generation = some workspace)
    (rooted : account.root = some (if legacy then .exclusive else .shared))
    (marked : account.marker = some (some (.file owner.text))) :
    (discipline attempt).Follows (Ends (fun later _ => later.root = some .shared ∧
        later.generation = some workspace ∧ later.pending = none ∧
        later.marker = some (some (.file owner.text)))
      fun later => later.generation = some workspace) account
      (BridgeWorkspaceLock.shareRoot legacy ⟨.marker workspace, owner.text⟩).run := by
  cases legacy with
  | false => exact ⟨rooted, inside, quiet, marked⟩
  | true =>
    refine follows_asked trivial ?_
    intro closed
    refine follows_then follows_openRootMarker ?_ (by rintro _ _ rfl; exact inside)
    rintro _ _ rfl
    refine follows_asked ⟨rfl, rfl⟩ ?_
    intro locked
    cases locked with
    | ok value => exact ⟨rfl, inside, rfl, marked⟩
    | error why =>
      change (discipline attempt).Follows _ _
        (Filesystem.BridgeWorkspaceLock.release ⟨.marker workspace, owner.text⟩ >>= _).run
      refine follows_then (follows_releaseMarker owned rfl inside) ?_ ?_
      · intro later value stays
        exact stays.generation.trans inside
      · intro later why stays
        exact stays.generation.trans inside

theorem follows_recoverInterruptedLaunch (stageName : String) (owned : attempt.owner = some owner)
    (clear : account.Clear) :
    (discipline attempt).Follows (Ends (Account.Holds workspace owner) Account.Clear) account
      (BridgeWorkspaceLock.recoverInterruptedLaunch workspace owner.deviceId owner.epoch
        stageName).run := by
  refine follows_then (follows_legacyGeneration clear.quiet clear.generation) ?_
    (by rintro _ _ rfl; exact clear)
  rintro _ legacy rfl
  refine follows_then follows_openRootMarker ?_ (by rintro _ _ rfl; exact clear)
  rintro _ _ rfl
  apply follows_droppingRoot
  apply follows_tryLockRoot clear.root clear.quiet (fun _ => clear.generation)
  refine follows_admission (by simp [owned]) (by exact clear.quiet) (by simp)
    (by exact clear.generation) ?_
  intro inside rooted entered quiet
  have admitted : inside.root ≠ none := by simp [rooted]
  refine follows_asked trivial ?_
  intro absent
  apply follows_refuse (fun _ => .inr entered)
  intro _
  refine follows_then (follows_replaceInterrupted stageName owned quiet admitted entered) ?_ ?_
  · rintro later lock ⟨stays, rfl, marked⟩
    refine follows_then (follows_shareRoot owned stays.quiet (stays.generation.trans entered)
      (stays.root.trans rooted) marked) ?_ (fun _ _ kept => .inr kept)
    rintro final _ ⟨shared, held, calm, kept⟩
    exact ⟨shared, held, calm, kept, rfl⟩
  · intro later why stays
    exact .inr (stays.generation.trans entered)

theorem follows_release {lock : BridgeWorkspaceLock} (owned : attempt.owner = some owner)
    (holds : account.Holds workspace owner lock) :
    (discipline attempt).Follows (fun later _ => later.Clear) account lock.release.run := by
  obtain rfl := holds.lock
  refine follows_bind (follows_releaseMarker owned holds.quiet holds.generation) ?_
  intro later result stays
  have inside : later.generation = some workspace := stays.generation.trans holds.generation
  refine ⟨trivial, fun _ => ⟨trivial, fun _ => ?_⟩⟩
  change Account.Clear { (if later.generation = some workspace then later.left else later) with
    root := none, pending := none }
  rw [if_pos inside]
  exact ⟨rfl, rfl, rfl⟩

theorem follows_openWorkspace (processId sequence : Nat) (owned : attempt.owner = some owner)
    (clear : account.Clear) :
    (discipline attempt).Follows (Ends (Account.Holds workspace owner) Account.Clear) account
      (openWorkspace workspace owner processId sequence).run := by
  refine follows_bind (follows_acquire owned clear) ?_
  intro later result ended
  cases result with
  | ok lock => exact ended
  | error why =>
    cases why with
    | lockBusy => exact follows_recoverInterruptedLaunch _ owned ended
    | symbolicLinkRejected | specialFileRejected | lockOwnershipMismatch | invalidPolicy | io =>
      exact ended

section Guards

/-- What a guard does that looks around: its fears grow fewer. -/
structure Account.Inspects (account later : Account) : Prop where
  root : later.root = account.root
  generation : later.generation = none
  fewer : ∀ rest, later.pending = some rest → ∃ more, account.pending = some more ∧ rest ⊆ more
  counted : account.pending ≠ none → later.pending ≠ none

def Account.Clears (account : Account) (generation : Nat) : Prop :=
  ∀ rest, account.pending = some rest → generation ∉ rest

namespace Account

variable {account later : Account} {generation : Nat}

theorem Inspects.refl (outside : account.generation = none) : account.Inspects account :=
  ⟨rfl, outside, fun rest pending => ⟨rest, pending, List.Subset.refl _⟩, id⟩

theorem Inspects.trans {final : Account} (first : account.Inspects later)
    (second : later.Inspects final) : account.Inspects final where
  root := second.root.trans first.root
  generation := second.generation
  fewer := by
    intro rest pending
    obtain ⟨more, between, fewer⟩ := second.fewer rest pending
    obtain ⟨most, began, less⟩ := first.fewer more between
    exact ⟨most, began, List.Subset.trans fewer less⟩
  counted := fun began => second.counted (first.counted began)

theorem Inspects.of_same {final : Account} (inspects : account.Inspects later)
    (root : final.root = later.root) (pending : final.pending = later.pending)
    (outside : final.generation = none) : account.Inspects final where
  root := root.trans inspects.root
  generation := outside
  fewer := pending ▸ inspects.fewer
  counted := pending ▸ inspects.counted

theorem Clears.kept (clears : account.Clears generation) (inspects : account.Inspects later) :
    later.Clears generation := by
  intro rest pending member
  obtain ⟨more, began, fewer⟩ := inspects.fewer rest pending
  exact clears more began (fewer member)

theorem clears_cleared (account : Account) (generation : Nat) :
    (account.cleared generation).Clears generation := by
  intro rest pending
  obtain ⟨more, -, rfl⟩ := Option.map_eq_some_iff.mp pending
  simp

theorem inspects_cleared (outside : account.generation = none) (generation : Nat) :
    account.Inspects (account.cleared generation) where
  root := rfl
  generation := outside
  fewer := by
    intro rest pending
    obtain ⟨more, began, rfl⟩ := Option.map_eq_some_iff.mp pending
    exact ⟨more, began, List.filter_sublist.subset⟩
  counted := by simp [cleared]

theorem inspects_metadata (outside : account.generation = none) (place : Place)
    (reply : Except IoErrorKind Metadata) :
    account.Inspects (account.after (.symlinkMetadata place) reply) := by
  cases reply with
  | ok metadata => cases place <;> exact .refl outside
  | error kind =>
    cases place <;> cases kind <;> first | exact .refl outside | exact inspects_cleared outside _

end Account

theorem follows_expectType {place : Place} {fileType : FileType} (outside : account.generation = none) :
    (discipline attempt).Follows (fun later _ => account.Inspects later) account
      (expectType place fileType).run := by
  refine follows_asked trivial ?_
  intro reply
  have inspects := Account.inspects_metadata outside place reply
  cases reply with
  | ok metadata =>
    show (discipline attempt).Follows _ _ (Os.checkType metadata fileType).run
    unfold Os.checkType
    apply follows_refuse (fun _ => inspects)
    intro _
    unfold Os.refuse
    split <;> exact inspects
  | error kind => cases kind <;> exact inspects

theorem follows_unlock {ends : Account → Except WorkspaceLockError A → Prop} {next : Unit → Os A}
    (inside : account.generation = some workspace) (stops : ∀ why, ends account (.error why))
    (goesOn : (discipline attempt).Follows ends account.left (next ()).run) :
    (discipline attempt).Follows ends account
      (Os.call (.unlock (.admission workspace)) >>= fun reply => Os.io reply >>= next).run := by
  refine follows_asked trivial ?_
  intro reply
  cases reply with
  | error kind => exact stops _
  | ok value =>
    show (discipline attempt).Follows ends
      (if account.generation = some workspace then account.left else account) _
    rw [if_pos inside]
    exact goesOn

theorem follows_close {ends : Account → Except WorkspaceLockError A → Prop} {next : Unit → Os A}
    (outside : account.generation = none)
    (goesOn : (discipline attempt).Follows ends account (next ()).run) :
    (discipline attempt).Follows ends account
      (Os.call (.close (.admission workspace)) >>= next).run := by
  refine follows_asked trivial ?_
  intro closed
  show (discipline attempt).Follows ends
    (if account.generation = some workspace then account.left else account) _
  rw [if_neg (by simp [outside])]
  exact goesOn

theorem follows_generationAdmissionHeldAt {generation : Nat} (rooted : account.root ≠ none)
    (outside : account.generation = none) :
    (discipline attempt).Follows (fun later result => account.Inspects later ∧
        (result = .ok false → later.Clears generation)) account
      (generationAdmissionHeldAt generation).run := by
  have stopped : ∀ why : WorkspaceLockError, account.Inspects account ∧
      (Except.error why = .ok false → account.Clears generation) :=
    fun _ => ⟨.refl outside, fun impossible => by cases impossible⟩
  refine follows_asked trivial ?_
  intro reply
  cases reply with
  | error kind =>
    cases kind with
    | notFound =>
      exact ⟨Account.inspects_cleared outside _, fun _ => Account.clears_cleared account _⟩
    | alreadyExists | invalidData | other => exact stopped _
  | ok metadata =>
    apply follows_checkType stopped
    refine follows_asked trivial ?_
    intro opened
    cases opened with
    | error kind => exact stopped _
    | ok value =>
      have tried : account.Inspects { account with opened := some generation } :=
        (Account.Inspects.refl outside).of_same rfl rfl outside
      refine follows_dropping (fun _ => trivial) ?_
      refine follows_asked ⟨rfl, rooted, outside, rfl⟩ ?_
      intro locked
      cases locked with
      | error why =>
        cases why with
        | wouldBlock => exact follows_close outside ⟨tried, fun impossible => by cases impossible⟩
        | error kind =>
          show account.Inspects (if account.generation = some generation then _ else _) ∧ _
          rw [if_neg (by simp [outside])]
          exact ⟨tried, fun impossible => by cases impossible⟩
      | ok value =>
        -- The lock was free, so there is nobody left to fear in the generation.
        have freed : account.Inspects (Account.left { account.cleared generation with
            opened := some generation, generation := some generation }) :=
          (Account.inspects_cleared outside generation).of_same rfl rfl rfl
        refine follows_unlock rfl (fun _ => ?_) ?_
        · show account.Inspects (if some generation = some generation then _ else _) ∧ _
          rw [if_pos rfl]
          exact ⟨freed, fun impossible => by cases impossible⟩
        · exact follows_close rfl ⟨freed, fun _ => Account.clears_cleared account generation⟩

theorem follows_writerLockPresent {platform : Platform} {generation : Nat}
    (rooted : account.root ≠ none) (outside : account.generation = none) :
    (discipline attempt).Follows (fun later result => account.Inspects later ∧
        (result = .ok false → later.Clears generation)) account
      (writerLockPresent platform generation).run := by
  cases platform with
  | unix =>
    refine follows_asked trivial ?_
    intro reply
    have inspects := Account.inspects_metadata outside (.marker generation) reply
    cases reply with
    | ok metadata => exact ⟨inspects, fun impossible => by cases impossible⟩
    | error kind =>
      cases kind with
      | notFound => exact ⟨inspects, fun _ => Account.clears_cleared account generation⟩
      | alreadyExists | invalidData | other =>
        exact ⟨inspects, fun impossible => by cases impossible⟩
  | windows =>
    refine follows_then (follows_expectType outside) ?_
      (fun _ _ inspects => ⟨inspects, fun impossible => by cases impossible⟩)
    intro first _ marker
    refine follows_then (follows_expectType marker.generation) ?_
      (fun _ _ inspects => ⟨marker.trans inspects, fun impossible => by cases impossible⟩)
    intro second _ data
    have seen := marker.trans data
    refine follows_then (follows_generationAdmissionHeldAt (by rwa [seen.root]) seen.generation) ?_
      (fun _ _ probed => ⟨seen.trans probed.1, fun impossible => by cases impossible⟩)
    rintro third held ⟨probed, clears⟩
    cases held with
    | true => exact ⟨seen.trans probed, fun impossible => by cases impossible⟩
    | false =>
      refine follows_asked trivial ?_
      intro absent
      exact ⟨seen.trans probed, fun _ => clears rfl⟩

theorem follows_anyWriterLockPresent {platform : Platform} (generations : List Nat)
    (rooted : account.root ≠ none) (outside : account.generation = none) :
    (discipline attempt).Follows (fun later result => account.Inspects later ∧
        (result = .ok false → ∀ generation ∈ generations, later.Clears generation)) account
      (anyWriterLockPresent platform generations).run := by
  induction generations generalizing account with
  | nil => exact ⟨.refl outside, by simp⟩
  | cons generation rest ih =>
    refine follows_then (follows_writerLockPresent rooted outside) ?_
      (fun _ _ present => ⟨present.1, fun impossible => by cases impossible⟩)
    rintro later present ⟨inspects, clears⟩
    cases present with
    | true => exact ⟨inspects, fun impossible => by cases impossible⟩
    | false =>
      refine (ih (by rwa [inspects.root]) inspects.generation).weaken ?_
      rintro final result ⟨goesOn, others⟩
      refine ⟨inspects.trans goesOn, fun none => ?_⟩
      intro other member
      rcases List.mem_cons.mp member with rfl | member
      · exact (clears rfl).kept goesOn
      · exact others none other member

/-- The account of a guard: it has nothing more to fear. -/
structure Account.Guards (account : Account) : Prop where
  root : account.root = some .exclusive
  generation : account.generation = none
  calm : account.pending = some []

theorem follows_acquireGuard {platform : Platform} (clear : account.Clear) :
    (discipline attempt).Follows (Ends (fun later _ => later.Guards) Account.Clear) account
      (DeliveryActivationGuard.acquire platform).run := by
  refine follows_then follows_openRootMarker ?_ (by rintro _ _ rfl; exact clear)
  rintro _ _ rfl
  apply follows_droppingRoot
  apply follows_tryLockRoot clear.root clear.quiet (fun _ => clear.generation)
  refine follows_asked trivial ?_
  intro all
  cases all with
  | error kind => exact clear.generation
  | ok generations =>
    change (discipline attempt).Follows _ _
      (anyWriterLockPresent platform generations >>= fun present => Os.refuse (present = true) _).run
    refine follows_then (follows_anyWriterLockPresent generations (by simp [discipline, Account.after])
      (by simpa [discipline, Account.after] using clear.generation)) ?_
      (fun _ _ ended => ended.1.generation)
    rintro later present ⟨inspects, clears⟩
    cases present with
    | true => exact inspects.generation
    | false =>
      refine ⟨inspects.root, inspects.generation, ?_⟩
      obtain ⟨rest, pending⟩ := Option.ne_none_iff_exists'.mp (inspects.counted (by
        simp [discipline, Account.after]))
      obtain ⟨more, began, fewer⟩ := inspects.fewer rest pending
      cases (show some generations = some more from began)
      rw [pending, List.eq_nil_iff_forall_not_mem.mpr fun generation member =>
        clears rfl generation (fewer member) rest pending member]

end Guards

/-- What a process has that has come to the end of its opening. -/
def Attempt.Has (attempt : Attempt) (account : Account) : Held → Prop
  | .writer lock => ∃ generation owner processId sequence,
    attempt = .openWorkspace generation owner processId sequence ∧ account.Holds generation owner lock
  | .guard => attempt = .activateDelivery ∧ account.Guards

theorem follows_opening (platform : Platform) (clear : account.Clear) :
    (discipline attempt).Follows (Ends attempt.Has Account.Clear) account
      (attempt.opening platform).run := by
  cases attempt with
  | openWorkspace generation owner processId sequence =>
    refine follows_bind (follows_openWorkspace processId sequence rfl clear) ?_
    intro later result ended
    cases result with
    | ok lock => exact ⟨generation, owner, processId, sequence, rfl, ended⟩
    | error why => exact ended
  | activateDelivery =>
    refine follows_then (follows_acquireGuard clear) ?_ (fun _ _ ended => ended)
    intro later _ guards
    exact ⟨rfl, guards⟩

theorem follows_closing {held : Held} (has : attempt.Has account held) :
    (discipline attempt).Follows (fun later _ => later.Clear) account held.closing.run := by
  cases held with
  | writer lock =>
    obtain ⟨generation, owner, processId, sequence, rfl, holds⟩ := has
    exact follows_release rfl holds
  | guard => exact ⟨trivial, fun _ => ⟨rfl, has.2.generation, rfl⟩⟩

end Programs

section Moves

/-- How a process changes the marker of the generation whose lock it has. -/
inductive MarkerMove (attempt : Attempt) (account : Account) : Option Node → Option Node → Prop where
  | created (rooted : account.root ≠ none) (writer : attempt.owner ≠ none) :
    MarkerMove attempt account none (some (.file []))
  | written {owner : Owner} (rooted : account.root ≠ none) (owned : attempt.owner = some owner)
    (created : account.created = true) (length : Nat) :
    MarkerMove attempt account (some (.file [])) (some (.file (owner.text.take length)))
  | replaced {owner : Owner} {previous : List UInt8} {epoch : Nat} (rooted : account.root ≠ none)
    (owned : attempt.owner = some owner)
    (read : previousEpoch owner.deviceId previous = some epoch) (fresh : epoch < owner.epoch) :
    MarkerMove attempt account (some (.file previous)) (some (.file owner.text))
  | removed {owner : Owner} (owned : attempt.owner = some owner) :
    MarkerMove attempt account (some (.file owner.text)) none

theorem MarkerMove.of_none {attempt : Attempt} {account : Account} {before after : Option Node}
    (move : MarkerMove attempt account before after) (absent : before = none) :
    account.root ≠ none ∧ after = some (.file []) := by
  cases move with
  | created rooted writer => exact ⟨rooted, rfl⟩
  | written | replaced | removed => cases absent

/-- All that a call of a process can do to the files. -/
structure Root.Moves (attempt : Attempt) (account : Account) (before after : Root) : Prop where
  generations : after.generations = before.generations
  marker : ∀ generation, after.node (.marker generation) = before.node (.marker generation) ∨
    account.generation = some generation ∧
      MarkerMove attempt account (before.node (.marker generation)) (after.node (.marker generation))
  stage : ∀ generation name,
    after.node (.stage generation name) = before.node (.stage generation name) ∨
      account.generation = some generation ∧ account.root ≠ none ∧ attempt.owner ≠ none
  admission : ∀ generation,
    after.node (.admission generation) = before.node (.admission generation) ∨
      account.root ≠ none ∧ attempt.owner ≠ none ∧ before.node (.admission generation) = none ∧
        after.node (.admission generation) ≠ none
  others : ∀ place, place.generation = none ∨ (∃ generation, place = .userData generation) →
    after.node place = before.node place

/-- What a process knows of the files is so. -/
structure Root.Known (root : Root) (account : Account) : Prop where
  marker : ∀ generation node, account.generation = some generation → account.marker = some node →
    root.node (.marker generation) = node
  stage : ∀ generation name content, account.generation = some generation →
    account.stage = some (name, content) → root.node (.stage generation name) = some (.file content)
  opened : ∀ generation, account.opened = some generation →
    root.node (.admission generation) ≠ none
  admitted : ∀ generation, account.generation = some generation →
    root.node (.admission generation) ≠ none
  created : account.created = true → account.marker = some (some (.file []))

variable {attempt : Attempt} {account : Account} {root : Root} {request : OsRequest} {process : Nat}

theorem Root.Moves.of_same {before after : Root} (generations : after.generations = before.generations)
    (same : ∀ place, after.node place = before.node place) : Root.Moves attempt account before after :=
  ⟨generations, fun _ => .inl (same _), fun _ _ => .inl (same _), fun _ => .inl (same _),
    fun _ _ => same _⟩

theorem Root.Moves.of_place {before after : Root} (place : Place)
    (generations : after.generations = before.generations)
    (elsewhere : ∀ other, other ≠ place → after.node other = before.node other)
    (there :
      match place with
      | .marker generation => account.generation = some generation ∧ MarkerMove attempt account
          (before.node (.marker generation)) (after.node (.marker generation))
      | .stage generation _ =>
        account.generation = some generation ∧ account.root ≠ none ∧ attempt.owner ≠ none
      | .admission generation => account.root ≠ none ∧ attempt.owner ≠ none ∧
          before.node (.admission generation) = none ∧ after.node (.admission generation) ≠ none
      | _ => False) : Root.Moves attempt account before after where
  generations := generations
  marker generation := by
    by_cases same : Place.marker generation = place
    · subst same
      exact .inr there
    · exact .inl (elsewhere _ same)
  stage generation name := by
    by_cases same : Place.stage generation name = place
    · subst same
      exact .inr there
    · exact .inl (elsewhere _ same)
  admission generation := by
    by_cases same : Place.admission generation = place
    · subst same
      exact .inr there
    · exact .inl (elsewhere _ same)
  others := by
    intro other apart
    apply elsewhere
    rintro rfl
    rcases apart with rootly | ⟨generation, rfl⟩
    · cases other <;> first | exact there | cases rootly
    · exact there

theorem moves_write {place : Place} {content : List UInt8} (known : root.Known account)
    (permitted : permits attempt account (.writeAll place content)) (length : Nat) :
    root.Moves attempt account (root.write place (content.take length)) := by
  have generations : (root.write place (content.take length)).generations = root.generations := by
    unfold Root.write
    split <;> rfl
  have elsewhere : ∀ other, other ≠ place →
      (root.write place (content.take length)).node other = root.node other :=
    fun _ => node_write_of_ne
  cases place with
  | marker generation =>
    obtain ⟨rooted, inside, created, owner, owned, rfl⟩ := permitted
    have empty := known.marker generation _ inside (known.created created)
    refine .of_place _ generations elsewhere ⟨inside, ?_⟩
    rw [write_of_file empty, empty]
    exact .written rooted owned created length
  | stage generation name =>
    exact .of_place _ generations elsewhere ⟨permitted.2.2.1, permitted.2.1, permitted.1⟩
  | rootMarker | admission | userData => exact permitted.elim

theorem serve_createNew (root : Root) (process : Nat) (place : Place) :
    (∃ kind, root.serve process (.createNew place) = (.error kind, root)) ∨
      root.node place = none ∧ root.within place = true ∧
        root.serve process (.createNew place) = (.ok (), root.put place (some (.file []))) := by
  by_cases within : root.within place = true
  · cases standing : root.nodes place with
    | none =>
      right
      exact ⟨by simp [Root.node, within, standing], within, by simp [Root.serve, within, standing]⟩
    | some node => exact .inl ⟨.alreadyExists, by simp [Root.serve, within, standing]⟩
  · exact .inl ⟨.notFound, by simp [Root.serve, within]⟩

theorem moves_createNew {place : Place} (permitted : permits attempt account (.createNew place)) :
    root.Moves attempt account (root.serve process (.createNew place)).2 := by
  rcases serve_createNew root process place with ⟨kind, refused⟩ | ⟨absent, within, made⟩
  · rw [refused]
    exact .of_same rfl fun _ => rfl
  · rw [made]
    have elsewhere : ∀ other, other ≠ place →
        (root.put place (some (.file []))).node other = root.node other := fun _ => node_put_of_ne
    have there : (root.put place (some (.file []))).node place = some (.file []) := by
      rw [node_put, if_pos rfl, if_pos within]
    cases place with
    | marker generation =>
      refine .of_place _ rfl elsewhere ⟨permitted.2.2, ?_⟩
      rw [there, absent]
      exact .created permitted.2.1 permitted.1
    | stage generation name =>
      exact .of_place _ rfl elsewhere ⟨permitted.2.2, permitted.2.1, permitted.1⟩
    | admission generation =>
      exact .of_place _ rfl elsewhere ⟨permitted.2, permitted.1, absent, by rw [there]; simp⟩
    | rootMarker | userData => exact permitted.elim

theorem serve_rename {source target : Place} {node : Node} {previous : List UInt8}
    (found : root.node source = some node) (standing : root.node target = some (.file previous)) :
    root.serve process (.rename source target) =
      (.ok (), (root.put source none).put target (some node)) := by
  have within := within_of_node (show root.node target ≠ none by simp [standing])
  simp [Root.serve, found, standing, within]

theorem serve_removeFile {place : Place} {content : List UInt8}
    (standing : root.node place = some (.file content)) :
    root.serve process (.removeFile place) = (.ok (), root.put place none) := by
  simp [Root.serve, standing]

theorem node_renamed {generation : Nat} {name : String} {node : Node}
    (within : root.within (.marker generation) = true) (other : Place) :
    ((root.put (.stage generation name) none).put (.marker generation) (some node)).node other =
      if other = .marker generation then some node
      else if other = .stage generation name then none else root.node other := by
  have still : (root.put (.stage generation name) none).within (.marker generation) = true := within
  simp [still]

theorem moves_rename {source target : Place} (known : root.Known account)
    (permitted : permits attempt account (.rename source target)) :
    root.Moves attempt account (root.serve process (.rename source target)).2 := by
  obtain ⟨generation, name, owner, previous, epoch, rfl, rfl, rooted, inside, owned, staged, old, read,
    fresh⟩ := permitted
  have source := known.stage generation name _ inside staged
  have target := known.marker generation _ inside old
  have within := within_of_node (show root.node (.marker generation) ≠ none by simp [target])
  have writer : attempt.owner ≠ none := by simp [owned]
  rw [serve_rename source target]
  refine ⟨rfl, ?_, ?_, ?_, ?_⟩
  · intro other
    rw [node_renamed within]
    by_cases same : other = generation
    · subst same
      right
      rw [if_pos rfl, target]
      exact ⟨inside, .replaced rooted owned read fresh⟩
    · left
      simp [same]
  · intro other name'
    rw [node_renamed within]
    by_cases same : other = generation
    · subst same
      exact .inr ⟨inside, rooted, writer⟩
    · left
      simp [same]
  · intro other
    rw [node_renamed within]
    simp
  · intro other apart
    rw [node_renamed within]
    rcases apart with rootly | ⟨generation', rfl⟩
    · cases other <;> first | rfl | cases rootly
    · simp

theorem moves_removeFile {place : Place} (known : root.Known account)
    (permitted : permits attempt account (.removeFile place)) :
    root.Moves attempt account (root.serve process (.removeFile place)).2 := by
  obtain ⟨generation, owner, rfl, inside, owned, marked⟩ := permitted
  have standing := known.marker generation _ inside marked
  rw [serve_removeFile standing]
  refine .of_place (.marker generation) rfl (fun _ => node_put_of_ne) ⟨inside, ?_⟩
  rw [node_put, if_pos rfl, ite_self, standing]
  exact .removed owned

theorem moves_serve (known : root.Known account) (permitted : permits attempt account request) :
    root.Moves attempt account (root.serve process request).2 := by
  cases request with
  | createNew place => exact moves_createNew permitted
  | writeAll place content =>
    have written := moves_write known permitted content.length
    rwa [List.take_length] at written
  | rename source target => exact moves_rename known permitted
  | removeFile place => exact moves_removeFile known permitted
  | tryLock place mode =>
    simp only [Root.serve]
    split <;> exact .of_same rfl fun _ => rfl
  | unlock place | close place => exact .of_same rfl fun _ => rfl
  | symlinkMetadata place | openReadWrite place | syncAll place | readToString place
  | readGenerations | browserWriterLocksAbsent generation =>
    rw [serve_reads rfl]
    exact .of_same rfl fun _ => rfl

theorem moves_refused (known : root.Known account) (permitted : permits attempt account request)
    (reached : Nat) : root.Moves attempt account (root.refused process request reached) := by
  cases request with
  | writeAll place content => exact moves_write known permitted reached
  | _ => exact .of_same rfl fun _ => rfl

theorem moves_interrupted (known : root.Known account) (permitted : permits attempt account request)
    (reached : Nat) : root.Moves attempt account (root.interrupted process request reached) := by
  have whole : root.Moves attempt account
      (if reached = 0 then root else (root.serve process request).2) := by
    split
    next => exact .of_same rfl fun _ => rfl
    next => exact moves_serve known permitted
  cases request with
  | writeAll place content => exact moves_write known permitted reached
  | _ => exact whole

end Moves

section Knowledge

variable {attempt : Attempt} {account later : Account} {root after : Root} {process : Nat}
  {request : OsRequest}

/-- What is known stays known while the files of the generation stay as they are. -/
theorem Root.Known.frame (known : root.Known account)
    (marker : ∀ generation, account.generation = some generation →
      after.node (.marker generation) = root.node (.marker generation))
    (stage : ∀ generation name, account.generation = some generation →
      after.node (.stage generation name) = root.node (.stage generation name))
    (admission : ∀ generation, root.node (.admission generation) ≠ none →
      after.node (.admission generation) ≠ none) : after.Known account where
  marker generation node inside knows := (marker generation inside).trans
    (known.marker generation node inside knows)
  stage generation name content inside knows := (stage generation name inside).trans
    (known.stage generation name content inside knows)
  opened generation opened := admission generation (known.opened generation opened)
  admitted generation inside := admission generation (known.admitted generation inside)
  created := known.created

theorem Root.Known.of_account (known : root.Known account)
    (generation : later.generation = account.generation) (opened : later.opened = account.opened)
    (marker : later.marker = account.marker) (created : later.created = account.created)
    (stage : later.stage = account.stage) : root.Known later where
  marker := by rw [generation, marker]; exact known.marker
  stage := by rw [generation, stage]; exact known.stage
  opened := by rw [opened]; exact known.opened
  admitted := by rw [generation]; exact known.admitted
  created := by rw [created, marker]; exact known.created

theorem Root.Known.of_marker {generation : Nat} {marker : Option (Option Node)} {created : Bool}
    (known : root.Known account) (inside : account.generation = some generation)
    (elsewhere : ∀ place, place ≠ .marker generation → after.node place = root.node place)
    (there : ∀ node, marker = some node → after.node (.marker generation) = node)
    (empty : created = true → marker = some (some (.file []))) :
    after.Known { account with marker, created } where
  marker other node inside' knows := by
    cases inside.symm.trans inside'
    exact there node knows
  stage other name content inside' staged := (elsewhere _ (by simp)).trans
    (known.stage other name content inside' staged)
  opened other opened := by
    rw [elsewhere _ (by simp)]
    exact known.opened other opened
  admitted other inside' := by
    rw [elsewhere _ (by simp)]
    exact known.admitted other inside'
  created := empty

theorem Root.Known.of_stage {generation : Nat} {name : String} {stage : Option (String × List UInt8)}
    (known : root.Known account) (inside : account.generation = some generation)
    (elsewhere : ∀ place, place ≠ .stage generation name → after.node place = root.node place)
    (there : ∀ name' content, stage = some (name', content) →
      after.node (.stage generation name') = some (.file content)) :
    after.Known { account with stage } where
  marker other node inside' knows := (elsewhere _ (by simp)).trans
    (known.marker other node inside' knows)
  stage other name' content inside' staged := by
    cases inside.symm.trans inside'
    exact there name' content staged
  opened other opened := by
    rw [elsewhere _ (by simp)]
    exact known.opened other opened
  admitted other inside' := by
    rw [elsewhere _ (by simp)]
    exact known.admitted other inside'
  created := known.created

theorem Root.Known.of_left (known : root.Known account) : root.Known account.left where
  marker := by
    intro generation node inside
    cases inside
  stage := by
    intro generation name content inside
    cases inside
  opened := known.opened
  admitted := by
    intro generation inside
    cases inside
  created := by
    intro created
    cases created

theorem known_reads (known : root.Known account) (reads : request.reads = true) :
    root.Known (account.after request (root.serve process request).1) := by
  cases request with
  | symlinkMetadata place =>
    generalize (root.serve process (.symlinkMetadata place)).1 = reply
    cases reply with
    | ok metadata => cases place <;> exact known
    | error kind =>
      cases place <;> cases kind <;> first | exact known | exact known.of_account rfl rfl rfl rfl rfl
  | openReadWrite place =>
    simp only [Root.serve]
    cases found : root.node place with
    | none => cases place <;> exact known
    | some node =>
      cases node with
      | file content =>
        cases place with
        | admission generation =>
          refine { known with opened := ?_ }
          intro other opened
          cases opened
          simp [found]
        | rootMarker | marker | stage | userData => exact known
      | directory | link | special => cases place <;> exact known
  | readToString place =>
    simp only [Root.serve]
    cases found : root.node place with
    | none => cases place <;> exact known
    | some node =>
      cases node with
      | file content =>
        by_cases text : (String.fromUTF8? content.toByteArray).isSome = true
        · simp only [text, if_true]
          cases place with
          | marker generation =>
            simp only [Account.after]
            split
            next inside =>
              refine known.of_marker inside (fun _ _ => rfl) (fun node knows => ?_) fun created => ?_
              · cases knows
                exact found
              · have empty := known.marker generation _ inside (known.created created)
                cases found.symm.trans empty
                rfl
            next => exact known
          | rootMarker | admission | stage | userData => exact known
        · simp only [text]
          cases place <;> exact known
      | directory | link | special => cases place <;> exact known
  | syncAll place => exact known
  | readGenerations =>
    simp only [Root.serve, Account.after]
    split
    next => exact known.of_account rfl rfl rfl rfl rfl
    next => exact known
  | browserWriterLocksAbsent generation => exact known
  | createNew | writeAll | rename | removeFile | tryLock | unlock | close => cases reads

theorem known_createNew {place : Place} (known : root.Known account)
    (permitted : permits attempt account (.createNew place)) :
    (root.serve process (.createNew place)).2.Known
      (account.after (.createNew place) (root.serve process (.createNew place)).1) := by
  rcases serve_createNew root process place with ⟨kind, refused⟩ | ⟨absent, within, made⟩
  · rw [refused]
    cases place <;> exact known
  · rw [made]
    have there : (root.put place (some (.file []))).node place = some (.file []) := by
      rw [node_put, if_pos rfl, if_pos within]
    cases place with
    | admission generation =>
      have framed : (root.put (.admission generation) (some (.file []))).Known account := by
        refine known.frame (by simp) (by simp) fun other present => ?_
        rw [node_put, within]
        split <;> simp [present]
      refine { framed with opened := ?_ }
      intro other opened
      cases opened
      simp [there]
    | marker generation =>
      refine known.of_marker permitted.2.2 (fun _ => node_put_of_ne) (fun node knows => ?_) fun _ => rfl
      cases knows
      exact there
    | stage generation name =>
      refine known.of_stage permitted.2.2 (fun _ => node_put_of_ne) fun name' content staged => ?_
      cases staged
      exact there
    | rootMarker | userData => exact permitted.elim

theorem known_write {place : Place} {content written : List UInt8} (known : root.Known account)
    (permitted : permits attempt account (.writeAll place content))
    {reply : Except IoErrorKind Unit} (done : reply = .ok () → written = content) :
    (root.write place written).Known (account.after (.writeAll place content) reply) := by
  cases place with
  | marker generation =>
    obtain ⟨-, inside, created, -⟩ := permitted
    have empty := known.marker generation _ inside (known.created created)
    cases reply with
    | ok value =>
      refine known.of_marker inside (fun _ => node_write_of_ne) (fun node knows => ?_) (by simp)
      cases knows
      rw [write_of_file empty, done rfl]
    | error kind => exact known.of_marker inside (fun _ => node_write_of_ne) (by simp) (by simp)
  | stage generation name =>
    obtain ⟨-, -, inside, staged⟩ := permitted
    have empty := known.stage generation name _ inside staged
    cases reply with
    | ok value =>
      refine known.of_stage inside (fun _ => node_write_of_ne) fun name' content' staged' => ?_
      cases staged'
      rw [write_of_file empty, done rfl]
    | error kind => exact known.of_stage inside (fun _ => node_write_of_ne) (by simp)
  | rootMarker | admission | userData => exact permitted.elim

theorem known_rename {source target : Place} (known : root.Known account)
    (permitted : permits attempt account (.rename source target)) :
    (root.serve process (.rename source target)).2.Known
      (account.after (.rename source target) (root.serve process (.rename source target)).1) := by
  obtain ⟨generation, name, owner, previous, epoch, rfl, rfl, rooted, inside, owned, staged, old, read,
    fresh⟩ := permitted
  have target := known.marker generation _ inside old
  have within := within_of_node (show root.node (.marker generation) ≠ none by simp [target])
  rw [serve_rename (known.stage generation name _ inside staged) target]
  -- First the stage goes away, and then its content stands in the marker.
  have unstaged : (root.put (.stage generation name) none).Known { account with stage := none } :=
    known.of_stage inside (fun _ => node_put_of_ne) (by simp)
  refine unstaged.of_marker inside (fun _ => node_put_of_ne) (fun node knows => ?_) (by simp)
  rw [staged] at knows
  cases knows
  exact (node_renamed within _).trans (if_pos rfl)

theorem known_removeFile {place : Place} (known : root.Known account)
    (permitted : permits attempt account (.removeFile place)) :
    (root.serve process (.removeFile place)).2.Known
      (account.after (.removeFile place) (root.serve process (.removeFile place)).1) := by
  obtain ⟨generation, owner, rfl, inside, owned, marked⟩ := permitted
  rw [serve_removeFile (known.marker generation _ inside marked)]
  refine known.of_marker inside (fun _ => node_put_of_ne) (fun node knows => ?_) (by simp)
  cases knows
  rw [node_put, if_pos rfl, ite_self]

theorem Root.Known.of_locks {locks : List FileLock} (known : root.Known account) :
    Root.Known { root with locks } account :=
  ⟨known.marker, known.stage, known.opened, known.admitted, known.created⟩

theorem known_tryLock {place : Place} {mode : LockMode} (known : root.Known account)
    (permitted : permits attempt account (.tryLock place mode)) (reply : Except TryLockError Unit) :
    root.Known (account.after (.tryLock place mode) reply) := by
  cases reply with
  | error why => cases place <;> exact known
  | ok value =>
    cases place with
    | rootMarker => exact known.of_account rfl rfl rfl rfl rfl
    | admission generation =>
      obtain ⟨-, -, -, opened⟩ := permitted
      refine ⟨?_, ?_, known.opened, ?_, ?_⟩
      · intro other node inside knows
        cases knows
      · intro other name content inside staged
        cases staged
      · intro other inside
        cases inside
        exact known.opened generation opened
      · intro created
        cases created
    | marker | stage | userData => exact permitted.elim

theorem known_given_back {place : Place} (known : root.Known account) :
    root.Known (account.after (.close place) ()) := by
  cases place with
  | admission generation =>
    show root.Known (if account.generation = some generation then account.left else account)
    split
    next => exact known.of_left
    next => exact known
  | rootMarker => exact known.of_account rfl rfl rfl rfl rfl
  | marker | stage | userData => exact known

theorem known_unlock {place : Place} (known : root.Known account)
    (reply : Except IoErrorKind Unit) : root.Known (account.after (.unlock place) reply) := by
  cases reply with
  | error kind => cases place <;> exact known
  | ok value =>
    cases place with
    | admission generation =>
      change root.Known (account.after (.close (.admission generation)) ())
      exact known_given_back known
    | rootMarker | marker | stage | userData => exact known

theorem known_serve (known : root.Known account) (permitted : permits attempt account request) :
    (root.serve process request).2.Known (account.after request (root.serve process request).1) := by
  cases request with
  | createNew place => exact known_createNew known permitted
  | writeAll place content => exact known_write known permitted fun _ => rfl
  | rename source target => exact known_rename known permitted
  | removeFile place => exact known_removeFile known permitted
  | tryLock place mode =>
    simp only [Root.serve]
    split
    · exact known_tryLock known permitted _
    · exact (known_tryLock known permitted (.ok ())).of_locks
  | unlock place => exact (known_unlock known _).of_locks
  | close place => exact (known_given_back known).of_locks
  | symlinkMetadata place | openReadWrite place | syncAll place | readToString place
  | readGenerations | browserWriterLocksAbsent generation =>
    rw [serve_reads rfl]
    exact known_reads known rfl

theorem known_refused (known : root.Known account) (permitted : permits attempt account request)
    (reached : Nat) :
    (root.refused process request reached).Known (account.after request (Root.refusal request)) := by
  cases request with
  | writeAll place content => exact known_write known permitted (by simp [Root.refusal])
  | tryLock place mode => exact known_tryLock known permitted _
  | unlock place => exact known_unlock known _
  | close place => exact (known_given_back known).of_locks
  | symlinkMetadata place | openReadWrite place | syncAll place | readToString place
  | createNew place =>
    cases place <;> exact known
  | rename | removeFile | readGenerations | browserWriterLocksAbsent => exact known

end Knowledge

end ProfilePlatform.LocalProfile
