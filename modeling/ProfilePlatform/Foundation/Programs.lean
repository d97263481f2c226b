import ProfilePlatform.Foundation.Machine

/-! Programs that ask a server, and pools of them whose requests are served one at a time. -/

set_option autoImplicit false

namespace Foundation

inductive Program (Request : Type) (Answer : Request → Type) (A : Type) where
  | done (value : A)
  | ask (request : Request) (resume : Answer request → Program Request Answer A)

namespace Program

variable {Request : Type} {Answer : Request → Type} {A B : Type}

def bind : Program Request Answer A → (A → Program Request Answer B) → Program Request Answer B
  | .done value, next => next value
  | .ask request resume, next => .ask request fun answer => (resume answer).bind next

instance : Monad (Program Request Answer) where
  pure := .done
  bind := bind

instance : LawfulMonad (Program Request Answer) := by
  refine LawfulMonad.mk' _ ?_ ?_ ?_
  · intro A program
    induction program with
    | done value => rfl
    | ask request resume ih => exact congrArg (Program.ask request) (funext ih)
  · intro A B value next
    rfl
  · intro A B C program next last
    induction program with
    | done value => rfl
    | ask request resume ih => exact congrArg (Program.ask request) (funext ih)

/-- What the program has returned, if it asks for nothing more. -/
def result : Program Request Answer A → Option A
  | .done value => some value
  | .ask _ _ => none

variable {E : Type}

/-- A result for which nobody is asked. -/
def decided (result : Except E A) : ExceptT E (Program Request Answer) A := ExceptT.mk (.done result)

def asked (request : Request) : ExceptT E (Program Request Answer) (Answer request) :=
  ExceptT.mk (.ask request fun answer => .done (.ok answer))

section Steps

variable (next : A → ExceptT E (Program Request Answer) B)

@[simp] theorem run_decided_ok_bind (value : A) :
    (decided (.ok value) >>= next).run = (next value).run := rfl

@[simp] theorem run_decided_error_bind (why : E) :
    ((decided (.error why) : ExceptT E (Program Request Answer) A) >>= next).run =
      .done (.error why) := rfl

@[simp] theorem run_asked_bind {request : Request}
    (go : Answer request → ExceptT E (Program Request Answer) B) :
    (asked request >>= go).run = .ask request fun answer => (go answer).run := rfl

end Steps

end Program

/-- A call that has been made, and what is left of its program. -/
structure Thread (Request : Type) (Answer : Request → Type) (Call A : Type) where
  call : Call
  program : Program Request Answer A

/-- A request that has been served, and the thread it was served for. -/
structure Served (Request : Type) (Answer : Request → Type) (Call : Type) where
  thread : Nat
  call : Call
  request : Request
  answer : Answer request

/-- The threads of a server, with the record of all that it has served. -/
structure Pool (State Request : Type) (Answer : Request → Type) (Call A : Type) where
  server : State
  threads : List (Thread Request Answer Call A)
  record : List (Served Request Answer Call)

inductive PoolInput (Call Event : Type) where
  | start (call : Call)
  | turn (thread : Nat)
  | outside (event : Event)

/-- A server, the programs of the calls that use it, and what changes it from outside. -/
structure Service (State Event Request : Type) (Answer : Request → Type) (Call A : Type) where
  execute : Call → Program Request Answer A
  serve : State → (request : Request) → Answer request × State
  disturb : State → Event → State

namespace Service

variable {State Event Request : Type} {Answer : Request → Type} {Call A : Type}
  (service : Service State Event Request Answer Call A)

/-- Serves the next request of a thread. -/
def turn (pool : Pool State Request Answer Call A) (thread : Nat) :
    Pool State Request Answer Call A :=
  match pool.threads[thread]? with
  | some ⟨call, .ask request resume⟩ =>
    let (answer, server) := service.serve pool.server request
    { server
      threads := pool.threads.set thread ⟨call, resume answer⟩
      record := pool.record ++ [⟨thread, call, request, answer⟩] }
  | _ => pool

def pool : Machine (Pool State Request Answer Call A) (PoolInput Call Event) Unit where
  step pool
    | .start call => ((), { pool with threads := pool.threads ++ [⟨call, service.execute call⟩] })
    | .turn thread => ((), service.turn pool thread)
    | .outside event => ((), { pool with server := service.disturb pool.server event })

/-- The other threads add to the record, and nothing in the name of this one. -/
def Others (thread : Nat) (before after : List (Served Request Answer Call)) : Prop :=
  ∃ more, after = before ++ more ∧ ∀ served ∈ more, served.thread ≠ thread

section Safety

variable {thread other : Nat} {before between after : List (Served Request Answer Call)}

theorem Others.refl (record : List (Served Request Answer Call)) : Others thread record record :=
  ⟨[], (List.append_nil record).symm, by simp⟩

theorem Others.trans (first : Others thread before between) (second : Others thread between after) :
    Others thread before after := by
  obtain ⟨more, rfl, own⟩ := first
  obtain ⟨again, rfl, ownToo⟩ := second
  exact ⟨more ++ again, List.append_assoc _ _ _, fun served member =>
    (List.mem_append.mp member).elim (own served) (ownToo served)⟩

/-- A thread whose requests the server can serve at any time, and of which the record tells what it
should at each of its programs. -/
inductive Safe (valid : List (Served Request Answer Call) → State → Prop)
    (tells : Program Request Answer A → List (Served Request Answer Call) → Prop) (thread : Nat)
    (call : Call) : Program Request Answer A → List (Served Request Answer Call) → Prop where
  | done {value : A} {record : List (Served Request Answer Call)}
      (ends : ∀ later, Others thread record later → tells (.done value) later) :
      Safe valid tells thread call (.done value) record
  | ask {request : Request} {resume : Answer request → Program Request Answer A}
      {record : List (Served Request Answer Call)}
      (asks : ∀ later, Others thread record later → tells (.ask request resume) later)
      (serves : ∀ later server, Others thread record later → valid later server →
        valid (later ++ [⟨thread, call, request, (service.serve server request).1⟩])
          (service.serve server request).2)
      (resumes : ∀ later server, Others thread record later → valid later server →
        Safe valid tells thread call (resume (service.serve server request).1)
          (later ++ [⟨thread, call, request, (service.serve server request).1⟩])) :
      Safe valid tells thread call (.ask request resume) record

variable {service} {valid : List (Served Request Answer Call) → State → Prop}
  {tells : Program Request Answer A → List (Served Request Answer Call) → Prop} {call : Call}
  {program : Program Request Answer A}

theorem Safe.mono (safe : service.Safe valid tells thread call program before)
    (others : Others thread before after) : service.Safe valid tells thread call program after := by
  cases safe with
  | done ends => exact .done fun later more => ends later (others.trans more)
  | ask asks serves resumes =>
    exact .ask (fun later more => asks later (others.trans more))
      (fun later server more => serves later server (others.trans more))
      (fun later server more => resumes later server (others.trans more))

theorem Safe.told (safe : service.Safe valid tells thread call program before) :
    tells program before := by
  cases safe with
  | done ends => exact ends _ (Others.refl _)
  | ask asks serves resumes => exact asks _ (Others.refl _)

/-- The pool as all its threads leave it: a valid server, and every thread safe. -/
structure Kept (service : Service State Event Request Answer Call A)
    (valid : List (Served Request Answer Call) → State → Prop)
    (accounts : Nat → Call → Program Request Answer A → List (Served Request Answer Call) → Prop)
    (pool : Pool State Request Answer Call A) : Prop where
  stands : valid pool.record pool.server
  named : ∀ served ∈ pool.record, ∃ running, pool.threads[served.thread]? = some running ∧
    running.call = served.call
  safe : ∀ thread running, pool.threads[thread]? = some running →
    service.Safe valid (accounts thread running.call) thread running.call running.program pool.record

variable {accounts : Nat → Call → Program Request Answer A →
    List (Served Request Answer Call) → Prop} {pool : Pool State Request Answer Call A}

theorem Kept.turn (kept : Kept service valid accounts pool) (thread : Nat) :
    Kept service valid accounts (service.turn pool thread) := by
  unfold Service.turn
  split
  next call request resume found =>
    have inside : thread < pool.threads.length := (List.getElem?_eq_some_iff.mp found).1
    cases kept.safe thread _ found with
    | ask asks serves resumes =>
    exact {
      stands := serves _ _ (Others.refl _) kept.stands
      named := by
        intro served member
        rcases List.mem_append.mp member with old | new
        · obtain ⟨running, present, same⟩ := kept.named served old
          by_cases own : thread = served.thread
          · subst own
            cases found.symm.trans present
            exact ⟨_, List.getElem?_set_self inside, same⟩
          · exact ⟨running, by rw [List.getElem?_set_ne own]; exact present, same⟩
        · rw [List.mem_singleton.mp new]
          exact ⟨_, List.getElem?_set_self inside, rfl⟩
      safe := by
        intro other running present
        by_cases same : thread = other
        · subst same
          rw [List.getElem?_set_self inside] at present
          cases present
          exact resumes _ _ (Others.refl _) kept.stands
        · rw [List.getElem?_set_ne same] at present
          refine (kept.safe other running present).mono ⟨_, rfl, fun served member => ?_⟩
          rw [List.mem_singleton.mp member]
          exact same }
  next => exact kept

/-- Threads that are safe when they start leave the server valid in every run of the pool. -/
theorem kept_of_runs {server : State} (initially : valid [] server)
    (disturbed : ∀ record server event, valid record server →
      valid record (service.disturb server event))
    (starts : ∀ call thread record, (∀ served ∈ record, served.thread ≠ thread) →
      service.Safe valid (accounts thread call) thread call (service.execute call) record)
    (inputs : List (PoolInput Call Event)) :
    Kept service valid accounts (service.pool.final ⟨server, [], []⟩ inputs) := by
  refine service.pool.invariant (Kept service valid accounts) (fun pool input kept => ?_)
    ⟨initially, by simp, by simp⟩ inputs
  cases input with
  | start call =>
    exact {
      stands := kept.stands
      named := by
        intro served member
        obtain ⟨running, present, same⟩ := kept.named served member
        have inside := (List.getElem?_eq_some_iff.mp present).1
        exact ⟨running, by rw [Service.pool, List.getElem?_append_left inside]; exact present, same⟩
      safe := by
        intro thread running present
        rcases Nat.lt_trichotomy thread pool.threads.length with old | new | beyond
        · exact kept.safe thread running (by rwa [← List.getElem?_append_left old])
        · have fresh : running = ⟨call, service.execute call⟩ := by
            simpa [Service.pool, new] using present.symm
          rw [fresh]
          refine starts call thread _ fun served member => ?_
          obtain ⟨_, present, _⟩ := kept.named served member
          exact new ▸ Nat.ne_of_lt (List.getElem?_eq_some_iff.mp present).1
        · have bounded := (List.getElem?_eq_some_iff.mp present).1
          simp only [Service.pool, List.length_append, List.length_singleton] at bounded
          omega }
  | turn thread => exact kept.turn thread
  | outside event => exact ⟨disturbed _ _ event kept.stands, kept.named, kept.safe⟩

end Safety

end Service

/-- What a client must hold to ask for something, and what it holds after the answer. -/
structure Discipline (Request : Type) (Answer : Request → Type) (Account : Type) where
  permits : Account → Request → Prop
  after : Account → (request : Request) → Answer request → Account

namespace Discipline

variable {Request : Type} {Answer : Request → Type} {Account A B E : Type}
  (discipline : Discipline Request Answer Account)

/-- The program asks for nothing that its account does not permit, and ends as it should. -/
def Follows (ends : Account → A → Prop) : Account → Program Request Answer A → Prop
  | account, .done value => ends account value
  | account, .ask request resume => discipline.permits account request ∧
      ∀ answer, Follows ends (discipline.after account request answer) (resume answer)

variable {discipline} {account : Account}

theorem follows_bind {ends : Account → A → Prop} {last : Account → B → Prop}
    {program : Program Request Answer A} {next : A → Program Request Answer B}
    (first : discipline.Follows ends account program)
    (rest : ∀ later value, ends later value → discipline.Follows last later (next value)) :
    discipline.Follows last account (program >>= next) := by
  induction program generalizing account with
  | done value => exact rest account value first
  | ask request resume ih => exact ⟨first.1, fun answer => ih answer (first.2 answer)⟩

theorem Follows.weaken {ends weaker : Account → A → Prop} {program : Program Request Answer A}
    (follows : discipline.Follows ends account program)
    (weakens : ∀ later value, ends later value → weaker later value) :
    discipline.Follows weaker account program := by
  induction program generalizing account with
  | done value => exact weakens account value follows
  | ask request resume ih => exact ⟨follows.1, fun answer => ih answer (follows.2 answer)⟩

section Fallible

variable {ends : Account → Except E A → Prop} {last : Account → Except E B → Prop}

/-- A program that may fail passes on what it fails with. -/
theorem follows_then {first : ExceptT E (Program Request Answer) A}
    {next : A → ExceptT E (Program Request Answer) B}
    (begins : discipline.Follows ends account first.run)
    (goesOn : ∀ later value, ends later (.ok value) → discipline.Follows last later (next value).run)
    (stops : ∀ later why, ends later (.error why) → last later (.error why)) :
    discipline.Follows last account (first >>= next).run := by
  refine follows_bind begins fun later result ended => ?_
  cases result with
  | ok value => exact goesOn later value ended
  | error why => exact stops later why ended

theorem follows_asked {request : Request}
    {next : Answer request → ExceptT E (Program Request Answer) B}
    (permitted : discipline.permits account request)
    (goesOn : ∀ answer,
      discipline.Follows last (discipline.after account request answer) (next answer).run) :
    discipline.Follows last account (Program.asked request >>= next).run :=
  ⟨permitted, goesOn⟩

end Fallible

end Discipline

end Foundation
