import ProfilePlatform.Foundation.Fallible
import ProfilePlatform.Foundation.Machine
import ProfilePlatform.Primitives

/-! The lifecycle of one local generation, from its materialisation to its eviction. -/

set_option autoImplicit false

namespace ProfilePlatform.LocalProfile

open Foundation

/-- The errors of the lifecycle and its policies. -/
inductive LocalProfileError where
  | invalidPolicy | invalidTransition | clockRegression
  deriving DecidableEq, Repr

inductive LocalGenerationState where
  | materializedClean | inUse | dirtyLocal | recoveryRequired | quarantined
  | syncedEvictable | supersededEvictable | evicted
  deriving DecidableEq, Repr

structure LocalGenerationRecord where
  generationId : GenerationId
  state : LocalGenerationState
  bytes : Nat
  lastActivityAt : UnixMillis
  sessionStartedAt : Option UnixMillis
  locked : Bool
  deriving DecidableEq

def ensureMonotonic (previous now : UnixMillis) : Except LocalProfileError Unit :=
  refuseIf (now < previous) .clockRegression

namespace LocalGenerationRecord

def new (generationId : GenerationId) (bytes : Nat) (observedAt : UnixMillis) :
    LocalGenerationRecord where
  generationId := generationId
  state := .materializedClean
  bytes := bytes
  lastActivityAt := observedAt
  sessionStartedAt := none
  locked := false

variable (self : LocalGenerationRecord)

/-- Leaves `next` behind if the record is in order and the clock has not gone back. -/
def advance (inOrder : Bool) (now : UnixMillis) (next : LocalGenerationRecord) :
    Except LocalProfileError Unit × LocalGenerationRecord :=
  if inOrder then
    match ensureMonotonic self.lastActivityAt now with
    | .error why => (.error why, self)
    | .ok () => (.ok (), next)
  else (.error .invalidTransition, self)

def setLocked (locked : Bool) : Except LocalProfileError Unit × LocalGenerationRecord :=
  if self.state = .evicted ∧ locked then (.error .invalidTransition, self)
  else (.ok (), { self with locked := locked })

def beginUse (now : UnixMillis) : Except LocalProfileError Unit × LocalGenerationRecord :=
  self.advance (self.locked && (self.state = .materializedClean || self.state = .syncedEvictable))
    now { self with state := .inUse, lastActivityAt := now, sessionStartedAt := some now }

def observeActivity (now : UnixMillis) : Except LocalProfileError Unit × LocalGenerationRecord :=
  self.advance (self.state = .inUse) now { self with lastActivityAt := now }

def gracefulClose (now : UnixMillis) : Except LocalProfileError Unit × LocalGenerationRecord :=
  self.advance (self.state = .inUse) now
    { self with state := .dirtyLocal, lastActivityAt := now, sessionStartedAt := none }

def observeCrash (now : UnixMillis) : Except LocalProfileError Unit × LocalGenerationRecord :=
  self.advance (self.state = .inUse) now
    { self with state := .recoveryRequired, lastActivityAt := now, sessionStartedAt := none }

def completeRecovery (cloneIntegrityPassed : Bool) (now : UnixMillis) :
    Except LocalProfileError Unit × LocalGenerationRecord :=
  self.advance (self.state = .recoveryRequired) now
    { self with
      state := if cloneIntegrityPassed then .materializedClean else .quarantined
      lastActivityAt := now
      locked := false }

def markSynced (now : UnixMillis) : Except LocalProfileError Unit × LocalGenerationRecord :=
  self.advance (self.state = .dirtyLocal) now
    { self with state := .syncedEvictable, lastActivityAt := now }

def markSuperseded (now : UnixMillis) : Except LocalProfileError Unit × LocalGenerationRecord :=
  self.advance (self.state = .dirtyLocal) now
    { self with state := .supersededEvictable, lastActivityAt := now }

def supersedeWithSuccessor (successorGenerationId : GenerationId) (successorBytes : Nat)
    (now : UnixMillis) : Except LocalProfileError LocalGenerationRecord × LocalGenerationRecord :=
  if successorGenerationId = self.generationId then (.error .invalidTransition, self)
  else
    ((self.markSuperseded now).1.map fun _ => new successorGenerationId successorBytes now,
      (self.markSuperseded now).2)

def evict : Except LocalProfileError Unit × LocalGenerationRecord :=
  if ¬(self.state = .syncedEvictable ∨ self.state = .supersededEvictable) ∨ self.locked then
    (.error .invalidTransition, self)
  else (.ok (), { self with state := .evicted, bytes := 0 })

end LocalGenerationRecord

structure ForgottenWindowPolicy where
  warnAfterMs : Nat
  drainAfterMs : Nat
  hardTtlMs : Nat
  warns : 0 < warnAfterMs
  drains : warnAfterMs < drainAfterMs
  closes : drainAfterMs < hardTtlMs

namespace ForgottenWindowPolicy

def new (warnAfterMs drainAfterMs hardTtlMs : Nat) :
    Except LocalProfileError ForgottenWindowPolicy :=
  if ordered : 0 < warnAfterMs ∧ warnAfterMs < drainAfterMs ∧ drainAfterMs < hardTtlMs then
    .ok ⟨warnAfterMs, drainAfterMs, hardTtlMs, ordered.1, ordered.2.1, ordered.2.2⟩
  else .error .invalidPolicy

end ForgottenWindowPolicy

inductive GenerationCall where
  | setLocked (locked : Bool)
  | beginUse (now : UnixMillis)
  | observeActivity (now : UnixMillis)
  | gracefulClose (now : UnixMillis)
  | observeCrash (now : UnixMillis)
  | completeRecovery (cloneIntegrityPassed : Bool) (now : UnixMillis)
  | markSynced (now : UnixMillis)
  | markSuperseded (now : UnixMillis)
  | supersedeWithSuccessor (successorGenerationId : GenerationId) (successorBytes : Nat)
      (now : UnixMillis)
  | evict
  deriving DecidableEq

/-- The result of a call, with the successor that the call makes. -/
abbrev GenerationAnswer := Except LocalProfileError (Option LocalGenerationRecord)

/-- The answer of a call that makes no successor. -/
def silently (result : Except LocalProfileError Unit × LocalGenerationRecord) :
    GenerationAnswer × LocalGenerationRecord :=
  (result.1.map fun _ => none, result.2)

/-- One record under any calls in any order. -/
def generation : Machine LocalGenerationRecord GenerationCall GenerationAnswer where
  step self
    | .setLocked locked => silently (self.setLocked locked)
    | .beginUse now => silently (self.beginUse now)
    | .observeActivity now => silently (self.observeActivity now)
    | .gracefulClose now => silently (self.gracefulClose now)
    | .observeCrash now => silently (self.observeCrash now)
    | .completeRecovery cloneIntegrityPassed now =>
      silently (self.completeRecovery cloneIntegrityPassed now)
    | .markSynced now => silently (self.markSynced now)
    | .markSuperseded now => silently (self.markSuperseded now)
    | .supersedeWithSuccessor successorGenerationId successorBytes now =>
      ((self.supersedeWithSuccessor successorGenerationId successorBytes now).1.map some,
        (self.supersedeWithSuccessor successorGenerationId successorBytes now).2)
    | .evict => silently self.evict

abbrev GenerationEntry := Entry LocalGenerationRecord GenerationCall GenerationAnswer

end ProfilePlatform.LocalProfile
