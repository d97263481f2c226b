import ProfilePlatform.Foundation.Leads
import ProfilePlatform.Foundation.Machine
import ProfilePlatform.Foundation.Texts
import ProfilePlatform.Resolver.Signature

/-! The nonce table that turns repeated requests away.

A nonce is kept for a time from the arrival of its request, while the request is fresh for a time
from its own timestamp, which may lie ahead of the arrival.
-/

set_option autoImplicit false

namespace ProfilePlatform.Resolver

open Foundation

def replayRetentionMs : Nat := 10 * 60 * 1000

inductive ReplayClaimError where
  | replayRejected
  | storageUnavailable
  deriving DecidableEq, Repr

structure NonceRow where
  tenantId : String
  nonce : String
  requestPath : String
  bodySha256 : String
  authenticatedAtMs : Nat
  expiresAtMs : Nat
  deriving DecidableEq

/-- The checks of the table. -/
def NonceRow.checks (row : NonceRow) : Prop :=
  (1 ≤ sqlLength row.tenantId ∧ sqlLength row.tenantId ≤ 128) ∧ sqlLength row.nonce = 32 ∧
    sqlLength row.bodySha256 = 64 ∧ row.authenticatedAtMs < row.expiresAtMs

instance (row : NonceRow) : Decidable row.checks := by
  unfold NonceRow.checks
  infer_instance

/-- A statement is answered, or its answer is lost and nobody knows whether it was applied. -/
inductive StatementFate where
  | answered
  | lost (applied : Bool)
  deriving DecidableEq

def StatementFate.applied : StatementFate → Bool
  | .answered => true
  | .lost applied => applied

abbrev NonceTable := ExceptT ReplayClaimError (StateM (List NonceRow))

def deleteExpired (nowMs : Nat) (fate : StatementFate) : NonceTable Unit := do
  modify fun rows =>
    if fate.applied then rows.filter fun row => ¬row.expiresAtMs ≤ nowMs else rows
  refuseWhen (fate ≠ .answered) .storageUnavailable

/-- How many rows an insert adds that leaves a row with its key as it is. -/
def insertNonce (row : NonceRow) (fate : StatementFate) : NonceTable Nat := do
  let rows ← get
  refuseWhen (¬row.checks) .storageUnavailable
  let changes := if ∃ known ∈ rows, known.tenantId = row.tenantId ∧ known.nonce = row.nonce then 0
    else 1
  modify fun rows => if fate.applied ∧ changes = 1 then rows ++ [row] else rows
  refuseWhen (fate ≠ .answered) .storageUnavailable
  return changes

def saturatingAdd (value delta : Nat) : Nat := min (value + delta) (u64Limit - 1)

def claimRequestNonce (tenantId nonce path bodyDigest : String) (authenticatedAtMs : Nat)
    (deletion insertion : StatementFate) : NonceTable Unit := do
  refuseWhen (sqliteLimit ≤ authenticatedAtMs) .storageUnavailable
  let expiresAtMs := saturatingAdd authenticatedAtMs replayRetentionMs
  refuseWhen (sqliteLimit ≤ expiresAtMs) .storageUnavailable
  deleteExpired authenticatedAtMs deletion
  let changes ← insertNonce
    ⟨tenantId, nonce, path, bodyDigest, authenticatedAtMs, expiresAtMs⟩ insertion
  refuseWhen (changes ≠ 1) .replayRejected

/-- A request as it arrives, the clock it meets and what becomes of the statements. -/
structure Arrival where
  secret : List UInt8
  version : String
  keyId : Option String
  input : SignatureInput
  suppliedBodyDigest : String
  suppliedSignature : String
  nowMs : Nat
  deletion : StatementFate
  insertion : StatementFate
  deriving DecidableEq

inductive RequestError where
  | signature (why : SignatureError)
  | replay (why : ReplayClaimError)
  deriving DecidableEq, Repr

section Requests

variable (sha256 : List UInt8 → List UInt8) (hmacSha256 : List UInt8 → List UInt8 → List UInt8)

def Arrival.verify (arrival : Arrival) : Except SignatureError Unit :=
  verifyVersioned sha256 hmacSha256 arrival.secret arrival.version arrival.keyId arrival.input
    arrival.suppliedBodyDigest arrival.suppliedSignature arrival.nowMs

def Arrival.claimNonce (arrival : Arrival) : NonceTable Unit :=
  claimRequestNonce arrival.input.tenantId arrival.input.nonce arrival.input.path
    arrival.suppliedBodyDigest arrival.nowMs arrival.deletion arrival.insertion

/-- A request is accepted once its signature holds and its nonce is claimed. -/
def requests : Machine (List NonceRow) Arrival (Except RequestError Unit) where
  step rows arrival :=
    match arrival.verify sha256 hmacSha256 with
    | .error why => (.error (.signature why), rows)
    | .ok () =>
      ((outcome arrival.claimNonce rows).1.mapError .replay, (outcome arrival.claimNonce rows).2)

/-- The lines of the request that its signature is over. -/
def Arrival.signed (arrival : Arrival) : Except ServiceAuthContractError (List UInt8) :=
  canonicalSignatureInput arrival.version arrival.keyId (bodyDigestHex sha256 arrival.input.body)
    arrival.input

/-- The second request is a copy of the first as far as its signature tells. -/
def Copies (first second : Arrival) : Prop :=
  first.input.tenantId = second.input.tenantId ∧ first.input.nonce = second.input.nonce ∧
    ∃ lines, first.signed sha256 = .ok lines ∧ second.signed sha256 = .ok lines

end Requests

/-- The first request is stamped as far ahead as is still fresh, and the second arrives in the very
millisecond in which its nonce is let go. -/
def AtTheEdges (first second : Arrival) : Prop :=
  first.input.timestampMs = first.nowMs + maxClockSkewMs ∧
    second.nowMs = first.nowMs + replayRetentionMs

section Steps

variable {rows : List NonceRow} {nowMs : Nat} {arrival : Arrival}

/-- Every row is still there that has not expired. -/
def Keeps (nowMs : Nat) (rows after : List NonceRow) : Prop :=
  ∀ row ∈ rows, nowMs < row.expiresAtMs → row ∈ after

theorem deleteExpired_keeps (fate : StatementFate) :
    Leads (· = rows) (deleteExpired nowMs fate) (fun _ => Keeps nowMs rows)
      (fun _ => Keeps nowMs rows) := by
  have deletes : Leads (· = rows) (modify fun rows =>
      if fate.applied then rows.filter fun row => ¬row.expiresAtMs ≤ nowMs else rows)
      (fun _ => Keeps nowMs rows) fun (_ : ReplayClaimError) => Keeps nowMs rows := by
    refine .modify ?_
    rintro _ rfl row member kept
    split
    · exact List.mem_filter.mpr ⟨member, by simpa using kept⟩
    · exact member
  exact deletes.bind fun _ => .refuseWhen (fun _ _ kept => kept) fun _ _ kept => kept

theorem insertNonce_keeps (row : NonceRow) (fate : StatementFate) :
    Leads (Keeps nowMs rows) (insertNonce row fate)
      (fun changes after => Keeps nowMs rows after ∧ (changes = 1 → row ∈ after ∧
        ∀ known ∈ rows, known.tenantId = row.tenantId → known.nonce = row.nonce →
          known.expiresAtMs ≤ nowMs))
      (fun _ => Keeps nowMs rows) := by
  refine .get_bind fun read kept => ?_
  have checks : Leads (· = read) (refuseWhen (¬row.checks) ReplayClaimError.storageUnavailable)
      (fun _ => (· = read)) fun _ => Keeps nowMs rows :=
    .refuseWhen (fun _ _ same => same) fun _ _ same => same ▸ kept
  refine checks.bind fun _ => ?_
  by_cases taken : ∃ known ∈ read, known.tenantId = row.tenantId ∧ known.nonce = row.nonce
  · simp only [if_pos taken, Nat.zero_ne_one, and_false, if_false]
    have stays : Leads (· = read) (modify fun rows => rows) (fun _ => Keeps nowMs rows)
        fun (_ : ReplayClaimError) => Keeps nowMs rows := .modify fun _ same => same ▸ kept
    have answered : Leads (Keeps nowMs rows)
        (refuseWhen (fate ≠ .answered) ReplayClaimError.storageUnavailable)
        (fun _ => Keeps nowMs rows) fun _ => Keeps nowMs rows :=
      .refuseWhen (fun _ _ same => same) fun _ _ same => same
    exact stays.bind fun _ => answered.bind fun _ => .pure fun _ kept => ⟨kept, by simp⟩
  · simp only [if_neg taken, and_true]
    have adds : Leads (· = read) (modify fun rows => if fate.applied then rows ++ [row] else rows)
        (fun _ after => Keeps nowMs rows after ∧ (fate = .answered → row ∈ after))
        fun (_ : ReplayClaimError) => Keeps nowMs rows := by
      refine .modify ?_
      rintro _ rfl
      split
      next => exact ⟨fun old member alive => List.mem_append_left _ (kept old member alive),
          fun _ => List.mem_append_right _ (List.mem_singleton.mpr rfl)⟩
      next skipped => exact ⟨kept, fun answered => absurd (by rw [answered]; rfl) skipped⟩
    have answered : Leads (fun after => Keeps nowMs rows after ∧ (fate = .answered → row ∈ after))
        (refuseWhen (fate ≠ .answered) ReplayClaimError.storageUnavailable)
        (fun _ after => Keeps nowMs rows after ∧ row ∈ after) fun _ => Keeps nowMs rows :=
      .refuseWhen (fun heard _ ⟨kept, added⟩ => ⟨kept, added (Decidable.not_not.mp heard)⟩)
        fun _ _ ⟨kept, _⟩ => kept
    refine adds.bind fun _ => answered.bind fun _ => .pure fun _ ⟨stays, added⟩ => ⟨stays, fun _ => ?_⟩
    refine ⟨added, fun known member tenant nonce => ?_⟩
    by_contra alive
    exact taken ⟨known, kept known member (Nat.not_le.mp alive), tenant, nonce⟩

/-- A nonce that is claimed was free, and is kept for the whole retention. -/
theorem claimNonce_keeps :
    Leads (· = rows) arrival.claimNonce
      (fun _ after => Keeps arrival.nowMs rows after ∧
        (∃ row ∈ after, row.tenantId = arrival.input.tenantId ∧ row.nonce = arrival.input.nonce ∧
          row.expiresAtMs = arrival.nowMs + replayRetentionMs) ∧
        ∀ known ∈ rows, known.tenantId = arrival.input.tenantId →
          known.nonce = arrival.input.nonce → known.expiresAtMs ≤ arrival.nowMs)
      (fun _ => Keeps arrival.nowMs rows) := by
  have same : Keeps arrival.nowMs rows rows := fun _ member _ => member
  have early : Leads (· = rows)
      (refuseWhen (sqliteLimit ≤ arrival.nowMs) ReplayClaimError.storageUnavailable)
      (fun _ => (· = rows)) fun _ => Keeps arrival.nowMs rows :=
    .refuseWhen (fun _ _ same => same) fun _ _ equal => equal ▸ same
  unfold Arrival.claimNonce claimRequestNonce
  refine early.bind fun _ => ?_
  have sum : saturatingAdd arrival.nowMs replayRetentionMs < sqliteLimit →
      saturatingAdd arrival.nowMs replayRetentionMs = arrival.nowMs + replayRetentionMs := by
    have wide : sqliteLimit ≤ u64Limit - 1 := by decide
    unfold saturatingAdd
    omega
  generalize saturatingAdd arrival.nowMs replayRetentionMs = expiresAtMs at sum ⊢
  rcases Nat.lt_or_ge expiresAtMs sqliteLimit with within | beyond
  · have bounded : Leads (· = rows)
        (refuseWhen (sqliteLimit ≤ expiresAtMs) ReplayClaimError.storageUnavailable)
        (fun _ => (· = rows)) fun _ => Keeps arrival.nowMs rows :=
      .refuseWhen (fun _ _ equal => equal) fun _ _ equal => equal ▸ same
    refine bounded.bind fun _ => (deleteExpired_keeps _).bind fun _ => ?_
    refine (insertNonce_keeps _ _).bind fun changes => ?_
    refine .refuseWhen (fun added _ ⟨kept, inserts⟩ => ?_) fun _ _ ⟨kept, _⟩ => kept
    obtain ⟨member, free⟩ := inserts (Decidable.not_not.mp added)
    exact ⟨kept, ⟨_, member, rfl, rfl, sum within⟩, free⟩
  · have refused : Leads (· = rows)
        (refuseWhen (sqliteLimit ≤ expiresAtMs) ReplayClaimError.storageUnavailable)
        (fun _ _ => False) fun _ => Keeps arrival.nowMs rows :=
      .refuseWhen (fun open_ => absurd beyond open_) fun _ _ equal => equal ▸ same
    exact refused.bind fun _ _ => False.elim

end Steps

section Runs

variable {sha256 : List UInt8 → List UInt8} {hmacSha256 : List UInt8 → List UInt8 → List UInt8}
  {rows : List NonceRow} {arrival : Arrival}

def SameKey (first second : Arrival) : Prop :=
  first.input.tenantId = second.input.tenantId ∧ first.input.nonce = second.input.nonce

/-- The row of an accepted request. -/
def NonceRow.isOf (row : NonceRow) (arrival : Arrival) : Prop :=
  row.tenantId = arrival.input.tenantId ∧ row.nonce = arrival.input.nonce ∧
    row.expiresAtMs = arrival.nowMs + replayRetentionMs

theorem requests_keeps : Keeps arrival.nowMs rows ((requests sha256 hmacSha256).step rows arrival).2 := by
  simp only [requests]
  split
  next => exact fun _ member _ => member
  next =>
    have leads := @claimNonce_keeps rows arrival rows rfl
    generalize outcome arrival.claimNonce rows = result at leads ⊢
    obtain ⟨claimed, after⟩ := result
    cases claimed with
    | ok value => exact leads.1
    | error why => exact leads

theorem requests_accepts
    (accepted : ((requests sha256 hmacSha256).step rows arrival).1 = .ok ()) :
    arrival.verify sha256 hmacSha256 = .ok () ∧
      (∃ row ∈ ((requests sha256 hmacSha256).step rows arrival).2, row.isOf arrival) ∧
      ∀ known ∈ rows, known.tenantId = arrival.input.tenantId →
        known.nonce = arrival.input.nonce → known.expiresAtMs ≤ arrival.nowMs := by
  simp only [requests] at accepted ⊢
  split at accepted
  next => cases accepted
  next verified =>
    have leads := @claimNonce_keeps rows arrival rows rfl
    generalize outcome arrival.claimNonce rows = result at leads accepted ⊢
    obtain ⟨claimed, after⟩ := result
    cases mapError_eq_ok.mp accepted
    exact ⟨verified, leads.2⟩

/-- One entry after another, by the clock of the resolver. -/
def InOrder (past : List (Entry (List NonceRow) Arrival (Except RequestError Unit))) : Prop :=
  past.Pairwise fun first second => first.input.nowMs ≤ second.input.nowMs

/-- Accepted requests with one nonce are a whole retention apart, and the nonce of the last one is
kept until then. -/
structure Remembers (sha256 : List UInt8 → List UInt8)
    (hmacSha256 : List UInt8 → List UInt8 → List UInt8)
    (past : List (Entry (List NonceRow) Arrival (Except RequestError Unit)))
    (rows : List NonceRow) : Prop where
  verified : ∀ entry ∈ past, entry.output = .ok () →
    entry.input.verify sha256 hmacSha256 = .ok ()
  kept : ∀ entry ∈ past, entry.output = .ok () → (∃ row ∈ rows, row.isOf entry.input) ∨
    ∃ later ∈ past, entry.input.nowMs + replayRetentionMs ≤ later.input.nowMs
  apart : past.Pairwise fun first second => first.output = .ok () → second.output = .ok () →
    SameKey first.input second.input →
    first.input.nowMs + replayRetentionMs ≤ second.input.nowMs

theorem remembers_step
    {past : List (Entry (List NonceRow) Arrival (Except RequestError Unit))}
    (remembers : Remembers sha256 hmacSha256 past rows)
    (latest : ∀ entry ∈ past, entry.input.nowMs ≤ arrival.nowMs) :
    Remembers sha256 hmacSha256 (past ++ [(requests sha256 hmacSha256).entry rows arrival])
      ((requests sha256 hmacSha256).step rows arrival).2 where
  verified := by
    intro entry member accepted
    rcases List.mem_append.mp member with earlier | last
    · exact remembers.verified entry earlier accepted
    · obtain rfl := List.mem_singleton.mp last
      exact (requests_accepts accepted).1
  kept := by
    intro entry member accepted
    rcases List.mem_append.mp member with earlier | last
    · rcases remembers.kept entry earlier accepted with ⟨row, held, same⟩ | ⟨later, among, long⟩
      · rcases Nat.lt_or_ge arrival.nowMs row.expiresAtMs with alive | expired
        · exact .inl ⟨row, requests_keeps row held alive, same⟩
        · exact .inr ⟨_, List.mem_append_right _ (List.mem_singleton.mpr rfl),
            same.2.2 ▸ expired⟩
      · exact .inr ⟨later, List.mem_append_left _ among, long⟩
    · obtain rfl := List.mem_singleton.mp last
      exact .inl (requests_accepts accepted).2.1
  apart := by
    refine List.pairwise_append.mpr ⟨remembers.apart, List.pairwise_singleton _ _, ?_⟩
    intro first member second last before accepted key
    obtain rfl := List.mem_singleton.mp last
    rcases remembers.kept first member before with ⟨row, held, same⟩ | ⟨later, among, long⟩
    · rw [← same.2.2]
      exact (requests_accepts accepted).2.2 row held (same.1.trans key.1)
        (same.2.1.trans key.2)
    · exact Nat.le_trans long (latest later among)

theorem remembers_history (rows : List NonceRow) (arrivals : List Arrival)
    (ordered : arrivals.Pairwise fun first second => first.nowMs ≤ second.nowMs) :
    Remembers sha256 hmacSha256 ((requests sha256 hmacSha256).history rows arrivals)
      ((requests sha256 hmacSha256).final rows arrivals) := by
  have remembers : InOrder ((requests sha256 hmacSha256).history rows arrivals) →
      Remembers sha256 hmacSha256 ((requests sha256 hmacSha256).history rows arrivals)
        ((requests sha256 hmacSha256).final rows arrivals) := by
    refine (requests sha256 hmacSha256).history_invariant
      (fun past rows => InOrder past → Remembers sha256 hmacSha256 past rows) ?_ ?_ arrivals
    · intro _
      exact { verified := by simp, kept := by simp, apart := .nil }
    · intro past rows arrival remembers ordered
      obtain ⟨before, -, latest⟩ := List.pairwise_append.mp ordered
      exact remembers_step (remembers before) fun entry member =>
        latest entry member _ (List.mem_singleton.mpr rfl)
  rw [← Machine.map_input_history (requests sha256 hmacSha256) rows arrivals] at ordered
  have clocked := List.pairwise_map.mp ordered
  exact remembers clocked

theorem fresh_of_verify (verified : arrival.verify sha256 hmacSha256 = .ok ()) :
    arrival.input.timestampMs ≤ arrival.nowMs + maxClockSkewMs ∧
      arrival.nowMs ≤ arrival.input.timestampMs + maxClockSkewMs := by
  obtain ⟨_, -, verified⟩ := bind_eq_ok.mp verified
  obtain ⟨_, fresh, -⟩ := bind_eq_ok.mp verified
  have near := Nat.not_lt.mp (refuseIf_eq_ok.mp fresh)
  unfold absDiff at near
  omega

theorem timestamp_of_copies {first second : Arrival} (copies : Copies sha256 first second) :
    first.input.timestampMs = second.input.timestampMs := by
  obtain ⟨-, nonce, lines, signed, also⟩ := copies
  obtain ⟨header, made⟩ := canonicalSignatureInput_eq_ok signed
  obtain ⟨other, same⟩ := canonicalSignatureInput_eq_ok also
  exact timestamp_of_canonicalLines nonce (made.symm.trans same)

/-- A copy that is accepted again was stamped as far ahead as can be, and comes in the first
millisecond without its nonce. -/
theorem edges_of_apart {first second : Arrival} (copies : Copies sha256 first second)
    (verified : first.verify sha256 hmacSha256 = .ok ())
    (again : second.verify sha256 hmacSha256 = .ok ())
    (apart : first.nowMs + replayRetentionMs ≤ second.nowMs) : AtTheEdges first second := by
  have stamp := timestamp_of_copies copies
  obtain ⟨ahead, -⟩ := fresh_of_verify verified
  obtain ⟨-, late⟩ := fresh_of_verify again
  have retention : replayRetentionMs = maxClockSkewMs + maxClockSkewMs := rfl
  exact ⟨by omega, by omega⟩

/-- No request is accepted twice unless a copy meets both edges. -/
theorem accepted_once (rows : List NonceRow) (arrivals : List Arrival)
    (ordered : arrivals.Pairwise fun first second => first.nowMs ≤ second.nowMs)
    (inside : arrivals.Pairwise fun first second =>
      Copies sha256 first second → ¬AtTheEdges first second) :
    ((requests sha256 hmacSha256).history rows arrivals).Pairwise fun first second =>
      first.output = .ok () → second.output = .ok () → ¬Copies sha256 first.input second.input := by
  have remembers : Remembers sha256 hmacSha256 ((requests sha256 hmacSha256).history rows arrivals)
      ((requests sha256 hmacSha256).final rows arrivals) :=
    remembers_history rows arrivals ordered
  rw [← Machine.map_input_history (requests sha256 hmacSha256) rows arrivals] at inside
  refine (remembers.apart.and (List.pairwise_map.mp inside)).imp_of_mem ?_
  rintro first second member also ⟨apart, inside⟩ accepted again copies
  exact inside copies (edges_of_apart copies (remembers.verified first member accepted)
    (remembers.verified second also again) (apart accepted again ⟨copies.1, copies.2.1⟩))

end Runs

namespace SampleReplay

def body : List UInt8 := utf8Bytes
  ("\x7b\"tenantId\":\"tenant-replay\",\"purpose\":\"credential_discard\"," ++
    "\"actorId\":\"actor-replay\",\"secretHandle\":\"handle-replay\",\"provider\":\"GMAIL\"\x7d")

def bodyDigest : String := "01fdfc28f0e4797d548e5c8718c6618634b4f8145759f6328635fbe166563d0f"

def signature : String := "76be9ce6da29d43d1d0fae1eee25067c6f2371e5dc93a9bb5130cb6bacdc4084"

/-- What SHA-256 makes of the body. -/
def sha256 (_ : List UInt8) : List UInt8 :=
  [1, 253, 252, 40, 240, 228, 121, 125, 84, 142, 92, 135, 24, 198, 97, 134, 52, 180, 248, 20, 87,
    89, 246, 50, 134, 53, 251, 225, 102, 86, 61, 15]

/-- What HMAC-SHA-256 makes of the signed lines. -/
def hmacSha256 (_ _ : List UInt8) : List UInt8 :=
  [118, 190, 156, 230, 218, 41, 212, 61, 29, 15, 174, 30, 238, 37, 6, 124, 111, 35, 113, 229, 220,
    147, 169, 187, 81, 48, 203, 107, 172, 220, 64, 132]

/-- The same request at any time, stamped five minutes after its first arrival. -/
def arrives (nowMs : Nat) : Arrival where
  secret := utf8Bytes "replayed-caller-auth-key-material-0123456789"
  version := legacySignatureVersion
  keyId := none
  input := ⟨"POST", "/v1/mailbox-credentials/discard", body, "tenant-replay", 1700000300000,
    "00112233445566778899aabbccddeeff"⟩
  suppliedBodyDigest := bodyDigest
  suppliedSignature := signature
  nowMs
  deletion := .answered
  insertion := .answered

theorem copies (nowMs later : Nat) : Copies sha256 (arrives nowMs) (arrives later) :=
  ⟨rfl, rfl, _, rfl, rfl⟩

end SampleReplay

open SampleReplay in
theorem accepted_once_edge :
    let requests := requests sha256 hmacSha256
    let arrivals := [arrives 1700000000000, arrives 1700000599999]
    (requests.history [] arrivals).map Entry.output =
        [.ok (), .error (.replay .replayRejected)] ∧
      (requests.history [] arrivals).Pairwise fun first second =>
        first.output = .ok () → second.output = .ok () →
          ¬Copies sha256 first.input second.input := by
  refine ⟨by decide, accepted_once [] _ ?_ ?_⟩
  · exact List.pairwise_pair.mpr (by decide)
  · exact List.pairwise_pair.mpr fun _ edges => absurd edges.2 (by decide)

open SampleReplay in
/-- Ten minutes later the copy is still fresh, and its nonce is just let go. -/
theorem accepted_twice :
    let arrivals := [arrives 1700000000000, arrives 1700000600000]
    arrivals.Pairwise (fun first second => first.nowMs ≤ second.nowMs) ∧
      ¬((requests sha256 hmacSha256).history [] arrivals).Pairwise fun first second =>
        first.output = .ok () → second.output = .ok () →
          ¬Copies sha256 first.input second.input := by
  have outputs : ((requests sha256 hmacSha256).step [] (arrives 1700000000000)).1 = .ok () ∧
      ((requests sha256 hmacSha256).step
        ((requests sha256 hmacSha256).step [] (arrives 1700000000000)).2
        (arrives 1700000600000)).1 = .ok () := by decide
  refine ⟨List.pairwise_pair.mpr (by decide), fun once => ?_⟩
  exact List.pairwise_pair.mp once outputs.1 outputs.2 (copies _ _)

end ProfilePlatform.Resolver
