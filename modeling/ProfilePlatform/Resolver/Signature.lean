import ProfilePlatform.Foundation.Bytes
import ProfilePlatform.Foundation.Decimal
import ProfilePlatform.Foundation.Fallible
import ProfilePlatform.Primitives

/-! Signed requests to the secret resolver.

The caller signs the canonical lines of a request, and the resolver signs them again and compares.
A request is fresh as long as its timestamp is near the clock of the resolver, before or after it.
-/

set_option autoImplicit false

namespace ProfilePlatform.Resolver

open Foundation

def legacySignatureVersion : String := "hmac-sha256-v1"
def keyedSignatureVersion : String := "hmac-sha256-v2"
def maxKeyIdBytes : Nat := 64
def maxClockSkewMs : Nat := 5 * 60 * 1000

structure SignatureInput where
  method : String
  path : String
  body : List UInt8
  tenantId : String
  timestampMs : Nat
  nonce : String
  deriving DecidableEq

inductive SignatureError where
  | invalidMetadata
  | stale
  | invalidDigest
  | invalidSignature
  deriving DecidableEq, Repr

structure ServiceAuthContractError where
  deriving DecidableEq, Repr

def validKeyId (value : String) : Bool :=
  !(utf8Bytes value).isEmpty && (utf8Bytes value).length ≤ maxKeyIdBytes &&
    (utf8Bytes value).all fun byte =>
      isAsciiAlphanumeric byte || byte == 95 || byte == 45 || byte == 46

/-- Letters, digits, '_', '-', '.' and ':'. -/
def validIdentifier (value : String) (maximum : Nat) : Bool :=
  !(utf8Bytes value).isEmpty && (utf8Bytes value).length ≤ maximum &&
    (utf8Bytes value).all fun byte =>
      isAsciiAlphanumeric byte || byte == 95 || byte == 45 || byte == 46 || byte == 58

def isHexDigit (byte : UInt8) : Bool :=
  (48 ≤ byte && byte ≤ 57) || (65 ≤ byte && byte ≤ 70) || (97 ≤ byte && byte ≤ 102)

def requestPathStart : String := "/v1/mailbox-credentials/"

def validateMetadata (input : SignatureInput) : Except SignatureError Unit :=
  let validMethod := input.method == "POST"
  let validPath := (utf8Bytes requestPathStart).isPrefixOf (utf8Bytes input.path) &&
    (utf8Bytes input.path).length ≤ 160 && !(utf8Bytes input.path).contains 63
  let validTenant := validIdentifier input.tenantId 128
  let validNonce := (utf8Bytes input.nonce).length == 32 && (utf8Bytes input.nonce).all isHexDigit
  refuseIf (¬(validMethod ∧ validPath ∧ validTenant ∧ validNonce ∧ 0 < input.timestampMs))
    .invalidMetadata

/-- One line for each part of the request under the lines that name the key. -/
def canonicalLines (header : List UInt8) (bodyDigest : String) (input : SignatureInput) :
    List UInt8 :=
  header ++ 10 :: utf8Bytes input.method ++ 10 :: utf8Bytes input.path ++
    10 :: utf8Bytes bodyDigest ++ 10 :: utf8Bytes input.tenantId ++
    10 :: Decimal.digits input.timestampMs ++ 10 :: utf8Bytes input.nonce

def canonicalSignatureInput (version : String) (keyId : Option String) (bodyDigest : String)
    (input : SignatureInput) : Except ServiceAuthContractError (List UInt8) :=
  if version = legacySignatureVersion ∧ keyId = none then
    .ok (canonicalLines (utf8Bytes legacySignatureVersion) bodyDigest input)
  else match keyId with
    | none => .error ⟨⟩
    | some keyId =>
      if version = keyedSignatureVersion ∧ validKeyId keyId then
        .ok (canonicalLines (utf8Bytes keyedSignatureVersion ++ 10 :: utf8Bytes keyId) bodyDigest
          input)
      else .error ⟨⟩

/-- Compares every byte whatever the bytes before it were. -/
def constantTimeHexEq (expected supplied : String) : Bool :=
  (utf8Bytes expected).length == (utf8Bytes supplied).length &&
    ((utf8Bytes expected).zip (utf8Bytes supplied)).foldl
      (fun difference pair => difference ||| (pair.1 ^^^ pair.2)) 0 == 0

section Hashes

variable (sha256 : List UInt8 → List UInt8) (hmacSha256 : List UInt8 → List UInt8 → List UInt8)

def bodyDigestHex (body : List UInt8) : String := hexDigest (sha256 body)

def signHexVersioned (secret : List UInt8) (version : String) (keyId : Option String)
    (input : SignatureInput) : Except SignatureError String := do
  validateMetadata input
  let canonical ← (canonicalSignatureInput version keyId (bodyDigestHex sha256 input.body)
    input).mapError fun _ => .invalidMetadata
  return hexDigest (hmacSha256 secret canonical)

/-- How far apart two clock readings are, whichever is the later one. -/
def absDiff (first second : Nat) : Nat := (first - second) + (second - first)

def verifyVersioned (secret : List UInt8) (version : String) (keyId : Option String)
    (input : SignatureInput) (suppliedBodyDigest suppliedSignature : String) (nowMs : Nat) :
    Except SignatureError Unit := do
  validateMetadata input
  refuseIf (maxClockSkewMs < absDiff input.timestampMs nowMs) .stale
  refuseIf (constantTimeHexEq (bodyDigestHex sha256 input.body) suppliedBodyDigest = false)
    .invalidDigest
  let expected ← signHexVersioned sha256 hmacSha256 secret version keyId input
  refuseIf (constantTimeHexEq expected suppliedSignature = false) .invalidSignature

end Hashes

section Canonical

theorem takeWhile_reverse {front line : List UInt8} (plain : 10 ∉ line) :
    (front ++ 10 :: line).reverse.takeWhile (· != 10) = line.reverse := by
  have stops : ∀ byte ∈ line.reverse, (byte != 10) = true := by
    intro byte member
    rw [bne_iff_ne]
    rintro rfl
    exact plain (List.mem_reverse.mp member)
  rw [List.reverse_append, List.reverse_cons, List.append_assoc,
    List.takeWhile_append_of_pos stops]
  simp

theorem last_line_inj {front other first second : List UInt8} (plain : 10 ∉ first)
    (also : 10 ∉ second) (same : front ++ 10 :: first = other ++ 10 :: second) :
    first = second := by
  have lines := congrArg (fun text => text.reverse.takeWhile (· != 10)) same
  simp only [takeWhile_reverse plain, takeWhile_reverse also] at lines
  exact List.reverse_injective lines

theorem newline_not_mem_digits (number : Nat) : (10 : UInt8) ∉ Decimal.digits number := by
  intro member
  exact absurd (Decimal.isDigit_of_mem_digits member) (by decide)

/-- The signed lines of a request with the same nonce tell its timestamp. -/
theorem timestamp_of_canonicalLines {header other : List UInt8} {digest another : String}
    {input copy : SignatureInput} (nonce : input.nonce = copy.nonce)
    (same : canonicalLines header digest input = canonicalLines other another copy) :
    input.timestampMs = copy.timestampMs := by
  unfold canonicalLines at same
  rw [nonce] at same
  have stamps := last_line_inj (newline_not_mem_digits _) (newline_not_mem_digits _)
    (List.append_cancel_right same)
  rw [← Decimal.value_digits input.timestampMs, stamps, Decimal.value_digits]

theorem canonicalSignatureInput_eq_ok {version bodyDigest : String} {keyId : Option String}
    {input : SignatureInput} {signed : List UInt8}
    (made : canonicalSignatureInput version keyId bodyDigest input = .ok signed) :
    ∃ header, signed = canonicalLines header bodyDigest input := by
  unfold canonicalSignatureInput at made
  split at made
  next =>
    cases made
    exact ⟨_, rfl⟩
  next =>
    split at made
    next => cases made
    next =>
      split at made
      next =>
        cases made
        exact ⟨_, rfl⟩
      next => cases made

end Canonical

end ProfilePlatform.Resolver
