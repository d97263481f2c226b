import ProfilePlatform.Foundation.Frames
import ProfilePlatform.Foundation.Hex
import ProfilePlatform.Resolver.Signature

/-! The canonical lines of a request that the resolver lets in tell every part of it. -/

set_option autoImplicit false

namespace ProfilePlatform.Resolver

open Foundation

def maxRequestBytes : Nat := 32 * 1024

def allPaths : List String := [
  "/v1/mailbox-credentials/discard",
  "/v1/mailbox-credentials/gmail/oauth/complete",
  "/v1/mailbox-credentials/gmail/oauth/deny",
  "/v1/mailbox-credentials/gmail/oauth/inspect",
  "/v1/mailbox-credentials/gmail/oauth/start",
  "/v1/mailbox-credentials/gmail/send/oauth/complete",
  "/v1/mailbox-credentials/gmail/send/oauth/deny",
  "/v1/mailbox-credentials/gmail/send/oauth/inspect",
  "/v1/mailbox-credentials/gmail/send/oauth/start",
  "/v1/mailbox-credentials/gmail/send/resolve",
  "/v1/mailbox-credentials/microsoft-graph/cursors/resolve",
  "/v1/mailbox-credentials/microsoft-graph/cursors/store",
  "/v1/mailbox-credentials/microsoft-graph/oauth/complete",
  "/v1/mailbox-credentials/microsoft-graph/oauth/deny",
  "/v1/mailbox-credentials/microsoft-graph/oauth/inspect",
  "/v1/mailbox-credentials/microsoft-graph/oauth/start",
  "/v1/mailbox-credentials/microsoft-graph/refresh",
  "/v1/mailbox-credentials/resolve",
  "/v1/mailbox-credentials/standards/microsoft/oauth/complete",
  "/v1/mailbox-credentials/standards/microsoft/oauth/deny",
  "/v1/mailbox-credentials/standards/microsoft/oauth/inspect",
  "/v1/mailbox-credentials/standards/microsoft/oauth/start",
  "/v1/mailbox-credentials/standards/password/provision"]

/-- What `authenticate_request` asks of a request before it looks at the signature: the method, a
known route, and a body that is there and not too long. -/
def admitsRequest (input : SignatureInput) : Bool :=
  input.method == "POST" && allPaths.contains input.path && !input.body.isEmpty &&
    input.body.length ≤ maxRequestBytes

section Lines

variable {sha256 : List UInt8 → List UInt8} {input other : SignatureInput}

theorem newline_not_mem_allPaths : ∀ path ∈ allPaths, (10 : UInt8) ∉ utf8Bytes path := by
  decide +kernel

theorem newline_not_mem_digest (body : List UInt8) :
    (10 : UInt8) ∉ utf8Bytes (bodyDigestHex sha256 body) := by
  intro member
  have written : utf8Bytes (bodyDigestHex sha256 body) = Hex.text (sha256 body) :=
    Hex.utf8_hexDigest (sha256 body)
  rw [written] at member
  exact absurd (Hex.text_digits _ 10 member).1 (by decide)

theorem newline_not_mem_of_all {text : String} {accepts : UInt8 → Bool} (refused : accepts 10 = false)
    (all : (utf8Bytes text).all accepts = true) : (10 : UInt8) ∉ utf8Bytes text := by
  intro member
  rw [List.all_eq_true.mp all 10 member] at refused
  cases refused

/-- No part of an admitted request has a line end in it. -/
structure OneLined (input : SignatureInput) : Prop where
  method : (10 : UInt8) ∉ utf8Bytes input.method
  path : (10 : UInt8) ∉ utf8Bytes input.path
  tenant : (10 : UInt8) ∉ utf8Bytes input.tenantId

theorem oneLined (valid : validateMetadata input = .ok ()) (admitted : admitsRequest input = true) :
    OneLined input := by
  have accepted := refuseIf_eq_ok.mp valid
  rw [Decidable.not_not] at accepted
  obtain ⟨method, -, tenant, -, -⟩ := accepted
  simp only [admitsRequest, Bool.and_eq_true, List.contains_iff_mem] at admitted
  simp only [validIdentifier, Bool.and_eq_true] at tenant
  refine ⟨?_, newline_not_mem_allPaths _ admitted.1.1.2, newline_not_mem_of_all (by decide) tenant.2⟩
  rw [eq_of_beq method]
  decide

/-- What stands under the lines that name the key. -/
def requestLines (digest : String) (input : SignatureInput) : List UInt8 :=
  utf8Bytes input.method ++ 10 :: (utf8Bytes input.path ++ 10 :: (utf8Bytes digest ++
    10 :: (utf8Bytes input.tenantId ++ 10 :: (Decimal.digits input.timestampMs ++
      10 :: utf8Bytes input.nonce))))

theorem canonicalLines_eq (header : List UInt8) (digest : String) (input : SignatureInput) :
    canonicalLines header digest input = header ++ 10 :: requestLines digest input := by
  simp only [canonicalLines, requestLines, List.append_assoc, List.cons_append]

theorem requestLines_cancel {digest another : String} (plain : OneLined input) (also : OneLined other)
    (hashed : (10 : UInt8) ∉ utf8Bytes digest) (too : (10 : UInt8) ∉ utf8Bytes another)
    (same : requestLines digest input = requestLines another other) :
    input.method = other.method ∧ input.path = other.path ∧ digest = another ∧
      input.tenantId = other.tenantId ∧ input.timestampMs = other.timestampMs ∧
      input.nonce = other.nonce := by
  unfold requestLines at same
  obtain ⟨methods, same⟩ := line_cancel plain.method also.method same
  obtain ⟨paths, same⟩ := line_cancel plain.path also.path same
  obtain ⟨digests, same⟩ := line_cancel hashed too same
  obtain ⟨tenants, same⟩ := line_cancel plain.tenant also.tenant same
  obtain ⟨stamps, nonces⟩ := line_cancel (newline_not_mem_digits _) (newline_not_mem_digits _) same
  refine ⟨eq_of_utf8 methods, eq_of_utf8 paths, eq_of_utf8 digests, eq_of_utf8 tenants, ?_,
    eq_of_utf8 nonces⟩
  rw [← Decimal.value_digits input.timestampMs, stamps, Decimal.value_digits]

/-- The header that goes with a version and the id of a key. -/
inductive Header : String → Option String → List UInt8 → Prop where
  | legacy : Header legacySignatureVersion none (utf8Bytes legacySignatureVersion)
  | keyed {keyId : String} (valid : validKeyId keyId = true) :
      Header keyedSignatureVersion (some keyId) (utf8Bytes keyedSignatureVersion ++ 10 :: utf8Bytes keyId)

theorem header_of_canonicalSignatureInput {version digest : String} {keyId : Option String}
    {signed : List UInt8} (made : canonicalSignatureInput version keyId digest input = .ok signed) :
    ∃ header, Header version keyId header ∧ signed = canonicalLines header digest input := by
  unfold canonicalSignatureInput at made
  split at made
  next legacy =>
    obtain ⟨rfl, rfl⟩ := legacy
    cases made
    exact ⟨_, .legacy, rfl⟩
  next =>
    split at made
    next => cases made
    next keyId =>
      split at made
      next keyed =>
        obtain ⟨rfl, valid⟩ := keyed
        cases made
        exact ⟨_, .keyed valid, rfl⟩
      next => cases made

theorem newline_not_mem_keyId {keyId : String} (valid : validKeyId keyId = true) :
    (10 : UInt8) ∉ utf8Bytes keyId := by
  simp only [validKeyId, Bool.and_eq_true] at valid
  exact newline_not_mem_of_all (by decide) valid.2

/-- The first line is the version, and it says whether a key id comes next. -/
theorem header_cancel {version another : String} {keyId also : Option String}
    {header above more below : List UInt8} (first : Header version keyId header)
    (second : Header another also above) (same : header ++ 10 :: more = above ++ 10 :: below) :
    version = another ∧ keyId = also ∧ more = below := by
  have legacyPlain : (10 : UInt8) ∉ utf8Bytes legacySignatureVersion := by decide
  have keyedPlain : (10 : UInt8) ∉ utf8Bytes keyedSignatureVersion := by decide
  cases first with
  | legacy =>
    cases second with
    | legacy => exact ⟨rfl, rfl, (line_cancel legacyPlain legacyPlain same).2⟩
    | keyed valid =>
      rw [List.append_assoc, List.cons_append] at same
      exact absurd (line_cancel legacyPlain keyedPlain same).1 (by decide)
  | keyed valid =>
    rw [List.append_assoc, List.cons_append] at same
    cases second with
    | legacy => exact absurd (line_cancel keyedPlain legacyPlain same).1 (by decide)
    | keyed alsoValid =>
      rw [List.append_assoc, List.cons_append] at same
      obtain ⟨-, same⟩ := line_cancel keyedPlain keyedPlain same
      obtain ⟨keys, same⟩ :=
        line_cancel (newline_not_mem_keyId valid) (newline_not_mem_keyId alsoValid) same
      exact ⟨rfl, congrArg some (eq_of_utf8 keys), same⟩

theorem eq_of_canonicalSignatureInput {version another : String} {keyId also : Option String}
    {signed : List UInt8} (valid : validateMetadata input = .ok ())
    (admitted : admitsRequest input = true) (validToo : validateMetadata other = .ok ())
    (admittedToo : admitsRequest other = true)
    (made : canonicalSignatureInput version keyId (bodyDigestHex sha256 input.body) input = .ok signed)
    (madeToo : canonicalSignatureInput another also (bodyDigestHex sha256 other.body) other =
      .ok signed) :
    version = another ∧ keyId = also ∧ input.method = other.method ∧ input.path = other.path ∧
      bodyDigestHex sha256 input.body = bodyDigestHex sha256 other.body ∧
      input.tenantId = other.tenantId ∧ input.timestampMs = other.timestampMs ∧
      input.nonce = other.nonce := by
  obtain ⟨header, first, rfl⟩ := header_of_canonicalSignatureInput made
  obtain ⟨above, second, same⟩ := header_of_canonicalSignatureInput madeToo
  rw [canonicalLines_eq, canonicalLines_eq] at same
  obtain ⟨versions, keys, same⟩ := header_cancel first second same
  exact ⟨versions, keys, requestLines_cancel (oneLined valid admitted)
    (oneLined validToo admittedToo) (newline_not_mem_digest _) (newline_not_mem_digest _) same⟩

end Lines

end ProfilePlatform.Resolver
