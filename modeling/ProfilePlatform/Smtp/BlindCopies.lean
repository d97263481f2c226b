import ProfilePlatform.Foundation.Fields
import ProfilePlatform.Smtp.Rendering

/-! What the blind copies of a message leave behind in it: the boundary between its two parts, and
nothing else. -/

set_option autoImplicit false

namespace ProfilePlatform.Smtp

open Foundation Ports
open Imap (Bytes ascii crlf)

section Recipients

theorem plain_of_accepts {value : String} (accepted : MailAddress.accepts value = true) :
    value ≠ "" ∧ (∀ char ∈ value.toList, isControl char = false ∧ isWhitespace char = false) ∧
      '@' ∈ value.toList := by
  simp only [MailAddress.accepts, Bool.and_eq_true, decide_eq_true_eq, Bool.not_eq_true',
    List.any_eq_false, Bool.or_eq_true, not_or, Bool.not_eq_true] at accepted
  obtain ⟨⟨⟨long, -⟩, plain⟩, parted⟩ := accepted
  refine ⟨?_, plain, ?_⟩
  · rintro rfl
    exact absurd long (by decide)
  · unfold rsplitOnce at parted
    split at parted
    next within => exact within
    next => cases parted

theorem validateAddress_eq_ok (address : MailAddress) : validateAddress address.asStr = .ok () := by
  obtain ⟨filled, plain, parted⟩ := plain_of_accepts address.accepted
  have sign : (64 : UInt8) ∈ utf8Bytes address.asStr := byte_mem_of_char (by decide) parted
  have bytes : ((utf8Bytes address.asStr).any fun byte =>
      byte < 32 || byte == 127 || Imap.isAsciiWhitespace byte) = false := by
    rw [List.any_eq_false]
    intro byte member refused
    simp only [Imap.isAsciiWhitespace, Bool.or_eq_true, decide_eq_true_eq, beq_iff_eq] at refused
    have small : byte < 128 := by
      rw [UInt8.lt_iff_toNat_lt]
      rcases refused with (low | rfl) | (((rfl | rfl) | rfl) | rfl) | rfl
      · exact Nat.lt_trans (UInt8.lt_iff_toNat_lt.mp low) (by decide)
      all_goals decide
    obtain ⟨char, within, coded, rfl⟩ := char_of_byte small member
    obtain ⟨printed, dark⟩ := plain char within
    simp only [isControl, isWhitespace, Bool.or_eq_false_iff, Bool.and_eq_false_iff,
      decide_eq_false_iff_not, List.mem_cons, not_or] at printed dark
    simp only [UInt8.lt_iff_toNat_lt, ← UInt8.toNat_inj, UInt8.toNat_ofNat', UInt8.reduceToNat,
      Nat.mod_eq_of_lt (Nat.lt_trans coded (by decide : 128 < 2 ^ 8))] at refused
    omega
  have held : (utf8Bytes address.asStr).contains 64 = true := List.contains_iff_mem.mpr sign
  have occupied : (utf8Bytes address.asStr).isEmpty = false :=
    List.isEmpty_eq_false_iff.mpr (List.ne_nil_of_mem sign)
  refine refuseIf_passes ?_
  rw [occupied, bytes, held]
  decide

/-- Every list of recipients has an envelope, in which there is somebody. -/
theorem envelopeRecipients_eq_ok (recipients : MailRecipients) :
    ∃ envelope, envelopeRecipients recipients = .ok envelope := by
  have turns : ∃ envelope, (recipients.toAddresses ++ recipients.ccAddresses ++
      recipients.bccAddresses).foldlM addEnvelopeRecipient [] = .ok envelope ∧
        (recipients.toAddresses ++ recipients.ccAddresses ++ recipients.bccAddresses ≠ [] →
          envelope ≠ []) := by
    refine foldlM_succeeds (fun gone output => gone ≠ [] → output ≠ []) (fun absent => absurd rfl absent) ?_
    intro gone address later output _ _
    by_cases known : (output.any fun existing =>
        Imap.eqIgnoreAsciiCase (utf8Bytes existing) (utf8Bytes address.asStr)) = true
    · refine ⟨output, bind_eq_ok.mpr ⟨(), validateAddress_eq_ok address, if_pos known⟩, ?_⟩
      rintro - rfl
      cases known
    · exact ⟨_, bind_eq_ok.mpr ⟨(), validateAddress_eq_ok address, if_neg known⟩, by simp⟩
  obtain ⟨envelope, added, filled⟩ := turns
  refine ⟨envelope, bind_eq_ok.mpr ⟨envelope, added, bind_eq_ok.mpr ⟨(), refuseIf_passes ?_, rfl⟩⟩⟩
  have somebody : recipients.toAddresses ++ recipients.ccAddresses ++
      recipients.bccAddresses ≠ [] := by
    intro nobody
    have required := recipients.required
    rw [← List.length_append, ← List.length_append, nobody] at required
    exact required rfl
  simpa using filled somebody

end Recipients

section TwoRuns

/-- Two messages that differ in their blind copies only. -/
structure SameButBcc (first second : RenderContext) : Prop where
  sender : first.sender = second.sender
  toAddresses : first.recipients.toAddresses = second.recipients.toAddresses
  ccAddresses : first.recipients.ccAddresses = second.recipients.ccAddresses
  subject : first.subject = second.subject
  fallbackSubject : first.fallbackSubject = second.fallbackSubject
  inReplyTo : first.inReplyTo = second.inReplyTo
  references : first.references = second.references

variable {sha256 : Sha256} {first second : RenderContext} {body : MailBody}

/-- The body has two parts that are not empty. -/
def TwoParts (body : MailBody) : Prop :=
  body.text.any (· ≠ "") = true ∧ body.html.any (· ≠ "") = true

theorem SameButBcc.subjectText (same : SameButBcc first second) :
    first.subjectText = second.subjectText := by
  rw [RenderContext.subjectText, RenderContext.subjectText, same.subject, same.fallbackSubject]

theorem SameButBcc.renderHeaders (same : SameButBcc first second) :
    renderHeaders first = renderHeaders second := by
  unfold Smtp.renderHeaders
  rw [same.sender, same.toAddresses, same.ccAddresses, same.subjectText, same.inReplyTo, same.references]

theorem SameButBcc.validateContext (same : SameButBcc first second) :
    validateContext first = validateContext second := by
  unfold Smtp.validateContext
  rw [same.toAddresses, same.ccAddresses, same.subjectText, same.inReplyTo, same.references]

theorem length_multipartBoundary (context : RenderContext) (body : MailBody) :
    (multipartBoundary sha256 context body).length = 36 := by
  have digest := (sha256 (boundaryInput context body)).property
  unfold multipartBoundary
  rw [List.length_append, Hex.length_text, List.length_take, digest]
  decide

theorem filter_of_any {part : Option String} :
    part.any (· ≠ "") = true ↔ ∃ text, part.filter (· ≠ "") = some text := by
  cases part with
  | none => simp
  | some text => by_cases empty : text = "" <;> simp [Option.filter, empty]

/-- The body as it is written around a boundary, which tells the boundary if there are two parts. -/
theorem renderBody_eq {boundary other output written : Bytes}
    (made : renderBody boundary output body = .ok written) (long : boundary.length = other.length) :
    ∃ also, renderBody other output body = .ok also ∧ also.length = written.length ∧
      (written = also ↔ ¬TwoParts body ∨ boundary = other) := by
  unfold renderBody at made ⊢
  unfold TwoParts
  rw [filter_of_any, filter_of_any]
  generalize body.text.filter (· ≠ "") = plain at made ⊢
  generalize body.html.filter (· ≠ "") = rich at made ⊢
  cases plain with
  | none =>
    cases rich with
    | none => cases made
    | some html => exact ⟨written, made, rfl, by simp⟩
  | some text =>
    cases rich with
    | none => exact ⟨written, made, rfl, by simp⟩
    | some html =>
      dsimp only at made ⊢
      obtain rfl := Except.ok.inj made
      refine ⟨_, rfl, ?_, ?_⟩
      · simp only [pushAlternativePart, List.length_append, long]
      · constructor
        · intro same
          simp only [pushAlternativePart, List.append_assoc] at same
          have behind := List.append_cancel_left (List.append_cancel_left same)
          exact .inr (List.append_inj behind long).1
        · rintro (single | rfl)
          · exact absurd ⟨⟨text, rfl⟩, html, rfl⟩ single
          · rfl

theorem multipartBoundary_inj {context other : RenderContext} :
    multipartBoundary sha256 context body = multipartBoundary sha256 other body ↔
      (sha256 (boundaryInput context body)).val.take 12 =
        (sha256 (boundaryInput other body)).val.take 12 := by
  unfold multipartBoundary
  constructor
  · intro same
    have texts := congrArg Hex.bytes (List.append_cancel_left same)
    rw [Hex.bytes_text, Hex.bytes_text] at texts
    exact Option.some.inj texts
  · intro same
    rw [same]

theorem renderMime_agrees {rendered : RenderedMessage} (same : SameButBcc first second)
    (made : renderMime sha256 first body = .ok rendered) :
    ∃ other, renderMime sha256 second body = .ok other ∧
      (rendered.bytes = other.bytes ↔ ¬TwoParts body ∨
        (sha256 (boundaryInput first body)).val.take 12 =
          (sha256 (boundaryInput second body)).val.take 12) := by
  unfold renderMime at made
  obtain ⟨_, sender, made⟩ := bind_eq_ok.mp made
  obtain ⟨_, -, made⟩ := bind_eq_ok.mp made
  obtain ⟨_, valid, made⟩ := bind_eq_ok.mp made
  obtain ⟨headers, headed, made⟩ := bind_eq_ok.mp made
  obtain ⟨output, written, made⟩ := bind_eq_ok.mp made
  obtain ⟨_, small, made⟩ := bind_eq_ok.mp made
  cases made
  rw [same.sender] at sender
  rw [same.validateContext] at valid
  rw [same.renderHeaders] at headed
  have long : (multipartBoundary sha256 first body).length =
      (multipartBoundary sha256 second body).length := by
    rw [length_multipartBoundary, length_multipartBoundary]
  obtain ⟨also, rewritten, sized, agrees⟩ := renderBody_eq written long
  obtain ⟨envelope, enveloped⟩ := envelopeRecipients_eq_ok second.recipients
  refine ⟨⟨also, envelope⟩, ?_, ?_⟩
  · have fits : ¬maxRenderedMessageBytes < also.length := by
      rw [sized]
      exact refuseIf_eq_ok.mp small
    exact bind_eq_ok.mpr ⟨_, sender, bind_eq_ok.mpr ⟨_, enveloped, bind_eq_ok.mpr ⟨_, valid,
      bind_eq_ok.mpr ⟨_, headed, bind_eq_ok.mpr ⟨_, rewritten,
        bind_eq_ok.mpr ⟨(), refuseIf_passes fits, rfl⟩⟩⟩⟩⟩⟩
  · rw [← multipartBoundary_inj]
    exact agrees

/-- The blind copies change the message if and only if it has two parts and the boundary, a part of
a hash over all recipients, tells them apart. -/
theorem bytes_agree_iff {rendered : RenderedMessage} (same : SameButBcc first second)
    (made : renderMime sha256 first body = .ok rendered) :
    ∃ other, renderMime sha256 second body = .ok other ∧
      (rendered.bytes = other.bytes ↔ ¬TwoParts body ∨
        (sha256 (boundaryInput first body)).val.take 12 =
          (sha256 (boundaryInput second body)).val.take 12) :=
  renderMime_agrees same made

end TwoRuns

namespace CopySamples

def visible : MailAddress := ⟨"you@example.test", by decide⟩
def blind : MailAddress := ⟨"boss@example.test", by decide⟩

def openly : MailRecipients := ⟨[visible], [], [], by decide, by decide⟩
def secretly : MailRecipients := ⟨[visible], [], [blind], by decide, by decide⟩

def contextFor (recipients : MailRecipients) : RenderContext where
  sender := "me@example.test"
  recipients := recipients
  subject := none
  fallbackSubject := some "Hi"
  inReplyTo := none
  references := none

def bothParts : MailBody := ⟨some "hello", some "<p>hello</p>", by decide, by decide⟩
def onePart : MailBody := ⟨some "hello", none, by decide, by decide⟩

def openDigest : Block 32 :=
  ⟨[131, 48, 20, 157, 250, 205, 61, 169, 140, 159, 241, 117, 110, 24, 250, 18, 23, 236, 210,
    43, 191, 152, 62, 113, 204, 216, 145, 206, 27, 19, 123, 74], rfl⟩

def secretDigest : Block 32 :=
  ⟨[99, 207, 18, 186, 165, 247, 188, 193, 119, 28, 208, 105, 30, 35, 136, 115, 202, 137, 170,
    135, 196, 163, 196, 80, 212, 118, 219, 220, 195, 31, 65, 179], rfl⟩

/-- The hash, as far as the samples ask for it. -/
def sha256 : Sha256 := fun bytes =>
  if bytes = boundaryInput (contextFor openly) bothParts then openDigest else secretDigest

theorem sameButBcc : SameButBcc (contextFor openly) (contextFor secretly) :=
  ⟨rfl, rfl, rfl, rfl, rfl, rfl, rfl⟩

theorem exists_of_isOk {result : Rendered RenderedMessage} (held : result.isOk = true) :
    ∃ rendered, result = .ok rendered := by
  cases result with
  | ok rendered => exact ⟨rendered, rfl⟩
  | error => cases held

theorem onePart_agrees : ∃ rendered other, renderMime sha256 (contextFor openly) onePart = .ok rendered ∧
    renderMime sha256 (contextFor secretly) onePart = .ok other ∧ rendered.bytes = other.bytes := by
  have held : (renderMime sha256 (contextFor openly) onePart).isOk = true := by decide +kernel
  obtain ⟨rendered, made⟩ := exists_of_isOk held
  obtain ⟨other, also, agrees⟩ := bytes_agree_iff sameButBcc made
  refine ⟨rendered, other, made, also, agrees.mpr (.inl ?_)⟩
  rintro ⟨-, html⟩
  cases html

/-- A recipient in copy can test a guess at who was blind-copied by the boundary. -/
theorem bothParts_differ : ∃ rendered other,
    renderMime sha256 (contextFor openly) bothParts = .ok rendered ∧
    renderMime sha256 (contextFor secretly) bothParts = .ok other ∧ rendered.bytes ≠ other.bytes := by
  have held : (renderMime sha256 (contextFor openly) bothParts).isOk = true := by decide +kernel
  obtain ⟨rendered, made⟩ := exists_of_isOk held
  obtain ⟨other, also, agrees⟩ := renderMime_agrees sameButBcc made
  refine ⟨rendered, other, made, also, fun same => ?_⟩
  rcases agrees.mp same with single | hashed
  · exact single ⟨by decide, by decide⟩
  · exact absurd hashed (by decide +kernel)

end CopySamples

end ProfilePlatform.Smtp
