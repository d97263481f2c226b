import ProfilePlatform.Imap.Completion
import ProfilePlatform.Smtp.Session

/-! Replies as the server sends them, and how they are told apart in what is read.

A reply is taken for complete as soon as a line begins with its code and a space. It is
read as it was sent when its end is also the end of a chunk, and no chunk ends in its
last line behind the code.
-/

set_option autoImplicit false

namespace ProfilePlatform.Smtp

open Foundation
open Imap (Bytes crlf IsText isTagged responseHasTaggedLine)

/-- A reply of one or several lines. The last line is the code alone, or has a text behind it. -/
structure ServerReply where
  code : Nat
  three : 100 ≤ code ∧ code < 1000
  before : List Bytes
  last : Option Bytes
  texts : (∀ text ∈ before, IsText text) ∧ ∀ text ∈ last, IsText text

namespace ServerReply

def digits (reply : ServerReply) : Bytes := Decimal.digits reply.code

def opening (reply : ServerReply) : Bytes :=
  reply.before.flatMap fun text => reply.digits ++ [45] ++ text ++ crlf

def lastLine (reply : ServerReply) : Bytes :=
  reply.digits ++ reply.last.elim [] (fun text => [32] ++ text) ++ crlf

def bytes (reply : ServerReply) : Bytes := reply.opening ++ reply.lastLine

/-- What the session is to make of the reply. -/
def read (reply : ServerReply) : SmtpReply := ⟨reply.code, reply.bytes⟩

/-- A beginning of the reply that goes no further than the code of its last line. -/
def Unfinished (reply : ServerReply) (received : Bytes) : Prop :=
  received <+: reply.bytes ∧ received.length ≤ reply.opening.length + 3

/-- The reply in chunks, none of which ends in the last line behind the code but the last one. -/
structure Delivery (reply : ServerReply) (chunks : List Bytes) : Prop where
  nonempty : ∀ chunk ∈ chunks, chunk ≠ []
  whole : chunks.flatten = reply.bytes
  aligned : chunks.dropLast.flatten.length ≤ reply.opening.length + 3

end ServerReply

/-- The next read gives nothing. -/
inductive Ends : List (Option Bytes) → Prop where
  | closed : Ends []
  | failed (rest : List (Option Bytes)) : Ends (none :: rest)
  | finished (rest : List (Option Bytes)) : Ends (some [] :: rest)

/-- The stream breaks off before a reply is complete, or the reply grows too long. -/
inductive Breaks : List (Option Bytes) → Prop where
  | stops {reply : ServerReply} {chunks : List Bytes} {rest : List (Option Bytes)}
      (nonempty : ∀ chunk ∈ chunks, chunk ≠ []) (unfinished : reply.Unfinished chunks.flatten)
      (ends : Ends rest) : Breaks (chunks.map some ++ rest)
  | overflows {reply : ServerReply} {chunks : List Bytes} {chunk : Bytes}
      (nonempty : ∀ chunk ∈ chunks, chunk ≠ []) (unfinished : reply.Unfinished chunks.flatten)
      (long : maxReplyBytes < chunks.flatten.length + chunk.length) (rest : List (Option Bytes)) :
      Breaks (chunks.map some ++ some chunk :: rest)

/-- The reads bring the replies, each with a text in its last line, and then break off. -/
inductive Delivers : List ServerReply → List (Option Bytes) → Prop where
  | broken {reads : List (Option Bytes)} (breaks : Breaks reads) : Delivers [] reads
  | reply {reply : ServerReply} {chunks : List Bytes} {replies : List ServerReply}
      {reads : List (Option Bytes)} (spaced : reply.last.isSome)
      (short : reply.bytes.length ≤ maxReplyBytes) (delivery : reply.Delivery chunks)
      (later : Delivers replies reads) : Delivers (reply :: replies) (chunks.map some ++ reads)

section Completion

theorem length_digits {code : Nat} (three : 100 ≤ code ∧ code < 1000) :
    (Decimal.digits code).length = 3 := by
  rw [Decimal.digits_large (by omega), Decimal.digits_large (by omega : 10 ≤ code / 10),
    Decimal.digits_small (by omega : code / 10 / 10 < 10)]
  rfl

theorem digits_plain {code : Nat} {byte : UInt8} (other : Decimal.isDigit byte = false)
    (apart : byte ≠ 32) : byte ∉ Decimal.digits code ++ [32] := by
  simpa [apart] using Imap.not_mem_digits other

theorem endsReply_eq {code : Nat} (three : 100 ≤ code ∧ code < 1000) (line : Bytes) :
    endsReply (Decimal.digits code) line = isTagged (Decimal.digits code) line := by
  have size := length_digits three
  have stripped : endsReply (Decimal.digits code) line = true ↔
      Decimal.digits code ++ [32] <+: stripReturn line := by
    simp only [endsReply, Bool.and_eq_true, decide_eq_true_eq]
    constructor
    · rintro ⟨⟨_, front⟩, space⟩
      have split := List.take_append_drop 3 (stripReturn line)
      rw [front] at split
      obtain ⟨rest, behind⟩ := List.head?_eq_some_iff.mp space
      rw [behind] at split
      exact ⟨rest, by simpa using split⟩
    · rintro ⟨rest, same⟩
      rw [← same]
      refine ⟨⟨?_, ?_⟩, ?_⟩
      · simp only [List.length_append, List.length_singleton, size]
        omega
      · rw [List.append_assoc, ← size, List.take_left]
      · rw [List.append_assoc, ← size, List.drop_left]
        rfl
  have whole : Decimal.digits code ++ [32] <+: stripReturn line ↔
      Decimal.digits code ++ [32] <+: line := by
    unfold stripReturn
    split
    next ends =>
      obtain ⟨front, rfl⟩ := List.getLast?_eq_some_iff.mp ends
      rw [List.dropLast_concat, List.prefix_concat_iff]
      refine ⟨.inr, fun either => either.resolve_left fun same => ?_⟩
      have byte : (13 : UInt8) ∈ Decimal.digits code ++ [32] := by simp [same]
      exact digits_plain (by decide) (by decide) byte
    next => rfl
  exact Bool.eq_iff_iff.mpr (stripped.trans (whole.trans Imap.isTagged_iff.symm))

theorem parseReplyCode_digits {code : Nat} (three : 100 ≤ code ∧ code < 1000) (rest : Bytes) :
    parseReplyCode (Decimal.digits code ++ rest) = some code := by
  have size := length_digits three
  have front : (Decimal.digits code ++ rest).take 3 = Decimal.digits code := by
    rw [← size, List.take_left]
  have numeral : (Decimal.digits code).all Decimal.isDigit = true :=
    List.all_eq_true.mpr fun byte member => Decimal.isDigit_of_mem_digits member
  have long : ¬(Decimal.digits code ++ rest).length < 3 := by
    rw [List.length_append, size]
    omega
  unfold parseReplyCode
  rw [front, numeral, Decimal.value_digits]
  exact if_neg (not_or.mpr ⟨long, Bool.noConfusion⟩)

theorem first_line {code : Nat} {text : Bytes} (begins : Decimal.digits code <+: text) :
    Decimal.digits code <+: (text.splitOn 10).headD [] := by
  rcases Lines.cut 10 text with ⟨-, whole⟩ | ⟨line, rest, -, split, lines⟩
  · rw [whole]
    exact begins
  · rw [lines]
    rw [split] at begins
    exact Lines.mark_prefix (Imap.not_mem_digits (by decide)) begins

theorem completeReplyCode_eq {code : Nat} (three : 100 ≤ code ∧ code < 1000) {text : Bytes}
    (begins : Decimal.digits code <+: text) : completeReplyCode text =
      if responseHasTaggedLine text (Decimal.digits code) then some code else none := by
  obtain ⟨rest, same⟩ := first_line begins
  have marks : endsReply (Decimal.digits code) = isTagged (Decimal.digits code) :=
    funext (endsReply_eq three)
  unfold completeReplyCode
  rw [← same, parseReplyCode_digits three]
  dsimp only
  rw [marks]
  rfl

namespace ServerReply

variable (reply : ServerReply)

theorem digits_begin : reply.digits <+: reply.bytes := by
  unfold bytes opening lastLine
  cases reply.before with
  | nil => simp
  | cons text rest => simp

theorem opening_atLineStart : Lines.AtLineStart 10 reply.opening := by
  rcases List.eq_nil_or_concat reply.before with none | ⟨texts, last, split⟩
  · exact .inl (by simp [opening, none])
  · exact .inr ⟨(texts.flatMap fun text => reply.digits ++ [45] ++ text ++ crlf) ++
      (reply.digits ++ [45] ++ last ++ [13]), by simp [opening, split, crlf]⟩

theorem opening_untagged : responseHasTaggedLine reply.opening reply.digits = false := by
  have plain := reply.texts.1
  unfold opening
  generalize reply.before = texts at plain
  induction texts with
  | nil => simp [responseHasTaggedLine, isTagged]
  | cons text rest ih =>
    obtain ⟨first, others⟩ := List.forall_mem_cons.mp plain
    have absent : 10 ∉ reply.digits ++ [45] ++ text ++ [13] := by
      have numeral : (10 : UInt8) ∉ reply.digits := Imap.not_mem_digits (by decide)
      have inside : (10 : UInt8) ∉ text := fun member => (first 10 member).1 rfl
      simp [numeral, inside]
    have shape : (reply.digits ++ [45] ++ text ++ crlf) = (reply.digits ++ [45] ++ text ++ [13]) ++ [10] := by
      simp [crlf]
    have hyphen : isTagged reply.digits (reply.digits ++ [45] ++ text ++ [13]) = false := by
      simp [isTagged]
    rw [List.flatMap_cons, shape, List.append_assoc, List.singleton_append, responseHasTaggedLine,
      Lines.splitOn_next absent, List.any_cons, hyphen, Bool.false_or]
    exact ih others

theorem lastLine_length : 5 ≤ reply.lastLine.length := by
  have size : reply.digits.length = 3 := length_digits reply.three
  simp only [lastLine, crlf, List.length_append, List.length_cons, List.length_nil, size]
  omega

variable {reply}

theorem completeReplyCode_bytes (spaced : reply.last.isSome) :
    completeReplyCode reply.bytes = some reply.code := by
  obtain ⟨text, named⟩ := Option.isSome_iff_exists.mp spaced
  have ends : responseHasTaggedLine reply.bytes reply.digits = true := by
    refine (Imap.responseHasTaggedLine_iff (digits_plain (by decide) (by decide)) _).mpr
      ⟨reply.opening, text ++ crlf, ?_, reply.opening_atLineStart⟩
    simp [bytes, lastLine, named, digits]
  rw [completeReplyCode_eq reply.three reply.digits_begin]
  exact if_pos ends

theorem Unfinished.incomplete {received : Bytes} (unfinished : reply.Unfinished received) :
    completeReplyCode received = none := by
  obtain ⟨within, short⟩ := unfinished
  have size : reply.digits.length = 3 := length_digits reply.three
  rcases Nat.lt_or_ge received.length 3 with less | enough
  · have first : ((received.splitOn 10).headD []).length < 3 := by
      rcases Lines.cut 10 received with ⟨-, whole⟩ | ⟨line, rest, -, split, lines⟩
      · rw [whole]
        exact less
      · rw [lines]
        rw [split, List.length_append] at less
        exact Nat.lt_of_le_of_lt (Nat.le_add_right _ _) less
    have unread : parseReplyCode ((received.splitOn 10).headD []) = none := if_pos (.inl first)
    unfold completeReplyCode
    rw [unread]
  · have begins : reply.digits <+: received :=
      List.prefix_of_prefix_length_le reply.digits_begin within (by omega)
    rw [completeReplyCode_eq reply.three begins]
    refine if_neg (Bool.not_eq_true _ ▸ ?_)
    refine Imap.not_tagged_before (digits_plain (by decide) (by decide)) reply.opening_atLineStart
      reply.opening_untagged within ?_
    show received.length ≤ reply.opening.length + reply.digits.length
    omega

end ServerReply

end Completion

section Reading

variable {ioFailure protocolFailure : SmtpSendFailure} {reply : ServerReply} {output : Bytes}
  {chunks : List Bytes}

theorem readReplyFrom_chunk {chunk : Bytes} (nonempty : chunk ≠ [])
    (rest : List (Option Bytes)) : readReplyFrom ioFailure protocolFailure output (some chunk :: rest) =
      if maxReplyBytes < output.length + chunk.length then (.error protocolFailure, rest)
      else match completeReplyCode (output ++ chunk) with
      | some code => (.ok ⟨code, output ++ chunk⟩, rest)
      | none => readReplyFrom ioFailure protocolFailure (output ++ chunk) rest := by
  obtain ⟨byte, more, rfl⟩ := List.exists_cons_of_ne_nil nonempty
  rfl

theorem readReplyFrom_delivery (spaced : reply.last.isSome)
    (short : reply.bytes.length ≤ maxReplyBytes) (rest : List (Option Bytes))
    (nonempty : ∀ chunk ∈ chunks, chunk ≠ []) (whole : output ++ chunks.flatten = reply.bytes)
    (aligned : (output ++ chunks.dropLast.flatten).length ≤ reply.opening.length + 3) :
    readReplyFrom ioFailure protocolFailure output (chunks.map some ++ rest) =
      (.ok reply.read, rest) := by
  induction chunks generalizing output with
  | nil =>
    have length := congrArg List.length whole
    have last := reply.lastLine_length
    simp only [ServerReply.bytes, List.flatten_nil, List.append_nil, List.length_append,
      List.dropLast_nil] at length aligned
    omega
  | cons chunk more ih =>
    obtain ⟨filled, others⟩ := List.forall_mem_cons.mp nonempty
    have bounded : ¬maxReplyBytes < output.length + chunk.length := by
      have length := congrArg List.length whole
      simp only [List.flatten_cons, List.length_append] at length
      omega
    rw [List.map_cons, List.cons_append, readReplyFrom_chunk filled, if_neg bounded]
    cases more with
    | nil =>
      have complete : output ++ chunk = reply.bytes := by simpa using whole
      rw [complete, ServerReply.completeReplyCode_bytes spaced]
      rfl
    | cons second later =>
      have whole : (output ++ chunk) ++ (second :: later).flatten = reply.bytes := by
        rw [← whole]
        simp
      have aligned : ((output ++ chunk) ++ (second :: later).dropLast.flatten).length ≤
          reply.opening.length + 3 := by
        rw [List.append_assoc, ← List.flatten_cons]
        exact aligned
      have unfinished : reply.Unfinished (output ++ chunk) :=
        ⟨⟨_, whole⟩, (List.prefix_append (output ++ chunk) _).length_le.trans aligned⟩
      rw [unfinished.incomplete]
      exact ih others whole aligned

theorem readReplyFrom_unfinished (nonempty : ∀ chunk ∈ chunks, chunk ≠ [])
    (unfinished : reply.Unfinished (output ++ chunks.flatten)) (rest : List (Option Bytes)) :
    (∃ left, readReplyFrom ioFailure protocolFailure output (chunks.map some ++ rest) =
        (.error protocolFailure, left)) ∨
      readReplyFrom ioFailure protocolFailure output (chunks.map some ++ rest) =
        readReplyFrom ioFailure protocolFailure (output ++ chunks.flatten) rest := by
  induction chunks generalizing output with
  | nil => exact .inr (by simp)
  | cons chunk more ih =>
    obtain ⟨filled, others⟩ := List.forall_mem_cons.mp nonempty
    rw [List.flatten_cons, ← List.append_assoc] at unfinished ⊢
    have front : reply.Unfinished (output ++ chunk) :=
      ⟨(List.prefix_append _ _).trans unfinished.1, Nat.le_trans (by simp) unfinished.2⟩
    rw [List.map_cons, List.cons_append, readReplyFrom_chunk filled]
    split
    · exact .inl ⟨_, rfl⟩
    · rw [front.incomplete]
      exact ih others unfinished

theorem readReplyFrom_breaks {reads : List (Option Bytes)} (breaks : Breaks reads) :
    ∃ why left, readReplyFrom ioFailure protocolFailure [] reads = (.error why, left) := by
  cases breaks with
  | @stops reply chunks rest nonempty unfinished ends =>
    have unfinished : reply.Unfinished ([] ++ chunks.flatten) := unfinished
    rcases readReplyFrom_unfinished nonempty unfinished rest with ⟨left, failed⟩ | goes
    · exact ⟨_, left, failed⟩
    · rw [goes]
      cases ends <;> exact ⟨_, _, rfl⟩
  | @overflows reply chunks chunk nonempty unfinished long rest =>
    have unfinished : reply.Unfinished ([] ++ chunks.flatten) := unfinished
    rcases readReplyFrom_unfinished nonempty unfinished (some chunk :: rest) with
      ⟨left, failed⟩ | goes
    · exact ⟨_, left, failed⟩
    · rw [goes]
      cases chunk with
      | nil => exact ⟨_, _, rfl⟩
      | cons byte more =>
        rw [readReplyFrom_chunk (List.cons_ne_nil _ _)]
        exact ⟨_, _, if_pos long⟩

end Reading

end ProfilePlatform.Smtp
