import ProfilePlatform.Foundation.Lines
import ProfilePlatform.Imap.Session

/-! When the end of a response is recognised, and when something else is taken for it.

A response is its untagged lines, which may hold literals of arbitrary octets, and the
status line. The session looks at line feeds alone: it stops at the first chunk by whose
end some line begins with the tag and a space.
-/

set_option autoImplicit false

namespace ProfilePlatform.Imap

open Foundation

/-- Text has no line end in it. -/
def IsText (bytes : Bytes) : Prop := ∀ byte ∈ bytes, byte ≠ 10 ∧ byte ≠ 13

def decimal (number : Nat) : Bytes :=
  (Nat.toDigits 10 number).map fun digit => digit.toNat.toUInt8

/-- The octets of a literal behind their count, and the text that goes on after them. -/
structure Literal where
  octets : Bytes
  following : Bytes
  text : IsText following

def Literal.bytes (literal : Literal) : Bytes :=
  [123] ++ decimal literal.octets.length ++ [125] ++ crlf ++ literal.octets ++ literal.following

structure UntaggedLine where
  opening : Bytes
  text : IsText opening
  literals : List Literal

def UntaggedLine.bytes (line : UntaggedLine) : Bytes :=
  [42, 32] ++ line.opening ++ line.literals.flatMap Literal.bytes ++ crlf

def ImapTaggedStatus.name : ImapTaggedStatus → Bytes
  | .ok => [79, 75]
  | .no => [78, 79]
  | .bad => [66, 65, 68]

/-- A status in any case, and what the server says about it behind a space. -/
structure StatusLine where
  status : ImapTaggedStatus
  word : Bytes
  spelled : eqIgnoreAsciiCase word status.name = true
  remark : Bytes
  text : IsText remark
  apart : remark = [] ∨ ∃ words, remark = 32 :: words

def StatusLine.bytes (line : StatusLine) (tag : Bytes) : Bytes :=
  tag ++ [32] ++ line.word ++ line.remark ++ crlf

structure ImapResponse where
  untagged : List UntaggedLine
  completion : StatusLine

namespace ImapResponse

def untaggedBytes (response : ImapResponse) : Bytes := response.untagged.flatMap UntaggedLine.bytes

def bytes (response : ImapResponse) (tag : Bytes) : Bytes :=
  response.untaggedBytes ++ response.completion.bytes tag

theorem untagged_atLineStart (response : ImapResponse) :
    Lines.AtLineStart 10 response.untaggedBytes := by
  rcases List.eq_nil_or_concat response.untagged with none | ⟨lines, last, some⟩
  · exact .inl (by rw [untaggedBytes, none, List.flatMap_nil])
  · refine .inr ⟨lines.flatMap UntaggedLine.bytes ++ [42, 32] ++ last.opening ++
      last.literals.flatMap Literal.bytes ++ [13], ?_⟩
    simp [untaggedBytes, some, UntaggedLine.bytes, crlf]

end ImapResponse

section Tags

theorem isTagged_iff {tag line : Bytes} : isTagged tag line = true ↔ tag ++ [32] <+: line := by
  simp only [isTagged, Bool.and_eq_true, List.isPrefixOf_iff_prefix, beq_iff_eq]
  constructor
  · rintro ⟨⟨rest, rfl⟩, space⟩
    cases rest with
    | nil => simp at space
    | cons byte rest =>
      have same : byte = 32 := by simpa using space
      exact ⟨rest, by simp [same]⟩
  · rintro ⟨rest, rfl⟩
    exact ⟨⟨[32] ++ rest, by simp⟩, by simp⟩

theorem commandTag_plain (number : Nat) : 10 ∉ commandTag number ++ [32] := by
  have all : ∀ digit : Fin 10, (48 + digit.val).toUInt8 ≠ 10 := by decide
  intro member
  rcases List.mem_append.mp member with tag | space
  · rcases List.mem_cons.mp tag with letter | digit
    · exact absurd letter (by decide)
    · obtain ⟨place, -, same⟩ := List.mem_map.mp digit
      exact all ⟨number / place % 10, Nat.mod_lt _ (by decide)⟩ same
  · exact absurd (List.mem_singleton.mp space) (by decide)

/-- A tagged line is in the response exactly when a tag and a space stand where a line begins. -/
theorem responseHasTaggedLine_iff {tag : Bytes} (plain : 10 ∉ tag ++ [32]) (response : Bytes) :
    responseHasTaggedLine response tag = true ↔ ∃ before after,
      response = before ++ (tag ++ [32] ++ after) ∧ Lines.AtLineStart 10 before := by
  simp only [responseHasTaggedLine, List.any_eq_true, isTagged_iff]
  exact Lines.exists_marked_iff plain response

/-- Behind whole lines without the tag, a tagged line needs room for its own tag and space. -/
theorem not_tagged_before {tag lines cut : Bytes} (plain : 10 ∉ tag ++ [32])
    (start : Lines.AtLineStart 10 lines) (untagged : responseHasTaggedLine lines tag = false)
    {whole : Bytes} (within : cut <+: lines ++ whole)
    (short : cut.length ≤ lines.length + tag.length) : responseHasTaggedLine cut tag = false := by
  rw [← Bool.not_eq_true] at untagged ⊢
  intro has
  apply untagged
  obtain ⟨before, after, rfl, begins⟩ := (responseHasTaggedLine_iff plain _).mp has
  have early : before.length < lines.length := by
    simp only [List.length_append, List.length_singleton] at short
    omega
  have mark : before ++ (tag ++ [32]) <+: lines ++ whole :=
    List.IsPrefix.trans ⟨after, by simp⟩ within
  -- the mark cannot run beyond the end of the lines, where a line feed is
  rcases Nat.lt_or_ge lines.length (before ++ (tag ++ [32])).length with beyond | fits
  · rcases start with rfl | ⟨lines, rfl⟩
    · simp at early
    · have inside : lines ++ [10] <+: before ++ (tag ++ [32]) :=
        List.prefix_of_prefix_length_le (List.prefix_append _ _) mark beyond.le
      have feed : (before ++ (tag ++ [32]))[lines.length]? = some 10 := by
        obtain ⟨rest, split⟩ := inside
        rw [← split]
        simp
      rw [List.getElem?_append_right (by simpa using Nat.le_of_lt_succ (by simpa using early))] at feed
      exact absurd (List.mem_of_getElem? feed) plain
  · obtain ⟨more, rfl⟩ := List.prefix_of_prefix_length_le mark (List.prefix_append _ _) fits
    exact (responseHasTaggedLine_iff plain _).mpr ⟨before, more, by simp, begins⟩

end Tags

section Statuses

theorem lowercase_of_whitespace {byte : UInt8} (space : isAsciiWhitespace byte = true) :
    toAsciiLowercase byte = byte := by
  simp only [isAsciiWhitespace, Bool.or_eq_true, beq_iff_eq] at space
  rcases space with (((rfl | rfl) | rfl) | rfl) | rfl <;> rfl

theorem not_whitespace_of_spelled {word name : Bytes} (spelled : eqIgnoreAsciiCase word name = true)
    (letters : ∀ byte ∈ name.map toAsciiLowercase, isAsciiWhitespace byte = false) :
    ∀ byte ∈ word, isAsciiWhitespace byte = false := by
  intro byte member
  rw [← Bool.not_eq_true]
  intro space
  have lower : byte ∈ name.map toAsciiLowercase := by
    rw [← of_decide_eq_true spelled, ← lowercase_of_whitespace space]
    exact List.mem_map_of_mem member
  rw [letters byte lower] at space
  cases space

theorem statusOfWord_spelled {word : Bytes} {status : ImapTaggedStatus}
    (spelled : eqIgnoreAsciiCase word status.name = true) : statusOfWord word = some status := by
  have same : word.map toAsciiLowercase = status.name.map toAsciiLowercase :=
    of_decide_eq_true spelled
  simp only [statusOfWord, eqIgnoreAsciiCase, same]
  cases status <;> rfl

theorem StatusLine.word_plain (line : StatusLine) :
    ∀ byte ∈ line.word, isAsciiWhitespace byte = false := by
  refine not_whitespace_of_spelled line.spelled ?_
  cases line.status <;> decide +kernel

theorem StatusLine.splitOn_bytes (line : StatusLine) {tag : Bytes} (plain : 10 ∉ tag ++ [32]) :
    (line.bytes tag).splitOn 10 = [tag ++ [32] ++ line.word ++ line.remark ++ [13], []] := by
  have absent : 10 ∉ tag ++ [32] ++ line.word ++ line.remark ++ [13] := by
    simp only [List.mem_append, List.mem_singleton, not_or]
    refine ⟨⟨⟨by simpa using plain, fun member => ?_⟩, fun member => ?_⟩, by decide⟩
    · cases line.word_plain 10 member
    · exact (line.text 10 member).1 rfl
  have split : line.bytes tag = tag ++ [32] ++ line.word ++ line.remark ++ [13] ++ 10 :: [] := by
    simp [StatusLine.bytes, crlf]
  rw [split, Lines.splitOn_next absent, List.splitOn_nil]

theorem StatusLine.statusOfWord_suffix (line : StatusLine) :
    statusOfWord (((line.word ++ line.remark ++ [13]).splitOnP isAsciiWhitespace).headD []) =
      some line.status := by
  obtain ⟨space, rest, same, white⟩ : ∃ space rest,
      line.word ++ line.remark ++ [13] = line.word ++ space :: rest ∧
        isAsciiWhitespace space = true := by
    rcases line.apart with none | ⟨words, some⟩
    · exact ⟨13, [], by simp [none], rfl⟩
    · exact ⟨32, words ++ [13], by simp [some], rfl⟩
  rw [same, List.splitOnP_append_cons_of_forall_mem line.word_plain space white]
  exact statusOfWord_spelled line.spelled

end Statuses

/-- Where the line begins that is taken for the completion. -/
def completionOffset (response tag : Bytes) : Option Nat :=
  Lines.offset (isTagged tag) (response.splitOn 10)

section Whole

variable {tag : Bytes}

theorem find_untagged {lines : List Bytes} (untagged : ∀ line ∈ lines, isTagged tag line = false)
    (rest : List Bytes) : (lines ++ rest).find? (isTagged tag) = rest.find? (isTagged tag) := by
  rw [List.find?_append, List.find?_eq_none.mpr, Option.none_or]
  intro line member
  rw [untagged line member]
  decide

theorem ImapResponse.completion_of_untagged (response : ImapResponse) (plain : 10 ∉ tag ++ [32])
    (untagged : responseHasTaggedLine response.untaggedBytes tag = false) :
    taggedStatus (response.bytes tag) tag = some response.completion.status ∧
      completionOffset (response.bytes tag) tag = some response.untaggedBytes.length := by
  obtain ⟨front, lines, room, split⟩ :=
    Lines.splitOn_whole_lines response.untagged_atLineStart
  have unmarked : ∀ line ∈ front, isTagged tag line = false := by
    intro line member
    rw [responseHasTaggedLine, lines, List.any_eq_false] at untagged
    exact Bool.not_eq_true _ ▸ untagged line (List.mem_append_left _ member)
  have real : isTagged tag (tag ++ [32] ++ response.completion.word ++ response.completion.remark ++
      [13]) = true :=
    isTagged_iff.mpr ⟨response.completion.word ++ response.completion.remark ++ [13], by simp⟩
  have dropped : (tag ++ [32] ++ response.completion.word ++ response.completion.remark ++
      [13]).drop (tag.length + 1) = response.completion.word ++ response.completion.remark ++ [13] := by
    have size : tag.length + 1 = (tag ++ [32]).length := by simp
    rw [List.append_assoc, List.append_assoc, size, List.drop_left, List.append_assoc]
  constructor
  · rw [taggedStatus, ImapResponse.bytes, split, response.completion.splitOn_bytes plain,
      find_untagged unmarked, List.find?_cons_of_pos real]
    simp only [dropped]
    exact response.completion.statusOfWord_suffix
  · rw [completionOffset, ImapResponse.bytes, split, response.completion.splitOn_bytes plain,
      Lines.offset_append unmarked, Lines.offset, if_pos real, Option.map_some, Nat.zero_add, room]

theorem ImapResponse.completionOffset_ne (response : ImapResponse)
    (tagged : responseHasTaggedLine response.untaggedBytes tag = true) :
    completionOffset (response.bytes tag) tag ≠ some response.untaggedBytes.length := by
  obtain ⟨front, lines, room, split⟩ :=
    Lines.splitOn_whole_lines response.untagged_atLineStart
  rw [responseHasTaggedLine, lines, List.any_eq_true] at tagged
  obtain ⟨line, member, found⟩ := tagged
  have inside : line ∈ front := by
    rcases List.mem_append.mp member with inside | empty
    · exact inside
    · rw [List.mem_singleton.mp empty] at found
      simp [isTagged] at found
  obtain ⟨start, begins, early⟩ :=
    Lines.offset_lt inside found ((response.completion.bytes tag).splitOn 10)
  rw [completionOffset, ImapResponse.bytes, split, begins]
  intro same
  cases same
  exact absurd early (by rw [room]; exact Nat.lt_irrefl _)

end Whole

/-- The reads end with the last chunk exactly when no chunk before it completes the response. -/
theorem readBounded_whole_iff (tag : Bytes) {maximum : Nat} (chunks : List Bytes)
    (nonempty : ∀ chunk ∈ chunks, chunk ≠ []) (output : Bytes)
    (bounded : (output ++ chunks.flatten).length ≤ maximum) :
    readBounded (some tag) maximum output (chunks.map some) = (.ok (output ++ chunks.flatten), []) ↔
      chunks ≠ [] ∧ ∀ front back, chunks = front ++ back → front ≠ [] →
        (responseHasTaggedLine (output ++ front.flatten) tag = true ↔ back = []) := by
  induction chunks generalizing output with
  | nil => simp [readBounded]
  | cons chunk rest ih =>
    obtain ⟨byte, bytes, filled⟩ :=
      List.exists_cons_of_ne_nil (nonempty chunk List.mem_cons_self)
    have flat : output ++ (chunk :: rest).flatten = output ++ chunk ++ rest.flatten := by simp
    rw [flat] at bounded ⊢
    have fits : ¬maximum < output.length + chunk.length := by
      simp only [List.length_append] at bounded
      omega
    have steps : readBounded (some tag) maximum output ((chunk :: rest).map some) =
        if responseHasTaggedLine (output ++ chunk) tag then (.ok (output ++ chunk), rest.map some)
        else readBounded (some tag) maximum (output ++ chunk) (rest.map some) := by
      rw [filled] at fits ⊢
      simp only [List.map_cons, readBounded, if_neg fits, isComplete]
      rfl
    have next := ih (fun other member => nonempty other (List.mem_cons_of_mem _ member))
      (output ++ chunk) bounded
    rw [steps]
    split
    next complete =>
      constructor
      · intro same
        have last : rest = [] := List.map_eq_nil_iff.mp (congrArg Prod.snd same)
        subst last
        refine ⟨List.cons_ne_nil _ _, fun front back split begun => ?_⟩
        obtain ⟨rfl, rfl⟩ : front = [chunk] ∧ back = [] := by
          cases front with
          | nil => exact absurd rfl begun
          | cons first others =>
            obtain ⟨rfl, empty⟩ := List.cons.inj split
            obtain ⟨rfl, rfl⟩ := List.append_eq_nil_iff.mp empty.symm
            exact ⟨rfl, rfl⟩
        simpa using complete
      · rintro ⟨-, exact⟩
        have last := (exact [chunk] rest rfl (List.cons_ne_nil _ _)).mp (by simpa using complete)
        subst last
        simp
    next incomplete =>
      rw [next]
      constructor
      · rintro ⟨more, exact⟩
        refine ⟨List.cons_ne_nil _ _, fun front back split begun => ?_⟩
        cases front with
        | nil => exact absurd rfl begun
        | cons first others =>
          obtain ⟨rfl, split'⟩ := List.cons.inj split
          cases others with
          | nil =>
            cases split'
            exact iff_of_false (by simpa using incomplete) more
          | cons second others =>
            have later := exact _ back split' (List.cons_ne_nil _ _)
            rwa [List.append_assoc, ← List.flatten_cons] at later
      · rintro ⟨-, exact⟩
        refine ⟨?_, fun front back split _ => ?_⟩
        · rintro rfl
          exact incomplete (by simpa using (exact [chunk] [] rfl (List.cons_ne_nil _ _)).mpr rfl)
        · have later := exact (chunk :: front) back (congrArg (chunk :: ·) split) (List.cons_ne_nil _ _)
          rwa [List.flatten_cons, ← List.append_assoc] at later

/-- The response arrives cut into chunks, and is not too long. -/
structure Delivered (number maximum : Nat) (response : ImapResponse) (chunks : List Bytes) : Prop where
  flat : chunks.flatten = response.bytes (commandTag number)
  nonempty : ∀ chunk ∈ chunks, chunk ≠ []
  bounded : (response.bytes (commandTag number)).length ≤ maximum

/-- The command ends with its response: all of it is read and nothing is left, its status
is reported, and the line taken for the completion is the real one. -/
structure Completes (number maximum : Nat) (response : ImapResponse) (chunks : List Bytes) : Prop where
  whole : readBounded (some (commandTag number)) maximum [] (chunks.map some) =
    (.ok (response.bytes (commandTag number)), [])
  status : taggedStatus (response.bytes (commandTag number)) (commandTag number) =
    some response.completion.status
  real : completionOffset (response.bytes (commandTag number)) (commandTag number) =
    some response.untaggedBytes.length

/-- A command ends with its response exactly when no line of the untagged part, literal
octets included, begins with the tag and a space, and no chunk but the last reaches past
the tag of the status line. -/
theorem completes_iff {number maximum : Nat} {response : ImapResponse} {chunks : List Bytes}
    (delivered : Delivered number maximum response chunks) :
    Completes number maximum response chunks ↔
      responseHasTaggedLine response.untaggedBytes (commandTag number) = false ∧
      ∀ front back, chunks = front ++ back → back ≠ [] →
        front.flatten.length ≤ response.untaggedBytes.length + (commandTag number).length := by
  have plain := commandTag_plain number
  have reading := readBounded_whole_iff (commandTag number) chunks delivered.nonempty []
    (delivered.flat ▸ delivered.bounded)
  rw [List.nil_append, delivered.flat] at reading
  have marked : response.bytes (commandTag number) = response.untaggedBytes ++
      (commandTag number ++ [32] ++
        (response.completion.word ++ response.completion.remark ++ crlf)) := by
    simp [ImapResponse.bytes, StatusLine.bytes]
  have within {front back : List Bytes} (split : chunks = front ++ back) :
      front.flatten <+: response.bytes (commandTag number) :=
    ⟨back.flatten, by rw [← delivered.flat, split, List.flatten_append]⟩
  constructor
  · intro completes
    refine ⟨?_, fun front back split more => ?_⟩
    · rw [← Bool.not_eq_true]
      exact fun tagged => response.completionOffset_ne tagged completes.real
    · rcases eq_or_ne front [] with rfl | begun
      · exact Nat.zero_le _
      · by_contra beyond
        apply more
        refine ((reading.mp completes.whole).2 front back split begun).mp ?_
        have inside : response.untaggedBytes ++ (commandTag number ++ [32]) <+: front.flatten := by
          refine List.prefix_of_prefix_length_le ?_ (within split) ?_
          · rw [marked]
            exact ⟨_, List.append_assoc ..⟩
          · simp only [List.length_append, List.length_singleton]
            omega
        obtain ⟨rest, same⟩ := inside
        refine (responseHasTaggedLine_iff plain _).mpr
          ⟨response.untaggedBytes, rest, ?_, response.untagged_atLineStart⟩
        rw [List.nil_append, ← same, List.append_assoc]
  · rintro ⟨untagged, early⟩
    obtain ⟨status, real⟩ := response.completion_of_untagged plain untagged
    refine ⟨reading.mpr ⟨?_, fun front back split begun => ?_⟩, status, real⟩
    · rintro rfl
      have flat := delivered.flat
      rw [marked] at flat
      simp at flat
    · constructor
      · intro tagged
        by_contra more
        have clear := not_tagged_before plain response.untagged_atLineStart untagged (within split)
          (early front back split more)
        rw [List.nil_append, clear] at tagged
        cases tagged
      · rintro rfl
        rw [List.append_nil] at split
        rw [List.nil_append, ← split, delivered.flat, marked]
        exact (responseHasTaggedLine_iff plain _).mpr
          ⟨_, _, rfl, response.untagged_atLineStart⟩

/-- A command that ends with its response answers with it, and the next one starts afresh. -/
theorem execute_of_completes {session : ImapSession} {command : Bytes} {maximum : Nat}
    {response : ImapResponse} {chunks : List Bytes} (valid : invalidCommand command = false)
    (room : maximum ≠ 0) (numbered : session.nextTag ≤ maxCommandTag)
    (writable : session.socket.writable = true)
    (reads : session.socket.reads = chunks.map some)
    (completes : Completes session.nextTag maximum response chunks) :
    (session.execute command maximum).1 =
        .ok ⟨response.bytes (commandTag session.nextTag), response.completion.status⟩ ∧
      (session.execute command maximum).2.socket.reads = [] := by
  have permitted : (invalidCommand command || maximum == 0) = false := by simp [valid, room]
  simp only [ImapSession.execute, permitted, ImapSession.nextCommandTag,
    if_neg (Nat.not_lt.mpr numbered), Socket.writeAll, writable, if_true, readUntilTag, reads,
    completes.whole, completes.status]
  exact ⟨rfl, rfl⟩

namespace DoneInTwoChunks

def response : ImapResponse where
  untagged := []
  completion :=
    { status := .ok, word := [79, 75], spelled := rfl, remark := [32, 100, 111, 110, 101]
      text := by simp [IsText], apart := .inr ⟨_, rfl⟩ }

/-- p000001 OK do and ne with the line end. -/
def chunks : List Bytes :=
  [[112, 48, 48, 48, 48, 48, 49, 32, 79, 75, 32, 100, 111], [110, 101, 13, 10]]

/-- The same bytes cut behind the tag. -/
def laterChunks : List Bytes :=
  [[112, 48, 48, 48, 48, 48, 49], [32, 79, 75, 32, 100, 111, 110, 101, 13, 10]]

theorem delivered : Delivered 1 100 response chunks := ⟨by decide, by decide, by decide⟩

theorem delivered_later : Delivered 1 100 response laterChunks := ⟨by decide, by decide, by decide⟩

end DoneInTwoChunks

open DoneInTwoChunks in
/-- The end of the status line is left to be read as the response of the next command. -/
theorem completes_cut_short : Delivered 1 100 response chunks ∧
    readBounded (some (commandTag 1)) 100 [] (chunks.map some) =
      (.ok [112, 48, 48, 48, 48, 48, 49, 32, 79, 75, 32, 100, 111], [some [110, 101, 13, 10]]) ∧
    ¬Completes 1 100 response chunks := by
  refine ⟨delivered, by decide, fun completes => ?_⟩
  have left := congrArg Prod.snd completes.whole
  exact absurd left (by decide)

open DoneInTwoChunks in
theorem completes_iff_later : Completes 1 100 response laterChunks ↔
    responseHasTaggedLine response.untaggedBytes (commandTag 1) = false ∧
      ∀ front back, laterChunks = front ++ back → back ≠ [] →
        front.flatten.length ≤ response.untaggedBytes.length + (commandTag 1).length :=
  completes_iff delivered_later

end ProfilePlatform.Imap
