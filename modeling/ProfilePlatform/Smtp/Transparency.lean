import ProfilePlatform.Smtp.Session

/-! What a server reads of a message that is sent with its dots doubled. Servers differ in where
they see a line begin: behind CRLF alone, or behind every line feed. -/

set_option autoImplicit false

namespace ProfilePlatform.Smtp

open Imap (Bytes crlf)

/-- Whether a line begins behind the bytes read so far. -/
abbrev LineStarts : Type := Bytes → Bool

def afterCrlf : LineStarts := fun before => before.isEmpty || crlf.isSuffixOf before

def afterLf : LineStarts := fun before => before.isEmpty || before.getLast? == some 10

/-- The first dot of a line is deleted. -/
def unstuffed (starts : LineStarts) : Bytes → Bytes → Bytes
  | _, [] => []
  | before, byte :: rest =>
    (if starts before && byte == 46 then [] else [byte]) ++ unstuffed starts (before ++ [byte]) rest

section Reading

variable {starts : LineStarts}

theorem unstuffed_append (before first second : Bytes) :
    unstuffed starts before (first ++ second) =
      unstuffed starts before first ++ unstuffed starts (before ++ first) second := by
  induction first generalizing before with
  | nil => simp [unstuffed]
  | cons byte rest ih => simp [unstuffed, ih]

@[simp] theorem unstuffed_crlf (before : Bytes) : unstuffed starts before crlf = crlf := by
  simp [unstuffed, crlf]

@[simp] theorem afterLf_snoc (before : Bytes) (byte : UInt8) :
    afterLf (before ++ [byte]) = (byte == 10) := by
  simp [afterLf]

theorem stuffed_append (lineStart : Bool) (first second : Bytes) :
    stuffed lineStart (first ++ second) = stuffed lineStart first ++
      stuffed (if first = [] then lineStart else first.getLast? == some 10) second := by
  induction first generalizing lineStart with
  | nil => simp [stuffed]
  | cons byte rest ih =>
    rw [List.cons_append, stuffed, stuffed, ih]
    cases rest <;> simp

theorem unstuffed_stuffed (before message : Bytes) :
    unstuffed afterLf before (stuffed (afterLf before) message) = message := by
  induction message generalizing before with
  | nil => rfl
  | cons byte rest ih =>
    have later := ih (before ++ [byte])
    rw [afterLf_snoc] at later
    by_cases doubled : (afterLf before && byte == 46) = true
    · obtain ⟨start, dot⟩ := Bool.and_eq_true_iff.mp doubled
      have same : byte = 46 := beq_iff_eq.mp dot
      subst same
      have behind := ih (before ++ [46, 46])
      have follows : afterLf (before ++ [46, 46]) = false := by simp [afterLf]
      rw [follows] at behind
      simp [stuffed, start, unstuffed, behind]
    · simp only [stuffed, doubled, if_false, List.singleton_append, unstuffed, Bool.false_eq_true]
      rw [later]

theorem dot_doubled {front rest after : Bytes} (wire message : Bytes)
    (split : stuffed (afterLf wire) message ++ after = front ++ 46 :: rest)
    (start : afterLf (wire ++ front) = true) :
    rest.head? = some 46 ∨ ∃ later, front = stuffed (afterLf wire) message ++ later ∧
      after = later ++ 46 :: rest := by
  induction message generalizing wire front with
  | nil => exact .inr ⟨front, rfl, split⟩
  | cons byte more ih =>
    have next (piece back : Bytes) (last : afterLf (wire ++ piece) = (byte == 10))
        (whole : stuffed (afterLf wire) (byte :: more) = piece ++ stuffed (byte == 10) more)
        (cut : front = piece ++ back) : rest.head? = some 46 ∨
          ∃ later, front = stuffed (afterLf wire) (byte :: more) ++ later ∧
            after = later ++ 46 :: rest := by
      subst cut
      rw [whole] at split ⊢
      simp only [List.append_assoc, List.append_cancel_left_eq] at split
      rw [← List.append_assoc] at start
      rcases ih (wire ++ piece) (last ▸ split) start with dot | ⟨later, rfl, same⟩
      · exact .inl dot
      · exact .inr ⟨later, by simp [last], same⟩
    by_cases doubled : (afterLf wire && byte == 46) = true
    · obtain ⟨begins, dot⟩ := Bool.and_eq_true_iff.mp doubled
      have same : byte = 46 := beq_iff_eq.mp dot
      subst same
      have whole : stuffed (afterLf wire) (46 :: more) = [46, 46] ++ stuffed (46 == 10) more := by
        simp [stuffed, begins]
      rw [whole] at split
      rcases front with _ | ⟨first, _ | ⟨second, back⟩⟩
      · simp only [List.cons_append, List.nil_append, List.cons.injEq, true_and] at split
        exact .inl (by simp [← split])
      · simp only [List.cons_append, List.nil_append, List.cons.injEq] at split
        simp [afterLf, ← split.1] at start
      · simp only [List.cons_append, List.nil_append, List.cons.injEq] at split
        exact next [46, 46] back (by simp [afterLf]) whole (by simp [← split.1, ← split.2.1])
    · have whole : stuffed (afterLf wire) (byte :: more) = [byte] ++ stuffed (byte == 10) more := by
        simp [stuffed, doubled]
      rw [whole] at split
      rcases front with _ | ⟨first, back⟩
      · simp only [List.cons_append, List.nil_append, List.cons.injEq] at split
        rw [List.append_nil] at start
        simp [split.1, start] at doubled
      · simp only [List.cons_append, List.nil_append, List.cons.injEq] at split
        exact next [byte] back (by simp) whole (by simp [split.1])

end Reading

section Ends

theorem crlf_suffix_snoc {front : Bytes} {byte : UInt8} :
    crlf <:+ front ++ [byte] ↔ byte = 10 ∧ front.getLast? = some 13 := by
  constructor
  · rintro ⟨start, same⟩
    have parts : (start ++ [13]) ++ [10] = front ++ [byte] := by simpa [crlf] using same
    obtain ⟨rfl, last⟩ := List.append_inj' parts rfl
    cases last
    simp
  · rintro ⟨rfl, last⟩
    obtain ⟨start, rfl⟩ := List.getLast?_eq_some_iff.mp last
    exact ⟨start, by simp [crlf]⟩

theorem getLast?_stuffed (lineStart : Bool) (message : Bytes) :
    (stuffed lineStart message).getLast? = message.getLast? := by
  induction message using List.reverseRecOn with
  | nil => rfl
  | append_singleton front byte ih =>
    rw [stuffed_append]
    generalize (if front = [] then lineStart else front.getLast? == some 10) = begins
    by_cases doubled : (begins && byte == 46) = true <;> simp [stuffed, doubled]

theorem crlf_suffix_stuffed (lineStart : Bool) (message : Bytes) :
    crlf <:+ stuffed lineStart message ↔ crlf <:+ message := by
  induction message using List.reverseRecOn with
  | nil => rfl
  | append_singleton front byte ih =>
    rw [stuffed_append, crlf_suffix_snoc]
    generalize (if front = [] then lineStart else front.getLast? == some 10) = begins
    by_cases doubled : (begins && byte == 46) = true
    · obtain ⟨start, dot⟩ := Bool.and_eq_true_iff.mp doubled
      have same : byte = 46 := beq_iff_eq.mp dot
      subst same
      have piece : stuffed begins [46] = [46] ++ [46] := by simp [stuffed, start]
      rw [piece, ← List.append_assoc, crlf_suffix_snoc]
      simp
    · have piece : stuffed begins [byte] = [byte] := by simp [stuffed, doubled]
      rw [piece, crlf_suffix_snoc, getLast?_stuffed]

theorem afterCrlf_stuffed (message : Bytes) :
    afterCrlf (stuffed true message) = afterCrlf message := by
  cases message with
  | nil => rfl
  | cons byte rest =>
    have occupied : stuffed true (byte :: rest) ≠ [] := by
      unfold stuffed
      split <;> simp
    have same := crlf_suffix_stuffed true (byte :: rest)
    rw [← List.isSuffixOf_iff_suffix, ← List.isSuffixOf_iff_suffix, ← Bool.eq_iff_iff] at same
    simp [afterCrlf, same, occupied]

@[simp] theorem afterCrlf_snoc (before : Bytes) (byte : UInt8) :
    afterCrlf (before ++ [byte]) = true ↔ byte = 10 ∧ before.getLast? = some 13 := by
  simp [afterCrlf, crlf_suffix_snoc]

theorem afterLf_of_afterCrlf {before : Bytes} (start : afterCrlf before = true) :
    afterLf before = true := by
  rcases List.eq_nil_or_concat before with rfl | ⟨front, byte, rfl⟩
  · rfl
  · rw [List.concat_eq_append, afterCrlf_snoc] at start
    simp [start.1]

end Ends

section CrlfOnly

/-- A dot stands behind a line feed that no CR stands in front of. -/
def DotBehindBareLf (message : Bytes) : Prop :=
  ∃ front rest, message = front ++ 10 :: 46 :: rest ∧ front.getLast? ≠ some 13

/-- Where every line feed that a dot follows ends a line, the dots that are deleted are those that
were doubled. -/
theorem unstuffed_of_matched (gone : Bytes) {message : Bytes}
    (bare : ¬DotBehindBareLf (gone ++ message)) :
    unstuffed afterCrlf (stuffed true gone) (stuffed (afterLf gone) message) = message := by
  induction message generalizing gone with
  | nil => rfl
  | cons byte rest ih =>
    have later := ih (gone ++ [byte]) (by simpa using bare)
    rw [afterLf_snoc, stuffed_append] at later
    have flag : (if gone = [] then true else gone.getLast? == some 10) = afterLf gone := by
      cases gone <;> simp [afterLf]
    rw [flag] at later
    by_cases doubled : (afterLf gone && byte == 46) = true
    · obtain ⟨start, dot⟩ := Bool.and_eq_true_iff.mp doubled
      have same : byte = 46 := beq_iff_eq.mp dot
      subst same
      have strict : afterCrlf gone = true := by
        rcases List.eq_nil_or_concat gone with rfl | ⟨front, last, rfl⟩
        · rfl
        · rw [List.concat_eq_append, afterLf_snoc, beq_iff_eq] at start
          subst start
          rw [List.concat_eq_append, afterCrlf_snoc]
          refine ⟨rfl, ?_⟩
          by_contra other
          exact bare ⟨front, rest, by simp, other⟩
      have inside : afterCrlf (stuffed true gone ++ [46]) = false := by
        rw [← Bool.not_eq_true, afterCrlf_snoc]
        rintro ⟨impossible, -⟩
        cases impossible
      simp only [stuffed, start, Bool.true_and, beq_self_eq_true, if_true, List.append_nil] at later
      simp [stuffed, start, unstuffed, afterCrlf_stuffed, strict, inside]
      simpa using later
    · have kept : (afterCrlf (stuffed true gone) && byte == 46) = false := by
        rw [afterCrlf_stuffed, ← Bool.not_eq_true]
        intro deleted
        obtain ⟨start, dot⟩ := Bool.and_eq_true_iff.mp deleted
        exact doubled (Bool.and_eq_true_iff.mpr ⟨afterLf_of_afterCrlf start, dot⟩)
      simp only [stuffed, doubled, if_false, List.append_nil, Bool.false_eq_true] at later ⊢
      simp only [List.singleton_append, unstuffed, kept, if_false, Bool.false_eq_true, later]

theorem length_le_unstuffed (before message : Bytes) :
    message.length ≤ (unstuffed afterCrlf before (stuffed (afterLf before) message)).length := by
  induction message generalizing before with
  | nil => exact Nat.zero_le _
  | cons byte rest ih =>
    by_cases doubled : (afterLf before && byte == 46) = true
    · obtain ⟨start, dot⟩ := Bool.and_eq_true_iff.mp doubled
      have same : byte = 46 := beq_iff_eq.mp dot
      subst same
      have later := ih (before ++ [46, 46])
      have flag : afterLf (before ++ [46, 46]) = (46 == (10 : UInt8)) := by simp [afterLf]
      have inside : afterCrlf (before ++ [46]) = false := by
        rw [← Bool.not_eq_true, afterCrlf_snoc]
        rintro ⟨impossible, -⟩
        cases impossible
      rw [flag] at later
      simp [stuffed, start, unstuffed, inside]
      simp at later
      omega
    · have later := ih (before ++ [byte])
      rw [afterLf_snoc] at later
      have kept : (afterCrlf before && byte == 46) = false := by
        rw [← Bool.not_eq_true]
        intro deleted
        obtain ⟨start, dot⟩ := Bool.and_eq_true_iff.mp deleted
        exact doubled (Bool.and_eq_true_iff.mpr ⟨afterLf_of_afterCrlf start, dot⟩)
      simp only [stuffed, doubled, if_false, Bool.false_eq_true, List.singleton_append, unstuffed,
        kept, List.length_cons]
      omega

theorem length_lt_unstuffed {message : Bytes} (bare : DotBehindBareLf message) :
    message.length < (unstuffed afterCrlf [] (stuffed true message)).length := by
  obtain ⟨front, rest, rfl, unpaired⟩ := bare
  have first := length_le_unstuffed [] front
  have flag : (if front = [] then true else front.getLast? == some 10) = afterLf front := by
    cases front <;> simp [afterLf]
  have pieces : stuffed true (front ++ 10 :: 46 :: rest) =
      stuffed true front ++ ([10, 46, 46] ++ stuffed false rest) := by
    rw [stuffed_append, flag]
    simp [stuffed]
  have behind := length_le_unstuffed (stuffed true front ++ [10, 46, 46]) rest
  have inside : afterLf (stuffed true front ++ [10, 46, 46]) = false := by simp [afterLf]
  have open_ : afterCrlf (stuffed true front ++ [10]) = false := by
    rw [← Bool.not_eq_true, afterCrlf_snoc, getLast?_stuffed]
    exact fun start => unpaired start.2
  have after : afterCrlf (stuffed true front ++ [10, 46]) = false := by
    have snoc : stuffed true front ++ [10, 46] = (stuffed true front ++ [10]) ++ [46] := by simp
    rw [snoc, ← Bool.not_eq_true, afterCrlf_snoc]
    rintro ⟨impossible, -⟩
    cases impossible
  rw [inside] at behind
  rw [pieces, unstuffed_append, unstuffed_append]
  have middle : unstuffed afterCrlf ([] ++ stuffed true front) [10, 46, 46] = [10, 46, 46] := by
    simp [unstuffed, open_, after]
  rw [middle]
  simp only [List.length_append, List.length_cons, List.nil_append, List.length_nil] at *
  have same : (stuffed true front) = stuffed (afterLf []) front := rfl
  rw [← same] at first
  omega

end CrlfOnly

section Message

variable {message : Bytes}

/-- What the message is given so that it ends with CRLF. -/
def closing (message : Bytes) : Bytes := if crlf.isSuffixOf message then [] else crlf

theorem dotStuffedMessage_eq (plain : 0 ∉ message) :
    dotStuffedMessage message = .ok (stuffed true message ++ closing message ++ [46] ++ crlf) := by
  have same := crlf_suffix_stuffed true message
  rw [← List.isSuffixOf_iff_suffix, ← List.isSuffixOf_iff_suffix, ← Bool.eq_iff_iff] at same
  unfold dotStuffedMessage closing
  rw [if_neg plain]
  dsimp only
  rw [same]
  split <;> simp

theorem crlf_suffix_closed (message : Bytes) : crlf <:+ stuffed true message ++ closing message := by
  unfold closing
  split
  next ended =>
    rw [List.append_nil, crlf_suffix_stuffed]
    exact List.isSuffixOf_iff_suffix.mp ended
  next => exact List.suffix_append _ _

theorem eq_of_dot_behind {ending later rest : Bytes} (known : ending = [] ∨ ending = crlf)
    (same : ending ++ ([46] ++ crlf) = later ++ 46 :: rest) : later = ending := by
  rcases known with rfl | rfl
  · rcases later with _ | ⟨_, _ | ⟨_, _ | ⟨_, later⟩⟩⟩ <;> simp_all [crlf]
  · rcases later with _ | ⟨_, _ | ⟨_, _ | ⟨_, _ | ⟨_, _ | ⟨_, later⟩⟩⟩⟩⟩ <;> simp_all [crlf]

/-- The body is sent in front of the dot that ends the data, which alone stands on a line of its
own. -/
structure SentAs (message body : Bytes) : Prop where
  framed : dotStuffedMessage message = .ok (body ++ [46] ++ crlf)
  ended : crlf <:+ body
  alone : ∀ before rest, body ++ [46] ++ crlf = before ++ 46 :: rest → afterLf before = true →
    rest.head? = some 10 ∨ crlf <+: rest → before = body

theorem sentAs (plain : 0 ∉ message) : SentAs message (stuffed true message ++ closing message) where
  framed := dotStuffedMessage_eq plain
  ended := crlf_suffix_closed message
  alone before rest split start ends := by
    rw [List.append_assoc, List.append_assoc] at split
    rcases dot_doubled [] message split start with dot | ⟨later, rfl, same⟩
    · rcases ends with feed | ⟨back, rfl⟩
      · rw [dot] at feed
        cases feed
      · cases dot
    · have ending : closing message = [] ∨ closing message = crlf := by
        unfold closing
        split <;> simp
      exact congrArg _ (eq_of_dot_behind ending same)

/-- A server that sees a line begin behind every line feed reads the message, and the end of the
data where it is. One that wants CRLF reads it exactly if no dot stands behind a bare line feed. -/
theorem data_transparent (plain : 0 ∉ message) :
    ∃ body, SentAs message body ∧ unstuffed afterLf [] body = message ++ closing message ∧
      (unstuffed afterCrlf [] body = message ++ closing message ↔ ¬DotBehindBareLf message) := by
  have unchanged (starts : LineStarts) (before : Bytes) :
      unstuffed starts before (closing message) = closing message := by
    unfold closing
    split
    · rfl
    · exact unstuffed_crlf before
  refine ⟨_, sentAs plain, ?_, ?_⟩
  · rw [unstuffed_append, unchanged]
    exact congrArg (· ++ closing message) (unstuffed_stuffed [] message)
  · rw [unstuffed_append, unchanged, List.append_cancel_right_eq]
    constructor
    · intro same bare
      have longer := length_lt_unstuffed bare
      rw [same] at longer
      exact Nat.lt_irrefl _ longer
    · exact fun matched => unstuffed_of_matched [] matched

end Message

/-! A dot behind a line feed that no CR stands in front of. -/

namespace BareLineFeed

def message : Bytes := [97, 10, 46, 98]

theorem dot_stays : message ≠ [] ∧ 0 ∉ message ∧ ¬∃ body, SentAs message body ∧
    unstuffed afterCrlf [] body = message ++ closing message := by
  refine ⟨by decide, by decide, ?_⟩
  rintro ⟨body, sent, same⟩
  have wire : dotStuffedMessage message = .ok ([97, 10, 46, 46, 98, 13, 10] ++ [46] ++ crlf) := rfl
  rw [sent.framed, Except.ok.injEq, List.append_cancel_right_eq, List.append_cancel_right_eq] at wire
  rw [wire] at same
  exact absurd same (by decide)

theorem data_transparent_bare : ∃ body, SentAs message body ∧
    unstuffed afterLf [] body = message ++ closing message ∧
      (unstuffed afterCrlf [] body = message ++ closing message ↔ ¬DotBehindBareLf message) :=
  data_transparent (by decide)

end BareLineFeed

end ProfilePlatform.Smtp
