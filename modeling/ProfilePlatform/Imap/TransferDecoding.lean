import ProfilePlatform.Foundation.Base64
import ProfilePlatform.Foundation.QuotedPrintable
import ProfilePlatform.Imap.Metadata

/-! The two transfer encodings of message bodies. A decoder stops with an error as soon as
there would be more bytes than it may return. -/

set_option autoImplicit false

namespace ProfilePlatform.Imap

open Foundation

section Base64Decoder

def base64Value (byte : UInt8) : Option Nat :=
  if 65 ≤ byte && byte ≤ 90 then some (byte.toNat - 65)
  else if 97 ≤ byte && byte ≤ 122 then some (byte.toNat - 97 + 26)
  else if 48 ≤ byte && byte ≤ 57 then some (byte.toNat - 48 + 52)
  else if byte == 43 || byte == 45 then some 62
  else if byte == 47 || byte == 95 then some 63
  else none

structure BitBuffer where
  output : Bytes
  accumulator : Nat
  bits : Nat
  deriving DecidableEq

/-- The inner loop: whole bytes leave the accumulator. -/
def takeBytes (maximumBytes accumulator : Nat) :
    Nat → Bytes → Except QueryPortError (Bytes × Nat)
  | bits + 8, output =>
    if output.length = maximumBytes then .error .integrityFailure
    else takeBytes maximumBytes accumulator bits
      (output ++ [((accumulator >>> bits) &&& 255).toUInt8])
  | bits, output => .ok (output, bits)

/-- The accumulator has 32 bits. -/
def pushSextet (maximumBytes : Nat) (buffer : BitBuffer) (value : Nat) :
    Except QueryPortError BitBuffer := do
  let accumulator := ((buffer.accumulator <<< 6) % 4294967296) ||| value
  let (output, bits) ← takeBytes maximumBytes accumulator (buffer.bits + 6) buffer.output
  return ⟨output, if bits = 0 then 0 else accumulator &&& ((1 <<< bits) - 1), bits⟩

def pushCharacter (maximumBytes : Nat) (buffer : BitBuffer) (byte : UInt8) :
    Except QueryPortError BitBuffer := do
  let value ← orIntegrityFailure (base64Value byte)
  pushSextet maximumBytes buffer value

def decodeBase64 (input : Bytes) (maximumBytes : Nat) : Except QueryPortError Bytes := do
  let clean := input.filter fun byte => !isAsciiWhitespace byte
  let padding := (clean.reverse.takeWhile (· == 61)).length
  refuseIf (2 < padding) .integrityFailure
  let unpaddedLen := clean.length - padding
  let unpadded := clean.take unpaddedLen
  refuseIf (61 ∈ unpadded ∨ unpaddedLen % 4 = 1) .integrityFailure
  refuseIf (0 < padding ∧ clean.length % 4 ≠ 0) .integrityFailure
  let buffer ← unpadded.foldlM (pushCharacter maximumBytes) ⟨[], 0, 0⟩
  refuseIf (0 < buffer.bits ∧ buffer.accumulator ≠ 0) .integrityFailure
  return buffer.output

end Base64Decoder

section QuotedPrintableDecoder

def hexValue (byte : UInt8) : Option Nat :=
  if 48 ≤ byte && byte ≤ 57 then some (byte.toNat - 48)
  else if 97 ≤ byte && byte ≤ 102 then some (byte.toNat - 97 + 10)
  else if 65 ≤ byte && byte ≤ 70 then some (byte.toNat - 65 + 10)
  else none

/-- One turn of the loop for each byte, soft line break or escape. -/
def decodeQuotedPrintableFrom (maximumBytes : Nat) :
    Bytes → Bytes → Except QueryPortError Bytes
  | output, [] => .ok output
  | output, byte :: rest =>
    if byte ≠ 61 then
      if output.length = maximumBytes then .error .integrityFailure
      else decodeQuotedPrintableFrom maximumBytes (output ++ [byte]) rest
    else match rest with
    | [] => .error .integrityFailure
    | second :: more =>
      match more with
      | [] =>
        if second = 10 then decodeQuotedPrintableFrom maximumBytes output []
        else .error .integrityFailure
      | third :: later =>
        if second = 13 ∧ third = 10 then decodeQuotedPrintableFrom maximumBytes output later
        else if second = 10 then decodeQuotedPrintableFrom maximumBytes output (third :: later)
        else if output.length = maximumBytes then .error .integrityFailure
        else match hexValue second, hexValue third with
          | some high, some low =>
            decodeQuotedPrintableFrom maximumBytes (output ++ [((high <<< 4) ||| low).toUInt8]) later
          | _, _ => .error .integrityFailure

def decodeQuotedPrintable (input : Bytes) (maximumBytes : Nat) : Except QueryPortError Bytes :=
  decodeQuotedPrintableFrom maximumBytes [] input

end QuotedPrintableDecoder

/-! What the transfer decoders accept, and what they return for it. -/

section Base64Decoder

variable {maximumBytes : Nat}

theorem takeBytes_none {accumulator bits : Nat} {output : Bytes} (few : bits < 8) :
    takeBytes maximumBytes accumulator bits output = .ok (output, bits) := by
  rw [takeBytes]
  rintro before rfl
  omega

theorem shifted_eq {accumulator value : Nat} (bits : Nat) (bounded : accumulator < 2 ^ bits)
    (few : bits ≤ 6) (small : value < 64) :
    ((accumulator <<< 6) % 4294967296) ||| value = accumulator * 64 + value := by
  have room : 2 ^ bits ≤ 2 ^ 6 := Nat.pow_le_pow_right (by omega) few
  have inside : accumulator <<< 6 % 4294967296 = accumulator <<< 6 := by
    rw [Nat.shiftLeft_eq]
    exact Nat.mod_eq_of_lt (by omega)
  rw [inside, ← Nat.shiftLeft_add_eq_or_of_lt (show value < 2 ^ 6 by omega), Nat.shiftLeft_eq]

theorem pushSextet_first {output : Bytes} {value : Nat} (small : value < 64) :
    pushSextet maximumBytes ⟨output, 0, 0⟩ value = .ok ⟨output, value, 6⟩ := by
  unfold pushSextet
  dsimp only
  rw [shifted_eq 0 (by omega) (by omega) small, takeBytes_none (by omega)]
  have kept : (0 * 64 + value) &&& ((1 <<< 6) - 1) = value := by
    rw [Nat.zero_mul, Nat.zero_add, Nat.shiftLeft_eq, Nat.one_mul, Nat.and_two_pow_sub_one_eq_mod]
    exact Nat.mod_eq_of_lt small
  exact congrArg (fun value => Except.ok (BitBuffer.mk output value 6)) kept

theorem pushSextet_next {output : Bytes} {accumulator left value : Nat}
    (bounded : accumulator < 2 ^ (left + 2)) (few : left ≤ 4) (small : value < 64) :
    pushSextet maximumBytes ⟨output, accumulator, left + 2⟩ value =
      if output.length = maximumBytes then .error .integrityFailure
      else .ok ⟨output ++ [((accumulator * 64 + value) / 2 ^ left).toUInt8],
        (accumulator * 64 + value) % 2 ^ left, left⟩ := by
  unfold pushSextet
  dsimp only
  rw [shifted_eq _ bounded (by omega) small, show left + 2 + 6 = left + 8 from rfl, takeBytes]
  split
  next => rfl
  next =>
    rw [takeBytes_none (by omega)]
    have byte : (((accumulator * 64 + value) >>> left) &&& 255).toUInt8 =
        ((accumulator * 64 + value) / 2 ^ left).toUInt8 := by
      rw [Nat.shiftRight_eq_div_pow, Nat.and_two_pow_sub_one_eq_mod _ 8]
      exact UInt8.toNat_inj.mp (Nat.mod_mod _ _)
    have kept : (if left = 0 then 0 else (accumulator * 64 + value) &&& ((1 <<< left) - 1)) =
        (accumulator * 64 + value) % 2 ^ left := by
      split
      next none => rw [none, Nat.pow_zero, Nat.mod_one]
      next => rw [Nat.shiftLeft_eq, Nat.one_mul, Nat.and_two_pow_sub_one_eq_mod]
    rw [byte]
    exact congrArg (fun kept => Except.ok (BitBuffer.mk _ kept left)) kept

/-- What is left of the decoder behind its loop. -/
def finishBase64 (buffer : BitBuffer) : Except QueryPortError Bytes := do
  refuseIf (0 < buffer.bits ∧ buffer.accumulator ≠ 0) .integrityFailure
  return buffer.output

theorem finishBase64_rest {output result : Bytes} {accumulator bits : Nat} (positive : 0 < bits) :
    finishBase64 ⟨output, accumulator, bits⟩ = .ok result ↔ accumulator = 0 ∧ output = result := by
  unfold finishBase64
  rw [bind_eq_ok]
  constructor
  · rintro ⟨_, passed, done⟩
    have zero := refuseIf_eq_ok.mp passed
    cases done
    exact ⟨by_contra fun more => zero ⟨positive, more⟩, rfl⟩
  · rintro ⟨zero, rfl⟩
    exact ⟨(), refuseIf_passes fun refused => refused.2 zero, rfl⟩

theorem pushSextet_bind {output result : Bytes} {accumulator left value : Nat}
    {next : BitBuffer → Except QueryPortError Bytes} (room : output.length ≤ maximumBytes)
    (bounded : accumulator < 2 ^ (left + 2)) (few : left ≤ 4) (small : value < 64) :
    (pushSextet maximumBytes ⟨output, accumulator, left + 2⟩ value >>= next) = .ok result ↔
      output.length + 1 ≤ maximumBytes ∧
        next ⟨output ++ [((accumulator * 64 + value) / 2 ^ left).toUInt8],
          (accumulator * 64 + value) % 2 ^ left, left⟩ = .ok result := by
  rw [pushSextet_next bounded few small]
  split
  next full =>
    constructor
    · intro impossible
      cases impossible
    · intro more
      omega
  next short =>
    constructor
    · intro done
      exact ⟨by omega, done⟩
    · intro more
      exact more.2

section Groups

variable {output result : Bytes} {next : BitBuffer → Except QueryPortError Bytes}
variable {first second third fourth carried : Nat} {more : List Nat}

theorem foldlM_two (room : output.length ≤ maximumBytes) (first_small : first < 64)
    (second_small : second < 64) :
    ((first :: second :: more).foldlM (pushSextet maximumBytes) ⟨output, 0, 0⟩ >>= next) =
      .ok result ↔ output.length + 1 ≤ maximumBytes ∧
        (more.foldlM (pushSextet maximumBytes)
          ⟨output ++ [(first * 4 + second / 16).toUInt8], second % 16, 4⟩ >>= next) =
            .ok result := by
  have byte : (first * 64 + second) / 2 ^ 4 = first * 4 + second / 16 := by omega
  have kept : (first * 64 + second) % 2 ^ 4 = second % 16 := by omega
  rw [List.foldlM_cons, pushSextet_first first_small]
  change ((second :: more).foldlM (pushSextet maximumBytes) ⟨output, first, 4 + 2⟩ >>= next) = _ ↔ _
  rw [List.foldlM_cons, bind_assoc, pushSextet_bind room (by omega) (by omega) second_small, byte,
    kept]

theorem foldlM_third (room : output.length ≤ maximumBytes) (carried_small : carried < 16)
    (third_small : third < 64) :
    ((third :: more).foldlM (pushSextet maximumBytes) ⟨output, carried, 4⟩ >>= next) =
      .ok result ↔ output.length + 1 ≤ maximumBytes ∧
        (more.foldlM (pushSextet maximumBytes)
          ⟨output ++ [(carried * 16 + third / 4).toUInt8], third % 4, 2⟩ >>= next) =
            .ok result := by
  have byte : (carried * 64 + third) / 2 ^ 2 = carried * 16 + third / 4 := by omega
  have kept : (carried * 64 + third) % 2 ^ 2 = third % 4 := by omega
  rw [List.foldlM_cons, bind_assoc, show (4 : Nat) = 2 + 2 from rfl,
    pushSextet_bind room (by omega) (by omega) third_small, byte, kept]

theorem foldlM_fourth (room : output.length ≤ maximumBytes) (carried_small : carried < 4)
    (fourth_small : fourth < 64) :
    ((fourth :: more).foldlM (pushSextet maximumBytes) ⟨output, carried, 2⟩ >>= next) =
      .ok result ↔ output.length + 1 ≤ maximumBytes ∧
        (more.foldlM (pushSextet maximumBytes)
          ⟨output ++ [(carried * 64 + fourth).toUInt8], 0, 0⟩ >>= next) = .ok result := by
  have byte : (carried * 64 + fourth) / 2 ^ 0 = carried * 64 + fourth := Nat.div_one _
  have kept : (carried * 64 + fourth) % 2 ^ 0 = 0 := Nat.mod_one _
  rw [List.foldlM_cons, bind_assoc, show (2 : Nat) = 0 + 2 from rfl,
    pushSextet_bind room (by omega) (by omega) fourth_small, byte, kept]

end Groups

/-- The loop goes through whole quanta, and its bit accumulator has nothing to carry between
them: it computes the bytes of the groups. -/
theorem foldlM_pushSextet {groups : List Nat} (small : ∀ group ∈ groups, group < 64)
    (whole : groups.length % 4 ≠ 1) {output result : Bytes} (room : output.length ≤ maximumBytes) :
    (groups.foldlM (pushSextet maximumBytes) ⟨output, 0, 0⟩ >>= finishBase64) = .ok result ↔
      ∃ bytes, Base64.octets groups = some bytes ∧ output ++ bytes = result ∧
        (output ++ bytes).length ≤ maximumBytes := by
  fun_induction Base64.octets groups generalizing output with
  | case1 =>
    constructor
    · intro done
      cases done
      exact ⟨[], rfl, List.append_nil _, by simpa using room⟩
    · rintro ⟨bytes, found, rfl, -⟩
      cases found
      rw [List.append_nil]
      rfl
  | case2 => exact absurd rfl whole
  | case3 first second filled =>
    simp only [List.forall_mem_cons] at small
    rw [foldlM_two room small.1 small.2.1]
    change _ ∧ finishBase64 _ = _ ↔ _
    rw [finishBase64_rest (by omega)]
    simp [filled, and_comm]
  | case4 first second unfilled =>
    simp only [List.forall_mem_cons] at small
    rw [foldlM_two room small.1 small.2.1]
    change _ ∧ finishBase64 _ = _ ↔ _
    rw [finishBase64_rest (by omega)]
    simp [unfilled]
  | case5 first second third filled =>
    simp only [List.forall_mem_cons] at small
    rw [foldlM_two room small.1 small.2.1]
    refine (and_congr_right fun room => foldlM_third (by simpa using room) (by omega)
      small.2.2.1).trans ?_
    change _ ∧ _ ∧ finishBase64 _ = _ ↔ _
    rw [finishBase64_rest (by omega)]
    simp only [List.length_append, filled, true_and, List.append_assoc, List.singleton_append,
      Option.some.injEq, exists_eq_left', List.length_cons, List.length_nil]
    exact ⟨fun done => ⟨done.2.2, by omega⟩, fun done => ⟨by omega, by omega, done.1⟩⟩
  | case6 first second third unfilled =>
    simp only [List.forall_mem_cons] at small
    rw [foldlM_two room small.1 small.2.1]
    refine (and_congr_right fun room => foldlM_third (by simpa using room) (by omega)
      small.2.2.1).trans ?_
    change _ ∧ _ ∧ finishBase64 _ = _ ↔ _
    rw [finishBase64_rest (by omega)]
    simp [unfilled]
  | case7 first second third fourth more ih =>
    simp only [List.forall_mem_cons] at small
    obtain ⟨one, two, three, four, small⟩ := small
    have whole : more.length % 4 ≠ 1 := by
      simp only [List.length_cons] at whole
      omega
    have longer {output : Bytes} {byte : UInt8} (room : output.length + 1 ≤ maximumBytes) :
        (output ++ [byte]).length ≤ maximumBytes := by
      rw [List.length_append]
      exact room
    rw [foldlM_two room one two]
    refine (and_congr_right fun room => (foldlM_third (longer room) (by omega) three).trans
      (and_congr_right fun room => (foldlM_fourth (longer room) (by omega) four).trans
        (and_congr_right fun room => ih small whole (longer room)))).trans ?_
    constructor
    · rintro ⟨-, -, -, bytes, found, rfl, short⟩
      refine ⟨_, Option.map_eq_some_iff.mpr ⟨bytes, found, rfl⟩, by simp, ?_⟩
      simpa using short
    · rintro ⟨_, grouped, rfl, short⟩
      obtain ⟨bytes, found, rfl⟩ := Option.map_eq_some_iff.mp grouped
      simp only [List.length_append, List.length_cons] at short
      refine ⟨by omega, ?_, ?_, bytes, found, by simp, ?_⟩
      all_goals simp only [List.length_append, List.length_singleton]
      all_goals omega

theorem base64Value_character (alphabet : Base64.Alphabet) :
    ∀ group < 64, base64Value (alphabet.character group) = some group := by
  cases alphabet with
  | standard => decide
  | urlSafe => decide

theorem base64Value_eq_some {byte : UInt8} {group : Nat} : base64Value byte = some group ↔
    group < 64 ∧ ∃ alphabet : Base64.Alphabet, alphabet.character group = byte := by
  constructor
  · intro valued
    unfold base64Value at valued
    simp only [Bool.and_eq_true, decide_eq_true_eq, Bool.or_eq_true, beq_iff_eq,
      UInt8.le_iff_toNat_le] at valued
    split at valued
    next upper =>
      cases valued
      change 65 ≤ byte.toNat ∧ byte.toNat ≤ 90 at upper
      refine ⟨by omega, .standard, ?_⟩
      rw [Base64.Alphabet.character, if_pos (by omega)]
      exact Base64.toUInt8_eq _ (by omega)
    split at valued
    next lower =>
      cases valued
      change 97 ≤ byte.toNat ∧ byte.toNat ≤ 122 at lower
      refine ⟨by omega, .standard, ?_⟩
      rw [Base64.Alphabet.character, if_neg (by omega), if_pos (by omega)]
      exact Base64.toUInt8_eq _ (by omega)
    split at valued
    next digit =>
      cases valued
      change 48 ≤ byte.toNat ∧ byte.toNat ≤ 57 at digit
      refine ⟨by omega, .standard, ?_⟩
      rw [Base64.Alphabet.character, if_neg (by omega), if_neg (by omega), if_pos (by omega)]
      exact Base64.toUInt8_eq _ (by omega)
    split at valued
    next plus =>
      cases valued
      rcases plus with rfl | rfl
      · exact ⟨by omega, .standard, rfl⟩
      · exact ⟨by omega, .urlSafe, rfl⟩
    split at valued
    next slash =>
      cases valued
      rcases slash with rfl | rfl
      · exact ⟨by omega, .standard, rfl⟩
      · exact ⟨by omega, .urlSafe, rfl⟩
    next => cases valued
  · rintro ⟨small, alphabet, rfl⟩
    exact base64Value_character alphabet group small

theorem foldlM_pushCharacter (characters : List UInt8) {buffer : BitBuffer} {result : Bytes}
    (next : BitBuffer → Except QueryPortError Bytes) :
    (characters.foldlM (pushCharacter maximumBytes) buffer >>= next) = .ok result ↔
      ∃ groups, List.Forall₂ (fun byte group => base64Value byte = some group) characters groups ∧
        (groups.foldlM (pushSextet maximumBytes) buffer >>= next) = .ok result := by
  induction characters generalizing buffer with
  | nil => simp
  | cons byte more ih =>
    constructor
    · intro done
      rw [List.foldlM_cons, bind_assoc] at done
      obtain ⟨after, pushed, later⟩ := bind_eq_ok.mp done
      obtain ⟨group, valued, pushed⟩ := bind_eq_ok.mp pushed
      obtain ⟨groups, spelled, later⟩ := ih.mp later
      refine ⟨group :: groups, .cons (orIntegrityFailure_eq_ok.mp valued) spelled, ?_⟩
      rw [List.foldlM_cons, bind_assoc]
      exact bind_eq_ok.mpr ⟨after, pushed, later⟩
    · rintro ⟨_, spelled, done⟩
      cases spelled with
      | cons valued spelled =>
        rw [List.foldlM_cons, bind_assoc] at done ⊢
        obtain ⟨after, pushed, later⟩ := bind_eq_ok.mp done
        have pushed : pushCharacter maximumBytes buffer byte = .ok after :=
          bind_eq_ok.mpr ⟨_, orIntegrityFailure_eq_ok.mpr valued, pushed⟩
        exact bind_eq_ok.mpr ⟨after, pushed, ih.mpr ⟨_, spelled, later⟩⟩

theorem forall₂_base64Value {characters : List UInt8} {groups : List Nat} :
    List.Forall₂ (fun byte group => base64Value byte = some group) characters groups ↔
      Base64.Characters characters groups ∧ ∀ group ∈ groups, group < 64 := by
  constructor
  · intro valued
    induction valued with
    | nil => exact ⟨.nil, by simp⟩
    | cons first _ ih =>
      obtain ⟨small, spelled⟩ := base64Value_eq_some.mp first
      exact ⟨.cons spelled ih.1, List.forall_mem_cons.mpr ⟨small, ih.2⟩⟩
  · rintro ⟨spelled, small⟩
    induction spelled with
    | nil => exact .nil
    | cons first _ ih =>
      obtain ⟨one, more⟩ := List.forall_mem_cons.mp small
      exact .cons (base64Value_eq_some.mpr ⟨one, first⟩) (ih more)

theorem not_mem_characters {characters : List UInt8} {groups : List Nat}
    (valued : List.Forall₂ (fun byte group => base64Value byte = some group) characters groups) :
    61 ∉ characters := by
  induction valued with
  | nil => simp
  | cons first _ ih =>
    intro member
    rcases List.mem_cons.mp member with rfl | later
    · cases first
    · exact ih later

/-- The padding the decoder counts at the end. -/
def paddingOf (clean : Bytes) : Nat := (clean.reverse.takeWhile (· == 61)).length

theorem take_paddingOf (clean : Bytes) :
    clean = clean.take (clean.length - paddingOf clean) ++ List.replicate (paddingOf clean) 61 := by
  let front := (clean.reverse.dropWhile (· == 61)).reverse
  have repeated : clean.reverse.takeWhile (· == 61) = List.replicate (paddingOf clean) 61 :=
    List.eq_replicate_iff.mpr ⟨rfl, fun byte member => eq_of_beq (List.mem_takeWhile_imp member :)⟩
  have parts : clean = front ++ List.replicate (paddingOf clean) 61 := by
    rw [← List.reverse_inj, List.reverse_append, List.reverse_replicate, List.reverse_reverse,
      ← repeated, List.takeWhile_append_dropWhile]
  have counted : clean.length - paddingOf clean = front.length := by
    have lengths := congrArg List.length parts
    rw [List.length_append, List.length_replicate] at lengths
    omega
  have taken : clean.take front.length = front := by
    conv_lhs => rw [parts]
    exact List.take_left
  rw [counted, taken]
  exact parts

theorem paddingOf_append {characters : Bytes} (plain : 61 ∉ characters) (count : Nat) :
    paddingOf (characters ++ List.replicate count 61) = count := by
  have absent : characters.reverse.takeWhile (· == 61) = [] := by
    cases backwards : characters.reverse with
    | nil => rfl
    | cons byte more =>
      have other : byte ≠ 61 := by
        rintro rfl
        exact plain (List.mem_reverse.mp (backwards ▸ List.mem_cons_self))
      rw [List.takeWhile_cons, if_neg (by simpa using other)]
  unfold paddingOf
  rw [List.reverse_append, List.reverse_replicate, List.takeWhile_append_of_pos (by simp), absent,
    List.append_nil, List.length_replicate]

theorem spells_of_decodeBase64 {input bytes : Bytes}
    (decoded : decodeBase64 input maximumBytes = .ok bytes) :
    Base64.Spells isAsciiWhitespace input bytes ∧ bytes.length ≤ maximumBytes := by
  let clean := input.filter fun byte => !isAsciiWhitespace byte
  obtain ⟨_, few, decoded⟩ := bind_eq_ok.mp decoded
  obtain ⟨_, whole, decoded⟩ := bind_eq_ok.mp decoded
  obtain ⟨_, filled, decoded⟩ := bind_eq_ok.mp decoded
  have few := refuseIf_eq_ok.mp few
  have whole := refuseIf_eq_ok.mp whole
  have filled := refuseIf_eq_ok.mp filled
  change ¬2 < paddingOf clean at few
  change ¬(_ ∨ (clean.length - paddingOf clean) % 4 = 1) at whole
  change ¬(0 < paddingOf clean ∧ clean.length % 4 ≠ 0) at filled
  let characters := clean.take (clean.length - paddingOf clean)
  have parts : clean = characters ++ List.replicate (paddingOf clean) 61 := take_paddingOf clean
  have counted : characters.length = clean.length - paddingOf clean := by
    rw [List.length_take]
    omega
  obtain ⟨groups, valued, decoded⟩ :=
    (foldlM_pushCharacter characters finishBase64).mp decoded
  obtain ⟨spelled, small⟩ := forall₂_base64Value.mp valued
  have same := spelled.length_eq
  obtain ⟨bytes, grouped, joined, short⟩ := (foldlM_pushSextet small (by omega)
    (Nat.zero_le maximumBytes)).mp decoded
  rw [List.nil_append] at joined short
  subst joined
  have back := Base64.sextets_octets small grouped
  have length := Base64.length_sextets bytes
  rw [back] at length
  refine ⟨⟨characters, back.symm ▸ spelled, decide (0 < paddingOf clean), ?_⟩, short⟩
  change clean = _
  have total := congrArg List.length parts
  rw [List.length_append, List.length_replicate] at total
  by_cases some : 0 < paddingOf clean
  · have count : (3 - bytes.length % 3) % 3 = paddingOf clean := by omega
    rw [if_pos (decide_eq_true some), Base64.padding, count]
    exact parts
  · have none : paddingOf clean = 0 := by omega
    rw [if_neg (by simpa using some)]
    rw [none] at parts
    exact parts

theorem decodeBase64_of_spells {input bytes : Bytes}
    (spells : Base64.Spells isAsciiWhitespace input bytes) (short : bytes.length ≤ maximumBytes) :
    decodeBase64 input maximumBytes = .ok bytes := by
  let clean := input.filter fun byte => !isAsciiWhitespace byte
  obtain ⟨characters, spelled, padded, parts⟩ := spells
  have valued := forall₂_base64Value.mpr ⟨spelled, Base64.sextets_lt⟩
  have plain := not_mem_characters valued
  have length := spelled.length_eq.trans (Base64.length_sextets bytes)
  obtain ⟨count, counted, parts⟩ : ∃ count, (count = 0 ∨ count = (3 - bytes.length % 3) % 3) ∧
      clean = characters ++ List.replicate count 61 := by
    cases padded with
    | false => exact ⟨0, .inl rfl, parts⟩
    | true => exact ⟨_, .inr rfl, parts⟩
  have counts : paddingOf clean = count := parts ▸ paddingOf_append plain count
  have total : clean.length = characters.length + count := by
    rw [parts, List.length_append, List.length_replicate]
  have taken : clean.take (clean.length - paddingOf clean) = characters := by
    rw [counts, total, Nat.add_sub_cancel, parts]
    exact List.take_left
  have run := (foldlM_pushCharacter characters finishBase64).mpr ⟨_, valued, (foldlM_pushSextet
    Base64.sextets_lt (by rw [Base64.length_sextets]; omega) (Nat.zero_le maximumBytes)).mpr
      ⟨bytes, Base64.octets_sextets bytes, List.nil_append bytes, short⟩⟩
  refine bind_eq_ok.mpr ⟨(), refuseIf_passes ?_, ?_⟩
  · change ¬2 < paddingOf clean
    omega
  refine bind_eq_ok.mpr ⟨(), refuseIf_passes ?_, ?_⟩
  · change ¬(61 ∈ clean.take (clean.length - paddingOf clean) ∨
      (clean.length - paddingOf clean) % 4 = 1)
    rw [taken]
    rintro (member | short)
    · exact plain member
    · omega
  refine bind_eq_ok.mpr ⟨(), refuseIf_passes ?_, ?_⟩
  · change ¬(0 < paddingOf clean ∧ clean.length % 4 ≠ 0)
    omega
  change ((clean.take (clean.length - paddingOf clean)).foldlM (pushCharacter maximumBytes)
    ⟨[], 0, 0⟩ >>= finishBase64) = _
  rw [taken]
  exact run

/-- The decoder accepts the base64 texts of few enough bytes, and no other input. -/
theorem decodeBase64_eq_ok {input bytes : Bytes} :
    decodeBase64 input maximumBytes = .ok bytes ↔
      Base64.Spells isAsciiWhitespace input bytes ∧ bytes.length ≤ maximumBytes :=
  ⟨spells_of_decodeBase64, fun spelled => decodeBase64_of_spells spelled.1 spelled.2⟩

end Base64Decoder

section QuotedPrintableDecoder

open QuotedPrintable

variable {maximumBytes : Nat} {output rest : Bytes}

theorem hexValue_eq (byte : UInt8) : hexValue byte = digitValue byte := by
  unfold hexValue digitValue
  simp only [Bool.and_eq_true, decide_eq_true_eq]

theorem nibbles_eq {high low : Nat} (small : low < 16) : (high <<< 4) ||| low = high * 16 + low := by
  rw [← Nat.shiftLeft_add_eq_or_of_lt (show low < 2 ^ 4 from small), Nat.shiftLeft_eq]

theorem decodeFrom_literal {byte : UInt8} (other : byte ≠ 61) :
    decodeQuotedPrintableFrom maximumBytes output (byte :: rest) =
      if output.length = maximumBytes then .error .integrityFailure
      else decodeQuotedPrintableFrom maximumBytes (output ++ [byte]) rest := by
  conv_lhs => unfold decodeQuotedPrintableFrom
  exact if_pos other

theorem decodeFrom_soft {lineBreak : Bytes} (broken : IsLineBreak lineBreak) :
    decodeQuotedPrintableFrom maximumBytes output (61 :: lineBreak ++ rest) =
      decodeQuotedPrintableFrom maximumBytes output rest := by
  rcases broken with rfl | rfl
  · rfl
  · cases rest with
    | nil => rfl
    | cons third later => rfl

theorem decodeFrom_escape {high low : UInt8} {highValue lowValue : Nat}
    (high_valued : digitValue high = some highValue) (low_valued : digitValue low = some lowValue) :
    decodeQuotedPrintableFrom maximumBytes output (61 :: high :: low :: rest) =
      if output.length = maximumBytes then .error .integrityFailure
      else decodeQuotedPrintableFrom maximumBytes
        (output ++ [(highValue * 16 + lowValue).toUInt8]) rest := by
  have feed : high ≠ 10 := by
    rintro rfl
    cases high_valued
  have return_ : high ≠ 13 := by
    rintro rfl
    cases high_valued
  rw [decodeQuotedPrintableFrom, if_neg (by simp)]
  rw [if_neg (fun both => return_ both.1), if_neg feed]
  rw [hexValue_eq, hexValue_eq, high_valued, low_valued]
  dsimp only
  rw [nibbles_eq (digitValue_lt low_valued)]

theorem decodeFrom_ordinary {byte : UInt8} (other : byte ≠ 61) (room : output.length ≤ maximumBytes)
    {result : Bytes} :
    decodeQuotedPrintableFrom maximumBytes output (byte :: rest) = .ok result ↔
      (output ++ [byte]).length ≤ maximumBytes ∧
        decodeQuotedPrintableFrom maximumBytes (output ++ [byte]) rest = .ok result := by
  rw [decodeFrom_literal other, List.length_append, List.length_singleton]
  split
  next full =>
    constructor
    · intro impossible
      cases impossible
    · intro more
      omega
  next short => exact (and_iff_right (by omega)).symm

theorem decodeFrom_piece {piece : Piece} (plain : piece.Plain) (room : output.length ≤ maximumBytes)
    {result : Bytes} :
    decodeQuotedPrintableFrom maximumBytes output (piece.text ++ rest) = .ok result ↔
      (output ++ piece.bytes).length ≤ maximumBytes ∧
        decodeQuotedPrintableFrom maximumBytes (output ++ piece.bytes) rest = .ok result := by
  cases piece with
  | literal byte => exact decodeFrom_ordinary plain room
  | escape high low => 
    obtain ⟨highValue, high_valued⟩ := Option.isSome_iff_exists.mp plain.1
    obtain ⟨lowValue, low_valued⟩ := Option.isSome_iff_exists.mp plain.2
    simp only [Piece.text, Piece.bytes, high_valued, low_valued, Option.getD_some, List.cons_append, List.nil_append]
    rw [decodeFrom_escape high_valued low_valued, List.length_append, List.length_singleton]
    split
    next full =>
      constructor
      · intro impossible
        cases impossible
      · intro more
        omega
    next short => exact (and_iff_right (by omega)).symm
  | soft padding lineBreak =>
    obtain ⟨rfl, broken⟩ := plain
    simp only [Piece.text, Piece.bytes, List.append_nil]
    exact (Iff.of_eq (congrArg (· = Except.ok result) (decodeFrom_soft broken))).trans (and_iff_right room).symm
  | hard padding lineBreak =>
    obtain ⟨rfl, broken⟩ := plain
    rcases broken with rfl | rfl
    · refine (decodeFrom_ordinary (by decide) room).trans ?_
      constructor
      · rintro ⟨short, done⟩
        have both := (decodeFrom_ordinary (by decide) short).mp done
        rw [List.append_assoc] at both
        exact both
      · rintro ⟨short, done⟩
        have part : (output ++ [13]).length ≤ maximumBytes := by
          simp only [Piece.bytes, List.length_append, List.length_cons] at short ⊢
          omega
        refine ⟨part, (decodeFrom_ordinary (by decide) part).mpr ?_⟩
        rw [List.append_assoc]
        exact ⟨short, done⟩
    · exact decodeFrom_ordinary (by decide) room
  | ending padding =>
    cases plain
    simp only [Piece.text, Piece.bytes, List.append_nil, List.nil_append]
    exact (and_iff_right room).symm

theorem decodeFrom_pieces {pieces : List Piece} (plain : ∀ piece ∈ pieces, piece.Plain)
    (short : (output ++ bytes pieces).length ≤ maximumBytes) :
    decodeQuotedPrintableFrom maximumBytes output (text pieces) = .ok (output ++ bytes pieces) := by
  induction pieces generalizing output with
  | nil => 
    rw [bytes, List.flatMap_nil, List.append_nil]
    rfl
  | cons piece more ih =>
    obtain ⟨first, later⟩ := List.forall_mem_cons.mp plain
    have split : output ++ bytes (piece :: more) = (output ++ piece.bytes) ++ bytes more := by
      rw [bytes, List.flatMap_cons, List.append_assoc]
      rfl
    rw [split] at short ⊢
    have room : (output ++ piece.bytes).length ≤ maximumBytes := by
      rw [List.length_append] at short
      omega
    refine (decodeFrom_piece first ?_).mpr ⟨room, ih later short⟩
    rw [List.length_append] at room
    omega

theorem extend_spells (piece : Piece) (plain : piece.Plain) {result : Bytes}
    (later : ∃ more, QuotedPrintable.Spells rest more ∧ (output ++ piece.bytes) ++ more = result ∧
      result.length ≤ maximumBytes) :
    ∃ more, QuotedPrintable.Spells (piece.text ++ rest) more ∧ output ++ more = result ∧
      result.length ≤ maximumBytes := by
  obtain ⟨more, spells, joined, short⟩ := later
  exact ⟨piece.bytes ++ more, spells.cons plain, by rw [← List.append_assoc, joined], short⟩

theorem spells_of_decodeFrom {input result : Bytes} (room : output.length ≤ maximumBytes)
    (decoded : decodeQuotedPrintableFrom maximumBytes output input = .ok result) :
    ∃ more, QuotedPrintable.Spells input more ∧ output ++ more = result ∧ result.length ≤ maximumBytes := by
  fun_induction decodeQuotedPrintableFrom maximumBytes output input with
  | case1 output =>
    cases decoded
    exact ⟨[], spells_nil, List.append_nil _, room⟩
  | case3 output byte rest other short ih =>
    have longer : (output ++ [byte]).length ≤ maximumBytes := by
      rw [List.length_append, List.length_singleton]
      omega
    exact extend_spells (.literal byte) other (ih longer decoded)
  | case5 output byte equals ih =>
    obtain rfl : byte = 61 := not_not.mp equals
    refine extend_spells (.soft [] [10]) ⟨rfl, .inr rfl⟩ ?_
    rw [Piece.bytes, List.append_nil]
    exact ih room decoded
  | case7 output byte equals second third later feeds ih =>
    obtain rfl : byte = 61 := not_not.mp equals
    obtain ⟨rfl, rfl⟩ := feeds
    refine extend_spells (.soft [] [13, 10]) ⟨rfl, .inl rfl⟩ ?_
    rw [Piece.bytes, List.append_nil]
    exact ih room decoded
  | case8 output byte equals third later _ ih =>
    obtain rfl : byte = 61 := not_not.mp equals
    refine extend_spells (.soft [] [10]) ⟨rfl, .inr rfl⟩ ?_
    rw [Piece.bytes, List.append_nil]
    exact ih room decoded
  | case10 output byte equals second third later _ _ short high low low_valued high_valued ih =>
    obtain rfl : byte = 61 := not_not.mp equals
    rw [hexValue_eq] at low_valued high_valued
    have longer : (output ++ [((high <<< 4) ||| low).toUInt8]).length ≤ maximumBytes := by
      rw [List.length_append, List.length_singleton]
      omega
    have later := ih longer decoded
    refine extend_spells (.escape second third)
      ⟨high_valued ▸ rfl, low_valued ▸ rfl⟩ ?_
    rw [Piece.bytes, high_valued, low_valued]
    rw [nibbles_eq (digitValue_lt low_valued)] at later
    exact later
  | case2 | case4 | case6 | case9 | case11 => cases decoded

/-- The decoder accepts what stands for few enough bytes, and no other input. -/
theorem decodeQuotedPrintable_eq_ok {input decoded : Bytes} :
    decodeQuotedPrintable input maximumBytes = .ok decoded ↔
      QuotedPrintable.Spells input decoded ∧ decoded.length ≤ maximumBytes := by
  constructor
  · intro succeeds
    obtain ⟨more, spells, rfl, short⟩ := spells_of_decodeFrom (Nat.zero_le maximumBytes) succeeds
    exact ⟨spells, short⟩
  · rintro ⟨⟨pieces, plain, rfl, rfl⟩, short⟩
    exact decodeFrom_pieces plain short

end QuotedPrintableDecoder

section Decoders

variable {decode : Bytes → Nat → Except QueryPortError Bytes} {spells : Bytes → Bytes → Prop}

/-- A decoder that accepts what spells few enough bytes fails on what spells nothing or more. -/
theorem fails_iff (accepts : ∀ input bytes maximumBytes, decode input maximumBytes = .ok bytes ↔
      spells input bytes ∧ bytes.length ≤ maximumBytes) (input : Bytes) (maximumBytes : Nat) :
    (∀ bytes, decode input maximumBytes ≠ .ok bytes) ↔
      (∀ bytes, ¬spells input bytes) ∨ ∃ bytes, spells input bytes ∧ maximumBytes < bytes.length := by
  constructor
  · intro fails
    by_cases spelled : ∃ bytes, spells input bytes
    · obtain ⟨bytes, spelled⟩ := spelled
      refine .inr ⟨bytes, spelled, Nat.lt_of_not_le fun short => fails bytes ?_⟩
      exact (accepts input bytes maximumBytes).mpr ⟨spelled, short⟩
    · exact .inl (not_exists.mp spelled)
  · rintro fails other succeeds
    obtain ⟨other_spelled, short⟩ := (accepts input other maximumBytes).mp succeeds
    rcases fails with malformed | ⟨bytes, spelled, long⟩
    · exact malformed other other_spelled
    -- With room for both, the decoder would have to return both.
    · have first := (accepts input bytes bytes.length).mpr ⟨spelled, Nat.le_refl _⟩
      have second := (accepts input other bytes.length).mpr ⟨other_spelled, by omega⟩
      cases first.symm.trans second
      omega

/-- Both decoders return the bytes of every encoding without transport padding, and never
anything but all the bytes of their input; base64 input may mix the two alphabets. They fail
on what is malformed or stands for more bytes than they may return, and only on that. -/
theorem transfer_decoders :
    ((∀ input bytes maximumBytes (alphabet : Base64.Alphabet) padded,
        (input.filter fun byte => !isAsciiWhitespace byte) = Base64.encode alphabet padded bytes ∧
          bytes.length ≤ maximumBytes → decodeBase64 input maximumBytes = .ok bytes) ∧
      (∀ input bytes maximumBytes, decodeBase64 input maximumBytes = .ok bytes ↔
        Base64.Spells isAsciiWhitespace input bytes ∧ bytes.length ≤ maximumBytes) ∧
      ∀ input maximumBytes, (∀ bytes, decodeBase64 input maximumBytes ≠ .ok bytes) ↔
        (∀ bytes, ¬Base64.Spells isAsciiWhitespace input bytes) ∨
          ∃ bytes, Base64.Spells isAsciiWhitespace input bytes ∧ maximumBytes < bytes.length) ∧
    ((∀ input bytes maximumBytes pieces, QuotedPrintable.Encodes input bytes pieces ∧
        (∀ piece ∈ pieces, piece.padding = []) ∧ bytes.length ≤ maximumBytes →
          decodeQuotedPrintable input maximumBytes = .ok bytes) ∧
      (∀ input bytes maximumBytes, decodeQuotedPrintable input maximumBytes = .ok bytes ↔
        QuotedPrintable.Spells input bytes ∧ bytes.length ≤ maximumBytes) ∧
      ∀ input maximumBytes, (∀ bytes, decodeQuotedPrintable input maximumBytes ≠ .ok bytes) ↔
        (∀ bytes, ¬QuotedPrintable.Spells input bytes) ∨
          ∃ bytes, QuotedPrintable.Spells input bytes ∧ maximumBytes < bytes.length) := by
  refine ⟨⟨?_, fun _ _ _ => decodeBase64_eq_ok, fails_iff fun _ _ _ => decodeBase64_eq_ok⟩,
    ?_, fun _ _ _ => decodeQuotedPrintable_eq_ok, fails_iff fun _ _ _ => decodeQuotedPrintable_eq_ok⟩
  · rintro input bytes maximumBytes alphabet padded ⟨encoded, short⟩
    exact decodeBase64_of_spells (Base64.spells_encode encoded) short
  · rintro input bytes maximumBytes pieces ⟨encodes, unpadded, short⟩
    exact decodeQuotedPrintable_eq_ok.mpr ⟨encodes.spells unpadded, short⟩

end Decoders

/-! A space that transport put behind the equals sign of a soft line break, and base64 text
that mixes the alphabets. -/

namespace ChangedEncodings

open QuotedPrintable in
def pieces : List Piece :=
  [.literal 79, .literal 110, .soft [32] [13, 10], .literal 101]

def mixed : Bytes := [43, 47, 45, 95]

/-- The decoder refuses an encoding of three bytes, and accepts what is no encoding in either
alphabet. -/
theorem padded_break_refused :
    QuotedPrintable.Encodes (QuotedPrintable.text pieces) (ascii "One") pieces ∧
      decodeQuotedPrintable (QuotedPrintable.text pieces) 64 = .error .integrityFailure ∧
      decodeBase64 mixed 64 = .ok [251, 255, 191] ∧
      ∀ (alphabet : Base64.Alphabet) (padded : Bool),
        (mixed.filter fun byte => !isAsciiWhitespace byte) ≠
          Base64.encode alphabet padded [251, 255, 191] := by
  refine ⟨⟨List.forall_iff_forall_mem.mp (by decide), by decide, rfl, by decide⟩, by decide, by decide, ?_⟩
  intro alphabet padded
  cases alphabet <;> cases padded <;> decide

end ChangedEncodings

end ProfilePlatform.Imap
