import ProfilePlatform.Foundation.Decimal
import ProfilePlatform.Foundation.Fallible
import ProfilePlatform.Foundation.Fields
import ProfilePlatform.Primitives

/-! The frames between the bridge and the browser host it supervises. -/

set_option autoImplicit false

namespace ProfilePlatform.Bridge

open Foundation

def maxIpcFrameLength : Nat := 1100000
def maxBrowserVisiblePayloadHexLength : Nat := 512 * 1024 * 2
def maxNavigationTargetHexLength : Nat := 2048 * 2
def camouhostIpcVersion : UInt16 := 3

inductive CamouhostErrorKind where
  | protocol | identity | runtime
  deriving DecidableEq, Repr

inductive CamouhostMessage where
  | hello (version : UInt16)
  | helloAck (version : UInt16)
  | launch (sessionId : SessionId)
  | ready (sessionId : SessionId)
  | observeBrowserVisible (sessionId : SessionId)
  | browserVisible (sessionId : SessionId) (payloadHex : String)
  | admitNavigation (sessionId : SessionId) (targetHex : String)
  | navigationAdmitted (sessionId : SessionId)
  | observeClose (sessionId : SessionId)
  | closeObserved (sessionId : SessionId) (controlled : Bool)
  | close (sessionId : SessionId)
  | closed (sessionId : SessionId) (clean : Bool)
  | error (kind : CamouhostErrorKind)
  deriving DecidableEq

inductive CamouhostProtocolError where
  | malformedFrame | unsupportedVersion
  deriving DecidableEq, Repr

section FieldParsers

def CamouhostErrorKind.asStr : CamouhostErrorKind → String
  | .protocol => "protocol"
  | .identity => "identity"
  | .runtime => "runtime"

def CamouhostErrorKind.parse (value : String) : Except CamouhostProtocolError CamouhostErrorKind :=
  match value with
  | "protocol" => .ok .protocol
  | "identity" => .ok .identity
  | "runtime" => .ok .runtime
  | _ => .error .malformedFrame

/-- Pairs of lowercase hexadecimal digits. -/
def validLowerHex (value : String) (allowEmpty : Bool) (maximum : Nat) : Bool :=
  if maximum < (utf8Bytes value).length ∨ ¬(utf8Bytes value).length % 2 = 0 ∨
      (¬allowEmpty = true ∧ (utf8Bytes value).isEmpty = true) then false
  else (utf8Bytes value).all isLowerHex

def parseVersion (value : String) : Except CamouhostProtocolError UInt16 :=
  match Decimal.parse UInt16.size (utf8Bytes value) with
  | some version => .ok (UInt16.ofNat version)
  | none => .error .malformedFrame

def parseSession (value : String) : Except CamouhostProtocolError SessionId :=
  (SessionId.parse value).mapError fun _ => .malformedFrame

def parseBool (value : String) : Except CamouhostProtocolError Bool :=
  match value with
  | "true" => .ok true
  | "false" => .ok false
  | _ => .error .malformedFrame

end FieldParsers

namespace CamouhostMessage

def validateVersion : CamouhostMessage → Except CamouhostProtocolError Unit
  | .hello version | .helloAck version => refuseIf (version ≠ camouhostIpcVersion) .unsupportedVersion
  | _ => .ok ()

/-- The message that the parts of a frame spell. -/
def parseParts (parts : List String) : Except CamouhostProtocolError CamouhostMessage :=
  match parts with
  | ["hello", version] => (parseVersion version).map .hello
  | ["hello_ack", version] => (parseVersion version).map .helloAck
  | ["launch", sessionId] => (parseSession sessionId).map .launch
  | ["ready", sessionId] => (parseSession sessionId).map .ready
  | ["observe_browser_visible", sessionId] => (parseSession sessionId).map .observeBrowserVisible
  | ["browser_visible", sessionId, payloadHex] =>
    if validLowerHex payloadHex false maxBrowserVisiblePayloadHexLength then
      (parseSession sessionId).map (.browserVisible · payloadHex)
    else .error .malformedFrame
  | ["admit_navigation", sessionId, targetHex] =>
    if validLowerHex targetHex true maxNavigationTargetHexLength then
      (parseSession sessionId).map (.admitNavigation · targetHex)
    else .error .malformedFrame
  | ["navigation_admitted", sessionId] => (parseSession sessionId).map .navigationAdmitted
  | ["observe_close", sessionId] => (parseSession sessionId).map .observeClose
  | ["close_observed", sessionId, controlled] => do
    let sessionId ← parseSession sessionId
    return .closeObserved sessionId (← parseBool controlled)
  | ["close", sessionId] => (parseSession sessionId).map .close
  | ["closed", sessionId, clean] => do
    let sessionId ← parseSession sessionId
    return .closed sessionId (← parseBool clean)
  | ["error", kind] => (CamouhostErrorKind.parse kind).map .error
  | _ => .error .malformedFrame

def isLineBreakOrNul (char : Char) : Bool := char == '\n' || char == '\r' || char == '\x00'

def parse (frame : String) : Except CamouhostProtocolError CamouhostMessage := do
  refuseIf (frame.isEmpty = true ∨ maxIpcFrameLength < (utf8Bytes frame).length ∨
    frame.toList.any isLineBreakOrNul = true) .malformedFrame
  parseParts (Fields.split '|' frame)

/-- What a message is written as, before the limit on frames. -/
def frameText : CamouhostMessage → Except CamouhostProtocolError String
  | .hello version => .ok ("hello|" ++ toString version.toNat)
  | .helloAck version => .ok ("hello_ack|" ++ toString version.toNat)
  | .launch sessionId => .ok ("launch|" ++ sessionId.asStr)
  | .ready sessionId => .ok ("ready|" ++ sessionId.asStr)
  | .observeBrowserVisible sessionId => .ok ("observe_browser_visible|" ++ sessionId.asStr)
  | .browserVisible sessionId payloadHex => do
    refuseIf (¬validLowerHex payloadHex false maxBrowserVisiblePayloadHexLength = true)
      .malformedFrame
    return "browser_visible|" ++ sessionId.asStr ++ "|" ++ payloadHex
  | .admitNavigation sessionId targetHex => do
    refuseIf (¬validLowerHex targetHex true maxNavigationTargetHexLength = true) .malformedFrame
    return "admit_navigation|" ++ sessionId.asStr ++ "|" ++ targetHex
  | .navigationAdmitted sessionId => .ok ("navigation_admitted|" ++ sessionId.asStr)
  | .observeClose sessionId => .ok ("observe_close|" ++ sessionId.asStr)
  | .closeObserved sessionId controlled =>
    .ok ("close_observed|" ++ sessionId.asStr ++ "|" ++ toString controlled)
  | .close sessionId => .ok ("close|" ++ sessionId.asStr)
  | .closed sessionId clean => .ok ("closed|" ++ sessionId.asStr ++ "|" ++ toString clean)
  | .error kind => .ok ("error|" ++ kind.asStr)

def toFrame (self : CamouhostMessage) : Except CamouhostProtocolError String := do
  self.validateVersion
  let frame ← self.frameText
  refuseIf (maxIpcFrameLength < (utf8Bytes frame).length) .malformedFrame
  return frame

end CamouhostMessage

/-! A frame is read back as the message it was written for. -/

section FieldParsers

theorem parseSession_eq_ok {value : String} {sessionId : SessionId} :
    parseSession value = .ok sessionId ↔ value = sessionId.asStr := by
  refine mapError_eq_ok.trans ⟨fun parsed => (TypedId.asStr_of_parse parsed).symm, ?_⟩
  rintro rfl
  exact TypedId.parse_asStr sessionId

theorem parseBool_eq_ok {value : String} {flag : Bool} :
    parseBool value = .ok flag ↔ value = toString flag := by
  constructor
  · intro parsed
    unfold parseBool at parsed
    split at parsed <;> cases parsed <;> rfl
  · rintro rfl
    cases flag <;> rfl

theorem CamouhostErrorKind.parse_eq_ok {value : String} {kind : CamouhostErrorKind} :
    CamouhostErrorKind.parse value = .ok kind ↔ value = kind.asStr := by
  constructor
  · intro parsed
    unfold CamouhostErrorKind.parse at parsed
    split at parsed <;> cases parsed <;> rfl
  · rintro rfl
    cases kind <;> rfl

theorem parseVersion_toString (version : UInt16) :
    parseVersion (toString version.toNat) = .ok version := by
  have spelled : utf8Bytes (toString version.toNat) = Decimal.digits version.toNat :=
    utf8_toString _
  rw [parseVersion, spelled, Decimal.parse_digits version.toNat_lt_size]
  exact congrArg Except.ok UInt16.ofNat_toNat

end FieldParsers

section PlainFields

/-- Neither the separator nor a character that no frame may have stands in the text. -/
def Plain (text : String) : Prop :=
  ∀ char ∈ text.toList, char ≠ '|' ∧ CamouhostMessage.isLineBreakOrNul char = false

instance (text : String) : Decidable (Plain text) := List.decidableBAll _ _

theorem plain_of_bytes {text : String} {class_ : UInt8 → Bool}
    (excluded : [124, 10, 13, 0].any class_ = false)
    (bytes : ∀ byte ∈ utf8Bytes text, class_ byte = true) : Plain text := by
  intro char member
  have absent : ∀ other : Char, other.toNat < 128 →
      UInt8.ofNat other.toNat ∈ [(124 : UInt8), 10, 13, 0] → char ≠ other := by
    rintro other ascii listed rfl
    have accepted := List.any_eq_true.mpr ⟨_, listed, bytes _ (byte_mem_of_char ascii member)⟩
    rw [excluded] at accepted
    cases accepted
  refine ⟨absent '|' (by decide) (by decide), ?_⟩
  simp [CamouhostMessage.isLineBreakOrNul, absent '\n' (by decide) (by decide),
    absent '\r' (by decide) (by decide), absent '\x00' (by decide) (by decide)]

theorem plain_asStr (sessionId : SessionId) : Plain sessionId.asStr := by
  have accepted := sessionId.intoOpaque.accepted
  simp only [OpaqueId.accepts, Bool.and_eq_true, List.all_eq_true] at accepted
  exact plain_of_bytes (by decide) accepted.2

theorem plain_of_validLowerHex {value : String} {allowEmpty : Bool} {maximum : Nat}
    (valid : validLowerHex value allowEmpty maximum = true) : Plain value := by
  unfold validLowerHex at valid
  split at valid
  · cases valid
  · exact plain_of_bytes (by decide) (List.all_eq_true.mp valid)

theorem plain_version (version : UInt16) : Plain (toString version.toNat) := by
  have excluded : [124, 10, 13, 0].any Decimal.isDigit = false := by decide
  refine plain_of_bytes excluded fun byte member => ?_
  rw [utf8Bytes, utf8_toString] at member
  exact Decimal.isDigit_of_mem_digits member

theorem plain_bool (flag : Bool) : Plain (toString flag) := by
  cases flag <;> decide

theorem CamouhostErrorKind.plain_asStr (kind : CamouhostErrorKind) : Plain kind.asStr := by
  cases kind <;> decide

end PlainFields

namespace CamouhostMessage

/-- The parts of the frame of a message. -/
def parts : CamouhostMessage → List String
  | .hello version => ["hello", toString version.toNat]
  | .helloAck version => ["hello_ack", toString version.toNat]
  | .launch sessionId => ["launch", sessionId.asStr]
  | .ready sessionId => ["ready", sessionId.asStr]
  | .observeBrowserVisible sessionId => ["observe_browser_visible", sessionId.asStr]
  | .browserVisible sessionId payloadHex => ["browser_visible", sessionId.asStr, payloadHex]
  | .admitNavigation sessionId targetHex => ["admit_navigation", sessionId.asStr, targetHex]
  | .navigationAdmitted sessionId => ["navigation_admitted", sessionId.asStr]
  | .observeClose sessionId => ["observe_close", sessionId.asStr]
  | .closeObserved sessionId controlled => ["close_observed", sessionId.asStr, toString controlled]
  | .close sessionId => ["close", sessionId.asStr]
  | .closed sessionId clean => ["closed", sessionId.asStr, toString clean]
  | .error kind => ["error", kind.asStr]

/-- What a message carries in hexadecimal is valid. -/
def Sound : CamouhostMessage → Prop
  | .browserVisible _ payloadHex =>
    validLowerHex payloadHex false maxBrowserVisiblePayloadHexLength = true
  | .admitNavigation _ targetHex => validLowerHex targetHex true maxNavigationTargetHexLength = true
  | _ => True

theorem frameText_eq_ok {message : CamouhostMessage} {frame : String} :
    message.frameText = .ok frame ↔ message.Sound ∧ frame = Fields.join '|' message.parts := by
  have text : message.Sound → message.frameText = .ok (Fields.join '|' message.parts) := by
    intro sound
    cases message with
    | browserVisible sessionId payloadHex =>
      unfold Sound at sound
      refine bind_eq_ok.mpr ⟨(), refuseIf_passes (not_not_intro sound), congrArg Except.ok ?_⟩
      simp [parts, Fields.join, ← String.toList_inj]
    | admitNavigation sessionId targetHex =>
      unfold Sound at sound
      refine bind_eq_ok.mpr ⟨(), refuseIf_passes (not_not_intro sound), congrArg Except.ok ?_⟩
      simp [parts, Fields.join, ← String.toList_inj]
    | _ => simp [frameText, parts, Fields.join, ← String.toList_inj]
  constructor
  · intro written
    have sound : message.Sound := by
      cases message with
      | browserVisible | admitNavigation =>
        obtain ⟨_, valid, -⟩ := bind_eq_ok.mp written
        have valid := Decidable.not_not.mp (refuseIf_eq_ok.mp valid)
        exact valid
      | _ => trivial
    rw [text sound] at written
    exact ⟨sound, (Except.ok.inj written).symm⟩
  · rintro ⟨sound, rfl⟩
    exact text sound

theorem toFrame_eq_ok {message : CamouhostMessage} {frame : String} :
    message.toFrame = .ok frame ↔ message.validateVersion = .ok () ∧ message.Sound ∧
      frame = Fields.join '|' message.parts ∧ (utf8Bytes frame).length ≤ maxIpcFrameLength := by
  constructor
  · intro written
    obtain ⟨⟨⟩, supported, written⟩ := bind_eq_ok.mp written
    obtain ⟨text, spelled, written⟩ := bind_eq_ok.mp written
    obtain ⟨⟨⟩, short, same⟩ := bind_eq_ok.mp written
    cases same
    obtain ⟨sound, joined⟩ := frameText_eq_ok.mp spelled
    exact ⟨supported, sound, joined, Nat.le_of_not_lt (refuseIf_eq_ok.mp short)⟩
  · rintro ⟨supported, sound, joined, short⟩
    refine bind_eq_ok.mpr ⟨(), supported, bind_eq_ok.mpr ⟨frame, ?_, bind_eq_ok.mpr ⟨(), ?_, rfl⟩⟩⟩
    · exact frameText_eq_ok.mpr ⟨sound, joined⟩
    · exact refuseIf_passes (Nat.not_lt_of_le short)

theorem plain_parts {message : CamouhostMessage} (sound : message.Sound) :
    ∀ part ∈ message.parts, Plain part := by
  have pair : ∀ {tag field : String}, Plain tag → Plain field → ∀ part ∈ [tag, field], Plain part :=
    fun first second => by simp [first, second]
  have triple : ∀ {tag field other : String}, Plain tag → Plain field → Plain other →
      ∀ part ∈ [tag, field, other], Plain part := fun first second third => by
    simp [first, second, third]
  cases message with
  | hello version | helloAck version => exact pair (by decide) (plain_version version)
  | browserVisible sessionId payloadHex | admitNavigation sessionId payloadHex =>
    exact triple (by decide) (plain_asStr sessionId) (plain_of_validLowerHex sound)
  | closeObserved sessionId flag | closed sessionId flag =>
    exact triple (by decide) (plain_asStr sessionId) (plain_bool flag)
  | error kind => exact pair (by decide) kind.plain_asStr
  | launch sessionId | ready sessionId | observeBrowserVisible sessionId
  | navigationAdmitted sessionId | observeClose sessionId | close sessionId =>
    exact pair (by decide) (plain_asStr sessionId)

theorem two_le_length_parts (message : CamouhostMessage) : 2 ≤ message.parts.length := by
  cases message <;> simp [parts]

theorem parseParts_parts {message : CamouhostMessage} (sound : message.Sound) :
    parseParts message.parts = .ok message := by
  have session : ∀ sessionId : SessionId, parseSession sessionId.asStr = .ok sessionId :=
    fun _ => parseSession_eq_ok.mpr rfl
  have flag : ∀ flag : Bool, parseBool (toString flag) = .ok flag := fun _ => parseBool_eq_ok.mpr rfl
  cases message with
  | hello version | helloAck version =>
    exact map_eq_ok.mpr ⟨version, parseVersion_toString version, rfl⟩
  | browserVisible sessionId payloadHex | admitNavigation sessionId payloadHex =>
    exact (if_pos sound).trans (map_eq_ok.mpr ⟨sessionId, session sessionId, rfl⟩)
  | closeObserved sessionId controlled | closed sessionId controlled =>
    exact bind_eq_ok.mpr ⟨sessionId, session sessionId,
      bind_eq_ok.mpr ⟨controlled, flag controlled, rfl⟩⟩
  | error kind => exact map_eq_ok.mpr ⟨kind, CamouhostErrorKind.parse_eq_ok.mpr rfl, rfl⟩
  | launch sessionId | ready sessionId | observeBrowserVisible sessionId
  | navigationAdmitted sessionId | observeClose sessionId | close sessionId =>
    exact map_eq_ok.mpr ⟨sessionId, session sessionId, rfl⟩

theorem parse_eq_ok {frame : String} {message : CamouhostMessage} :
    parse frame = .ok message ↔ (utf8Bytes frame).length ≤ maxIpcFrameLength ∧
      (∀ char ∈ frame.toList, isLineBreakOrNul char = false) ∧
      frame ≠ "" ∧ parseParts (Fields.split '|' frame) = .ok message := by
  refine bind_eq_ok.trans ?_
  simp only [refuseIf_eq_ok, not_or, Nat.not_lt, List.any_eq_true, not_exists, not_and,
    Bool.not_eq_true, String.isEmpty_iff]
  constructor
  · rintro ⟨-, ⟨filled, short, plain⟩, parsed⟩
    exact ⟨short, plain, by simpa using filled, parsed⟩
  · rintro ⟨short, plain, filled, parsed⟩
    exact ⟨(), ⟨by simpa using filled, short, plain⟩, parsed⟩

theorem parse_join {fields : List String} (several : 2 ≤ fields.length)
    (plain : ∀ field ∈ fields, Plain field)
    (short : (utf8Bytes (Fields.join '|' fields)).length ≤ maxIpcFrameLength) :
    (∀ char ∈ (Fields.join '|' fields).toList, isLineBreakOrNul char = false) ∧
      ∀ message, parse (Fields.join '|' fields) = .ok message ↔
        parseParts fields = .ok message := by
  have unbroken : ∀ char ∈ (Fields.join '|' fields).toList, isLineBreakOrNul char = false := by
    intro char member
    rcases Fields.mem_join member with rfl | ⟨field, inside, member⟩
    · rfl
    · exact (plain field inside char member).2
  have split : Fields.split '|' (Fields.join '|' fields) = fields := by
    refine Fields.split_join (by rintro rfl; simp at several) fun field inside member => ?_
    exact (plain field inside _ member).1 rfl
  have filled : Fields.join '|' fields ≠ "" := by
    -- the empty text has one part
    intro empty
    rw [empty] at split
    rw [← split] at several
    exact absurd several (by decide)
  refine ⟨unbroken, fun message => parse_eq_ok.trans ?_⟩
  rw [split]
  exact ⟨fun read => read.2.2.2, fun parsed => ⟨short, unbroken, filled, parsed⟩⟩

end CamouhostMessage

open CamouhostMessage in
/-- A frame that is written has no line break and no NUL in it, and is read as its message. -/
theorem parse_toFrame (message : CamouhostMessage) (frame : String)
    (written : message.toFrame = .ok frame) :
    '\n' ∉ frame.toList ∧ '\r' ∉ frame.toList ∧ '\x00' ∉ frame.toList ∧
      parse frame = .ok message := by
  obtain ⟨-, sound, rfl, short⟩ := toFrame_eq_ok.mp written
  obtain ⟨unbroken, reads⟩ := parse_join message.two_le_length_parts (plain_parts sound) short
  refine ⟨fun member => ?_, fun member => ?_, fun member => ?_,
    (reads message).mpr (parseParts_parts sound)⟩
  · cases unbroken _ member
  · cases unbroken _ member
  · cases unbroken _ member

open CamouhostMessage in
theorem parse_toFrame_payload : ∃ message : CamouhostMessage,
    message.toFrame = .ok "browser_visible|session_01JFRAMES|7b7d0a" ∧
      parse "browser_visible|session_01JFRAMES|7b7d0a" = .ok message := by
  have written : toFrame (.browserVisible ⟨⟨"session_01JFRAMES", by decide⟩⟩ "7b7d0a") =
      .ok "browser_visible|session_01JFRAMES|7b7d0a" := by decide
  exact ⟨_, written, (parse_toFrame _ _ written).2.2.2⟩

end ProfilePlatform.Bridge
