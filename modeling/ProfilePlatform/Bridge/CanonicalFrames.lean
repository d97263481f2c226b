import ProfilePlatform.Bridge.CamouhostMessage

/-! Every message has one frame, but for the two greetings and their version number. -/

set_option autoImplicit false

namespace ProfilePlatform.Bridge

open Foundation

section Versions

/-- A version the way its parser reads it. -/
def versionText (sign : String) (zeros : Nat) (version : UInt16) : String :=
  sign ++ (String.ofList (List.replicate zeros '0') ++ toString version.toNat)

theorem utf8_zeros (zeros : Nat) :
    utf8Bytes (String.ofList (List.replicate zeros '0')) = List.replicate zeros 48 := by
  rw [utf8Bytes, utf8_ofList fun char member => by rw [List.eq_of_mem_replicate member]; decide,
    List.map_replicate]
  rfl

theorem utf8_versionText (sign : String) (zeros : Nat) (version : UInt16) :
    utf8Bytes (versionText sign zeros version) =
      utf8Bytes sign ++ (List.replicate zeros 48 ++ Decimal.digits version.toNat) := by
  simp only [versionText, utf8Bytes, utf8_append, utf8_toString]
  rw [← utf8_zeros, utf8Bytes]

theorem parseVersion_eq_ok {value : String} {version : UInt16} :
    parseVersion value = .ok version ↔ ∃ sign zeros, (sign = "" ∨ sign = "+") ∧
      value = versionText sign zeros version := by
  have plus : utf8Bytes "+" = [43] := by decide
  have empty : utf8Bytes "" = [] := by decide
  have read : parseVersion value = .ok version ↔
      Decimal.parse UInt16.size (utf8Bytes value) = some version.toNat := by
    unfold parseVersion
    cases parsed : Decimal.parse UInt16.size (utf8Bytes value) with
    | none => simp
    | some number =>
      have within := Decimal.parse_lt parsed
      constructor
      · rintro ⟨⟩
        exact congrArg some (UInt16.toNat_ofNat_of_lt' within).symm
      · rintro ⟨⟩
        exact congrArg Except.ok UInt16.ofNat_toNat
  rw [read, Decimal.parse_eq_some]
  constructor
  · rintro ⟨-, sign, zeros, rfl | rfl, spelled⟩
    · exact ⟨"", zeros, .inl rfl, eq_of_utf8 (by rw [← utf8Bytes, ← utf8Bytes, spelled,
        utf8_versionText, empty])⟩
    · exact ⟨"+", zeros, .inr rfl, eq_of_utf8 (by rw [← utf8Bytes, ← utf8Bytes, spelled,
        utf8_versionText, plus])⟩
  · rintro ⟨sign, zeros, allowed, rfl⟩
    refine ⟨version.toNat_lt_size, utf8Bytes sign, zeros, ?_, utf8_versionText sign zeros version⟩
    exact allowed.imp (fun same => by rw [same, empty]) fun same => by rw [same, plus]

theorem versionText_eq_toString {sign : String} {zeros : Nat} {version : UInt16}
    (same : versionText sign zeros version = toString version.toNat) : sign = "" ∧ zeros = 0 := by
  have lengths := congrArg (fun text => text.toList.length) same
  simp only [versionText, String.toList_append, String.toList_ofList, List.length_append,
    List.length_replicate] at lengths
  exact ⟨String.toList_eq_nil_iff.mp (List.eq_nil_of_length_eq_zero (by omega)), by omega⟩

end Versions

namespace CamouhostMessage

/-- What the parts of a frame must be for it to be read as the message. -/
def Spelled : CamouhostMessage → List String → Prop
  | .hello version, parts => ∃ value, parseVersion value = .ok version ∧ parts = ["hello", value]
  | .helloAck version, parts =>
    ∃ value, parseVersion value = .ok version ∧ parts = ["hello_ack", value]
  | message, parts => parts = message.parts

theorem spelled_of_parseParts {parts : List String} {message : CamouhostMessage}
    (parsed : parseParts parts = .ok message) : message.Sound ∧ message.Spelled parts := by
  have session : ∀ (fields : String → List String) {value : String}
      {make : SessionId → CamouhostMessage}, (parseSession value).map make = .ok message →
      (∀ sessionId, (make sessionId).Sound ∧ (make sessionId).Spelled (fields sessionId.asStr)) →
      message.Sound ∧ message.Spelled (fields value) := by
    intro fields value make read spelled
    obtain ⟨sessionId, accepted, rfl⟩ := map_eq_ok.mp read
    rw [parseSession_eq_ok.mp accepted]
    exact spelled sessionId
  have flagged : ∀ (fields : String → String → List String) {value flag : String}
      {make : SessionId → Bool → CamouhostMessage},
      (do let sessionId ← parseSession value
          return make sessionId (← parseBool flag)) = Except.ok message →
      (∀ sessionId given, (make sessionId given).Sound ∧
        (make sessionId given).Spelled (fields sessionId.asStr (toString given))) →
      message.Sound ∧ message.Spelled (fields value flag) := by
    intro fields value flag make read spelled
    obtain ⟨sessionId, accepted, read⟩ := bind_eq_ok.mp read
    obtain ⟨given, chosen, same⟩ := bind_eq_ok.mp read
    cases same
    rw [parseSession_eq_ok.mp accepted, parseBool_eq_ok.mp chosen]
    exact spelled sessionId given
  unfold parseParts at parsed
  split at parsed
  next value =>
    obtain ⟨version, read, rfl⟩ := map_eq_ok.mp parsed
    exact ⟨trivial, value, read, rfl⟩
  next value =>
    obtain ⟨version, read, rfl⟩ := map_eq_ok.mp parsed
    exact ⟨trivial, value, read, rfl⟩
  next => exact session (["launch", ·]) parsed fun _ => ⟨trivial, rfl⟩
  next => exact session (["ready", ·]) parsed fun _ => ⟨trivial, rfl⟩
  next => exact session (["observe_browser_visible", ·]) parsed fun _ => ⟨trivial, rfl⟩
  next _ hex =>
    split at parsed
    next valid => exact session (["browser_visible", ·, hex]) parsed fun _ => ⟨valid, rfl⟩
    next => cases parsed
  next _ hex =>
    split at parsed
    next valid => exact session (["admit_navigation", ·, hex]) parsed fun _ => ⟨valid, rfl⟩
    next => cases parsed
  next => exact session (["navigation_admitted", ·]) parsed fun _ => ⟨trivial, rfl⟩
  next => exact session (["observe_close", ·]) parsed fun _ => ⟨trivial, rfl⟩
  next => exact flagged (["close_observed", ·, ·]) parsed fun _ _ => ⟨trivial, rfl⟩
  next => exact session (["close", ·]) parsed fun _ => ⟨trivial, rfl⟩
  next => exact flagged (["closed", ·, ·]) parsed fun _ _ => ⟨trivial, rfl⟩
  next value =>
    obtain ⟨kind, read, rfl⟩ := map_eq_ok.mp parsed
    rw [CamouhostErrorKind.parse_eq_ok.mp read]
    exact ⟨trivial, rfl⟩
  next => cases parsed

/-- The message is a greeting of the supported version. -/
def Greeting (tag : String) (message : CamouhostMessage) : Prop :=
  tag = "hello" ∧ message = .hello camouhostIpcVersion ∨
    tag = "hello_ack" ∧ message = .helloAck camouhostIpcVersion

/-- The greetings are the only messages that their parts do not have to agree with. -/
theorem Spelled.cases {message : CamouhostMessage} {fields : List String}
    (spelled : message.Spelled fields) (valid : message.validateVersion = .ok ()) :
    fields = message.parts ∨ ∃ tag sign zeros, Greeting tag message ∧ (sign = "" ∨ sign = "+") ∧
      fields = [tag, versionText sign zeros camouhostIpcVersion] := by
  cases message with
  | hello version | helloAck version =>
    cases Decidable.not_not.mp (refuseIf_eq_ok.mp valid)
    obtain ⟨value, read, rfl⟩ := spelled
    obtain ⟨sign, zeros, allowed, rfl⟩ := parseVersion_eq_ok.mp read
    exact .inr ⟨_, sign, zeros, by simp [Greeting], allowed, rfl⟩
  | _ => exact .inl spelled

theorem Greeting.parts_eq {tag : String} {message : CamouhostMessage}
    (greeting : Greeting tag message) :
    message.parts = [tag, toString camouhostIpcVersion.toNat] := by
  rcases greeting with ⟨rfl, rfl⟩ | ⟨rfl, rfl⟩ <;> rfl

theorem Greeting.validateVersion {tag : String} {message : CamouhostMessage}
    (greeting : Greeting tag message) : message.validateVersion = .ok () := by
  rcases greeting with ⟨-, rfl⟩ | ⟨-, rfl⟩ <;> rfl

def isVersionByte (byte : UInt8) : Bool := Decimal.isDigit byte || byte == 43

theorem plain_versionText {sign : String} {zeros : Nat} {version : UInt16}
    (allowed : sign = "" ∨ sign = "+") : Plain (versionText sign zeros version) := by
  have excluded : [124, 10, 13, 0].any isVersionByte = false := by decide
  refine plain_of_bytes excluded fun byte member => ?_
  rw [utf8_versionText, List.mem_append, List.mem_append] at member
  rcases member with signed | zero | digit
  · rcases allowed with rfl | rfl
    · exact absurd (show byte ∈ [] from signed) List.not_mem_nil
    · rw [List.mem_singleton.mp (show byte ∈ [43] from signed)]
      rfl
  · rw [List.eq_of_mem_replicate zero]
    rfl
  · rw [isVersionByte, Decimal.isDigit_of_mem_digits digit]
    rfl

theorem Greeting.parse {tag sign : String} {zeros : Nat} {message : CamouhostMessage}
    (greeting : Greeting tag message) (allowed : sign = "" ∨ sign = "+")
    (short : (utf8Bytes (Fields.join '|' [tag, versionText sign zeros camouhostIpcVersion])).length ≤
      maxIpcFrameLength) :
    CamouhostMessage.parse (Fields.join '|' [tag, versionText sign zeros camouhostIpcVersion]) =
      .ok message := by
  have plain : ∀ field ∈ [tag, versionText sign zeros camouhostIpcVersion], Plain field := by
    have named : Plain tag := by rcases greeting with ⟨rfl, -⟩ | ⟨rfl, -⟩ <;> decide
    simp [named, plain_versionText allowed]
  have read : parseVersion (versionText sign zeros camouhostIpcVersion) = .ok camouhostIpcVersion :=
    parseVersion_eq_ok.mpr ⟨sign, zeros, allowed, rfl⟩
  refine ((parse_join (by simp) plain short).2 message).mpr ?_
  rcases greeting with ⟨rfl, rfl⟩ | ⟨rfl, rfl⟩
  · exact map_eq_ok.mpr ⟨_, read, rfl⟩
  · exact map_eq_ok.mpr ⟨_, read, rfl⟩

end CamouhostMessage

open CamouhostMessage

/-- The frame is a greeting of the supported version, with a plus sign or zeros before its number. -/
def Padded (frame : String) : Prop :=
  (utf8Bytes frame).length ≤ maxIpcFrameLength ∧
    ∃ tag sign zeros, (tag = "hello" ∨ tag = "hello_ack") ∧
      (sign = "+" ∨ sign = "" ∧ 0 < zeros) ∧
      frame = Fields.join '|' [tag, versionText sign zeros camouhostIpcVersion]

/-- The frame is the one its message is written as, if it is read as a message at all. -/
def Canonical (frame : String) : Prop :=
  ∀ message, parse frame = .ok message → message.validateVersion = .ok () →
    message.toFrame = .ok frame

theorem canonical_of_not_padded {frame : String} (plain : ¬Padded frame) : Canonical frame := by
  intro message read valid
  obtain ⟨short, -, -, parsed⟩ := parse_eq_ok.mp read
  obtain ⟨sound, spelled⟩ := spelled_of_parseParts parsed
  have joined : Fields.split '|' frame = message.parts → message.toFrame = .ok frame := fun same =>
    toFrame_eq_ok.mpr ⟨valid, sound, Fields.eq_join_of_split same, short⟩
  rcases spelled.cases valid with same | ⟨tag, sign, zeros, greeting, allowed, same⟩
  · exact joined same
  · have named : tag = "hello" ∨ tag = "hello_ack" := greeting.imp And.left And.left
    have spelling := Fields.eq_join_of_split same
    rcases allowed with rfl | rfl
    · rcases Nat.eq_zero_or_pos zeros with rfl | some_
      · exact joined (same.trans greeting.parts_eq.symm)
      · exact absurd ⟨short, tag, "", zeros, named, .inr ⟨rfl, some_⟩, spelling⟩ plain
    · exact absurd ⟨short, tag, "+", zeros, named, .inl rfl, spelling⟩ plain

theorem not_canonical_of_padded {frame : String} (padded : Padded frame) : ¬Canonical frame := by
  intro canonical
  obtain ⟨short, tag, sign, zeros, named, extra, rfl⟩ := padded
  obtain ⟨message, greeting⟩ : ∃ message, Greeting tag message := by
    rcases named with rfl | rfl
    · exact ⟨_, .inl ⟨rfl, rfl⟩⟩
    · exact ⟨_, .inr ⟨rfl, rfl⟩⟩
  have allowed : sign = "" ∨ sign = "+" := extra.symm.imp And.left id
  have written := canonical message (greeting.parse allowed short) greeting.validateVersion
  obtain ⟨-, -, same, -⟩ := toFrame_eq_ok.mp written
  -- the frame that is written has the plain number
  rw [greeting.parts_eq] at same
  have version : versionText sign zeros camouhostIpcVersion = toString camouhostIpcVersion.toNat := by
    rw [← String.toList_inj] at same ⊢
    simpa [Fields.join] using same
  obtain ⟨rfl, rfl⟩ := versionText_eq_toString version
  rcases extra with plus | ⟨-, zero⟩
  · exact absurd plus (by decide)
  · exact absurd zero (by decide)

/-- The frames that are not the one their message is written as are the padded greetings, and the
greetings are the only messages with two frames. -/
theorem canonical_iff (frame : String) (message : CamouhostMessage) :
    ((∀ message, parse frame = .ok message → message.validateVersion = .ok () →
      message.toFrame = .ok frame) ↔ ¬Padded frame) ∧
    (message.validateVersion = .ok () →
      ((∀ frame other, parse frame = .ok message → parse other = .ok message → frame = other) ↔
        ∀ version, message ≠ .hello version ∧ message ≠ .helloAck version)) := by
  refine ⟨⟨fun canonical padded => not_canonical_of_padded padded canonical,
    canonical_of_not_padded⟩, fun valid => ⟨fun unique version => ?_, fun other => ?_⟩⟩
  · have twice : ∀ {tag}, ¬Greeting tag message := by
      intro tag greeting
      have short : ∀ tag ∈ ["hello", "hello_ack"], ∀ sign ∈ ["", "+"],
          (utf8Bytes (Fields.join '|' [tag, versionText sign 0 camouhostIpcVersion])).length ≤
            maxIpcFrameLength := by decide
      have named : tag ∈ ["hello", "hello_ack"] := by simpa using greeting.imp And.left And.left
      have same := unique _ _ (greeting.parse (.inl rfl) (short tag named "" (by decide)))
        (greeting.parse (.inr rfl) (short tag named "+" (by decide)))
      rw [← String.toList_inj] at same
      have lengths := congrArg List.length same
      simp [Fields.join, versionText] at lengths
    constructor
    · rintro rfl
      cases Decidable.not_not.mp (refuseIf_eq_ok.mp valid)
      exact twice (.inl ⟨rfl, rfl⟩)
    · rintro rfl
      cases Decidable.not_not.mp (refuseIf_eq_ok.mp valid)
      exact twice (.inr ⟨rfl, rfl⟩)
  · have only : ∀ frame, parse frame = .ok message → frame = Fields.join '|' message.parts := by
      intro frame read
      obtain ⟨-, spelled⟩ := spelled_of_parseParts (parse_eq_ok.mp read).2.2.2
      rcases spelled.cases valid with same | ⟨_, _, _, ⟨-, rfl⟩ | ⟨-, rfl⟩, -⟩
      · exact Fields.eq_join_of_split same
      · exact absurd rfl (other _).1
      · exact absurd rfl (other _).2
    intro frame again read readAgain
    rw [only frame read, only again readAgain]

/-- A plus sign before the version is read and not written. -/
theorem plus_sign_accepted :
    ¬∀ frame message, parse frame = .ok message → message.validateVersion = .ok () →
      message.toFrame = .ok frame := by
  intro canonical
  have read : parse "hello|+3" = .ok (.hello 3) := by decide
  exact absurd (canonical _ _ read (by decide)) (by decide)

end ProfilePlatform.Bridge
