import ProfilePlatform.BrowserExecution.Identity
import ProfilePlatform.Foundation.Fallible
import ProfilePlatform.Foundation.Integers
import ProfilePlatform.Foundation.Records

/-! The record of a browser identity that is kept with a generation: lines of `key=value`. -/

set_option autoImplicit false

namespace ProfilePlatform.BrowserExecution

open Foundation

def recordSchema : String := "profile-stable-browser-identity-v1"
def camoufoxRecordSchema : String := "camoufox-native-identity-v1"
def recordFieldCount : Nat := 39
def noneMarker : String := "none"

/-- The lines of a record, in the order of the fields. -/
def recordText (fields : List (String × String)) : String :=
  Records.unlines (fields.map fun field => field.1 ++ "=" ++ field.2)

section Writing

def OriginDeterminismMode.asRecord : OriginDeterminismMode → String
  | .profileGenerationSeed => "profile_generation_seed"
  | .originHmac => "origin_hmac"

variable (self : BrowserIdentityManifest)

/-- The fields that both schemas have behind their name. -/
def commonFields : List (String × String) :=
  [("compatibility_version", toString self.compatibilityVersion.toNat),
    ("fingerprint_policy_version", self.fingerprintPolicyVersion),
    ("runtime_version", self.runtimeVersion),
    ("runtime_inventory_sha256", self.runtimeInventorySha256),
    ("fingerprint_source", self.fingerprintSource),
    ("fingerprint_config_sha256", self.fingerprintConfigSha256)]

def nativeFields : List (String × String) :=
  ("schema", camoufoxRecordSchema) :: commonFields self

def stableFields (stable : ProfileStableIdentity) : List (String × String) :=
  let browser := stable.browserOs
  let hardware := stable.hardware
  let display := stable.display
  let graphics := stable.graphics
  let fonts := stable.fonts
  let origin := stable.originDeterministic
  let locale := stable.locale
  ("schema", recordSchema) :: commonFields self ++
  [("profile_schema_version", toString stable.schemaVersion.toNat),
    ("browser_user_agent", browser.userAgent),
    ("browser_major", toString browser.browserMajor.toNat),
    ("browser_platform", browser.platform),
    ("browser_oscpu", browser.oscpu),
    ("hardware_concurrency", toString hardware.hardwareConcurrency.toNat),
    ("device_memory_gib", (hardware.deviceMemoryGib.map fun value =>
      toString value.toNat).getD noneMarker),
    ("max_touch_points", toString hardware.maxTouchPoints.toNat),
    ("display_width", toString display.width.toNat),
    ("display_height", toString display.height.toNat),
    ("display_avail_width", toString display.availWidth.toNat),
    ("display_avail_height", toString display.availHeight.toNat),
    ("display_avail_left", toString display.availLeft.toInt),
    ("display_avail_top", toString display.availTop.toInt),
    ("display_color_depth", toString display.colorDepth.toNat),
    ("display_pixel_depth", toString display.pixelDepth.toNat),
    ("display_dpr_milli", toString display.devicePixelRatioMilli.toNat),
    ("webgl_vendor", graphics.webglVendor),
    ("webgl_renderer", graphics.webglRenderer),
    ("webgl_extensions_sha256", graphics.webglExtensionsSha256),
    ("webgl_parameters_sha256", graphics.webglParametersSha256),
    ("webgl2_parameters_sha256", graphics.webgl2ParametersSha256),
    ("shader_precision_sha256", graphics.shaderPrecisionSha256),
    ("context_attributes_sha256", graphics.contextAttributesSha256),
    ("font_set_sha256", fonts.fontSetSha256),
    ("spacing_seed_sha256", fonts.spacingSeedSha256),
    ("origin_mode", origin.mode.asRecord),
    ("canvas_seed_sha256", origin.canvasSeedSha256),
    ("audio_seed_sha256", origin.audioSeedSha256),
    ("language", locale.language),
    ("languages_sha256", locale.languagesSha256),
    ("speech_voices_sha256", locale.speechVoicesSha256.getD noneMarker)]

def BrowserIdentityManifest.toCanonicalRecord : String :=
  match self.profileStableIdentity with
  | none => recordText (nativeFields self)
  | some stable => recordText (stableFields self stable)

end Writing

section Reading

/-- The values of a record by their keys. -/
abbrev RecordValues := List (String × String)

def insertLine (values : RecordValues) (line : String) :
    Except BrowserExecutionError RecordValues := do
  let entry ← okOr (Records.splitOnce '=' line) .invalidIdentityToken
  refuseIf (entry.1 = "" ∨ entry.2 = "" ∨ (values.lookup entry.1).isSome = true)
    .invalidIdentityToken
  return values ++ [entry]

def parseRecord (record : String) : Except BrowserExecutionError RecordValues := do
  refuseIf (record.toList.getLast? ≠ some '\n' ∨ '\r' ∈ record.toList ∨ '\x00' ∈ record.toList)
    .invalidIdentityToken
  (Records.lines record).foldlM insertLine []

def required (values : RecordValues) (key : String) : Except BrowserExecutionError String :=
  okOr (values.lookup key) .invalidIdentityToken

def u16FromStr (text : String) : Option UInt16 :=
  (Decimal.parse UInt16.size (utf8Bytes text)).map UInt16.ofNat

def u32FromStr (text : String) : Option UInt32 :=
  (Decimal.parse UInt32.size (utf8Bytes text)).map UInt32.ofNat

def i32FromStr (text : String) : Option Int32 :=
  (Decimal.parseSigned 2147483648 (utf8Bytes text)).map Int32.ofInt

def parseNumber {T : Type} (fromStr : String → Option T) (values : RecordValues) (key : String) :
    Except BrowserExecutionError T := do
  okOr (fromStr (← required values key)) .invalidIdentityToken

def parseDeviceMemory (values : RecordValues) : Except BrowserExecutionError (Option UInt16) := do
  let value ← required values "device_memory_gib"
  if value = noneMarker then return none
  else return some (← okOr (u16FromStr value) .invalidIdentityToken)

def parseOriginMode (values : RecordValues) :
    Except BrowserExecutionError OriginDeterminismMode := do
  match ← required values "origin_mode" with
  | "profile_generation_seed" => .ok .profileGenerationSeed
  | "origin_hmac" => .ok .originHmac
  | _ => .error .invalidIdentityToken

def parseSpeech (values : RecordValues) : Except BrowserExecutionError (Option String) := do
  let value ← required values "speech_voices_sha256"
  return if value = noneMarker then none else some value

/-- What is parsed before any part of the identity is made. -/
structure ParsedValues where
  compatibilityVersion : UInt32
  profileSchemaVersion : UInt32
  browserMajor : UInt16
  hardwareConcurrency : UInt16
  deviceMemoryGib : Option UInt16
  maxTouchPoints : UInt16
  displayWidth : UInt32
  displayHeight : UInt32
  displayAvailWidth : UInt32
  displayAvailHeight : UInt32
  displayAvailLeft : Int32
  displayAvailTop : Int32
  displayColorDepth : UInt16
  displayPixelDepth : UInt16
  displayDprMilli : UInt32
  originMode : OriginDeterminismMode
  speech : Option String

def parseValues (values : RecordValues) : Except BrowserExecutionError ParsedValues := do
  return {
    compatibilityVersion := ← parseNumber u32FromStr values "compatibility_version"
    profileSchemaVersion := ← parseNumber u32FromStr values "profile_schema_version"
    browserMajor := ← parseNumber u16FromStr values "browser_major"
    hardwareConcurrency := ← parseNumber u16FromStr values "hardware_concurrency"
    deviceMemoryGib := ← parseDeviceMemory values
    maxTouchPoints := ← parseNumber u16FromStr values "max_touch_points"
    displayWidth := ← parseNumber u32FromStr values "display_width"
    displayHeight := ← parseNumber u32FromStr values "display_height"
    displayAvailWidth := ← parseNumber u32FromStr values "display_avail_width"
    displayAvailHeight := ← parseNumber u32FromStr values "display_avail_height"
    displayAvailLeft := ← parseNumber i32FromStr values "display_avail_left"
    displayAvailTop := ← parseNumber i32FromStr values "display_avail_top"
    displayColorDepth := ← parseNumber u16FromStr values "display_color_depth"
    displayPixelDepth := ← parseNumber u16FromStr values "display_pixel_depth"
    displayDprMilli := ← parseNumber u32FromStr values "display_dpr_milli"
    originMode := ← parseOriginMode values
    speech := ← parseSpeech values }

def parseStable (values : RecordValues) (parsed : ParsedValues) :
    Except BrowserExecutionError ProfileStableIdentity := do
  let browserOs ← BrowserOsIdentity.new
    (← required values "browser_user_agent") parsed.browserMajor
    (← required values "browser_platform") (← required values "browser_oscpu")
  let hardware ← HardwareCapabilityIdentity.new parsed.hardwareConcurrency parsed.deviceMemoryGib
    parsed.maxTouchPoints
  let display ← DisplayIdentity.new parsed.displayWidth parsed.displayHeight
    parsed.displayAvailWidth parsed.displayAvailHeight parsed.displayAvailLeft
    parsed.displayAvailTop parsed.displayColorDepth parsed.displayPixelDepth parsed.displayDprMilli
  let graphics ← GraphicsIdentity.new (← required values "webgl_vendor")
    (← required values "webgl_renderer") (← required values "webgl_extensions_sha256")
    (← required values "webgl_parameters_sha256") (← required values "webgl2_parameters_sha256")
    (← required values "shader_precision_sha256") (← required values "context_attributes_sha256")
  let fonts ← FontIdentity.new (← required values "font_set_sha256")
    (← required values "spacing_seed_sha256")
  let originDeterministic ← OriginDeterministicIdentity.new parsed.originMode
    (← required values "canvas_seed_sha256") (← required values "audio_seed_sha256")
  let locale ← LocaleIdentity.new (← required values "language")
    (← required values "languages_sha256") parsed.speech
  ProfileStableIdentity.new parsed.profileSchemaVersion browserOs hardware display graphics fonts
    originDeterministic locale

def parseNative (values : RecordValues) :
    Except BrowserExecutionError BrowserIdentityManifest := do
  BrowserIdentityManifest.newNative (← parseNumber u32FromStr values "compatibility_version")
    (← required values "fingerprint_policy_version") (← required values "runtime_version")
    (← required values "runtime_inventory_sha256") (← required values "fingerprint_source")
    (← required values "fingerprint_config_sha256")

def parseProfileStable (values : RecordValues) :
    Except BrowserExecutionError BrowserIdentityManifest := do
  let parsed ← parseValues values
  let stable ← parseStable values parsed
  BrowserIdentityManifest.new parsed.compatibilityVersion
    (← required values "fingerprint_policy_version") (← required values "runtime_version")
    (← required values "runtime_inventory_sha256") (← required values "fingerprint_source")
    (← required values "fingerprint_config_sha256") stable

/-- A native record is written again and compared; a profile-stable one is not. -/
def BrowserIdentityManifest.fromCanonicalRecord (record : String) :
    Except BrowserExecutionError BrowserIdentityManifest := do
  let values ← parseRecord record
  if (← required values "schema") = camoufoxRecordSchema then
    refuseIf (values.length ≠ 7) .invalidIdentityToken
    let identity ← parseNative values
    refuseIf (identity.toCanonicalRecord ≠ record) .invalidIdentityToken
    return identity
  else
    refuseIf (values.length ≠ recordFieldCount) .invalidIdentityToken
    refuseIf ((← required values "schema") ≠ recordSchema) .invalidIdentityToken
    parseProfileStable values

end Reading

/-! Which texts are records, and what a record of a profile-stable identity is read as. -/

section Texts

/-- No character that ends a line or that no record may hold. -/
def Plain (text : String) : Prop :=
  ∀ char ∈ text.toList, char ≠ '\n' ∧ char ≠ '\r' ∧ char ≠ '\x00'

structure WellFormedEntry (entry : String × String) : Prop where
  named : entry.1 ≠ ""
  filled : entry.2 ≠ ""
  separated : '=' ∉ entry.1.toList
  plainKey : Plain entry.1
  plainValue : Plain entry.2

structure WellFormed (values : RecordValues) : Prop where
  nonempty : values ≠ []
  distinct : (values.map Prod.fst).Nodup
  entries : ∀ entry ∈ values, WellFormedEntry entry

def entryLine (entry : String × String) : String := entry.1 ++ "=" ++ entry.2

variable {values : RecordValues} {record : String}

theorem recordText_eq (values : RecordValues) :
    recordText values = Records.unlines (values.map entryLine) := rfl

theorem toList_entryLine (entry : String × String) :
    (entryLine entry).toList = entry.1.toList ++ '=' :: entry.2.toList := by
  simp [entryLine]

theorem insertLine_eq_ok {line : String} {after : RecordValues} :
    insertLine values line = .ok after ↔ ∃ entry, after = values ++ [entry] ∧
      line = entryLine entry ∧ '=' ∉ entry.1.toList ∧ entry.1 ≠ "" ∧ entry.2 ≠ "" ∧
      entry.1 ∉ values.map Prod.fst := by
  constructor
  · intro inserted
    obtain ⟨⟨key, value⟩, split, inserted⟩ := bind_eq_ok.mp inserted
    obtain ⟨_, passes, inserted⟩ := bind_eq_ok.mp inserted
    cases inserted
    obtain ⟨separated, whole⟩ := Records.splitOnce_eq_some.mp (okOr_eq_ok.mp split)
    obtain ⟨named, remaining⟩ := not_or.mp (refuseIf_eq_ok.mp passes)
    obtain ⟨filled, fresh⟩ := not_or.mp remaining
    refine ⟨(key, value), rfl, String.toList_inj.mp ?_, separated, named, filled, ?_⟩
    · rw [whole, toList_entryLine]
    · rwa [← Records.lookup_isSome_iff_mem]
  · rintro ⟨⟨key, value⟩, rfl, rfl, separated, named, filled, fresh⟩
    have split : Records.splitOnce '=' (entryLine (key, value)) = some (key, value) :=
      Records.splitOnce_eq_some.mpr ⟨separated, toList_entryLine _⟩
    refine bind_eq_ok.mpr ⟨(key, value), okOr_eq_ok.mpr split, ?_⟩
    refine bind_eq_ok.mpr ⟨(), refuseIf_passes ?_, rfl⟩
    rw [Records.lookup_isSome_iff_mem]
    exact not_or.mpr ⟨named, not_or.mpr ⟨filled, fresh⟩⟩

theorem foldlM_insertLine {lines : List String}
    (read : lines.foldlM insertLine [] = .ok values) :
    lines = values.map entryLine ∧ (values.map Prod.fst).Nodup ∧
      ∀ entry ∈ values, entry.1 ≠ "" ∧ entry.2 ≠ "" ∧ '=' ∉ entry.1.toList := by
  refine foldlM_keeps read (fun gone before => gone = before.map entryLine ∧
    (before.map Prod.fst).Nodup ∧
      ∀ entry ∈ before, entry.1 ≠ "" ∧ entry.2 ≠ "" ∧ '=' ∉ entry.1.toList) (by simp) ?_
  rintro gone line later before after - ⟨rfl, distinct, good⟩ turn
  obtain ⟨entry, rfl, rfl, separated, named, filled, fresh⟩ := insertLine_eq_ok.mp turn
  refine ⟨by simp, ?_, ?_⟩
  · rw [List.map_append, List.nodup_append]
    refine ⟨distinct, by simp, fun key member other last => ?_⟩
    rw [List.map_singleton, List.mem_singleton] at last
    rw [last]
    exact fun same => fresh (same ▸ member)
  · intro other member
    rcases List.mem_append.mp member with earlier | last
    · exact good other earlier
    · rw [List.mem_singleton.mp last]
      exact ⟨named, filled, separated⟩

theorem insertLine_entries (formed : WellFormed values) :
    (values.map entryLine).foldlM insertLine [] = .ok values := by
  suffices reads : ∀ later gone, values = gone ++ later →
      (later.map entryLine).foldlM insertLine gone = .ok values from reads values [] rfl
  intro later
  induction later with
  | nil =>
    intro gone same
    rw [List.append_nil] at same
    exact congrArg Except.ok same.symm
  | cons entry rest ih =>
    intro gone same
    have good := formed.entries entry (by simp [same])
    have distinct := formed.distinct
    rw [same, List.map_append, List.nodup_append] at distinct
    have fresh : entry.1 ∉ gone.map Prod.fst := fun member =>
      distinct.2.2 entry.1 member entry.1 (by simp) rfl
    rw [List.map_cons, List.foldlM_cons]
    refine bind_eq_ok.mpr ⟨gone ++ [entry], insertLine_eq_ok.mpr ?_, ih _ (by rw [same]; simp)⟩
    exact ⟨entry, rfl, rfl, good.separated, good.named, good.filled, fresh⟩

theorem plain_entryLine {entry : String × String} (good : WellFormedEntry entry) :
    Plain (entryLine entry) := by
  intro char member
  rw [toList_entryLine, List.mem_append, List.mem_cons] at member
  rcases member with inKey | rfl | inValue
  · exact good.plainKey char inKey
  · decide
  · exact good.plainValue char inValue

/-- Exactly the texts of well-formed values are records, and they are read as those values. -/
theorem parseRecord_eq_ok :
    parseRecord record = .ok values ↔ record = recordText values ∧ WellFormed values := by
  constructor
  · intro parsed
    obtain ⟨_, passes, read⟩ := bind_eq_ok.mp parsed
    obtain ⟨ended, allowed⟩ := not_or.mp (refuseIf_eq_ok.mp passes)
    obtain ⟨noReturn, noNul⟩ := not_or.mp allowed
    obtain ⟨same, distinct, good⟩ := foldlM_insertLine read
    have ended := not_not.mp ended
    have whole : record = recordText values := by
      rw [recordText_eq, ← same, Records.unlines_lines ended noReturn]
    refine ⟨whole, ?_, distinct, ?_⟩
    · rintro rfl
      rw [whole] at ended
      simp [recordText_eq] at ended
    · intro entry member
      obtain ⟨named, filled, separated⟩ := good entry member
      have plain : Plain (entryLine entry) := by
        intro char inside
        have listed : entryLine entry ∈ Records.lines record := by
          rw [same]
          exact List.mem_map_of_mem member
        have inRecord : char ∈ record.toList := by
          rw [whole, recordText_eq, Records.toList_unlines]
          exact List.mem_flatMap.mpr ⟨_, List.mem_map_of_mem member, List.mem_append_left _ inside⟩
        refine ⟨?_, fun same => noReturn (same ▸ inRecord), fun same => noNul (same ▸ inRecord)⟩
        exact fun same => Records.break_not_mem_lines listed (same ▸ inside)
      refine ⟨named, filled, separated, fun char inside => plain char ?_,
        fun char inside => plain char ?_⟩
      · rw [toList_entryLine]
        exact List.mem_append_left _ inside
      · rw [toList_entryLine]
        exact List.mem_append_right _ (List.mem_cons_of_mem _ inside)
  · rintro ⟨rfl, formed⟩
    have plain : ∀ char ∈ (recordText values).toList, char ≠ '\r' ∧ char ≠ '\x00' := by
      intro char member
      rw [recordText_eq, Records.toList_unlines, List.mem_flatMap] at member
      obtain ⟨line, listed, inside⟩ := member
      obtain ⟨entry, known, rfl⟩ := List.mem_map.mp listed
      rcases List.mem_append.mp inside with inLine | last
      · exact (plain_entryLine (formed.entries entry known) char inLine).2
      · rw [List.mem_singleton.mp last]
        decide
    have ended : (recordText values).toList.getLast? = some '\n' := by
      rw [recordText_eq, Records.toList_unlines]
      rcases List.eq_nil_or_concat values with empty | ⟨front, entry, rfl⟩
      · exact absurd empty formed.nonempty
      · simp
    have lines : Records.lines (recordText values) = values.map entryLine := by
      rw [recordText_eq]
      refine Records.lines_unlines fun line member => ?_
      obtain ⟨entry, known, rfl⟩ := List.mem_map.mp member
      have good := plain_entryLine (formed.entries entry known)
      exact ⟨fun inside => (good _ inside).1 rfl, fun inside => (good _ inside).2.1 rfl⟩
    refine bind_eq_ok.mpr ⟨(), refuseIf_passes ?_, ?_⟩
    · rintro (notEnded | hasReturn | hasNul)
      · exact notEnded ended
      · exact (plain _ hasReturn).1 rfl
      · exact (plain _ hasNul).2 rfl
    · rw [lines]
      exact insertLine_entries formed

end Texts

end ProfilePlatform.BrowserExecution
