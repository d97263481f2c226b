import ProfilePlatform.BrowserExecution.IdentityRecord

/-! The fields of a record: how each is written, and which texts it is read from. -/

set_option autoImplicit false

namespace ProfilePlatform.BrowserExecution

open Foundation

/-- A field of one identity: its key, its canonical text, and the texts that are read as it. -/
structure RecordField where
  key : String
  text : String
  numeric : Bool
  reads : String → Bool

namespace RecordField

def entry (field : RecordField) : String × String := (field.key, field.text)

def exact (key text : String) : RecordField := ⟨key, text, false, fun other => other == text⟩

def u16 (key : String) (number : UInt16) : RecordField :=
  ⟨key, toString number.toNat, true, fun other => u16FromStr other == some number⟩

def u32 (key : String) (number : UInt32) : RecordField :=
  ⟨key, toString number.toNat, true, fun other => u32FromStr other == some number⟩

def i32 (key : String) (number : Int32) : RecordField :=
  ⟨key, toString number.toInt, true, fun other => i32FromStr other == some number⟩

def memory (number : Option UInt16) : RecordField :=
  ⟨"device_memory_gib", (number.map fun value => toString value.toNat).getD noneMarker, true,
    fun other => (if other = noneMarker then some none else (u16FromStr other).map some) ==
      some number⟩

def mode (mode : OriginDeterminismMode) : RecordField := exact "origin_mode" mode.asRecord

def speech (digest : Option String) : RecordField :=
  ⟨"speech_voices_sha256", digest.getD noneMarker, false,
    fun other => (if other = noneMarker then none else some other) == digest⟩

end RecordField

open RecordField

section Tables

variable (self : BrowserIdentityManifest)

def commonTable : List RecordField :=
  [u32 "compatibility_version" self.compatibilityVersion,
    exact "fingerprint_policy_version" self.fingerprintPolicyVersion,
    exact "runtime_version" self.runtimeVersion,
    exact "runtime_inventory_sha256" self.runtimeInventorySha256,
    exact "fingerprint_source" self.fingerprintSource,
    exact "fingerprint_config_sha256" self.fingerprintConfigSha256]

def partsTable (stable : ProfileStableIdentity) : List RecordField :=
  let browser := stable.browserOs
  let hardware := stable.hardware
  let display := stable.display
  let graphics := stable.graphics
  let fonts := stable.fonts
  let origin := stable.originDeterministic
  let locale := stable.locale
  [u32 "profile_schema_version" stable.schemaVersion,
    exact "browser_user_agent" browser.userAgent,
    u16 "browser_major" browser.browserMajor,
    exact "browser_platform" browser.platform,
    exact "browser_oscpu" browser.oscpu,
    u16 "hardware_concurrency" hardware.hardwareConcurrency,
    memory hardware.deviceMemoryGib,
    u16 "max_touch_points" hardware.maxTouchPoints,
    u32 "display_width" display.width,
    u32 "display_height" display.height,
    u32 "display_avail_width" display.availWidth,
    u32 "display_avail_height" display.availHeight,
    i32 "display_avail_left" display.availLeft,
    i32 "display_avail_top" display.availTop,
    u16 "display_color_depth" display.colorDepth,
    u16 "display_pixel_depth" display.pixelDepth,
    u32 "display_dpr_milli" display.devicePixelRatioMilli,
    exact "webgl_vendor" graphics.webglVendor,
    exact "webgl_renderer" graphics.webglRenderer,
    exact "webgl_extensions_sha256" graphics.webglExtensionsSha256,
    exact "webgl_parameters_sha256" graphics.webglParametersSha256,
    exact "webgl2_parameters_sha256" graphics.webgl2ParametersSha256,
    exact "shader_precision_sha256" graphics.shaderPrecisionSha256,
    exact "context_attributes_sha256" graphics.contextAttributesSha256,
    exact "font_set_sha256" fonts.fontSetSha256,
    exact "spacing_seed_sha256" fonts.spacingSeedSha256,
    mode origin.mode,
    exact "canvas_seed_sha256" origin.canvasSeedSha256,
    exact "audio_seed_sha256" origin.audioSeedSha256,
    exact "language" locale.language,
    exact "languages_sha256" locale.languagesSha256,
    speech locale.speechVoicesSha256]

def stableTable (stable : ProfileStableIdentity) : List RecordField :=
  exact "schema" recordSchema :: commonTable self ++ partsTable stable

def nativeTable : List RecordField := exact "schema" camoufoxRecordSchema :: commonTable self

theorem stableTable_entries (stable : ProfileStableIdentity) :
    (stableTable self stable).map entry = stableFields self stable := rfl

end Tables

/-- The field stands in the record, under some spelling. -/
def Reads (values : RecordValues) (field : RecordField) : Prop :=
  ∃ text, values.lookup field.key = some text ∧ field.reads text = true

section Readers

variable {values : RecordValues} {key : String}

theorem required_eq_ok {text : String} :
    required values key = .ok text ↔ Reads values (exact key text) := by
  unfold required Reads RecordField.exact
  rw [okOr_eq_ok]
  constructor
  · intro found
    exact ⟨text, found, by simp⟩
  · rintro ⟨other, found, same⟩
    rwa [← beq_iff_eq.mp same]

theorem parseNumber_eq_ok {T : Type} [BEq T] [LawfulBEq T] {fromStr : String → Option T}
    {number : T} : parseNumber fromStr values key = .ok number ↔
      ∃ text, values.lookup key = some text ∧ (fromStr text == some number) = true := by
  unfold parseNumber required
  rw [bind_eq_ok]
  simp only [okOr_eq_ok, beq_iff_eq]

theorem parseDeviceMemory_eq_ok {number : Option UInt16} :
    parseDeviceMemory values = .ok number ↔ Reads values (memory number) := by
  unfold parseDeviceMemory required Reads memory
  rw [bind_eq_ok]
  refine exists_congr fun text => and_congr okOr_eq_ok ?_
  rw [beq_iff_eq]
  split
  next => exact ⟨fun done => congrArg some (Except.ok.inj done), fun same => congrArg _ (Option.some.inj same)⟩
  next =>
    rw [bind_eq_ok, Option.map_eq_some_iff]
    refine exists_congr fun value => and_congr okOr_eq_ok ?_
    exact ⟨Except.ok.inj, fun same => congrArg _ same⟩

theorem parseOriginMode_eq_ok {origin : OriginDeterminismMode} :
    parseOriginMode values = .ok origin ↔ Reads values (mode origin) := by
  unfold parseOriginMode required Reads mode RecordField.exact
  rw [bind_eq_ok]
  refine exists_congr fun text => and_congr okOr_eq_ok ?_
  rw [beq_iff_eq]
  constructor
  · intro parsed
    split at parsed <;> cases parsed <;> rfl
  · rintro rfl
    cases origin <;> rfl

theorem parseSpeech_eq_ok {digest : Option String} :
    parseSpeech values = .ok digest ↔ Reads values (speech digest) := by
  unfold parseSpeech required Reads speech
  rw [bind_eq_ok]
  refine exists_congr fun text => and_congr okOr_eq_ok ?_
  rw [beq_iff_eq]
  exact ⟨Except.ok.inj, fun same => congrArg _ same⟩

end Readers


section Parts

variable {values : RecordValues}

theorem parseValues_eq_ok {parsed : ParsedValues} : parseValues values = .ok parsed ↔
    Reads values (u32 "compatibility_version" parsed.compatibilityVersion) ∧
    Reads values (u32 "profile_schema_version" parsed.profileSchemaVersion) ∧
    Reads values (u16 "browser_major" parsed.browserMajor) ∧
    Reads values (u16 "hardware_concurrency" parsed.hardwareConcurrency) ∧
    Reads values (memory parsed.deviceMemoryGib) ∧
    Reads values (u16 "max_touch_points" parsed.maxTouchPoints) ∧
    Reads values (u32 "display_width" parsed.displayWidth) ∧
    Reads values (u32 "display_height" parsed.displayHeight) ∧
    Reads values (u32 "display_avail_width" parsed.displayAvailWidth) ∧
    Reads values (u32 "display_avail_height" parsed.displayAvailHeight) ∧
    Reads values (i32 "display_avail_left" parsed.displayAvailLeft) ∧
    Reads values (i32 "display_avail_top" parsed.displayAvailTop) ∧
    Reads values (u16 "display_color_depth" parsed.displayColorDepth) ∧
    Reads values (u16 "display_pixel_depth" parsed.displayPixelDepth) ∧
    Reads values (u32 "display_dpr_milli" parsed.displayDprMilli) ∧
    Reads values (mode parsed.originMode) ∧
    Reads values (speech parsed.speech) := by
  have u16s : ∀ key number, Reads values (u16 key number) ↔
      parseNumber u16FromStr values key = .ok number := fun _ _ => parseNumber_eq_ok.symm
  have u32s : ∀ key number, Reads values (u32 key number) ↔
      parseNumber u32FromStr values key = .ok number := fun _ _ => parseNumber_eq_ok.symm
  have i32s : ∀ key number, Reads values (i32 key number) ↔
      parseNumber i32FromStr values key = .ok number := fun _ _ => parseNumber_eq_ok.symm
  simp only [u16s, u32s, i32s, ← parseDeviceMemory_eq_ok, ← parseOriginMode_eq_ok,
    ← parseSpeech_eq_ok]
  constructor
  · intro done
    simp only [parseValues, bind_eq_ok] at done
    obtain ⟨_, h1, _, h2, _, h3, _, h4, _, h5, _, h6, _, h7, _, h8, _, h9, _, h10, _, h11, _, h12,
      _, h13, _, h14, _, h15, _, h16, _, h17, same⟩ := done
    cases same
    exact ⟨h1, h2, h3, h4, h5, h6, h7, h8, h9, h10, h11, h12, h13, h14, h15, h16, h17⟩
  · rintro ⟨h1, h2, h3, h4, h5, h6, h7, h8, h9, h10, h11, h12, h13, h14, h15, h16, h17⟩
    simp only [parseValues, h1, h2, h3, h4, h5, h6, h7, h8, h9, h10, h11, h12, h13, h14, h15, h16,
      h17]
    rfl

/-- What is parsed from a record of these parts. -/
def parsedOf (version : UInt32) (stable : ProfileStableIdentity) : ParsedValues where
  compatibilityVersion := version
  profileSchemaVersion := stable.schemaVersion
  browserMajor := stable.browserOs.browserMajor
  hardwareConcurrency := stable.hardware.hardwareConcurrency
  deviceMemoryGib := stable.hardware.deviceMemoryGib
  maxTouchPoints := stable.hardware.maxTouchPoints
  displayWidth := stable.display.width
  displayHeight := stable.display.height
  displayAvailWidth := stable.display.availWidth
  displayAvailHeight := stable.display.availHeight
  displayAvailLeft := stable.display.availLeft
  displayAvailTop := stable.display.availTop
  displayColorDepth := stable.display.colorDepth
  displayPixelDepth := stable.display.pixelDepth
  displayDprMilli := stable.display.devicePixelRatioMilli
  originMode := stable.originDeterministic.mode
  speech := stable.locale.speechVoicesSha256

theorem parseStable_eq_ok {parsed : ParsedValues} {stable : ProfileStableIdentity} :
    parseStable values parsed = .ok stable ↔
      (Reads values (exact "browser_user_agent" stable.browserOs.userAgent) ∧
        Reads values (exact "browser_platform" stable.browserOs.platform) ∧
        Reads values (exact "browser_oscpu" stable.browserOs.oscpu) ∧
        Reads values (exact "webgl_vendor" stable.graphics.webglVendor) ∧
        Reads values (exact "webgl_renderer" stable.graphics.webglRenderer) ∧
        Reads values (exact "webgl_extensions_sha256" stable.graphics.webglExtensionsSha256) ∧
        Reads values (exact "webgl_parameters_sha256" stable.graphics.webglParametersSha256) ∧
        Reads values (exact "webgl2_parameters_sha256" stable.graphics.webgl2ParametersSha256) ∧
        Reads values (exact "shader_precision_sha256" stable.graphics.shaderPrecisionSha256) ∧
        Reads values (exact "context_attributes_sha256" stable.graphics.contextAttributesSha256) ∧
        Reads values (exact "font_set_sha256" stable.fonts.fontSetSha256) ∧
        Reads values (exact "spacing_seed_sha256" stable.fonts.spacingSeedSha256) ∧
        Reads values (exact "canvas_seed_sha256" stable.originDeterministic.canvasSeedSha256) ∧
        Reads values (exact "audio_seed_sha256" stable.originDeterministic.audioSeedSha256) ∧
        Reads values (exact "language" stable.locale.language) ∧
        Reads values (exact "languages_sha256" stable.locale.languagesSha256)) ∧
      parsed = parsedOf parsed.compatibilityVersion stable := by
  simp only [← required_eq_ok]
  constructor
  · intro done
    simp only [parseStable, bind_eq_ok, BrowserOsIdentity.new_eq_ok,
      HardwareCapabilityIdentity.new_eq_ok, DisplayIdentity.new_eq_ok, GraphicsIdentity.new_eq_ok,
      FontIdentity.new_eq_ok, OriginDeterministicIdentity.new_eq_ok, LocaleIdentity.new_eq_ok,
      ProfileStableIdentity.new_eq_ok] at done
    obtain ⟨_, userAgent, _, platform, _, oscpu, browserOs, ⟨rfl, major, rfl, rfl⟩,
      hardware, ⟨concurrency, memory, touch⟩,
      display, ⟨width, height, availWidth, availHeight, left, top, color, pixel, dpr⟩,
      _, vendor, _, renderer, _, extensions, _, parameters, _, parameters2, _, precision,
      _, attributes, graphics, ⟨rfl, rfl, rfl, rfl, rfl, rfl, rfl⟩,
      _, fontSet, _, spacing, fonts, ⟨rfl, rfl⟩,
      _, canvas, _, audio, origin, ⟨originMode, rfl, rfl⟩,
      _, language, _, languages, locale, ⟨rfl, rfl, voices⟩,
      version, rfl, rfl, rfl, rfl, rfl, rfl, rfl⟩ := done
    refine ⟨⟨userAgent, platform, oscpu, vendor, renderer, extensions, parameters, parameters2,
      precision, attributes, fontSet, spacing, canvas, audio, language, languages⟩, ?_⟩
    rw [parsedOf, version, major, concurrency, memory, touch, width, height, availWidth,
      availHeight, left, top, color, pixel, dpr, originMode, voices]
  · rintro ⟨⟨userAgent, platform, oscpu, vendor, renderer, extensions, parameters, parameters2,
      precision, attributes, fontSet, spacing, canvas, audio, language, languages⟩, same⟩
    rw [same]
    simp only [parseStable, bind_eq_ok, BrowserOsIdentity.new_eq_ok,
      HardwareCapabilityIdentity.new_eq_ok, DisplayIdentity.new_eq_ok, GraphicsIdentity.new_eq_ok,
      FontIdentity.new_eq_ok, OriginDeterministicIdentity.new_eq_ok, LocaleIdentity.new_eq_ok,
      ProfileStableIdentity.new_eq_ok]
    exact ⟨_, userAgent, _, platform, _, oscpu, stable.browserOs, ⟨rfl, rfl, rfl, rfl⟩,
      stable.hardware, ⟨rfl, rfl, rfl⟩,
      stable.display, ⟨rfl, rfl, rfl, rfl, rfl, rfl, rfl, rfl, rfl⟩,
      _, vendor, _, renderer, _, extensions, _, parameters, _, parameters2, _, precision,
      _, attributes, stable.graphics, ⟨rfl, rfl, rfl, rfl, rfl, rfl, rfl⟩,
      _, fontSet, _, spacing, stable.fonts, ⟨rfl, rfl⟩,
      _, canvas, _, audio, stable.originDeterministic, ⟨rfl, rfl, rfl⟩,
      _, language, _, languages, stable.locale, ⟨rfl, rfl, rfl⟩,
      by simp [parsedOf]⟩

/-- A record is read as an identity exactly when it holds every field of it. -/
theorem parseProfileStable_eq_ok {self : BrowserIdentityManifest} :
    parseProfileStable values = .ok self ↔ ∃ stable, self.profileStableIdentity = some stable ∧
      ∀ field ∈ commonTable self ++ partsTable stable, Reads values field := by
  constructor
  · intro done
    obtain ⟨parsed, read, done⟩ := bind_eq_ok.mp done
    obtain ⟨stable, made, done⟩ := bind_eq_ok.mp done
    obtain ⟨texts, same⟩ := parseStable_eq_ok.mp made
    have read := parseValues_eq_ok.mp read
    rw [same] at read
    simp only [bind_eq_ok, BrowserIdentityManifest.new,
      BrowserIdentityManifest.newWithIdentity_eq_ok] at done
    obtain ⟨_, policy, _, runtime, _, inventory, _, source, _, config, version, rfl, rfl, rfl, rfl,
      rfl, identity⟩ := done
    rw [required_eq_ok] at policy runtime inventory source config
    rw [← version] at read
    obtain ⟨compatibility, schema, major, concurrency, memory, touch, width, height, availWidth,
      availHeight, left, top, color, pixel, dpr, mode, voices⟩ := read
    obtain ⟨userAgent, platform, oscpu, vendor, renderer, extensions, parameters, parameters2,
      precision, attributes, fontSet, spacing, canvas, audio, language, languages⟩ := texts
    refine ⟨stable, identity, ?_⟩
    simp only [commonTable, partsTable, List.cons_append, List.nil_append, List.forall_mem_cons]
    exact ⟨compatibility, policy, runtime, inventory, source, config, schema, userAgent, major,
      platform, oscpu, concurrency, memory, touch, width, height, availWidth, availHeight, left,
      top, color, pixel, dpr, vendor, renderer, extensions, parameters, parameters2, precision,
      attributes, fontSet, spacing, mode, canvas, audio, language, languages, voices, by simp⟩
  · rintro ⟨stable, identity, fields⟩
    simp only [commonTable, partsTable, List.cons_append, List.nil_append, List.forall_mem_cons]
      at fields
    obtain ⟨compatibility, policy, runtime, inventory, source, config, schema, userAgent, major,
      platform, oscpu, concurrency, memory, touch, width, height, availWidth, availHeight, left,
      top, color, pixel, dpr, vendor, renderer, extensions, parameters, parameters2, precision,
      attributes, fontSet, spacing, mode, canvas, audio, language, languages, voices, -⟩ := fields
    have read : parseValues values = .ok (parsedOf self.compatibilityVersion stable) :=
      parseValues_eq_ok.mpr ⟨compatibility, schema, major, concurrency, memory, touch, width, height,
        availWidth, availHeight, left, top, color, pixel, dpr, mode, voices⟩
    refine bind_eq_ok.mpr ⟨_, read, ?_⟩
    refine bind_eq_ok.mpr ⟨stable, parseStable_eq_ok.mpr ⟨⟨userAgent, platform, oscpu, vendor,
      renderer, extensions, parameters, parameters2, precision, attributes, fontSet, spacing,
      canvas, audio, language, languages⟩, rfl⟩, ?_⟩
    rw [← required_eq_ok] at policy runtime inventory source config
    simp only [bind_eq_ok, BrowserIdentityManifest.new,
      BrowserIdentityManifest.newWithIdentity_eq_ok]
    exact ⟨_, policy, _, runtime, _, inventory, _, source, _, config, rfl, rfl, rfl, rfl, rfl, rfl,
      identity⟩

end Parts

end ProfilePlatform.BrowserExecution
