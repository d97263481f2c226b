import ProfilePlatform.Primitives

/-! The identity a browser shows: what the generation owns of it, part by part. -/

set_option autoImplicit false

namespace ProfilePlatform.BrowserExecution

def sha256HexLength : Nat := 64
def maxTokenBytes : Nat := 128
def maxUserAgentBytes : Nat := 512
def maxVisibleTextBytes : Nat := 256
def maxLanguageBytes : Nat := 64
def minDprMilli : UInt32 := 250
def maxDprMilli : UInt32 := 8000

inductive BrowserExecutionError where
  | invalidCompatibilityVersion
  | invalidIdentityToken
  | invalidDigest
  | invalidProfileStableIdentity
  deriving DecidableEq, Repr

section Texts

def isAsciiControl (byte : UInt8) : Bool := byte < 32 || byte == 127

def isTokenByte (byte : UInt8) : Bool :=
  isAsciiAlphanumeric byte || byte == 46 || byte == 95 || byte == 45

def isDigestByte (byte : UInt8) : Bool := (48 ≤ byte && byte ≤ 57) || (97 ≤ byte && byte ≤ 102)

def validVisibleText (value : String) (maximum : Nat) : Bool :=
  !(utf8Bytes value).isEmpty && (utf8Bytes value).length ≤ maximum &&
    !(utf8Bytes value).any isAsciiControl

def validSha256 (value : String) : Bool :=
  (utf8Bytes value).length == sha256HexLength && (utf8Bytes value).all isDigestByte

def validToken (value : String) : Bool :=
  1 ≤ (utf8Bytes value).length && (utf8Bytes value).length ≤ maxTokenBytes &&
    (utf8Bytes value).all isTokenByte

end Texts

section Parts

def BrowserOsIdentity.accepts (userAgent : String) (browserMajor : UInt16)
    (platform oscpu : String) : Bool :=
  browserMajor != 0 && validVisibleText userAgent maxUserAgentBytes &&
    validVisibleText platform maxVisibleTextBytes && validVisibleText oscpu maxVisibleTextBytes

structure BrowserOsIdentity where
  userAgent : String
  browserMajor : UInt16
  platform : String
  oscpu : String
  accepted : BrowserOsIdentity.accepts userAgent browserMajor platform oscpu = true

def BrowserOsIdentity.new (userAgent : String) (browserMajor : UInt16) (platform oscpu : String) :
    Except BrowserExecutionError BrowserOsIdentity :=
  if accepted : BrowserOsIdentity.accepts userAgent browserMajor platform oscpu = true then
    .ok ⟨userAgent, browserMajor, platform, oscpu, accepted⟩
  else .error .invalidProfileStableIdentity

def HardwareCapabilityIdentity.accepts (hardwareConcurrency : UInt16)
    (deviceMemoryGib : Option UInt16) (maxTouchPoints : UInt16) : Bool :=
  hardwareConcurrency != 0 && hardwareConcurrency ≤ 1024 &&
    !deviceMemoryGib.any (fun value => value == 0 || 1024 < value) && maxTouchPoints ≤ 64

structure HardwareCapabilityIdentity where
  hardwareConcurrency : UInt16
  deviceMemoryGib : Option UInt16
  maxTouchPoints : UInt16
  accepted : HardwareCapabilityIdentity.accepts hardwareConcurrency deviceMemoryGib
    maxTouchPoints = true

def HardwareCapabilityIdentity.new (hardwareConcurrency : UInt16) (deviceMemoryGib : Option UInt16)
    (maxTouchPoints : UInt16) : Except BrowserExecutionError HardwareCapabilityIdentity :=
  if accepted : HardwareCapabilityIdentity.accepts hardwareConcurrency deviceMemoryGib
      maxTouchPoints = true then
    .ok ⟨hardwareConcurrency, deviceMemoryGib, maxTouchPoints, accepted⟩
  else .error .invalidProfileStableIdentity

def DisplayIdentity.accepts (width height availWidth availHeight : UInt32)
    (colorDepth pixelDepth : UInt16) (devicePixelRatioMilli : UInt32) : Bool :=
  width != 0 && height != 0 && availWidth != 0 && availHeight != 0 && availWidth ≤ width &&
    availHeight ≤ height && (8 ≤ colorDepth && colorDepth ≤ 64) &&
    (8 ≤ pixelDepth && pixelDepth ≤ 64) &&
    (minDprMilli ≤ devicePixelRatioMilli && devicePixelRatioMilli ≤ maxDprMilli)

structure DisplayIdentity where
  width : UInt32
  height : UInt32
  availWidth : UInt32
  availHeight : UInt32
  availLeft : Int32
  availTop : Int32
  colorDepth : UInt16
  pixelDepth : UInt16
  devicePixelRatioMilli : UInt32
  accepted : DisplayIdentity.accepts width height availWidth availHeight colorDepth pixelDepth
    devicePixelRatioMilli = true

def DisplayIdentity.new (width height availWidth availHeight : UInt32) (availLeft availTop : Int32)
    (colorDepth pixelDepth : UInt16) (devicePixelRatioMilli : UInt32) :
    Except BrowserExecutionError DisplayIdentity :=
  if accepted : DisplayIdentity.accepts width height availWidth availHeight colorDepth pixelDepth
      devicePixelRatioMilli = true then
    .ok ⟨width, height, availWidth, availHeight, availLeft, availTop, colorDepth, pixelDepth,
      devicePixelRatioMilli, accepted⟩
  else .error .invalidProfileStableIdentity

def GraphicsIdentity.accepts (webglVendor webglRenderer : String) (digests : List String) : Bool :=
  validVisibleText webglVendor maxVisibleTextBytes &&
    validVisibleText webglRenderer maxVisibleTextBytes && digests.all validSha256

structure GraphicsIdentity where
  webglVendor : String
  webglRenderer : String
  webglExtensionsSha256 : String
  webglParametersSha256 : String
  webgl2ParametersSha256 : String
  shaderPrecisionSha256 : String
  contextAttributesSha256 : String
  accepted : GraphicsIdentity.accepts webglVendor webglRenderer [webglExtensionsSha256,
    webglParametersSha256, webgl2ParametersSha256, shaderPrecisionSha256,
    contextAttributesSha256] = true

def GraphicsIdentity.new (webglVendor webglRenderer webglExtensionsSha256 webglParametersSha256
    webgl2ParametersSha256 shaderPrecisionSha256 contextAttributesSha256 : String) :
    Except BrowserExecutionError GraphicsIdentity :=
  if accepted : GraphicsIdentity.accepts webglVendor webglRenderer [webglExtensionsSha256,
      webglParametersSha256, webgl2ParametersSha256, shaderPrecisionSha256,
      contextAttributesSha256] = true then
    .ok ⟨webglVendor, webglRenderer, webglExtensionsSha256, webglParametersSha256,
      webgl2ParametersSha256, shaderPrecisionSha256, contextAttributesSha256, accepted⟩
  else .error .invalidProfileStableIdentity

structure FontIdentity where
  fontSetSha256 : String
  spacingSeedSha256 : String
  accepted : [fontSetSha256, spacingSeedSha256].all validSha256 = true

def FontIdentity.new (fontSetSha256 spacingSeedSha256 : String) :
    Except BrowserExecutionError FontIdentity :=
  if accepted : [fontSetSha256, spacingSeedSha256].all validSha256 = true then
    .ok ⟨fontSetSha256, spacingSeedSha256, accepted⟩
  else .error .invalidProfileStableIdentity

inductive OriginDeterminismMode where
  | profileGenerationSeed | originHmac
  deriving DecidableEq, Repr

structure OriginDeterministicIdentity where
  mode : OriginDeterminismMode
  canvasSeedSha256 : String
  audioSeedSha256 : String
  accepted : [canvasSeedSha256, audioSeedSha256].all validSha256 = true

def OriginDeterministicIdentity.new (mode : OriginDeterminismMode)
    (canvasSeedSha256 audioSeedSha256 : String) :
    Except BrowserExecutionError OriginDeterministicIdentity :=
  if accepted : [canvasSeedSha256, audioSeedSha256].all validSha256 = true then
    .ok ⟨mode, canvasSeedSha256, audioSeedSha256, accepted⟩
  else .error .invalidProfileStableIdentity

def LocaleIdentity.accepts (language languagesSha256 : String)
    (speechVoicesSha256 : Option String) : Bool :=
  validVisibleText language maxLanguageBytes && validSha256 languagesSha256 &&
    !speechVoicesSha256.any fun value => !validSha256 value

structure LocaleIdentity where
  language : String
  languagesSha256 : String
  speechVoicesSha256 : Option String
  accepted : LocaleIdentity.accepts language languagesSha256 speechVoicesSha256 = true

def LocaleIdentity.new (language languagesSha256 : String) (speechVoicesSha256 : Option String) :
    Except BrowserExecutionError LocaleIdentity :=
  if accepted : LocaleIdentity.accepts language languagesSha256 speechVoicesSha256 = true then
    .ok ⟨language, languagesSha256, speechVoicesSha256, accepted⟩
  else .error .invalidProfileStableIdentity

section Made

theorem BrowserOsIdentity.new_eq_ok {userAgent platform oscpu : String} {browserMajor : UInt16}
    {part : BrowserOsIdentity} :
    BrowserOsIdentity.new userAgent browserMajor platform oscpu = .ok part ↔
      part.userAgent = userAgent ∧ part.browserMajor = browserMajor ∧ part.platform = platform ∧
        part.oscpu = oscpu := by
  constructor
  · intro made
    unfold BrowserOsIdentity.new at made
    split at made <;> cases made
    exact ⟨rfl, rfl, rfl, rfl⟩
  · rintro ⟨rfl, rfl, rfl, rfl⟩
    exact dif_pos part.accepted

theorem HardwareCapabilityIdentity.new_eq_ok {hardwareConcurrency maxTouchPoints : UInt16}
    {deviceMemoryGib : Option UInt16} {part : HardwareCapabilityIdentity} :
    HardwareCapabilityIdentity.new hardwareConcurrency deviceMemoryGib maxTouchPoints =
      .ok part ↔
      part.hardwareConcurrency = hardwareConcurrency ∧ part.deviceMemoryGib = deviceMemoryGib ∧
        part.maxTouchPoints = maxTouchPoints := by
  constructor
  · intro made
    unfold HardwareCapabilityIdentity.new at made
    split at made <;> cases made
    exact ⟨rfl, rfl, rfl⟩
  · rintro ⟨rfl, rfl, rfl⟩
    exact dif_pos part.accepted

theorem DisplayIdentity.new_eq_ok {width height availWidth availHeight
    devicePixelRatioMilli : UInt32} {availLeft availTop : Int32} {colorDepth pixelDepth : UInt16}
    {part : DisplayIdentity} :
    DisplayIdentity.new width height availWidth availHeight availLeft availTop colorDepth
      pixelDepth devicePixelRatioMilli = .ok part ↔
      part.width = width ∧ part.height = height ∧ part.availWidth = availWidth ∧
        part.availHeight = availHeight ∧ part.availLeft = availLeft ∧ part.availTop = availTop ∧
        part.colorDepth = colorDepth ∧ part.pixelDepth = pixelDepth ∧
        part.devicePixelRatioMilli = devicePixelRatioMilli := by
  constructor
  · intro made
    unfold DisplayIdentity.new at made
    split at made <;> cases made
    exact ⟨rfl, rfl, rfl, rfl, rfl, rfl, rfl, rfl, rfl⟩
  · rintro ⟨rfl, rfl, rfl, rfl, rfl, rfl, rfl, rfl, rfl⟩
    exact dif_pos part.accepted

theorem GraphicsIdentity.new_eq_ok {vendor renderer extensions parameters parameters2 precision
    attributes : String} {part : GraphicsIdentity} :
    GraphicsIdentity.new vendor renderer extensions parameters parameters2 precision attributes =
      .ok part ↔
      part.webglVendor = vendor ∧ part.webglRenderer = renderer ∧
        part.webglExtensionsSha256 = extensions ∧ part.webglParametersSha256 = parameters ∧
        part.webgl2ParametersSha256 = parameters2 ∧ part.shaderPrecisionSha256 = precision ∧
        part.contextAttributesSha256 = attributes := by
  constructor
  · intro made
    unfold GraphicsIdentity.new at made
    split at made <;> cases made
    exact ⟨rfl, rfl, rfl, rfl, rfl, rfl, rfl⟩
  · rintro ⟨rfl, rfl, rfl, rfl, rfl, rfl, rfl⟩
    exact dif_pos part.accepted

theorem FontIdentity.new_eq_ok {fontSetSha256 spacingSeedSha256 : String} {part : FontIdentity} :
    FontIdentity.new fontSetSha256 spacingSeedSha256 = .ok part ↔
      part.fontSetSha256 = fontSetSha256 ∧ part.spacingSeedSha256 = spacingSeedSha256 := by
  constructor
  · intro made
    unfold FontIdentity.new at made
    split at made <;> cases made
    exact ⟨rfl, rfl⟩
  · rintro ⟨rfl, rfl⟩
    exact dif_pos part.accepted

theorem OriginDeterministicIdentity.new_eq_ok {mode : OriginDeterminismMode}
    {canvasSeedSha256 audioSeedSha256 : String} {part : OriginDeterministicIdentity} :
    OriginDeterministicIdentity.new mode canvasSeedSha256 audioSeedSha256 = .ok part ↔
      part.mode = mode ∧ part.canvasSeedSha256 = canvasSeedSha256 ∧
        part.audioSeedSha256 = audioSeedSha256 := by
  constructor
  · intro made
    unfold OriginDeterministicIdentity.new at made
    split at made <;> cases made
    exact ⟨rfl, rfl, rfl⟩
  · rintro ⟨rfl, rfl, rfl⟩
    exact dif_pos part.accepted

theorem LocaleIdentity.new_eq_ok {language languagesSha256 : String}
    {speechVoicesSha256 : Option String} {part : LocaleIdentity} :
    LocaleIdentity.new language languagesSha256 speechVoicesSha256 = .ok part ↔
      part.language = language ∧ part.languagesSha256 = languagesSha256 ∧
        part.speechVoicesSha256 = speechVoicesSha256 := by
  constructor
  · intro made
    unfold LocaleIdentity.new at made
    split at made <;> cases made
    exact ⟨rfl, rfl, rfl⟩
  · rintro ⟨rfl, rfl, rfl⟩
    exact dif_pos part.accepted

end Made

end Parts

structure ProfileStableIdentity where
  schemaVersion : UInt32
  browserOs : BrowserOsIdentity
  hardware : HardwareCapabilityIdentity
  display : DisplayIdentity
  graphics : GraphicsIdentity
  fonts : FontIdentity
  originDeterministic : OriginDeterministicIdentity
  locale : LocaleIdentity
  accepted : (schemaVersion != 0) = true

def ProfileStableIdentity.new (schemaVersion : UInt32) (browserOs : BrowserOsIdentity)
    (hardware : HardwareCapabilityIdentity) (display : DisplayIdentity)
    (graphics : GraphicsIdentity) (fonts : FontIdentity)
    (originDeterministic : OriginDeterministicIdentity) (locale : LocaleIdentity) :
    Except BrowserExecutionError ProfileStableIdentity :=
  if accepted : (schemaVersion != 0) = true then
    .ok ⟨schemaVersion, browserOs, hardware, display, graphics, fonts, originDeterministic, locale,
      accepted⟩
  else .error .invalidProfileStableIdentity

theorem ProfileStableIdentity.new_eq_ok {schemaVersion : UInt32} {browserOs : BrowserOsIdentity}
    {hardware : HardwareCapabilityIdentity} {display : DisplayIdentity}
    {graphics : GraphicsIdentity} {fonts : FontIdentity}
    {originDeterministic : OriginDeterministicIdentity} {locale : LocaleIdentity}
    {part : ProfileStableIdentity} :
    ProfileStableIdentity.new schemaVersion browserOs hardware display graphics fonts
      originDeterministic locale = .ok part ↔
      part.schemaVersion = schemaVersion ∧ part.browserOs = browserOs ∧
        part.hardware = hardware ∧ part.display = display ∧ part.graphics = graphics ∧
        part.fonts = fonts ∧ part.originDeterministic = originDeterministic ∧
        part.locale = locale := by
  constructor
  · intro made
    unfold ProfileStableIdentity.new at made
    split at made <;> cases made
    exact ⟨rfl, rfl, rfl, rfl, rfl, rfl, rfl, rfl⟩
  · rintro ⟨rfl, rfl, rfl, rfl, rfl, rfl, rfl, rfl⟩
    exact dif_pos part.accepted

/-- The checks on a manifest, each with the error of the first that fails. -/
structure BrowserIdentityManifest.Accepts (compatibilityVersion : UInt32)
    (fingerprintPolicyVersion runtimeVersion runtimeInventorySha256 fingerprintSource
      fingerprintConfigSha256 : String) : Prop where
  version : compatibilityVersion ≠ 0
  tokens : [fingerprintPolicyVersion, runtimeVersion, fingerprintSource].all validToken = true
  digests : [runtimeInventorySha256, fingerprintConfigSha256].all validSha256 = true

structure BrowserIdentityManifest where
  compatibilityVersion : UInt32
  fingerprintPolicyVersion : String
  runtimeVersion : String
  runtimeInventorySha256 : String
  fingerprintSource : String
  fingerprintConfigSha256 : String
  profileStableIdentity : Option ProfileStableIdentity
  accepted : BrowserIdentityManifest.Accepts compatibilityVersion fingerprintPolicyVersion
    runtimeVersion runtimeInventorySha256 fingerprintSource fingerprintConfigSha256

namespace BrowserIdentityManifest

def newWithIdentity (compatibilityVersion : UInt32)
    (fingerprintPolicyVersion runtimeVersion runtimeInventorySha256 fingerprintSource
      fingerprintConfigSha256 : String) (profileStableIdentity : Option ProfileStableIdentity) :
    Except BrowserExecutionError BrowserIdentityManifest :=
  if version : compatibilityVersion ≠ 0 then
    if tokens : [fingerprintPolicyVersion, runtimeVersion, fingerprintSource].all validToken = true
    then
      if digests : [runtimeInventorySha256, fingerprintConfigSha256].all validSha256 = true then
        .ok ⟨compatibilityVersion, fingerprintPolicyVersion, runtimeVersion,
          runtimeInventorySha256, fingerprintSource, fingerprintConfigSha256,
          profileStableIdentity, version, tokens, digests⟩
      else .error .invalidDigest
    else .error .invalidIdentityToken
  else .error .invalidCompatibilityVersion

def new (compatibilityVersion : UInt32) (fingerprintPolicyVersion runtimeVersion
    runtimeInventorySha256 fingerprintSource fingerprintConfigSha256 : String)
    (profileStableIdentity : ProfileStableIdentity) :
    Except BrowserExecutionError BrowserIdentityManifest :=
  newWithIdentity compatibilityVersion fingerprintPolicyVersion runtimeVersion
    runtimeInventorySha256 fingerprintSource fingerprintConfigSha256 (some profileStableIdentity)

/-- The official browser owns its fingerprint: the configuration digest is the whole identity. -/
def newNative (compatibilityVersion : UInt32) (fingerprintPolicyVersion runtimeVersion
    runtimeInventorySha256 fingerprintSource fingerprintConfigSha256 : String) :
    Except BrowserExecutionError BrowserIdentityManifest :=
  newWithIdentity compatibilityVersion fingerprintPolicyVersion runtimeVersion
    runtimeInventorySha256 fingerprintSource fingerprintConfigSha256 none

variable {version : UInt32} {policy runtime inventory source config : String}
  {stable : Option ProfileStableIdentity} {self : BrowserIdentityManifest}

theorem newWithIdentity_eq_ok :
    newWithIdentity version policy runtime inventory source config stable = .ok self ↔
      self.compatibilityVersion = version ∧ self.fingerprintPolicyVersion = policy ∧
        self.runtimeVersion = runtime ∧ self.runtimeInventorySha256 = inventory ∧
        self.fingerprintSource = source ∧ self.fingerprintConfigSha256 = config ∧
        self.profileStableIdentity = stable := by
  constructor
  · intro made
    unfold newWithIdentity at made
    split at made
    next =>
      split at made
      next =>
        split at made <;> cases made
        exact ⟨rfl, rfl, rfl, rfl, rfl, rfl, rfl⟩
      next => cases made
    next => cases made
  · rintro ⟨rfl, rfl, rfl, rfl, rfl, rfl, rfl⟩
    unfold newWithIdentity
    rw [dif_pos self.accepted.version, dif_pos self.accepted.tokens, dif_pos self.accepted.digests]

end BrowserIdentityManifest

end ProfilePlatform.BrowserExecution
