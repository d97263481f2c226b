import Mathlib.Data.Prod.Lex
import Mathlib.Data.String.Basic
import ProfilePlatform.Foundation.Bytes
import ProfilePlatform.Foundation.Frames
import ProfilePlatform.Foundation.Sorting
import ProfilePlatform.Primitives

/-! What a browser shows of itself, and the bytes that its digests are taken of.

The reading of a number text as a binary64 value is given, as the bits of the value.
-/

set_option autoImplicit false

namespace ProfilePlatform.BrowserExecution

open Foundation

def maxCollectionRows : Nat := 512
def maxObservedTextBytes : Nat := 4096

/-- A value as a runtime tells it. The entries of a map are names with their values. -/
inductive BrowserValue where
  | null
  | bool (value : Bool)
  | number (text : String)
  | text (value : String)
  | list (values : List BrowserValue)
  | map (values : List (String × BrowserValue))

abbrev BrowserKeyValueObservation := String × BrowserValue

structure SpeechVoiceObservation where
  language : String
  name : String
  voiceUri : String
  localService : Bool
  isDefault : Bool
  deriving DecidableEq

/-- `str::parse` for binary64 values, with the bits of what is read. -/
abbrev ParseF64 := String → Option (BitVec 64)

section Numbers

def isFinite (value : BitVec 64) : Bool := (value >>> 52) &&& 0x7ff#64 != 0x7ff#64

/-- Both zeros are equal to zero. -/
def isZero (value : BitVec 64) : Bool := value &&& 0x7fffffffffffffff#64 == 0#64

/-- Sixteen lower-case digits. -/
def hexBits (value : BitVec 64) : String :=
  String.ofList ((List.range 16).map fun place => hexDigit (value.toNat / 16 ^ (15 - place) % 16))

def canonicalBrowserNumber (value : BitVec 64) : Option String :=
  if ¬isFinite value = true then none
  else
    let normalized := if isZero value then 0#64 else value
    some (hexBits normalized)

end Numbers

section Appending

/-- Not empty, not too long, and on one line. -/
def boundedText (value : String) : Bool :=
  !(utf8Bytes value).isEmpty && (utf8Bytes value).length ≤ maxObservedTextBytes &&
    !(utf8Bytes value).any fun byte => byte == 0 || byte == 13 || byte == 10

/-- What `append_component` appends for a text. -/
def textComponent (value : String) : List UInt8 := component (utf8Bytes value)

def countComponent (count : Nat) : List UInt8 := textComponent (toString count)

def domainBytes (domain : String) : List UInt8 := textComponent domain

def appendSortedStrings (label : String) (values : List String) (allowEmpty : Bool) :
    Option (List UInt8) :=
  if (allowEmpty = false ∧ values = []) ∨ maxCollectionRows < values.length ∨
      values.any (fun value => !boundedText value) = true then none
  else
    let sorted := sortBy id values
    if adjacentEqual sorted = true then none
    else
      some (textComponent label ++ countComponent sorted.length ++ sorted.flatMap textComponent)

/-- The rows come with the bytes of their values, if their values have any. Only the names decide
on the order of the rows. -/
def appendKeyValues (label : String) (rows : List (String × Option (List UInt8)))
    (allowEmpty : Bool) : Option (List UInt8) :=
  if (allowEmpty = false ∧ rows = []) ∨ maxCollectionRows < rows.length ∨
      rows.any (fun row => !boundedText row.1) = true then none
  else
    let sorted := sortBy Prod.fst rows
    if adjacentEqual (sorted.map Prod.fst) = true then none
    else do
      let values ← sorted.mapM fun row => row.2.map fun bytes => textComponent row.1 ++ bytes
      return textComponent label ++ countComponent sorted.length ++ values.flatten

variable (parseF64 : ParseF64)

mutual

def appendBrowserValue : BrowserValue → Option (List UInt8)
  | .null => some (textComponent "null")
  | .bool value => some (textComponent "bool" ++ textComponent (if value then "1" else "0"))
  | .number text => do
    let canonicalNumber ← (parseF64 text).bind canonicalBrowserNumber
    return textComponent "number" ++ textComponent canonicalNumber
  | .text value =>
    if ¬boundedText value = true then none
    else some (textComponent "text" ++ textComponent value)
  | .list values =>
    if maxCollectionRows < values.length then none
    else do
      let bytes ← appendBrowserValues values
      return textComponent "list" ++ countComponent values.length ++ bytes
  | .map values => do
    return textComponent "map" ++ (← appendKeyValues "entries" (rowsOf values) true)

/-- The values of a list one after the other. -/
def appendBrowserValues : List BrowserValue → Option (List UInt8)
  | [] => some []
  | value :: rest => do
    let first ← appendBrowserValue value
    return first ++ (← appendBrowserValues rest)

/-- Each name with the bytes of its value. -/
def rowsOf : List (String × BrowserValue) → List (String × Option (List UInt8))
  | [] => []
  | (name, value) :: rest => (name, appendBrowserValue value) :: rowsOf rest

end

end Appending

section Digests

variable {R : Type} (digest : List UInt8 → Option R) (parseF64 : ParseF64)

def canonicalWebglExtensionsSha256 (webgl webgl2 : List String) : Option R := do
  let first ← appendSortedStrings "webgl" webgl true
  let second ← appendSortedStrings "webgl2" webgl2 true
  digest (domainBytes "webgl-extensions-v1" ++ first ++ second)

def canonicalKeyValuesSha256 (domain : String) (values : List BrowserKeyValueObservation) :
    Option R := do
  let rows ← appendKeyValues "values" (rowsOf parseF64 values) false
  digest (domainBytes domain ++ rows)

def canonicalContextPairSha256 (domain : String)
    (webgl webgl2 : List BrowserKeyValueObservation) : Option R := do
  let first ← appendKeyValues "webgl" (rowsOf parseF64 webgl) true
  let second ← appendKeyValues "webgl2" (rowsOf parseF64 webgl2) true
  digest (domainBytes domain ++ first ++ second)

def canonicalSeedSha256 (domain : String) (seed : BrowserValue) : Option R := do
  let value ← appendBrowserValue parseF64 seed
  digest (domainBytes domain ++ value)

def canonicalWebglParametersSha256 (values : List BrowserKeyValueObservation) : Option R :=
  canonicalKeyValuesSha256 digest parseF64 "webgl-parameters-v1" values

def canonicalWebgl2ParametersSha256 (values : List BrowserKeyValueObservation) : Option R :=
  canonicalKeyValuesSha256 digest parseF64 "webgl2-parameters-v1" values

/-- The witness of a WebGL2 that is disabled on purpose. -/
def canonicalWebgl2DisabledSha256 : Option R := digest (domainBytes "webgl2-disabled-v1")

def canonicalShaderPrecisionSha256 (webgl webgl2 : List BrowserKeyValueObservation) : Option R :=
  canonicalContextPairSha256 digest parseF64 "webgl-shader-precision-v1" webgl webgl2

def canonicalContextAttributesSha256 (webgl webgl2 : List BrowserKeyValueObservation) : Option R :=
  canonicalContextPairSha256 digest parseF64 "webgl-context-attributes-v1" webgl webgl2

def canonicalFontSetSha256 (families : List String) : Option R :=
  if families = [] then none
  else do
    let sorted ← appendSortedStrings "families" families false
    digest (domainBytes "font-set-v1" ++ sorted)

def canonicalNavigatorLanguagesSha256 (languages : List String) : Option R :=
  if languages = [] ∨ maxCollectionRows < languages.length ∨
      languages.any (fun value => !boundedText value) = true then none
  else
    digest (domainBytes "navigator-languages-v1" ++ countComponent languages.length ++
      languages.flatMap textComponent)

/-- Voices are ordered field by field. -/
def voiceKey (voice : SpeechVoiceObservation) :
    String ×ₗ String ×ₗ String ×ₗ Bool ×ₗ Bool :=
  toLex (voice.language, toLex (voice.name, toLex (voice.voiceUri,
    toLex (voice.localService, voice.isDefault))))

def voiceBytes (voice : SpeechVoiceObservation) : List UInt8 :=
  textComponent voice.language ++ textComponent voice.name ++ textComponent voice.voiceUri ++
    textComponent (if voice.localService then "1" else "0") ++
    textComponent (if voice.isDefault then "1" else "0")

def canonicalSpeechVoicesSha256 (voices : List SpeechVoiceObservation) : Option R :=
  if maxCollectionRows < voices.length ∨ voices.any (fun voice => !boundedText voice.language ||
      !boundedText voice.name || !boundedText voice.voiceUri) = true then none
  else
    let sorted := sortBy voiceKey voices
    digest (domainBytes "speech-voices-v2" ++ countComponent sorted.length ++
      sorted.flatMap voiceBytes)

def canonicalFontSpacingSeedSha256 (seed : BrowserValue) : Option R :=
  canonicalSeedSha256 digest parseF64 "font-spacing-seed-v1" seed

def canonicalCanvasSeedSha256 (seed : BrowserValue) : Option R :=
  canonicalSeedSha256 digest parseF64 "canvas-seed-v1" seed

def canonicalAudioSeedSha256 (seed : BrowserValue) : Option R :=
  canonicalSeedSha256 digest parseF64 "audio-seed-v1" seed

end Digests

/-- A call of one of the digest functions, with its inputs. -/
inductive DigestCall where
  | webglExtensions (webgl webgl2 : List String)
  | webglParameters (values : List BrowserKeyValueObservation)
  | webgl2Parameters (values : List BrowserKeyValueObservation)
  | webgl2Disabled
  | shaderPrecision (webgl webgl2 : List BrowserKeyValueObservation)
  | contextAttributes (webgl webgl2 : List BrowserKeyValueObservation)
  | fontSet (families : List String)
  | navigatorLanguages (languages : List String)
  | speechVoices (voices : List SpeechVoiceObservation)
  | fontSpacingSeed (seed : BrowserValue)
  | canvasSeed (seed : BrowserValue)
  | audioSeed (seed : BrowserValue)

def DigestCall.run {R : Type} (digest : List UInt8 → Option R) (parseF64 : ParseF64) :
    DigestCall → Option R
  | .webglExtensions webgl webgl2 => canonicalWebglExtensionsSha256 digest webgl webgl2
  | .webglParameters values => canonicalWebglParametersSha256 digest parseF64 values
  | .webgl2Parameters values => canonicalWebgl2ParametersSha256 digest parseF64 values
  | .webgl2Disabled => canonicalWebgl2DisabledSha256 digest
  | .shaderPrecision webgl webgl2 => canonicalShaderPrecisionSha256 digest parseF64 webgl webgl2
  | .contextAttributes webgl webgl2 =>
    canonicalContextAttributesSha256 digest parseF64 webgl webgl2
  | .fontSet families => canonicalFontSetSha256 digest families
  | .navigatorLanguages languages => canonicalNavigatorLanguagesSha256 digest languages
  | .speechVoices voices => canonicalSpeechVoicesSha256 digest voices
  | .fontSpacingSeed seed => canonicalFontSpacingSeedSha256 digest parseF64 seed
  | .canvasSeed seed => canonicalCanvasSeedSha256 digest parseF64 seed
  | .audioSeed seed => canonicalAudioSeedSha256 digest parseF64 seed

/-- The bytes a call hands to the digester: its run with a digester that gives them back. -/
def DigestCall.handed (parseF64 : ParseF64) (call : DigestCall) : Option (List UInt8) :=
  call.run some parseF64

end ProfilePlatform.BrowserExecution

/-! When two observations are the same: the order of named entries and the spelling of numbers do
not tell them apart, and neither do the bytes they are digested from. -/

namespace ProfilePlatform.BrowserExecution

open Foundation

section Sameness

variable (parseF64 : ParseF64)

/-- Both texts are read as one value, where the two zeros are one. -/
def SameNumber (left right : String) : Prop :=
  ∃ first second, parseF64 left = some first ∧ parseF64 right = some second ∧
    (first = second ∨ isZero first = true ∧ isZero second = true)

mutual

inductive SameValue : BrowserValue → BrowserValue → Prop where
  | null : SameValue .null .null
  | bool (value : Bool) : SameValue (.bool value) (.bool value)
  | number {left right : String} (same : SameNumber parseF64 left right) :
      SameValue (.number left) (.number right)
  | text (value : String) : SameValue (.text value) (.text value)
  | list {lefts rights : List BrowserValue} (same : SameValues lefts rights) :
      SameValue (.list lefts) (.list rights)
  | map {lefts arranged matching rights : List (String × BrowserValue)}
      (left : lefts.Perm arranged) (same : SameRows arranged matching)
      (right : matching.Perm rights) : SameValue (.map lefts) (.map rights)

/-- One by one, in order. -/
inductive SameValues : List BrowserValue → List BrowserValue → Prop where
  | nil : SameValues [] []
  | cons {left right : BrowserValue} {lefts rights : List BrowserValue}
      (first : SameValue left right) (rest : SameValues lefts rights) :
      SameValues (left :: lefts) (right :: rights)

/-- One by one, under equal names. -/
inductive SameRows : List (String × BrowserValue) → List (String × BrowserValue) → Prop where
  | nil : SameRows [] []
  | cons (name : String) {left right : BrowserValue} {lefts rights : List (String × BrowserValue)}
      (first : SameValue left right) (rest : SameRows lefts rights) :
      SameRows ((name, left) :: lefts) ((name, right) :: rights)

end

/-- The same entries in any order. -/
def SameEntries (lefts rights : List (String × BrowserValue)) : Prop :=
  ∃ arranged matching, lefts.Perm arranged ∧ SameRows parseF64 arranged matching ∧
    matching.Perm rights

/-- Calls of one digest function on the same inputs. -/
inductive SameCall : DigestCall → DigestCall → Prop where
  | webglExtensions {webgl webgl2 other other2 : List String} (first : webgl.Perm other)
      (second : webgl2.Perm other2) :
      SameCall (.webglExtensions webgl webgl2) (.webglExtensions other other2)
  | webglParameters {values others : List BrowserKeyValueObservation}
      (same : SameEntries parseF64 values others) :
      SameCall (.webglParameters values) (.webglParameters others)
  | webgl2Parameters {values others : List BrowserKeyValueObservation}
      (same : SameEntries parseF64 values others) :
      SameCall (.webgl2Parameters values) (.webgl2Parameters others)
  | webgl2Disabled : SameCall .webgl2Disabled .webgl2Disabled
  | shaderPrecision {webgl webgl2 other other2 : List BrowserKeyValueObservation}
      (first : SameEntries parseF64 webgl other) (second : SameEntries parseF64 webgl2 other2) :
      SameCall (.shaderPrecision webgl webgl2) (.shaderPrecision other other2)
  | contextAttributes {webgl webgl2 other other2 : List BrowserKeyValueObservation}
      (first : SameEntries parseF64 webgl other) (second : SameEntries parseF64 webgl2 other2) :
      SameCall (.contextAttributes webgl webgl2) (.contextAttributes other other2)
  | fontSet {families others : List String} (same : families.Perm others) :
      SameCall (.fontSet families) (.fontSet others)
  | navigatorLanguages (languages : List String) :
      SameCall (.navigatorLanguages languages) (.navigatorLanguages languages)
  | speechVoices {voices others : List SpeechVoiceObservation} (same : voices.Perm others) :
      SameCall (.speechVoices voices) (.speechVoices others)
  | fontSpacingSeed {seed other : BrowserValue} (same : SameValue parseF64 seed other) :
      SameCall (.fontSpacingSeed seed) (.fontSpacingSeed other)
  | canvasSeed {seed other : BrowserValue} (same : SameValue parseF64 seed other) :
      SameCall (.canvasSeed seed) (.canvasSeed other)
  | audioSeed {seed other : BrowserValue} (same : SameValue parseF64 seed other) :
      SameCall (.audioSeed seed) (.audioSeed other)

end Sameness

section Numbers

theorem eq_of_isZero {value : BitVec 64} (zero : isZero value = true) :
    value = 0#64 ∨ value = 0x8000000000000000#64 := by
  have masked : value.toNat % 2 ^ 63 = 0 := by
    have bits := congrArg BitVec.toNat (beq_iff_eq.mp zero)
    rw [BitVec.toNat_and] at bits
    rw [← Nat.and_two_pow_sub_one_eq_mod]
    exact bits
  have bound := value.isLt
  have split : value.toNat = 0 ∨ value.toNat = 0x8000000000000000 := by omega
  exact split.imp (fun same => BitVec.eq_of_toNat_eq same) fun same => BitVec.eq_of_toNat_eq same

theorem isFinite_of_isZero {value : BitVec 64} (zero : isZero value = true) :
    isFinite value = true := by
  rcases eq_of_isZero zero with rfl | rfl <;> decide

theorem canonicalBrowserNumber_same {first second : BitVec 64}
    (same : first = second ∨ isZero first = true ∧ isZero second = true) :
    canonicalBrowserNumber first = canonicalBrowserNumber second := by
  rcases same with rfl | ⟨zero, other⟩
  · rfl
  · simp [canonicalBrowserNumber, isFinite_of_isZero zero, isFinite_of_isZero other, zero, other]

theorem hexDigit_injective {left right : Nat} (small : left < 16) (other : right < 16)
    (same : hexDigit left = hexDigit right) : left = right := by
  have all : ∀ left right : Fin 16, hexDigit left.val = hexDigit right.val → left = right := by
    decide
  exact congrArg Fin.val (all ⟨left, small⟩ ⟨right, other⟩ same)

theorem eq_of_digits {base places left right : Nat} (small : left < base ^ places)
    (other : right < base ^ places)
    (same : ∀ place < places, left / base ^ place % base = right / base ^ place % base) :
    left = right := by
  induction places generalizing left right with
  | zero =>
    rw [Nat.pow_zero] at small other
    omega
  | succ places ih =>
    rw [Nat.pow_succ] at small other
    have last := same 0 (Nat.succ_pos places)
    simp only [Nat.pow_zero, Nat.div_one] at last
    have front : left / base = right / base := by
      refine ih (Nat.div_lt_of_lt_mul (by rwa [Nat.mul_comm])) (Nat.div_lt_of_lt_mul
        (by rwa [Nat.mul_comm])) fun place within => ?_
      have next := same (place + 1) (Nat.succ_lt_succ within)
      rwa [Nat.pow_succ, Nat.mul_comm, ← Nat.div_div_eq_div_mul, ← Nat.div_div_eq_div_mul] at next
    rw [← Nat.div_add_mod left base, ← Nat.div_add_mod right base, front, last]

theorem hexBits_injective {left right : BitVec 64} (same : hexBits left = hexBits right) :
    left = right := by
  have chars := String.ofList_injective same
  have bound : ∀ value : BitVec 64, value.toNat < 16 ^ 16 := fun value => value.isLt
  refine BitVec.eq_of_toNat_eq (eq_of_digits (bound left) (bound right) ?_)
  intro place within
  have listed : 15 - place ∈ List.range 16 := List.mem_range.mpr (by omega)
  have digit := List.map_inj_left.mp chars (15 - place) listed
  have back : 15 - (15 - place) = place := by omega
  rw [back] at digit
  exact hexDigit_injective (Nat.mod_lt _ (by decide)) (Nat.mod_lt _ (by decide)) digit

theorem same_of_canonicalBrowserNumber {first second : BitVec 64} {text : String}
    (left : canonicalBrowserNumber first = some text)
    (right : canonicalBrowserNumber second = some text) :
    first = second ∨ isZero first = true ∧ isZero second = true := by
  have spelled : ∀ value, canonicalBrowserNumber value = some text →
      hexBits (if isZero value then 0#64 else value) = text := by
    intro value read
    unfold canonicalBrowserNumber at read
    split at read
    next => cases read
    next => exact Option.some.inj read
  have same := hexBits_injective ((spelled first left).trans (spelled second right).symm)
  have itself : isZero 0#64 = true := by decide
  split at same
  next zero =>
    split at same
    next other => exact .inr ⟨zero, other⟩
    next => exact .inr ⟨zero, same ▸ itself⟩
  next =>
    split at same
    next other => exact .inr ⟨same ▸ itself, other⟩
    next => exact .inl same

end Numbers

end ProfilePlatform.BrowserExecution
