import ProfilePlatform.BrowserExecution.ObservationBytes

/-! Calls of the digest functions: which of them hand the same bytes to the digester. -/

set_option autoImplicit false

namespace ProfilePlatform.BrowserExecution

open Foundation

section Strings

variable {label : String} {allowEmpty : Bool} {values others : List String}

theorem appendSortedStrings_eq_some {bytes : List UInt8} :
    appendSortedStrings label values allowEmpty = some bytes ↔
      Admissible values allowEmpty ∧ bytes = textComponent label ++
        countComponent values.length ++ (sortBy id values).flatMap textComponent := by
  have perm := perm_sortBy id values
  have refused := @not_refused_iff allowEmpty values
  have distinct := @adjacentEqual_sortBy String String _ id values
  rw [List.map_id, List.map_id] at distinct
  unfold appendSortedStrings
  split
  next holds =>
    refine ⟨fun impossible => (by cases impossible), fun described => ?_⟩
    obtain ⟨ready, -⟩ := described
    exact absurd holds (refused.mpr ⟨ready.filled, ready.few, ready.bounded⟩)
  next passes =>
    obtain ⟨filled, few, bounded⟩ := refused.mp passes
    dsimp only
    split
    next twice =>
      refine ⟨fun impossible => (by cases impossible), fun described => ?_⟩
      rw [distinct.mpr described.1.distinct] at twice
      cases twice
    next once =>
      have apart := distinct.mp (Bool.not_eq_true _ ▸ once)
      rw [perm.length_eq]
      constructor
      · intro done
        exact ⟨⟨filled, few, bounded, apart⟩, (Option.some.inj done).symm⟩
      · rintro ⟨-, rfl⟩
        rfl

theorem appendSortedStrings_perm (perm : values.Perm others) :
    appendSortedStrings label values allowEmpty = appendSortedStrings label others allowEmpty := by
  have oneWay : ∀ {values others : List String} {bytes : List UInt8}, values.Perm others →
      appendSortedStrings label values allowEmpty = some bytes →
        appendSortedStrings label others allowEmpty = some bytes := by
    intro values others bytes perm appended
    obtain ⟨ready, rfl⟩ := appendSortedStrings_eq_some.mp appended
    refine appendSortedStrings_eq_some.mpr ⟨⟨?_, ?_, ?_, perm.nodup_iff.mp ready.distinct⟩, ?_⟩
    · rintro ⟨strict, rfl⟩
      exact ready.filled ⟨strict, perm.eq_nil⟩
    · rw [← perm.length_eq]
      exact ready.few
    · exact fun name member => ready.bounded name (perm.mem_iff.mpr member)
    · rw [sortBy_perm_of_injective Function.injective_id perm, perm.length_eq]
  exact Option.ext fun bytes => ⟨oneWay perm, oneWay perm.symm⟩

theorem strings_cancel {first second more other : List UInt8}
    (left : appendSortedStrings label values allowEmpty = some first)
    (right : appendSortedStrings label others allowEmpty = some second)
    (same : first ++ more = second ++ other) : values.Perm others ∧ more = other := by
  obtain ⟨-, rfl⟩ := appendSortedStrings_eq_some.mp left
  obtain ⟨-, rfl⟩ := appendSortedStrings_eq_some.mp right
  simp only [List.append_assoc] at same
  obtain ⟨length, rest⟩ := countComponent_cancel (textComponent_cancel same).2
  have before := perm_sortBy id values
  have after := perm_sortBy id others
  have sorted : (sortBy id values).length = (sortBy id others).length := by
    rw [before.length_eq, after.length_eq, length]
  obtain ⟨all, ends⟩ := @forall₂_of_codes String textComponent Eq _ _ _ _
    (fun _ _ _ _ _ _ same => textComponent_cancel same) sorted rest
  rw [List.forall₂_eq_eq_eq] at all
  exact ⟨before.symm.trans (all ▸ after), ends⟩

end Strings

section Entries

variable {parseF64 : ParseF64} {label : String} {allowEmpty : Bool}
  {values others : List (String × BrowserValue)}

theorem SameEntries.rows_eq (same : SameEntries parseF64 values others) :
    appendKeyValues label (rowsOf parseF64 values) allowEmpty =
      appendKeyValues label (rowsOf parseF64 others) allowEmpty := by
  obtain ⟨arranged, matching, before, rows, after⟩ := same
  exact appendRows_same before rows.rows_eq after

theorem entries_cancel {first second more other : List UInt8}
    (left : appendKeyValues label (rowsOf parseF64 values) allowEmpty = some first)
    (right : appendKeyValues label (rowsOf parseF64 others) allowEmpty = some second)
    (same : first ++ more = second ++ other) :
    SameEntries parseF64 values others ∧ more = other := by
  obtain ⟨-, each, rfl⟩ := appendRows_eq_some.mp left
  obtain ⟨-, eachToo, rfl⟩ := appendRows_eq_some.mp right
  simp only [List.append_assoc] at same
  obtain ⟨length, rest⟩ := countComponent_cancel (textComponent_cancel same).2
  exact rows_cancel (fun row _ => value_cancels row.2) each eachToo length rest

theorem seed_cancel {seed opposite : BrowserValue} {first second : List UInt8}
    (left : appendBrowserValue parseF64 seed = some first)
    (right : appendBrowserValue parseF64 opposite = some second) (same : first = second) :
    SameValue parseF64 seed opposite := by
  refine (value_cancels seed opposite [] [] ?_ ?_ ?_).1
  · rw [Encodes, left]
    rfl
  · rw [Encodes, right]
    rfl
  · rw [valueCode, valueCode, left, right, same]

end Entries

section Voices

theorem voiceKey_injective : Function.Injective voiceKey := by
  intro left right same
  obtain ⟨_, _, _, _, _⟩ := left
  obtain ⟨_, _, _, _, _⟩ := right
  cases same
  rfl

theorem voiceBytes_cancel {left right : SpeechVoiceObservation} {more other : List UInt8}
    (same : voiceBytes left ++ more = voiceBytes right ++ other) :
    left = right ∧ more = other := by
  simp only [voiceBytes, List.append_assoc] at same
  obtain ⟨language, same⟩ := textComponent_cancel same
  obtain ⟨name, same⟩ := textComponent_cancel same
  obtain ⟨voiceUri, same⟩ := textComponent_cancel same
  obtain ⟨localService, same⟩ := textComponent_cancel same
  obtain ⟨isDefault, ends⟩ := textComponent_cancel same
  refine ⟨?_, ends⟩
  obtain ⟨_, _, _, _, _⟩ := left
  obtain ⟨_, _, _, _, _⟩ := right
  obtain rfl := language
  obtain rfl := name
  obtain rfl := voiceUri
  obtain rfl := flag_injective localService
  obtain rfl := flag_injective isDefault
  rfl

theorem voices_cancel {voices others : List SpeechVoiceObservation}
    (same : countComponent (sortBy voiceKey voices).length ++
        (sortBy voiceKey voices).flatMap voiceBytes =
      countComponent (sortBy voiceKey others).length ++
        (sortBy voiceKey others).flatMap voiceBytes) : voices.Perm others := by
  obtain ⟨length, rest⟩ := countComponent_cancel same
  have padded := congrArg (fun bytes => bytes ++ ([] : List UInt8)) rest
  obtain ⟨all, -⟩ := @forall₂_of_codes SpeechVoiceObservation voiceBytes Eq _ _ _ _
    (fun _ _ _ _ _ _ same => voiceBytes_cancel same) length padded
  rw [List.forall₂_eq_eq_eq] at all
  exact (perm_sortBy voiceKey voices).symm.trans (all ▸ perm_sortBy voiceKey others)

end Voices

namespace DigestCall

variable {parseF64 : ParseF64}

def domain : DigestCall → String
  | .webglExtensions _ _ => "webgl-extensions-v1"
  | .webglParameters _ => "webgl-parameters-v1"
  | .webgl2Parameters _ => "webgl2-parameters-v1"
  | .webgl2Disabled => "webgl2-disabled-v1"
  | .shaderPrecision _ _ => "webgl-shader-precision-v1"
  | .contextAttributes _ _ => "webgl-context-attributes-v1"
  | .fontSet _ => "font-set-v1"
  | .navigatorLanguages _ => "navigator-languages-v1"
  | .speechVoices _ => "speech-voices-v2"
  | .fontSpacingSeed _ => "font-spacing-seed-v1"
  | .canvasSeed _ => "canvas-seed-v1"
  | .audioSeed _ => "audio-seed-v1"

/-- What stands behind the domain. -/
def body (parseF64 : ParseF64) : DigestCall → Option (List UInt8)
  | .webglExtensions webgl webgl2 => do
    return (← appendSortedStrings "webgl" webgl true) ++
      (← appendSortedStrings "webgl2" webgl2 true)
  | .webglParameters values | .webgl2Parameters values =>
    appendKeyValues "values" (rowsOf parseF64 values) false
  | .webgl2Disabled => some []
  | .shaderPrecision webgl webgl2 | .contextAttributes webgl webgl2 => do
    return (← appendKeyValues "webgl" (rowsOf parseF64 webgl) true) ++
      (← appendKeyValues "webgl2" (rowsOf parseF64 webgl2) true)
  | .fontSet families => appendSortedStrings "families" families false
  | .navigatorLanguages languages =>
    if languages = [] ∨ maxCollectionRows < languages.length ∨
        languages.any (fun value => !boundedText value) = true then none
    else some (countComponent languages.length ++ languages.flatMap textComponent)
  | .speechVoices voices =>
    if maxCollectionRows < voices.length ∨ voices.any (fun voice => !boundedText voice.language ||
        !boundedText voice.name || !boundedText voice.voiceUri) = true then none
    else some (countComponent (sortBy voiceKey voices).length ++
      (sortBy voiceKey voices).flatMap voiceBytes)
  | .fontSpacingSeed seed | .canvasSeed seed | .audioSeed seed => appendBrowserValue parseF64 seed

theorem pair_eq {R : Type} (digest : List UInt8 → Option R) (front : List UInt8)
    (first second : Option (List UInt8)) :
    (do
      let first ← first
      let second ← second
      digest (front ++ first ++ second)) =
    (do return (← first) ++ (← second) : Option (List UInt8)).bind fun bytes =>
      digest (front ++ bytes) := by
  cases first with
  | none => rfl
  | some first =>
    cases second with
    | none => rfl
    | some second => exact congrArg digest (List.append_assoc _ _ _)

theorem run_eq {R : Type} (digest : List UInt8 → Option R) (call : DigestCall) :
    call.run digest parseF64 =
      (call.body parseF64).bind fun bytes => digest (domainBytes call.domain ++ bytes) := by
  cases call with
  | webglExtensions webgl webgl2 => exact pair_eq digest _ _ _
  | shaderPrecision webgl webgl2 => exact pair_eq digest _ _ _
  | contextAttributes webgl webgl2 => exact pair_eq digest _ _ _
  | webgl2Disabled => exact congrArg digest (List.append_nil _).symm
  | fontSet families =>
    simp only [run, canonicalFontSetSha256, body, domain]
    split
    next empty =>
      subst empty
      rfl
    next => rfl
  | navigatorLanguages languages =>
    simp only [run, canonicalNavigatorLanguagesSha256, body, domain]
    split
    next => rfl
    next => exact congrArg digest (List.append_assoc _ _ _)
  | speechVoices voices =>
    simp only [run, canonicalSpeechVoicesSha256, body, domain]
    split
    next => rfl
    next => exact congrArg digest (List.append_assoc _ _ _)
  | _ => rfl

theorem handed_eq_some {call : DigestCall} {bytes : List UInt8} :
    call.handed parseF64 = some bytes ↔
      ∃ body, call.body parseF64 = some body ∧ bytes = domainBytes call.domain ++ body := by
  unfold handed
  rw [run_eq, Option.bind_eq_some_iff]
  exact exists_congr fun body => and_congr Iff.rfl ⟨fun same => (Option.some.inj same).symm,
    fun same => congrArg some same.symm⟩

theorem body_same {left right : DigestCall} (same : SameCall parseF64 left right) :
    left.domain = right.domain ∧ left.body parseF64 = right.body parseF64 := by
  cases same with
  | webglExtensions first second =>
    refine ⟨rfl, ?_⟩
    simp only [body, appendSortedStrings_perm first, appendSortedStrings_perm second]
  | webglParameters same => exact ⟨rfl, same.rows_eq⟩
  | webgl2Parameters same => exact ⟨rfl, same.rows_eq⟩
  | webgl2Disabled => exact ⟨rfl, rfl⟩
  | shaderPrecision first second =>
    refine ⟨rfl, ?_⟩
    simp only [body, first.rows_eq, second.rows_eq]
  | contextAttributes first second =>
    refine ⟨rfl, ?_⟩
    simp only [body, first.rows_eq, second.rows_eq]
  | fontSet same => exact ⟨rfl, appendSortedStrings_perm same⟩
  | navigatorLanguages => exact ⟨rfl, rfl⟩
  | speechVoices same =>
    refine ⟨rfl, ?_⟩
    have sorted := sortBy_perm_of_injective voiceKey_injective same
    have spoken := same.any_eq (f := fun voice => !boundedText voice.language ||
      !boundedText voice.name || !boundedText voice.voiceUri)
    simp only [body, sorted, spoken, same.length_eq]
  | fontSpacingSeed same => exact ⟨rfl, same.append_eq⟩
  | canvasSeed same => exact ⟨rfl, same.append_eq⟩
  | audioSeed same => exact ⟨rfl, same.append_eq⟩

theorem pair_cancel {first second other opposite : Option (List UInt8)} {bytes : List UInt8}
    (left : (do return (← first) ++ (← second) : Option (List UInt8)) = some bytes)
    (right : (do return (← other) ++ (← opposite) : Option (List UInt8)) = some bytes) :
    ∃ a b c d, first = some a ∧ second = some b ∧ other = some c ∧ opposite = some d ∧
      a ++ b = c ++ d := by
  obtain ⟨a, one, left⟩ := Option.bind_eq_some_iff.mp left
  obtain ⟨b, two, left⟩ := Option.bind_eq_some_iff.mp left
  obtain ⟨c, three, right⟩ := Option.bind_eq_some_iff.mp right
  obtain ⟨d, four, right⟩ := Option.bind_eq_some_iff.mp right
  exact ⟨a, b, c, d, one, two, three, four, (Option.some.inj left).trans (Option.some.inj right).symm⟩

theorem languages_cancel {languages others : List String} {bytes : List UInt8}
    (first : (navigatorLanguages languages).body parseF64 = some bytes)
    (second : (navigatorLanguages others).body parseF64 = some bytes) : languages = others := by
  simp only [body] at first second
  split at first
  next => cases first
  next =>
    split at second
    next => cases second
    next =>
      have same := (Option.some.inj first).trans (Option.some.inj second).symm
      obtain ⟨length, rest⟩ := countComponent_cancel same
      have padded := congrArg (fun bytes => bytes ++ ([] : List UInt8)) rest
      obtain ⟨all, -⟩ := @forall₂_of_codes String textComponent Eq _ _ _ _
        (fun _ _ _ _ _ _ same => textComponent_cancel same) length padded
      rwa [List.forall₂_eq_eq_eq] at all

theorem speech_cancel {voices others : List SpeechVoiceObservation} {bytes : List UInt8}
    (first : (speechVoices voices).body parseF64 = some bytes)
    (second : (speechVoices others).body parseF64 = some bytes) : voices.Perm others := by
  simp only [body] at first second
  split at first
  next => cases first
  next =>
    split at second
    next => cases second
    next => exact voices_cancel ((Option.some.inj first).trans (Option.some.inj second).symm)

theorem same_of_body {left right : DigestCall} {bytes : List UInt8}
    (domains : left.domain = right.domain) (first : left.body parseF64 = some bytes)
    (second : right.body parseF64 = some bytes) : SameCall parseF64 left right := by
  cases left with
  | webglExtensions webgl webgl2 =>
    cases right with
    | webglExtensions other other2 =>
      obtain ⟨a, b, c, d, one, two, three, four, same⟩ := pair_cancel first second
      obtain ⟨front, rest⟩ := strings_cancel one three same
      have padded := congrArg (fun bytes => bytes ++ ([] : List UInt8)) rest
      exact .webglExtensions front (strings_cancel two four padded).1
    | _ => exact absurd domains (by simp [domain])
  | webglParameters values =>
    cases right with
    | webglParameters others =>
      exact .webglParameters (entries_cancel first second (rfl : bytes ++ [] = bytes ++ [])).1
    | _ => exact absurd domains (by simp [domain])
  | webgl2Parameters values =>
    cases right with
    | webgl2Parameters others =>
      exact .webgl2Parameters (entries_cancel first second (rfl : bytes ++ [] = bytes ++ [])).1
    | _ => exact absurd domains (by simp [domain])
  | webgl2Disabled =>
    cases right with
    | webgl2Disabled => exact .webgl2Disabled
    | _ => exact absurd domains (by simp [domain])
  | shaderPrecision webgl webgl2 =>
    cases right with
    | shaderPrecision other other2 =>
      obtain ⟨a, b, c, d, one, two, three, four, same⟩ := pair_cancel first second
      obtain ⟨front, rest⟩ := entries_cancel one three same
      have padded := congrArg (fun bytes => bytes ++ ([] : List UInt8)) rest
      exact .shaderPrecision front (entries_cancel two four padded).1
    | _ => exact absurd domains (by simp [domain])
  | contextAttributes webgl webgl2 =>
    cases right with
    | contextAttributes other other2 =>
      obtain ⟨a, b, c, d, one, two, three, four, same⟩ := pair_cancel first second
      obtain ⟨front, rest⟩ := entries_cancel one three same
      have padded := congrArg (fun bytes => bytes ++ ([] : List UInt8)) rest
      exact .contextAttributes front (entries_cancel two four padded).1
    | _ => exact absurd domains (by simp [domain])
  | fontSet families =>
    cases right with
    | fontSet others =>
      exact .fontSet (strings_cancel first second (rfl : bytes ++ [] = bytes ++ [])).1
    | _ => exact absurd domains (by simp [domain])
  | navigatorLanguages languages =>
    cases right with
    | navigatorLanguages others =>
      obtain rfl := languages_cancel first second
      exact .navigatorLanguages languages
    | _ => exact absurd domains (by simp [domain])
  | speechVoices voices =>
    cases right with
    | speechVoices others => exact .speechVoices (speech_cancel first second)
    | _ => exact absurd domains (by simp [domain])
  | fontSpacingSeed seed =>
    cases right with
    | fontSpacingSeed opposite => exact .fontSpacingSeed (seed_cancel first second rfl)
    | _ => exact absurd domains (by simp [domain])
  | canvasSeed seed =>
    cases right with
    | canvasSeed opposite => exact .canvasSeed (seed_cancel first second rfl)
    | _ => exact absurd domains (by simp [domain])
  | audioSeed seed =>
    cases right with
    | audioSeed opposite => exact .audioSeed (seed_cancel first second rfl)
    | _ => exact absurd domains (by simp [domain])

end DigestCall

/-- The bytes handed to the digester identify the call and its inputs: they are equal exactly when
both calls are of one function on the same inputs, up to the order of named entries and of sets
and up to the spelling of numbers. -/
theorem handed_eq_iff (parseF64 : ParseF64) (left right : DigestCall) (first second : List UInt8)
    (handedLeft : left.handed parseF64 = some first)
    (handedRight : right.handed parseF64 = some second) :
    (∀ {R : Type} (digest : List UInt8 → Option R),
      left.run digest parseF64 = digest first ∧ right.run digest parseF64 = digest second) ∧
      (first = second ↔ SameCall parseF64 left right) := by
  obtain ⟨body, found, rfl⟩ := DigestCall.handed_eq_some.mp handedLeft
  obtain ⟨other, foundToo, rfl⟩ := DigestCall.handed_eq_some.mp handedRight
  refine ⟨fun digest => ?_, ?_, ?_⟩
  · rw [DigestCall.run_eq, DigestCall.run_eq, found, foundToo]
    exact ⟨rfl, rfl⟩
  · intro same
    obtain ⟨domains, rfl⟩ := textComponent_cancel same
    exact DigestCall.same_of_body domains found foundToo
  · intro same
    obtain ⟨domains, bodies⟩ := DigestCall.body_same same
    rw [found, foundToo] at bodies
    rw [domains, Option.some.inj bodies]

namespace TwoSpellings

/-- What two spellings of one are read as. -/
def parse : ParseF64 := fun text =>
  if text = "1" ∨ text = "1.0" then some 0x3ff0000000000000#64 else none

def seedBytes : List UInt8 :=
  domainBytes "audio-seed-v1" ++
    (textComponent "number" ++ textComponent "3ff0000000000000")

theorem one_digest : (∀ {R : Type} (digest : List UInt8 → Option R),
      (DigestCall.audioSeed (.number "1")).run digest parse = digest seedBytes ∧
        (DigestCall.audioSeed (.number "1.0")).run digest parse = digest seedBytes) ∧
      (seedBytes = seedBytes ↔
        SameCall parse (.audioSeed (.number "1")) (.audioSeed (.number "1.0"))) :=
  handed_eq_iff parse (.audioSeed (.number "1")) (.audioSeed (.number "1.0")) seedBytes seedBytes
    (by decide) (by decide)

end TwoSpellings

end ProfilePlatform.BrowserExecution
