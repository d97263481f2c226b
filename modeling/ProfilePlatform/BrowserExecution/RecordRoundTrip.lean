import ProfilePlatform.BrowserExecution.RecordFields

/-! A record is read back as the identity it was written for, whatever the order of its lines; it
is the record of that identity only in the canonical order and spelling. -/

set_option autoImplicit false

namespace ProfilePlatform.BrowserExecution

open Foundation

section PlainTexts

variable {text : String}

theorem plain_of_bytes {class_ : UInt8 → Bool} (excluded : [10, 13, 0].any class_ = false)
    (bytes : ∀ byte ∈ utf8Bytes text, class_ byte = true) : Plain text := by
  intro char member
  have absent : ∀ other : Char, other.toNat < 128 →
      UInt8.ofNat other.toNat ∈ [(10 : UInt8), 13, 0] → char ≠ other := by
    rintro other ascii listed rfl
    have accepted := List.any_eq_true.mpr ⟨_, listed, bytes _ (byte_mem_of_char ascii member)⟩
    rw [excluded] at accepted
    cases accepted
  exact ⟨absent '\n' (by decide) (by decide), absent '\r' (by decide) (by decide),
    absent '\x00' (by decide) (by decide)⟩

theorem ne_empty_of_bytes (filled : utf8Bytes text ≠ []) : text ≠ "" := by
  rintro rfl
  exact filled rfl

instance (text : String) : Decidable (Plain text) := List.decidableBAll _ _

/-- A value that may stand in a record. -/
def RecordValue (text : String) : Prop := text ≠ "" ∧ Plain text

instance (text : String) : Decidable (RecordValue text) := instDecidableAnd

theorem recordValue_visible {maximum : Nat} (valid : validVisibleText text maximum = true) :
    RecordValue text := by
  simp only [validVisibleText, Bool.and_eq_true, Bool.not_eq_true', List.isEmpty_eq_false_iff,
    List.any_eq_false] at valid
  have excluded : [10, 13, 0].any (fun byte => !isAsciiControl byte) = false := by decide
  refine ⟨ne_empty_of_bytes valid.1.1, plain_of_bytes excluded fun byte member => ?_⟩
  simpa using valid.2 byte member

theorem recordValue_sha256 (valid : validSha256 text = true) : RecordValue text := by
  simp only [validSha256, Bool.and_eq_true, List.all_eq_true, beq_iff_eq] at valid
  refine ⟨ne_empty_of_bytes fun empty => ?_, plain_of_bytes (by decide) valid.2⟩
  rw [empty] at valid
  cases valid.1

theorem recordValue_token (valid : validToken text = true) : RecordValue text := by
  simp only [validToken, Bool.and_eq_true, List.all_eq_true, decide_eq_true_eq] at valid
  refine ⟨ne_empty_of_bytes fun empty => ?_, plain_of_bytes (by decide) valid.2⟩
  rw [empty] at valid
  exact absurd valid.1.1 (by decide)

theorem recordValue_nat (number : Nat) : RecordValue (toString number) := by
  have spelled : utf8Bytes (toString number) = Decimal.digits number := utf8_toString number
  have excluded : [10, 13, 0].any Decimal.isDigit = false := by decide
  refine ⟨ne_empty_of_bytes ?_, plain_of_bytes excluded fun byte member => ?_⟩
  · rw [spelled]
    exact Decimal.digits_ne_nil number
  · rw [spelled] at member
    exact Decimal.isDigit_of_mem_digits member

theorem recordValue_int (number : Int) : RecordValue (toString number) := by
  cases number with
  | ofNat number => exact recordValue_nat number
  | negSucc number =>
    have spelled : utf8Bytes (toString (Int.negSucc number)) =
        45 :: Decimal.digits (number + 1) := Decimal.utf8_toString_int _
    have excluded : [10, 13, 0].any (fun byte => byte == 45 || Decimal.isDigit byte) = false := by
      decide
    refine ⟨ne_empty_of_bytes ?_, plain_of_bytes excluded fun byte member => ?_⟩
    · rw [spelled]
      exact List.cons_ne_nil _ _
    · rw [spelled] at member
      rcases List.mem_cons.mp member with rfl | digit
      · rfl
      · simp [Decimal.isDigit_of_mem_digits digit]

end PlainTexts

section Numerals

/-- A decimal without a plus sign, without zeros in front of it and without a sign on zero; or the
marker of an absent number. -/
def canonicalNumeral (text : String) : Bool :=
  text == noneMarker || Decimal.canonicalSigned (utf8Bytes text)

theorem utf8_inj {left right : String} (same : utf8Bytes left = utf8Bytes right) : left = right :=
  eq_of_utf8 same

theorem not_none_of_parse {limit number : Nat} {text : String}
    (read : Decimal.parse limit (utf8Bytes text) = some number) : text ≠ noneMarker := by
  rintro rfl
  have rejected : Decimal.parse limit (utf8Bytes noneMarker) = none := rfl
  rw [rejected] at read
  cases read

theorem canonicalNumeral_nat {limit number : Nat} {text : String}
    (read : Decimal.parse limit (utf8Bytes text) = some number) :
    canonicalNumeral text = true ↔ text = toString number := by
  have unmarked := not_none_of_parse read
  have spelled : utf8Bytes (toString number) = Decimal.digits number := utf8_toString number
  unfold canonicalNumeral
  rw [Bool.or_eq_true, beq_iff_eq, or_iff_right unmarked, Decimal.canonicalSigned_iff_digits read,
    ← spelled]
  exact ⟨utf8_inj, congrArg utf8Bytes⟩

theorem canonicalNumeral_int {limit : Nat} {number : Int} {text : String}
    (read : Decimal.parseSigned limit (utf8Bytes text) = some number) :
    canonicalNumeral text = true ↔ text = toString number := by
  have unmarked : text ≠ noneMarker := by
    rintro rfl
    have rejected : Decimal.parseSigned limit (utf8Bytes noneMarker) = none := rfl
    rw [rejected] at read
    cases read
  have spelled : utf8Bytes (toString number) = Decimal.spelled number :=
    Decimal.utf8_toString_int number
  unfold canonicalNumeral
  rw [Bool.or_eq_true, beq_iff_eq, or_iff_right unmarked, Decimal.canonicalSigned_iff_spelled read,
    ← spelled]
  exact ⟨utf8_inj, congrArg utf8Bytes⟩

theorem u16FromStr_eq_some {text : String} {number : UInt16} :
    u16FromStr text = some number ↔ Decimal.parse UInt16.size (utf8Bytes text) = some number.toNat := by
  unfold u16FromStr
  constructor
  · intro read
    obtain ⟨natural, parsed, rfl⟩ := Option.map_eq_some_iff.mp read
    rw [parsed, UInt16.toNat_ofNat', Nat.mod_eq_of_lt (Decimal.parse_lt parsed)]
  · intro parsed
    rw [parsed, Option.map_some, UInt16.ofNat_toNat]

theorem u32FromStr_eq_some {text : String} {number : UInt32} :
    u32FromStr text = some number ↔ Decimal.parse UInt32.size (utf8Bytes text) = some number.toNat := by
  unfold u32FromStr
  constructor
  · intro read
    obtain ⟨natural, parsed, rfl⟩ := Option.map_eq_some_iff.mp read
    rw [parsed, UInt32.toNat_ofNat', Nat.mod_eq_of_lt (Decimal.parse_lt parsed)]
  · intro parsed
    rw [parsed, Option.map_some, UInt32.ofNat_toNat]

theorem i32FromStr_eq_some {text : String} {number : Int32} :
    i32FromStr text = some number ↔
      Decimal.parseSigned 2147483648 (utf8Bytes text) = some number.toInt := by
  unfold i32FromStr
  constructor
  · intro read
    obtain ⟨integer, parsed, rfl⟩ := Option.map_eq_some_iff.mp read
    obtain ⟨low, high⟩ := Decimal.parseSigned_bounds (by decide) parsed
    rw [parsed, Int32.toInt_ofInt_of_le low high]
  · intro parsed
    rw [parsed, Option.map_some, Int32.ofInt_toInt]

theorem u16FromStr_toString (number : UInt16) :
    u16FromStr (toString number.toNat) = some number := by
  have spelled : utf8Bytes (toString number.toNat) = Decimal.digits number.toNat := utf8_toString _
  rw [u16FromStr_eq_some, spelled]
  exact Decimal.parse_digits number.toNat_lt_size

theorem u32FromStr_toString (number : UInt32) :
    u32FromStr (toString number.toNat) = some number := by
  have spelled : utf8Bytes (toString number.toNat) = Decimal.digits number.toNat := utf8_toString _
  rw [u32FromStr_eq_some, spelled]
  exact Decimal.parse_digits number.toNat_lt_size

theorem i32FromStr_toString (number : Int32) :
    i32FromStr (toString number.toInt) = some number := by
  have spelled : utf8Bytes (toString number.toInt) = Decimal.spelled number.toInt :=
    Decimal.utf8_toString_int _
  rw [i32FromStr_eq_some, spelled]
  exact Decimal.parseSigned_spelled number.le_toInt number.toInt_lt

end Numerals

section Lawful

/-- A key that may stand in a record. -/
def RecordKey (key : String) : Prop := key ≠ "" ∧ '=' ∉ key.toList ∧ Plain key

instance (key : String) : Decidable (RecordKey key) := instDecidableAnd

/-- A field is read from its own text, and from no other that is spelled canonically. -/
structure RecordField.Lawful (field : RecordField) : Prop where
  own : field.reads field.text = true
  value : RecordValue field.text
  canonical : field.numeric = true → canonicalNumeral field.text = true
  unique : ∀ other, field.reads other = true →
    (field.numeric = true → canonicalNumeral other = true) → other = field.text

open RecordField

variable {key text : String}

theorem lawful_exact (value : RecordValue text) : (exact key text).Lawful where
  own := beq_self_eq_true text
  value := value
  canonical := fun impossible => by cases impossible
  unique := fun _ same _ => beq_iff_eq.mp same

theorem lawful_u16 (number : UInt16) : (u16 key number).Lawful where
  own := beq_iff_eq.mpr (u16FromStr_toString number)
  value := recordValue_nat number.toNat
  canonical := fun _ =>
    (canonicalNumeral_nat (u16FromStr_eq_some.mp (u16FromStr_toString number))).mpr rfl
  unique := fun _ same canonical =>
    (canonicalNumeral_nat (u16FromStr_eq_some.mp (beq_iff_eq.mp same))).mp (canonical rfl)

theorem lawful_u32 (number : UInt32) : (u32 key number).Lawful where
  own := beq_iff_eq.mpr (u32FromStr_toString number)
  value := recordValue_nat number.toNat
  canonical := fun _ =>
    (canonicalNumeral_nat (u32FromStr_eq_some.mp (u32FromStr_toString number))).mpr rfl
  unique := fun _ same canonical =>
    (canonicalNumeral_nat (u32FromStr_eq_some.mp (beq_iff_eq.mp same))).mp (canonical rfl)

theorem lawful_i32 (number : Int32) : (i32 key number).Lawful where
  own := beq_iff_eq.mpr (i32FromStr_toString number)
  value := recordValue_int number.toInt
  canonical := fun _ =>
    (canonicalNumeral_int (i32FromStr_eq_some.mp (i32FromStr_toString number))).mpr rfl
  unique := fun _ same canonical =>
    (canonicalNumeral_int (i32FromStr_eq_some.mp (beq_iff_eq.mp same))).mp (canonical rfl)

theorem lawful_memory (number : Option UInt16) : (memory number).Lawful := by
  cases number with
  | none =>
    refine ⟨rfl, by decide, fun _ => rfl, fun other same canonical => ?_⟩
    have same := beq_iff_eq.mp same
    split at same
    next marked => exact marked
    next =>
      obtain ⟨_, -, impossible⟩ := Option.map_eq_some_iff.mp same
      cases impossible
  | some number =>
    have own := u16FromStr_toString number
    have unmarked := not_none_of_parse (u16FromStr_eq_some.mp own)
    refine ⟨?_, recordValue_nat number.toNat,
      fun _ => (canonicalNumeral_nat (u16FromStr_eq_some.mp own)).mpr rfl,
      fun other same canonical => ?_⟩
    · refine beq_iff_eq.mpr ?_
      exact (if_neg unmarked).trans (congrArg (Option.map some) own)
    · have same := beq_iff_eq.mp same
      split at same
      next => cases same
      next =>
        obtain ⟨read, parsed, known⟩ := Option.map_eq_some_iff.mp same
        cases known
        exact (canonicalNumeral_nat (u16FromStr_eq_some.mp parsed)).mp (canonical rfl)

theorem lawful_mode (origin : OriginDeterminismMode) : (mode origin).Lawful :=
  lawful_exact (by cases origin <;> decide)

theorem lawful_speech {digest : Option String}
    (valid : (digest.any fun value => !validSha256 value) = false) : (speech digest).Lawful := by
  cases digest with
  | none =>
    refine ⟨rfl, by decide, (fun impossible => by cases impossible), fun other same _ => ?_⟩
    have same := beq_iff_eq.mp same
    split at same
    next marked => exact marked
    next => cases same
  | some value =>
    have valid : validSha256 value = true := by simpa using valid
    have unmarked : value ≠ noneMarker := by
      rintro rfl
      have rejected : validSha256 noneMarker = false := by decide
      rw [rejected] at valid
      cases valid
    refine ⟨beq_iff_eq.mpr (if_neg unmarked), recordValue_sha256 valid,
      (fun impossible => by cases impossible), fun other same _ => ?_⟩
    have same := beq_iff_eq.mp same
    split at same
    next => cases same
    next => exact Option.some.inj same

end Lawful

section Tables

open RecordField

/-- The keys of a record in their order, and which of them give numbers. -/
def recordKeys : List (String × Bool) :=
  [("schema", false), ("compatibility_version", true), ("fingerprint_policy_version", false),
    ("runtime_version", false), ("runtime_inventory_sha256", false),
    ("fingerprint_source", false), ("fingerprint_config_sha256", false),
    ("profile_schema_version", true), ("browser_user_agent", false), ("browser_major", true),
    ("browser_platform", false), ("browser_oscpu", false), ("hardware_concurrency", true),
    ("device_memory_gib", true), ("max_touch_points", true), ("display_width", true),
    ("display_height", true), ("display_avail_width", true), ("display_avail_height", true),
    ("display_avail_left", true), ("display_avail_top", true), ("display_color_depth", true),
    ("display_pixel_depth", true), ("display_dpr_milli", true), ("webgl_vendor", false),
    ("webgl_renderer", false), ("webgl_extensions_sha256", false),
    ("webgl_parameters_sha256", false), ("webgl2_parameters_sha256", false),
    ("shader_precision_sha256", false), ("context_attributes_sha256", false),
    ("font_set_sha256", false), ("spacing_seed_sha256", false), ("origin_mode", false),
    ("canvas_seed_sha256", false), ("audio_seed_sha256", false), ("language", false),
    ("languages_sha256", false), ("speech_voices_sha256", false)]

variable (self : BrowserIdentityManifest) (stable : ProfileStableIdentity)

theorem stableTable_keys : (stableTable self stable).map (fun field => (field.key, field.numeric)) =
    recordKeys := rfl

theorem recordKeys_distinct : (recordKeys.map Prod.fst).Nodup := by decide +kernel

theorem recordKeys_plain : ∀ key ∈ recordKeys, RecordKey key.1 := by decide +kernel

theorem lawful_common : ∀ field ∈ commonTable self, field.Lawful := by
  have tokens := self.accepted.tokens
  have digests := self.accepted.digests
  simp only [List.all_cons, List.all_nil, Bool.and_true, Bool.and_eq_true] at tokens digests
  simp only [commonTable, List.forall_mem_cons]
  exact ⟨lawful_u32 _, lawful_exact (recordValue_token tokens.1),
    lawful_exact (recordValue_token tokens.2.1), lawful_exact (recordValue_sha256 digests.1),
    lawful_exact (recordValue_token tokens.2.2), lawful_exact (recordValue_sha256 digests.2),
    by simp⟩

theorem lawful_parts : ∀ field ∈ partsTable stable, field.Lawful := by
  obtain ⟨version, browser, hardware, display, graphics, fonts, origin, locale, -⟩ := stable
  have os := browser.accepted
  have gl := graphics.accepted
  have digests := fonts.accepted
  have seeds := origin.accepted
  have spoken := locale.accepted
  simp only [BrowserOsIdentity.accepts, GraphicsIdentity.accepts, LocaleIdentity.accepts,
    List.all_cons, List.all_nil, Bool.and_true, Bool.and_eq_true, Bool.not_eq_true']
    at os gl digests seeds spoken
  simp only [partsTable, List.forall_mem_cons]
  exact ⟨lawful_u32 _, lawful_exact (recordValue_visible os.1.1.2), lawful_u16 _,
    lawful_exact (recordValue_visible os.1.2), lawful_exact (recordValue_visible os.2),
    lawful_u16 _, lawful_memory _, lawful_u16 _, lawful_u32 _, lawful_u32 _, lawful_u32 _,
    lawful_u32 _, lawful_i32 _, lawful_i32 _, lawful_u16 _, lawful_u16 _, lawful_u32 _,
    lawful_exact (recordValue_visible gl.1.1), lawful_exact (recordValue_visible gl.1.2),
    lawful_exact (recordValue_sha256 gl.2.1), lawful_exact (recordValue_sha256 gl.2.2.1),
    lawful_exact (recordValue_sha256 gl.2.2.2.1), lawful_exact (recordValue_sha256 gl.2.2.2.2.1),
    lawful_exact (recordValue_sha256 gl.2.2.2.2.2),
    lawful_exact (recordValue_sha256 digests.1), lawful_exact (recordValue_sha256 digests.2),
    lawful_mode _, lawful_exact (recordValue_sha256 seeds.1),
    lawful_exact (recordValue_sha256 seeds.2), lawful_exact (recordValue_visible spoken.1.1),
    lawful_exact (recordValue_sha256 spoken.1.2), lawful_speech spoken.2, by simp⟩

end Tables

end ProfilePlatform.BrowserExecution
