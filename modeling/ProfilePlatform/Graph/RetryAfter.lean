import ProfilePlatform.Foundation.Civil
import ProfilePlatform.Foundation.Integers
import ProfilePlatform.Imap.Texts

/-! When a throttled provider wants to be asked again.

The header tells a number of seconds or a date. A result is nothing where an operation of sixty-four
bits that nobody checks overflows; inside it is what the source returns.
-/

set_option autoImplicit false

namespace ProfilePlatform.Graph

open Foundation
open Foundation.Civil (Date)
open Imap (Bytes ascii splitAsciiWhitespace isAsciiWhitespace)

def checkedMul (value factor : Nat) : Option Nat :=
  if value * factor < u64Limit then some (value * factor) else none

section Source

def parseI64 (text : Bytes) : Option Int := Decimal.parseSigned 0x8000000000000000 text

def monthNames : List Bytes :=
  ["Jan", "Feb", "Mar", "Apr", "May", "Jun", "Jul", "Aug", "Sep", "Oct", "Nov", "Dec"].map ascii

def monthOf (name : Bytes) : Option Nat := (monthNames.idxOf? name).map (· + 1)

structure Fields where
  day : Int
  month : Nat
  year : Int
  hour : Int
  minute : Int
  second : Int

/-- The fields of a date, whose ranges are looked at from above. -/
def parseFields (day month year time : Bytes) : Option Fields := do
  let day ← parseI64 day
  let month ← monthOf month
  let year ← parseI64 year
  match time.splitOn 58 with
  | [hour, minute, second] => do
    let hour ← parseI64 hour
    let minute ← parseI64 minute
    let second ← parseI64 second
    if 23 < hour ∨ 59 < minute ∨ 59 < second then none
    else some ⟨day, month, year, hour, minute, second⟩
  | _ => none

def daysFromCivil (year : Int) (month : Nat) (day : Int) : Option (Option Int) :=
  if month < 1 ∨ 12 < month ∨ day < 1 ∨ (Civil.daysInMonth year month : Int) < day then some none
  else (Civil.eraNumber64 year month day).map some

/-- Each sum and product is checked here. -/
def secondsAt (days hour minute second : Int) : Option Int := do
  let fromDays ← i64 (days * 86400)
  let fromHours ← i64 (hour * 3600)
  let hours ← i64 (fromDays + fromHours)
  let fromMinutes ← i64 (minute * 60)
  let minutes ← i64 (hours + fromMinutes)
  i64 (minutes + second)

def millisAt (fields : Fields) (days : Int) : Option UnixMillis := do
  let seconds ← secondsAt days fields.hour fields.minute fields.second
  if seconds < 0 then none else checkedMul seconds.toNat 1000

def parseImfFixdate (value : Bytes) : Option (Option UnixMillis) :=
  match splitAsciiWhitespace value with
  | [weekday, day, month, year, time, zone] =>
    if weekday.getLast? ≠ some 44 ∨ zone ≠ ascii "GMT" then some none
    else match parseFields day month year time with
      | none => some none
      | some fields =>
        (daysFromCivil fields.year fields.month fields.day).map fun days => days.bind (millisAt fields)
  | _ => some none

def parseRetryAfter (value : Bytes) (now : UnixMillis) : Option (Option UnixMillis) :=
  match Decimal.parse u64Limit value with
  | some seconds => some ((checkedMul seconds 1000).bind (checkedAdd now))
  | none => parseImfFixdate value

end Source

section Reading

/-- Six words, and what the source reads of them. -/
structure Read (value : Bytes) (fields : Fields) : Prop where
  words : ∃ weekday dayText monthText yearText timeText hourText minuteText secondText,
    splitAsciiWhitespace value = [weekday, dayText, monthText, yearText, timeText, ascii "GMT"] ∧
    weekday.getLast? = some 44 ∧ timeText.splitOn 58 = [hourText, minuteText, secondText] ∧
    parseI64 dayText = some fields.day ∧ monthOf monthText = some fields.month ∧
    parseI64 yearText = some fields.year ∧ parseI64 hourText = some fields.hour ∧
    parseI64 minuteText = some fields.minute ∧ parseI64 secondText = some fields.second
  hours : fields.hour ≤ 23
  minutes : fields.minute ≤ 59
  seconds : fields.second ≤ 59

variable {value : Bytes} {fields : Fields}

theorem parseFields_eq_some {day month year time : Bytes} :
    parseFields day month year time = some fields ↔
      ∃ hourText minuteText secondText, time.splitOn 58 = [hourText, minuteText, secondText] ∧
        parseI64 day = some fields.day ∧ monthOf month = some fields.month ∧
        parseI64 year = some fields.year ∧ parseI64 hourText = some fields.hour ∧
        parseI64 minuteText = some fields.minute ∧ parseI64 secondText = some fields.second ∧
        fields.hour ≤ 23 ∧ fields.minute ≤ 59 ∧ fields.second ≤ 59 := by
  constructor
  · intro read
    unfold parseFields at read
    obtain ⟨_, dayRead, read⟩ := Option.bind_eq_some_iff.mp read
    obtain ⟨_, monthRead, read⟩ := Option.bind_eq_some_iff.mp read
    obtain ⟨_, yearRead, read⟩ := Option.bind_eq_some_iff.mp read
    split at read
    next hourText minuteText secondText times =>
      obtain ⟨_, hourRead, read⟩ := Option.bind_eq_some_iff.mp read
      obtain ⟨_, minuteRead, read⟩ := Option.bind_eq_some_iff.mp read
      obtain ⟨_, secondRead, read⟩ := Option.bind_eq_some_iff.mp read
      split at read
      next => cases read
      next within =>
        cases read
        exact ⟨_, _, _, times, dayRead, monthRead, yearRead, hourRead, minuteRead, secondRead,
          by dsimp only; omega, by dsimp only; omega, by dsimp only; omega⟩
    next => cases read
  · rintro ⟨hourText, minuteText, secondText, times, dayRead, monthRead, yearRead, hourRead, minuteRead,
      secondRead, hours, minutes, seconds⟩
    unfold parseFields
    simp only [dayRead, monthRead, yearRead, times, hourRead, minuteRead, secondRead,
      Option.bind_eq_bind, Option.bind_some]
    rw [if_neg (by omega)]

theorem parseImfFixdate_of_read (read : Read value fields) :
    parseImfFixdate value = (daysFromCivil fields.year fields.month fields.day).map fun days =>
      days.bind (millisAt fields) := by
  obtain ⟨⟨weekday, dayText, monthText, yearText, timeText, hourText, minuteText, secondText, words, comma,
    times, dayRead, monthRead, yearRead, hourRead, minuteRead, secondRead⟩, hours, minutes, seconds⟩ := read
  have parsed : parseFields dayText monthText yearText timeText = some fields :=
    parseFields_eq_some.mpr ⟨hourText, minuteText, secondText, times, dayRead, monthRead, yearRead,
      hourRead, minuteRead, secondRead, hours, minutes, seconds⟩
  unfold parseImfFixdate
  rw [words]
  dsimp only
  rw [if_neg (by simp [comma]), parsed]

theorem parseImfFixdate_cases (value : Bytes) :
    (∃ fields, Read value fields) ∨ parseImfFixdate value = some none := by
  unfold parseImfFixdate
  split
  next weekday day month year time zone words =>
    split
    next => exact .inr rfl
    next shaped =>
      rw [not_or, Decidable.not_not, Decidable.not_not] at shaped
      obtain ⟨comma, rfl⟩ := shaped
      split
      next => exact .inr rfl
      next fields parsed =>
        obtain ⟨hourText, minuteText, secondText, times, dayRead, monthRead, yearRead, hourRead, minuteRead,
          secondRead, hours, minutes, seconds⟩ := parseFields_eq_some.mp parsed
        exact .inl ⟨fields, ⟨weekday, day, month, year, time, hourText, minuteText, secondText, words, comma,
          times, dayRead, monthRead, yearRead, hourRead, minuteRead, secondRead⟩, hours, minutes, seconds⟩
  next => exact .inr rfl

end Reading

section Arithmetic

variable {fields : Fields}

theorem monthOf_bounds {name : Bytes} {month : Nat} (found : monthOf name = some month) :
    1 ≤ month ∧ month ≤ 12 ∧ name = monthNames.getD (month - 1) [] := by
  obtain ⟨place, index, rfl⟩ := Option.map_eq_some_iff.mp found
  obtain ⟨within, same, -⟩ := List.idxOf?_eq_some_iff.mp index
  refine ⟨by omega, ?_, ?_⟩
  · simp only [monthNames, List.length_map, List.length_cons, List.length_nil] at within
    omega
  · rw [Nat.add_sub_cancel, List.getD_eq_getElem _ _ within, same]

/-- A month and a day in their ranges are a date, whose number is computed if it can be told. -/
theorem daysFromCivil_cases (year : Int) (month : Nat) (day : Int) :
    (∃ date : Date, date.year = year ∧ date.month = month ∧ (date.day : Int) = day ∧
      ∀ result, daysFromCivil year month day = some result ↔
        Civil.Tellable date.number ∧ result = some date.number) ∨
    daysFromCivil year month day = some none := by
  unfold daysFromCivil
  split
  next => exact .inr rfl
  next valid =>
    obtain ⟨days, rfl⟩ := Int.eq_ofNat_of_zero_le (show 0 ≤ day by omega)
    let date : Date := ⟨year, month, days, by omega, by omega⟩
    have short := Civil.daysInMonth_le year month
    have number : Civil.eraNumber year month days = date.number := Civil.eraNumber_eq date
    refine .inl ⟨date, rfl, rfl, rfl, fun result => ?_⟩
    rw [Option.map_eq_some_iff, ← number]
    constructor
    · rintro ⟨_, computed, rfl⟩
      obtain ⟨tellable, rfl⟩ := (Civil.eraNumber64_eq_some_iff (by omega) (by omega)).mp computed
      exact ⟨tellable, rfl⟩
    · rintro ⟨tellable, rfl⟩
      exact ⟨_, (Civil.eraNumber64_eq_some_iff (by omega) (by omega)).mpr ⟨tellable, rfl⟩, rfl⟩

/-- Seconds from 1970 to a time of a day. -/
def secondsOf (days hour minute second : Int) : Int :=
  days * 86400 + hour * 3600 + minute * 60 + second

theorem secondsAt_eq_some {days hour minute second seconds : Int}
    (made : secondsAt days hour minute second = some seconds) :
    seconds = secondsOf days hour minute second := by
  unfold secondsAt at made
  obtain ⟨_, first, made⟩ := Option.bind_eq_some_iff.mp made
  obtain ⟨_, second, made⟩ := Option.bind_eq_some_iff.mp made
  obtain ⟨_, third, made⟩ := Option.bind_eq_some_iff.mp made
  obtain ⟨_, fourth, made⟩ := Option.bind_eq_some_iff.mp made
  obtain ⟨_, fifth, made⟩ := Option.bind_eq_some_iff.mp made
  obtain ⟨-, rfl⟩ := i64_eq_some.mp first
  obtain ⟨-, rfl⟩ := i64_eq_some.mp second
  obtain ⟨-, rfl⟩ := i64_eq_some.mp third
  obtain ⟨-, rfl⟩ := i64_eq_some.mp fourth
  obtain ⟨-, rfl⟩ := i64_eq_some.mp fifth
  exact (i64_eq_some.mp made).2.symm

theorem secondsAt_fits {days hour minute second : Int} (hours : 0 ≤ hour ∧ hour ≤ 23)
    (minutes : 0 ≤ minute ∧ minute ≤ 59) (seconds : 0 ≤ second ∧ second ≤ 59)
    (fits : 0 ≤ secondsOf days hour minute second ∧
      secondsOf days hour minute second < 0x8000000000000000) :
    secondsAt days hour minute second = some (secondsOf days hour minute second) := by
  unfold secondsOf at fits ⊢
  unfold secondsAt
  refine i64_step (by omega) (i64_step (by omega) (i64_step (by omega) (i64_step (by omega)
    (i64_step (by omega) ?_))))
  exact i64_fits (by unfold lowest64; omega) (by unfold highest64; omega)

theorem millisAt_eq_some {days : Int} {milliseconds : UnixMillis} :
    millisAt fields days = some milliseconds ↔
      ∃ seconds : Nat, secondsAt days fields.hour fields.minute fields.second = some (seconds : Int) ∧
        seconds * 1000 < u64Limit ∧ milliseconds = seconds * 1000 := by
  unfold millisAt checkedMul
  constructor
  · intro made
    obtain ⟨seconds, counted, made⟩ := Option.bind_eq_some_iff.mp made
    split at made
    next => cases made
    next later =>
      obtain ⟨count, rfl⟩ := Int.eq_ofNat_of_zero_le (Int.not_lt.mp later)
      rw [Int.toNat_natCast] at made
      split at made
      next fits =>
        cases made
        exact ⟨count, counted, fits, rfl⟩
      next => cases made
  · rintro ⟨seconds, counted, fits, rfl⟩
    refine Option.bind_eq_some_iff.mpr ⟨_, counted, ?_⟩
    rw [if_neg (by omega), Int.toNat_natCast, if_pos fits]

end Arithmetic

section Exactness

/-- A number is spelled in decimal, with zeros in front or without. -/
def Digits (text : Bytes) (number : Nat) : Prop :=
  ∃ zeros, text = List.replicate zeros 48 ++ Decimal.digits number

/-- A number of seconds, perhaps behind a plus sign. -/
def IsSeconds (value : Bytes) (seconds : Nat) : Prop :=
  ∃ sign digits, (sign = [] ∨ sign = [43]) ∧ value = sign ++ digits ∧ Digits digits seconds

/-- A date as it stands in headers, whose numbers may have any width and whose weekday is any word
with a comma behind it. -/
structure IsFixdate (value : Bytes) (date : Date) (hour minute second : Nat) : Prop where
  words : ∃ weekday dayText yearText timeText hourText minuteText secondText,
    splitAsciiWhitespace value =
      [weekday, dayText, monthNames.getD (date.month - 1) [], yearText, timeText, ascii "GMT"] ∧
    weekday.getLast? = some 44 ∧ timeText.splitOn 58 = [hourText, minuteText, secondText] ∧
    Digits dayText date.day ∧ (0 ≤ date.year ∧ Digits yearText date.year.toNat) ∧
    Digits hourText hour ∧ Digits minuteText minute ∧ Digits secondText second
  hours : hour ≤ 23
  minutes : minute ≤ 59
  seconds : second ≤ 59

/-- The words with the numbers of a date have no signs. -/
def Unsigned (value : Bytes) : Prop :=
  ∀ place ∈ [1, 3, 4], ∀ word, (splitAsciiWhitespace value)[place]? = some word →
    ∀ byte ∈ word, byte ≠ 43 ∧ byte ≠ 45

variable {value : Bytes} {fields : Fields} {date : Date} {hour minute second : Nat}

theorem Digits.isDigit {text : Bytes} {number : Nat} (spelled : Digits text number) :
    ∀ byte ∈ text, Decimal.isDigit byte = true := by
  obtain ⟨zeros, rfl⟩ := spelled
  intro byte member
  rcases List.mem_append.mp member with zero | digit
  · rw [List.eq_of_mem_replicate zero]
    rfl
  · exact Decimal.isDigit_of_mem_digits digit

theorem IsSeconds.no_comma {seconds : Nat} (spelled : IsSeconds value seconds) : 44 ∉ value := by
  obtain ⟨sign, digits, allowed, rfl, digital⟩ := spelled
  intro comma
  rcases List.mem_append.mp comma with signed | digit
  · rcases allowed with rfl | rfl <;> exact absurd signed (by decide)
  · exact absurd (digital.isDigit 44 digit) (by decide)

theorem digits_of_parseI64 {text : Bytes} {number : Int}
    (unsigned : ∀ byte ∈ text, byte ≠ 43 ∧ byte ≠ 45) (read : parseI64 text = some number) :
    ∃ count : Nat, number = count ∧ Digits text count := by
  have bare : text.head? ≠ some 45 := fun minus => (unsigned 45 (List.mem_of_head? minus)).2 rfl
  unfold parseI64 Decimal.parseSigned at read
  rw [if_neg bare] at read
  obtain ⟨count, decimal, rfl⟩ := Option.map_eq_some_iff.mp read
  obtain ⟨-, sign, zeros, allowed, rfl⟩ := Decimal.parse_eq_some.mp decimal
  refine ⟨count, rfl, zeros, ?_⟩
  rcases allowed with rfl | rfl
  · rfl
  · exact absurd rfl (unsigned 43 (by simp)).1

theorem parseI64_of_digits {text : Bytes} {count : Nat} (spelled : Digits text count)
    (small : count < 0x8000000000000000) : parseI64 text = some (count : Int) := by
  obtain ⟨zeros, rfl⟩ := spelled
  have decimal : Decimal.parse 0x8000000000000000 (List.replicate zeros 48 ++ Decimal.digits count) =
      some count := Decimal.parse_eq_some.mpr ⟨small, [], zeros, .inl rfl, rfl⟩
  unfold parseI64 Decimal.parseSigned
  rw [if_neg (Decimal.head_of_parse decimal), decimal]
  rfl

theorem isFixdate_of_read (read : Read value fields) (unsigned : Unsigned value)
    (year : date.year = fields.year) (month : date.month = fields.month)
    (day : (date.day : Int) = fields.day) :
    ∃ hour minute second : Nat, IsFixdate value date hour minute second ∧
      fields.hour = hour ∧ fields.minute = minute ∧ fields.second = second := by
  obtain ⟨⟨weekday, dayText, monthText, yearText, timeText, hourText, minuteText, secondText, words, comma,
    times, dayRead, monthRead, yearRead, hourRead, minuteRead, secondRead⟩, hours, minutes, seconds⟩ := read
  have bare (place : Nat) (counted : place ∈ [1, 3, 4]) (word : Bytes)
      (here : [weekday, dayText, monthText, yearText, timeText, ascii "GMT"][place]? = some word) :
      ∀ byte ∈ word, byte ≠ 43 ∧ byte ≠ 45 := unsigned place counted word (by rw [words]; exact here)
  have clock := bare 4 (by decide) timeText rfl
  have whole : timeText = [58].intercalate [hourText, minuteText, secondText] := by
    rw [← times, List.intercalate_splitOn]
  have inside : ∀ piece ∈ [hourText, minuteText, secondText], ∀ byte ∈ piece, byte ≠ 43 ∧ byte ≠ 45 := by
    intro piece member byte within
    refine clock byte ?_
    rw [whole]
    simp only [List.mem_cons, List.not_mem_nil, or_false] at member
    rcases member with rfl | rfl | rfl <;> simp [List.intercalate, within]
  obtain ⟨days, dayIs, daySpelled⟩ := digits_of_parseI64 (bare 1 (by decide) dayText rfl) dayRead
  obtain ⟨years, yearIs, yearSpelled⟩ := digits_of_parseI64 (bare 3 (by decide) yearText rfl) yearRead
  obtain ⟨hour, hourIs, hourSpelled⟩ := digits_of_parseI64 (inside hourText (by simp)) hourRead
  obtain ⟨minute, minuteIs, minuteSpelled⟩ := digits_of_parseI64 (inside minuteText (by simp)) minuteRead
  obtain ⟨second, secondIs, secondSpelled⟩ := digits_of_parseI64 (inside secondText (by simp)) secondRead
  obtain ⟨-, -, named⟩ := monthOf_bounds monthRead
  have sameDay : date.day = days := by omega
  have sameYear : date.year.toNat = years := by omega
  refine ⟨hour, minute, second, ⟨⟨weekday, dayText, yearText, timeText, hourText, minuteText, secondText,
    ?_, comma, times, ?_, ⟨by omega, ?_⟩, hourSpelled, minuteSpelled, secondSpelled⟩, by omega, by omega,
    by omega⟩, hourIs, minuteIs, secondIs⟩
  · rw [words, month, ← named]
  · rw [sameDay]
    exact daySpelled
  · rw [sameYear]
    exact yearSpelled

theorem monthOf_monthNames {month : Nat} (low : 1 ≤ month) (high : month ≤ 12) :
    monthOf (monthNames.getD (month - 1) []) = some month := by
  have all : ∀ place : Fin 12, monthOf (monthNames.getD place.val []) = some (place.val + 1) := by
    decide +kernel
  have found := all ⟨month - 1, by omega⟩
  dsimp only at found
  rwa [Nat.sub_add_cancel low] at found

theorem read_of_isFixdate (dated : IsFixdate value date hour minute second)
    (early : date.year < 0x8000000000000000) :
    Read value ⟨date.day, date.month, date.year, hour, minute, second⟩ := by
  obtain ⟨⟨weekday, dayText, yearText, timeText, hourText, minuteText, secondText, words, comma, times,
    daySpelled, ⟨later, yearSpelled⟩, hourSpelled, minuteSpelled, secondSpelled⟩, hours, minutes,
    seconds⟩ := dated
  have short := Civil.daysInMonth_le date.year date.month
  have days := date.daily
  have years := parseI64_of_digits yearSpelled (by omega)
  rw [Int.toNat_of_nonneg later] at years
  refine ⟨⟨weekday, dayText, _, yearText, timeText, hourText, minuteText, secondText, words, comma, times,
    parseI64_of_digits daySpelled (by omega), monthOf_monthNames date.monthly.1 date.monthly.2, years,
    parseI64_of_digits hourSpelled (by omega), parseI64_of_digits minuteSpelled (by omega),
    parseI64_of_digits secondSpelled (by omega)⟩, ?_, ?_, ?_⟩
  · dsimp only
    omega
  · dsimp only
    omega
  · dsimp only
    omega

/-- Milliseconds from 1970 to a time of a date. -/
def instantOf (date : Date) (hour minute second : Nat) : Int :=
  secondsOf date.number hour minute second * 1000

theorem parseImfFixdate_of_isFixdate {milliseconds : Nat} (dated : IsFixdate value date hour minute second)
    (told : (milliseconds : Int) = instantOf date hour minute second) (fits : milliseconds < u64Limit) :
    parseImfFixdate value = some (some milliseconds) := by
  obtain ⟨⟨_, _, _, _, _, _, _, -, -, -, -, ⟨later, -⟩, -, -, -⟩, hours, minutes, seconds⟩ := id dated
  have years := Civil.years_le_number later
  unfold u64Limit at fits
  unfold instantOf at told
  have near : -1 ≤ date.number ∧ date.number ≤ 0x10000000000000 := by
    unfold secondsOf at told
    omega
  rw [parseImfFixdate_of_read (read_of_isFixdate dated (by omega))]
  dsimp only
  rcases daysFromCivil_cases date.year date.month date.day with
    ⟨same, sameYear, sameMonth, sameDay, computed⟩ | invalid
  · have number : same.number = date.number := by
      unfold Date.number
      rw [sameYear, sameMonth, Int.ofNat_inj.mp sameDay]
    rw [number] at computed
    have tellable : Civil.Tellable date.number := by
      unfold Civil.Tellable lowest64 highest64
      omega
    have whole : milliseconds = milliseconds / 1000 * 1000 := by omega
    rw [(computed _).mpr ⟨tellable, rfl⟩]
    refine congrArg some (millisAt_eq_some.mpr ⟨milliseconds / 1000, ?_, ?_, whole⟩)
    · have counted : 0 ≤ secondsOf date.number hour minute second ∧
          secondsOf date.number hour minute second < 0x8000000000000000 := ⟨by omega, by omega⟩
      exact (secondsAt_fits ⟨by omega, by omega⟩ ⟨by omega, by omega⟩ ⟨by omega, by omega⟩ counted).trans
        (congrArg some (by omega))
    · unfold u64Limit
      omega
  · have valid := date.daily
    have monthly := date.monthly
    unfold daysFromCivil at invalid
    rw [if_neg (by omega)] at invalid
    obtain ⟨_, -, same⟩ := Option.map_eq_some_iff.mp invalid
    cases same

theorem parse_of_words {limit : Nat} (several : 2 ≤ (splitAsciiWhitespace value).length) :
    Decimal.parse limit value = none := by
  rw [Option.eq_none_iff_forall_not_mem]
  intro number read
  obtain ⟨-, sign, zeros, allowed, rfl⟩ := Decimal.parse_eq_some.mp read
  have word : splitAsciiWhitespace (sign ++ (List.replicate zeros 48 ++ Decimal.digits number)) =
      [sign ++ (List.replicate zeros 48 ++ Decimal.digits number)] := by
    refine Imap.splitAsciiWhitespace_last (by simp [Decimal.digits_ne_nil]) ?_
    intro byte member
    simp only [List.mem_append] at member
    rcases member with signed | zero | digit
    · rcases allowed with rfl | rfl
      · cases signed
      · rw [List.mem_singleton.mp signed]
        rfl
    · rw [List.eq_of_mem_replicate zero]
      rfl
    · exact (Imap.apart_of_isDigit (Decimal.isDigit_of_mem_digits digit)).1
  rw [word] at several
  exact absurd several (by simp)

/-- What is returned is a number of seconds from now or a date, unless numbers of a date have signs;
every number and every date whose instant is told is returned; and nothing overflows where the date
has a number of sixty-four bits, before and behind the epoch. -/
theorem retry_after_exact (value : Bytes) (now : UnixMillis) :
    (∀ milliseconds, parseRetryAfter value now = some (some milliseconds) → Unsigned value →
      (∃ seconds, IsSeconds value seconds ∧ milliseconds = now + seconds * 1000) ∨
      ∃ date hour minute second, IsFixdate value date hour minute second ∧
        (milliseconds : Int) = instantOf date hour minute second) ∧
    (∀ seconds, IsSeconds value seconds → now + seconds * 1000 < u64Limit →
      parseRetryAfter value now = some (some (now + seconds * 1000))) ∧
    (∀ (date : Date) (hour minute second milliseconds : Nat), IsFixdate value date hour minute second →
      (milliseconds : Int) = instantOf date hour minute second → milliseconds < u64Limit →
      parseRetryAfter value now = some (some milliseconds)) ∧
    ((∀ (fields : Fields) (date : Date), Read value fields → date.year = fields.year → date.month = fields.month →
        (date.day : Int) = fields.day → Civil.Tellable date.number) →
      parseRetryAfter value now ≠ none) := by
  refine ⟨?_, ?_, ?_, ?_⟩
  · intro milliseconds parsed unsigned
    unfold parseRetryAfter at parsed
    split at parsed
    next seconds decimal =>
      obtain ⟨-, sign, zeros, allowed, spelled⟩ := Decimal.parse_eq_some.mp decimal
      obtain ⟨product, multiplied, added⟩ := Option.bind_eq_some_iff.mp (Option.some.inj parsed)
      unfold checkedMul at multiplied
      unfold checkedAdd at added
      split at multiplied <;> cases multiplied
      split at added <;> cases added
      exact .inl ⟨seconds, ⟨sign, _, allowed, spelled, zeros, rfl⟩, rfl⟩
    next =>
      rcases parseImfFixdate_cases value with ⟨fields, read⟩ | nothing
      · rw [parseImfFixdate_of_read read] at parsed
        obtain ⟨days, numbered, told⟩ := Option.map_eq_some_iff.mp parsed
        rcases daysFromCivil_cases fields.year fields.month fields.day with
          ⟨date, year, month, day, computed⟩ | invalid
        · obtain ⟨-, rfl⟩ := (computed days).mp numbered
          obtain ⟨seconds, counted, -, rfl⟩ := millisAt_eq_some.mp told
          obtain ⟨hour, minute, second, dated, hours, minutes, within⟩ :=
            isFixdate_of_read read unsigned year month day
          rw [hours, minutes, within] at counted
          refine .inr ⟨date, hour, minute, second, dated, ?_⟩
          unfold instantOf
          rw [← secondsAt_eq_some counted]
          omega
        · rw [invalid] at numbered
          cases numbered
          cases told
      · rw [nothing] at parsed
        cases parsed
  · rintro seconds ⟨sign, digits, allowed, rfl, zeros, rfl⟩ fits
    have product : seconds * 1000 < u64Limit := Nat.lt_of_le_of_lt (Nat.le_add_left _ now) fits
    have small : seconds < u64Limit :=
      Nat.lt_of_le_of_lt (Nat.le_mul_of_pos_right seconds (by decide)) product
    have decimal : Decimal.parse u64Limit (sign ++ (List.replicate zeros 48 ++ Decimal.digits seconds)) =
        some seconds := Decimal.parse_eq_some.mpr ⟨small, sign, zeros, allowed, rfl⟩
    unfold parseRetryAfter
    rw [decimal]
    dsimp only
    rw [checkedMul, if_pos product, Option.bind_some, checkedAdd, if_pos fits]
  · intro date hour minute second milliseconds dated told fits
    have several : 2 ≤ (splitAsciiWhitespace value).length := by
      obtain ⟨⟨_, _, _, _, _, _, _, words, -⟩, -, -, -⟩ := dated
      rw [words]
      simp
    unfold parseRetryAfter
    rw [parse_of_words several]
    exact parseImfFixdate_of_isFixdate dated told fits
  · intro tellable overflowed
    unfold parseRetryAfter at overflowed
    split at overflowed
    next => cases overflowed
    next =>
      rcases parseImfFixdate_cases value with ⟨fields, read⟩ | nothing
      · rw [parseImfFixdate_of_read read] at overflowed
        rcases daysFromCivil_cases fields.year fields.month fields.day with
          ⟨date, year, month, day, computed⟩ | invalid
        · rw [(computed _).mpr ⟨tellable fields date read year month day, rfl⟩] at overflowed
          cases overflowed
        · rw [invalid] at overflowed
          cases overflowed
      · rw [nothing] at overflowed
        cases overflowed

namespace HeaderSamples

def march : Bytes := ascii "Sun, 01 Mar 1970 00:30:00 GMT"

theorem march_words : splitAsciiWhitespace march =
    [ascii "Sun,", ascii "01", ascii "Mar", ascii "1970", ascii "00:30:00", ascii "GMT"] := by
  decide +kernel

theorem march_returned : parseRetryAfter march 5 = some (some 5099400000) ∧
    (∃ date hour minute second, IsFixdate march date hour minute second ∧
      ((5099400000 : Nat) : Int) = instantOf date hour minute second) ∧
    parseRetryAfter (ascii "120") 5 = some (some 120005) := by
  have returned : parseRetryAfter march 5 = some (some 5099400000) := by decide +kernel
  refine ⟨returned, ?_, ?_⟩
  · obtain ⟨sound, -⟩ := retry_after_exact march 5
    refine (sound 5099400000 returned ?_).resolve_left ?_
    · intro place counted word here byte member
      have plain : ∀ place ∈ [1, 3, 4], ((splitAsciiWhitespace march)[place]?.getD []).all
          (fun byte => byte != 43 && byte != 45) = true := by decide +kernel
      have bytes := plain place counted
      rw [here, Option.getD_some] at bytes
      simpa using List.all_eq_true.mp bytes byte member
    · rintro ⟨seconds, spelled, -⟩
      exact spelled.no_comma (by decide)
  · obtain ⟨-, counted, -⟩ := retry_after_exact (ascii "120") 5
    exact counted 120 ⟨[], Decimal.digits 120, .inl rfl, by decide, 0, rfl⟩ (by decide)

/-- A minute with a sign, a word that is no weekday, and a year that the arithmetic cannot hold. -/
def signedMinute : Bytes := ascii "Thu, 01 Jan 1970 02:-30:00 GMT"

theorem signedMinute_returned : parseRetryAfter signedMinute 7 = some (some 5400000) ∧
    (¬∃ seconds, IsSeconds signedMinute seconds) ∧
    (¬∃ date hour minute second, IsFixdate signedMinute date hour minute second) ∧
    parseRetryAfter (ascii "soon, 1 Jan 1970 1:2:3 GMT") 7 = some (some 3723000) ∧
    parseRetryAfter (ascii "Sat, 01 Jan 99999999999999999 00:00:00 GMT") 7 = none := by
  refine ⟨by decide +kernel, ?_, ?_, by decide +kernel, by decide +kernel⟩
  · rintro ⟨seconds, spelled⟩
    exact spelled.no_comma (by decide)
  · rintro ⟨date, hour, minute, second, ⟨weekday, dayText, yearText, timeText, hourText, minuteText,
      secondText, words, -, times, -, -, -, spelled, -⟩, -, -, -⟩
    have time : (splitAsciiWhitespace signedMinute)[4]? = some (ascii "02:-30:00") := by decide +kernel
    have same : timeText = ascii "02:-30:00" := by
      rw [words] at time
      exact Option.some.inj time
    have parts : (ascii "02:-30:00").splitOn 58 = [ascii "02", ascii "-30", ascii "00"] := by
      decide +kernel
    rw [same, parts] at times
    have minus : minuteText = ascii "-30" := (List.cons.inj (List.cons.inj times).2).1.symm
    rw [minus] at spelled
    exact absurd (spelled.isDigit 45 (by decide)) (by decide)

end HeaderSamples

end Exactness

end ProfilePlatform.Graph
