import ProfilePlatform.Foundation.Civil
import ProfilePlatform.Imap.Metadata

/-! What the reader of internal dates makes of a date, and of which texts it makes one. -/

set_option autoImplicit false

namespace ProfilePlatform.Imap

open Foundation
open Foundation.Civil (Date)

section Calendar

theorem isLeapYear_eq (year : Nat) : isLeapYear year = Civil.isLeapYear year := by
  rw [Bool.eq_iff_iff, Civil.isLeapYear_iff]
  simp only [isLeapYear, Bool.and_eq_true, Bool.or_eq_true, beq_iff_eq, bne_iff_ne, ne_eq]
  omega

theorem daysInMonth_eq (year month : Nat) : daysInMonth year month = Civil.daysInMonth year month := by
  unfold daysInMonth Civil.daysInMonth
  rw [isLeapYear_eq]

theorem daysFromCivil_eq {date : Date} {year : Nat} (same : date.year = year) :
    daysFromCivil year date.month date.day = some date.number := by
  obtain ⟨low, high⟩ := date.monthly
  obtain ⟨first, last⟩ := date.daily
  rw [same, ← daysInMonth_eq] at last
  rw [← Civil.eraNumber_eq, same]
  unfold daysFromCivil
  rw [if_neg (by omega)]
  have early : 0 ≤ 153 * ((date.month : Int) + if 2 < date.month then -3 else 9) + 2 := by
    split <;> omega
  have years : ((date.month : Int) ≤ 2) = (date.month ≤ 2) := by simp
  have months : (2 < (date.month : Int)) = (2 < date.month) := by simp
  simp only [Civil.eraNumber, Civil.tdiv_era, years, months]
  rw [Int.tdiv_eq_ediv_of_nonneg early]
  generalize ((year : Int) - if date.month ≤ 2 then 1 else 0) = adjusted
  rw [Int.tdiv_eq_ediv_of_nonneg (by omega : 0 ≤ adjusted - adjusted / 400 * 400),
    Int.tdiv_eq_ediv_of_nonneg (by omega : 0 ≤ adjusted - adjusted / 400 * 400)]

end Calendar

section Reading

/-- The seconds of a day that a clock time has behind it. A leap second is counted as the one
before it. -/
def secondOfDay (hour minute second : Nat) : Nat := hour * 3600 + minute * 60 + min second 59

/-- The parts of a text that are read, and what is read of them. -/
structure Written (value : Bytes) (date : Date) (hour minute second : Nat) (zoneSeconds : Int) :
    Prop where
  words : ∃ dateText timeText zoneText dayText monthText yearText hourText minuteText secondText,
    splitAsciiWhitespace value = [dateText, timeText, zoneText] ∧
    dateText.splitOn 45 = [dayText, monthText, yearText] ∧
    timeText.splitOn 58 = [hourText, minuteText, secondText] ∧
    parseU32 (trim dayText) = some date.day ∧ parseMonth monthText = some date.month ∧
    (∃ year, Decimal.parse (2 ^ 31) yearText = some year ∧ date.year = year) ∧
    parseU32 hourText = some hour ∧ parseU32 minuteText = some minute ∧
    parseU32 secondText = some second ∧ parseZone zoneText = some zoneSeconds
  hours : hour ≤ 23
  minutes : minute ≤ 59
  seconds : second ≤ 60

variable {value : Bytes} {milliseconds : UnixMillis}

theorem parseMonth_bounds {text : Bytes} {month : Nat} (read : parseMonth text = some month) :
    1 ≤ month ∧ month ≤ 12 := by
  unfold parseMonth at read
  obtain ⟨place, found, rfl⟩ := Option.map_eq_some_iff.mp read
  have within := (List.idxOf?_eq_some_iff.mp found).1
  simp only [List.length_map, List.length_cons, List.length_nil] at within
  omega

theorem parseImapInternalDate_eq_some :
    parseImapInternalDate value = some milliseconds ↔
      ∃ date hour minute second zoneSeconds, Written value date hour minute second zoneSeconds ∧
        ∃ seconds : Nat, (seconds : Int) = date.number * 86400 + secondOfDay hour minute second -
          zoneSeconds ∧ seconds * 1000 < u64Limit ∧ milliseconds = seconds * 1000 := by
  constructor
  · intro read
    unfold parseImapInternalDate at read
    split at read
    next dateText timeText zoneText words =>
      split at read
      next dayText monthText yearText hourText minuteText secondText dates times =>
        obtain ⟨day, dayRead, read⟩ := Option.bind_eq_some_iff.mp read
        obtain ⟨month, monthRead, read⟩ := Option.bind_eq_some_iff.mp read
        obtain ⟨year, yearRead, read⟩ := Option.bind_eq_some_iff.mp read
        split at read
        next => cases read
        next within =>
          obtain ⟨hour, hourRead, read⟩ := Option.bind_eq_some_iff.mp read
          obtain ⟨minute, minuteRead, read⟩ := Option.bind_eq_some_iff.mp read
          obtain ⟨second, secondRead, read⟩ := Option.bind_eq_some_iff.mp read
          split at read
          next => cases read
          next timely =>
            obtain ⟨zoneSeconds, zoneRead, read⟩ := Option.bind_eq_some_iff.mp read
            obtain ⟨days, numbered, read⟩ := Option.bind_eq_some_iff.mp read
            rw [daysInMonth_eq] at within
            let date : Date := ⟨year, month, day, parseMonth_bounds monthRead, by omega⟩
            have same : date.year = year := rfl
            have number : days = date.number :=
              Option.some.inj (numbered.symm.trans (daysFromCivil_eq same))
            subst number
            dsimp only at read
            split at read
            next => cases read
            next timed =>
              cases read
              refine ⟨date, hour, minute, second, zoneSeconds, ⟨⟨dateText, timeText, zoneText, dayText,
                monthText, yearText, hourText, minuteText, secondText, words, dates, times, dayRead,
                monthRead, ⟨year, yearRead, rfl⟩, hourRead, minuteRead, secondRead, zoneRead⟩,
                by omega, by omega, by omega⟩, _, ?_, ?_, rfl⟩
              · unfold secondOfDay
                omega
              · omega
      next => cases read
    next => cases read
  · rintro ⟨date, hour, minute, second, zoneSeconds, ⟨⟨dateText, timeText, zoneText, dayText, monthText,
      yearText, hourText, minuteText, secondText, words, dates, times, dayRead, monthRead,
      ⟨year, yearRead, same⟩, hourRead, minuteRead, secondRead, zoneRead⟩, hours, minutes, seconds⟩,
      total, counted, fits, rfl⟩
    have within : ¬(date.day = 0 ∨ daysInMonth year date.month < date.day) := by
      have daily := date.daily
      rw [daysInMonth_eq, ← same]
      omega
    unfold parseImapInternalDate
    rw [words]
    dsimp only
    rw [dates, times]
    simp only [dayRead, monthRead, yearRead, hourRead, minuteRead, secondRead, zoneRead,
      Option.bind_eq_bind, Option.bind_some, if_neg within, daysFromCivil_eq same]
    rw [if_neg (by omega)]
    have whole : date.number * 86400 + hour * 3600 + minute * 60 + (min second 59 : Nat) - zoneSeconds =
        total := by
      unfold secondOfDay at counted
      omega
    rw [whole, if_neg (by omega)]
    rfl

end Reading

section Writing

/-- A day of one digit stands behind a space or behind a zero. -/
inductive DayPadding where
  | spaces | zeros

def formatDay : DayPadding → Nat → Bytes
  | .spaces, day => List.replicate (2 - (Decimal.digits day).length) 32 ++ Decimal.digits day
  | .zeros, day => Decimal.padded 2 day

def monthNames : List Bytes :=
  ["Jan", "Feb", "Mar", "Apr", "May", "Jun", "Jul", "Aug", "Sep", "Oct", "Nov", "Dec"].map ascii

/-- A zone of so many minutes before or behind universal time. -/
def formatZone (zone : Int) : Bytes :=
  (if zone < 0 then 45 else 43) ::
    (Decimal.padded 2 (zone.natAbs / 60) ++ Decimal.padded 2 (zone.natAbs % 60))

/-- `dd-Mon-yyyy hh:mm:ss +zzzz` -/
def formatInternalDate (padding : DayPadding) (date : Date) (second : Nat) (zone : Int) : Bytes :=
  formatDay padding date.day ++ 45 :: (monthNames.getD (date.month - 1) [] ++
    45 :: (Decimal.padded 4 date.year.toNat ++
      32 :: (Decimal.padded 2 (second / 3600) ++ 58 :: (Decimal.padded 2 (second / 60 % 60) ++
        58 :: (Decimal.padded 2 (second % 60) ++ 32 :: formatZone zone)))))

theorem splitOn_three {separator : UInt8} {first second third : Bytes} (one : separator ∉ first)
    (two : separator ∉ second) (three : separator ∉ third) :
    (first ++ separator :: (second ++ separator :: third)).splitOn separator =
      [first, second, third] := by
  rw [List.splitOn_append_cons_self_of_not_mem one, List.splitOn_append_cons_self_of_not_mem two,
    List.splitOn_eq_singleton three]

theorem splitAsciiWhitespace_spaces (spaces : Nat) (rest : Bytes) :
    splitAsciiWhitespace (List.replicate spaces 32 ++ rest) = splitAsciiWhitespace rest := by
  induction spaces with
  | zero => rfl
  | succ spaces ih => exact (splitAsciiWhitespace_space _).trans ih

theorem not_mem_padded {places number : Nat} :
    45 ∉ Decimal.padded places number ∧ 58 ∉ Decimal.padded places number :=
  ⟨fun member => (apart_of_isDigit (Decimal.isDigit_of_mem_padded 45 member)).2.1 rfl,
    fun member => (apart_of_isDigit (Decimal.isDigit_of_mem_padded 58 member)).2.2 rfl⟩

theorem parseI64_padded {number : Nat} (small : number < 100) :
    parseI64 (Decimal.padded 2 number) = some (number : Int) := by
  have unsigned : (Decimal.padded 2 number).head? ≠ some 45 := fun minus =>
    not_mem_padded.1 (List.mem_of_head? minus)
  rw [parseI64, if_neg unsigned, Decimal.parse_padded (Nat.lt_trans small (by decide))]
  rfl

theorem parseZone_formatZone {zone : Int} (low : -1439 ≤ zone) (high : zone ≤ 1439) :
    parseZone (formatZone zone) = some (zone * 60) := by
  have hours : (Decimal.padded 2 (zone.natAbs / 60)).length = 2 :=
    Decimal.length_padded (by decide) (show zone.natAbs / 60 < 100 by omega)
  have minutes : (Decimal.padded 2 (zone.natAbs % 60)).length = 2 :=
    Decimal.length_padded (by decide) (show zone.natAbs % 60 < 100 by omega)
  have front : ((formatZone zone).drop 1).take 2 = Decimal.padded 2 (zone.natAbs / 60) := by
    rw [formatZone, List.drop_succ_cons, List.drop_zero, List.take_left' hours]
  have back : ((formatZone zone).drop 3).take 2 = Decimal.padded 2 (zone.natAbs % 60) := by
    rw [formatZone, List.drop_succ_cons, List.drop_left' hours, List.take_of_length_le]
    omega
  have shaped : ¬((formatZone zone).length ≠ 5 ∨ (formatZone zone).head? ∉ [some 43, some 45]) := by
    simp only [formatZone, List.length_cons, List.length_append, hours, minutes, List.head?_cons]
    split <;> simp
  rw [parseZone, if_neg shaped, front, back, parseI64_padded (by omega), parseI64_padded (by omega)]
  simp only [Option.bind_eq_bind, Option.bind_some]
  rw [if_neg (by omega)]
  simp only [formatZone, List.head?_cons, Option.some.injEq]
  split
  next before =>
    rw [if_pos rfl]
    omega
  next after =>
    rw [if_neg (by decide)]
    omega

theorem parseMonth_monthNames {month : Nat} (low : 1 ≤ month) (high : month ≤ 12) :
    parseMonth (monthNames.getD (month - 1) []) = some month ∧
      ∀ byte ∈ monthNames.getD (month - 1) [], isAsciiWhitespace byte = false ∧ byte ≠ 45 := by
  have all : ∀ place : Fin 12, parseMonth (monthNames.getD place.val []) = some (place.val + 1) ∧
      ((monthNames.getD place.val []).all fun byte => !isAsciiWhitespace byte && byte != 45) = true := by
    decide +kernel
  obtain ⟨read, plain⟩ := all ⟨month - 1, by omega⟩
  dsimp only at read plain
  rw [Nat.sub_add_cancel low] at read
  refine ⟨read, fun byte member => ?_⟩
  simpa using List.all_eq_true.mp plain byte member

theorem formatDay_eq (padding : DayPadding) (day : Nat) : ∃ spaces digits,
    formatDay padding day = List.replicate spaces 32 ++ digits ∧ digits ≠ [] ∧
      (∀ byte ∈ digits, Decimal.isDigit byte = true) ∧
      ∀ limit, day < limit → Decimal.parse limit digits = some day := by
  cases padding with
  | spaces =>
    exact ⟨_, _, rfl, Decimal.digits_ne_nil day, fun _ member => Decimal.isDigit_of_mem_digits member,
      fun _ within => Decimal.parse_digits within⟩
  | zeros =>
    exact ⟨0, _, rfl, Decimal.padded_ne_nil, Decimal.isDigit_of_mem_padded,
      fun _ within => Decimal.parse_padded within⟩

theorem written_format (padding : DayPadding) {date : Date} {second : Nat} {zone : Int}
    (later : 0 ≤ date.year) (earlier : date.year ≤ 9999) (daily : second < 86400)
    (low : -1439 ≤ zone) (high : zone ≤ 1439) :
    Written (formatInternalDate padding date second zone) date (second / 3600) (second / 60 % 60)
      (second % 60) (zone * 60) := by
  have short := Civil.daysInMonth_le date.year date.month
  have days := date.daily
  obtain ⟨spaces, digits, day, filled, plain, read⟩ := formatDay_eq padding date.day
  obtain ⟨monthly, letters⟩ := parseMonth_monthNames date.monthly.1 date.monthly.2
  generalize named : monthNames.getD (date.month - 1) [] = name at monthly letters
  have digitsPlain (bytes : Bytes) (all : ∀ byte ∈ bytes, Decimal.isDigit byte = true) :
      ∀ byte ∈ bytes, isAsciiWhitespace byte = false :=
    fun byte member => (apart_of_isDigit (all byte member)).1
  have padded {places number : Nat} := digitsPlain _ (@Decimal.isDigit_of_mem_padded places number)
  have words : splitAsciiWhitespace (formatInternalDate padding date second zone) =
      [digits ++ 45 :: (name ++ 45 :: Decimal.padded 4 date.year.toNat),
        Decimal.padded 2 (second / 3600) ++ 58 :: (Decimal.padded 2 (second / 60 % 60) ++
          58 :: Decimal.padded 2 (second % 60)), formatZone zone] := by
    have regrouped : formatInternalDate padding date second zone =
        List.replicate spaces 32 ++ ((digits ++ 45 :: (name ++ 45 :: Decimal.padded 4 date.year.toNat)) ++
          32 :: ((Decimal.padded 2 (second / 3600) ++ 58 :: (Decimal.padded 2 (second / 60 % 60) ++
            58 :: Decimal.padded 2 (second % 60))) ++ 32 :: formatZone zone)) := by
      rw [formatInternalDate, day, named]
      simp only [List.append_assoc, List.cons_append]
    rw [regrouped, splitAsciiWhitespace_spaces, splitAsciiWhitespace_word (by simp),
      splitAsciiWhitespace_word (by simp), splitAsciiWhitespace_last (by simp [formatZone])]
    · intro byte member
      simp only [formatZone, List.mem_cons, List.mem_append] at member
      rcases member with rfl | member | member
      · split <;> rfl
      · exact padded byte member
      · exact padded byte member
    · intro byte member
      simp only [List.mem_append, List.mem_cons] at member
      rcases member with member | rfl | member | rfl | member
      · exact padded byte member
      · rfl
      · exact padded byte member
      · rfl
      · exact padded byte member
    · intro byte member
      simp only [List.mem_append, List.mem_cons] at member
      rcases member with member | rfl | member | rfl | member
      · exact digitsPlain digits plain byte member
      · rfl
      · exact (letters byte member).1
      · rfl
      · exact padded byte member
  refine ⟨⟨_, _, _, digits, name, Decimal.padded 4 date.year.toNat, Decimal.padded 2 (second / 3600),
    Decimal.padded 2 (second / 60 % 60), Decimal.padded 2 (second % 60), words, ?_, ?_, ?_, monthly,
    ⟨date.year.toNat, Decimal.parse_padded (Nat.lt_of_le_of_lt (show _ ≤ 9999 by omega) (by decide)),
      (Int.toNat_of_nonneg later).symm⟩, ?_, ?_, ?_, parseZone_formatZone low high⟩, by omega, by omega,
    by omega⟩
  · refine splitOn_three ?_ (fun member => (letters 45 member).2 rfl) not_mem_padded.1
    exact fun member => (apart_of_isDigit (plain 45 member)).2.1 rfl
  · exact splitOn_three not_mem_padded.2 not_mem_padded.2 not_mem_padded.2
  · rw [trim_of_isDigit plain]
    exact read _ (Nat.lt_of_le_of_lt (show _ ≤ 31 by omega) (by decide))
  · exact Decimal.parse_padded (Nat.lt_of_le_of_lt (show _ ≤ 23 by omega) (by decide))
  · exact Decimal.parse_padded (Nat.lt_of_le_of_lt (show _ ≤ 59 by omega) (by decide))
  · exact Decimal.parse_padded (Nat.lt_of_le_of_lt (show _ ≤ 59 by omega) (by decide))

end Writing

section Zones

/-- A number is spelled in decimal, with zeros in front or without, and perhaps with a plus sign. -/
def Spells (text : Bytes) (number : Nat) : Prop :=
  ∃ sign zeros, (sign = [] ∨ sign = [43]) ∧
    text = sign ++ (List.replicate zeros 48 ++ Decimal.digits number)

/-- Four digits behind a sign: hours and minutes before or behind universal time. -/
def SpellsZone (text : Bytes) (zone : Int) : Prop :=
  ∃ hours minutes : Nat, hours ≤ 23 ∧ minutes ≤ 59 ∧
    (text = 43 :: (Decimal.padded 2 hours ++ Decimal.padded 2 minutes) ∧ zone = hours * 60 + minutes ∨
      text = 45 :: (Decimal.padded 2 hours ++ Decimal.padded 2 minutes) ∧
        zone = -(hours * 60 + minutes))

theorem spells_of_parse {limit number : Nat} {text : Bytes}
    (read : Decimal.parse limit text = some number) : Spells text number :=
  (Decimal.parse_eq_some.mp read).2

theorem padded_of_parseI64 {text : Bytes} {number : Int} (two : text.length = 2)
    (unsigned : ∀ byte ∈ text, byte ≠ 43 ∧ byte ≠ 45) (read : parseI64 text = some number) :
    ∃ digits : Nat, number = digits ∧ text = Decimal.padded 2 digits := by
  have bare : text.head? ≠ some 45 := fun minus => (unsigned 45 (List.mem_of_head? minus)).2 rfl
  rw [parseI64, if_neg bare] at read
  obtain ⟨_, parsed, rfl⟩ := Option.map_eq_some_iff.mp read
  obtain ⟨digits, decimal, same⟩ := Option.bind_eq_some_iff.mp parsed
  cases same
  obtain ⟨sign, zeros, allowed, rfl⟩ := spells_of_parse decimal
  refine ⟨digits, rfl, ?_⟩
  rcases allowed with rfl | rfl
  · simp only [List.nil_append, List.length_append, List.length_replicate] at two ⊢
    rw [Decimal.padded, show 2 - (Decimal.digits digits).length = zeros by omega]
  · exact absurd rfl (unsigned 43 (by simp)).1

theorem spellsZone_of_parseZone {text : Bytes} {seconds : Int}
    (unsigned : ∀ byte ∈ text.tail, byte ≠ 43 ∧ byte ≠ 45) (read : parseZone text = some seconds) :
    ∃ zone, SpellsZone text zone ∧ seconds = zone * 60 := by
  unfold parseZone at read
  split at read
  next => cases read
  next shaped =>
    rw [not_or, Decidable.not_not, Decidable.not_not] at shaped
    obtain ⟨five, signed⟩ := shaped
    have filled : text ≠ [] := by
      rintro rfl
      cases five
    obtain ⟨sign, rest, rfl⟩ := List.exists_cons_of_ne_nil filled
    obtain ⟨hours, hoursRead, read⟩ := Option.bind_eq_some_iff.mp read
    obtain ⟨minutes, minutesRead, read⟩ := Option.bind_eq_some_iff.mp read
    simp only [List.length_cons, List.tail_cons, List.drop_succ_cons, List.drop_zero]
      at five unsigned hoursRead minutesRead
    have two : (rest.take 2).length = 2 := by
      rw [List.length_take]
      omega
    have four : (rest.drop 2).take 2 = rest.drop 2 := by
      rw [List.take_of_length_le]
      rw [List.length_drop]
      omega
    rw [four] at minutesRead
    obtain ⟨hour, rfl, first⟩ :=
      padded_of_parseI64 two (fun byte member => unsigned byte (List.mem_of_mem_take member)) hoursRead
    obtain ⟨minute, rfl, second⟩ := padded_of_parseI64 (by rw [List.length_drop]; omega)
      (fun byte member => unsigned byte (List.mem_of_mem_drop member)) minutesRead
    have spelled : rest = Decimal.padded 2 hour ++ Decimal.padded 2 minute := by
      rw [← first, ← second, List.take_append_drop]
    split at read
    next => cases read
    next within =>
      have hours : hour ≤ 23 := by omega
      have minutes : minute ≤ 59 := by omega
      dsimp only at read
      by_cases west : sign = 45
      · cases west
        have behind : (45 :: rest).head? = some 45 := rfl
        rw [if_pos behind] at read
        cases read
        exact ⟨_, ⟨hour, minute, hours, minutes, .inr ⟨congrArg _ spelled, rfl⟩⟩, by omega⟩
      · have east : (sign :: rest).head? ≠ some 45 := fun minus => west (Option.some.inj minus)
        rw [if_neg east] at read
        cases read
        have plus : sign = 43 := by
          simp only [List.head?_cons, List.mem_cons, Option.some.injEq, List.not_mem_nil, or_false] at signed
          exact signed.resolve_right west
        cases plus
        exact ⟨_, ⟨hour, minute, hours, minutes, .inl ⟨congrArg _ spelled, rfl⟩⟩, by omega⟩

end Zones

section Machine

/-- The number of a day as the source computes it, one operation of sixty-four bits after the other.
There is nothing where one of them overflows. -/
def daysFromCivil64 (year : Int) (month day : Nat) : Option (Option Int) :=
  if month < 1 ∨ 12 < month ∨ day = 0 ∨ Civil.daysInMonth year month < day then some none
  else (Civil.eraNumber64 year month day).map some

def zoneSeconds64 (hours minutes : Int) (west : Bool) : Option Int := do
  let fromHours ← i64 (hours * 3600)
  let fromMinutes ← i64 (minutes * 60)
  let seconds ← i64 (fromHours + fromMinutes)
  if west then i64 (-seconds) else some seconds

def utcSeconds64 (days zoneSeconds : Int) (hour minute second : Nat) : Option Int := do
  let fromDays ← i64 (days * 86400)
  let fromHours ← i64 ((hour : Int) * 3600)
  let hours ← i64 (fromDays + fromHours)
  let fromMinutes ← i64 ((minute : Int) * 60)
  let minutes ← i64 (hours + fromMinutes)
  let seconds ← i64 (minutes + (min second 59 : Nat))
  i64 (seconds - zoneSeconds)

/-- Years of thirty-two bits. -/
def I32 (year : Int) : Prop := -2147483648 ≤ year ∧ year ≤ 2147483647

theorem daysFromCivil64_eq (year : Int) (month day : Nat) (fits : I32 year) :
    (∃ date : Date, date.year = year ∧ date.month = month ∧ date.day = day ∧
      daysFromCivil64 year month day = some (some date.number)) ∨
    daysFromCivil64 year month day = some none := by
  unfold daysFromCivil64
  split
  next => exact .inr rfl
  next valid =>
    let date : Date := ⟨year, month, day, by omega, by omega⟩
    have short := Civil.daysInMonth_le year month
    have bounds : 366 * (-2147483648) - 800000 ≤ date.number ∧ date.number ≤ 366 * 2147483647 :=
      Civil.number_bounds (by decide) (by decide) fits
    have number : Civil.eraNumber year month day = date.number := Civil.eraNumber_eq date
    refine .inl ⟨date, rfl, rfl, rfl, ?_⟩
    rw [Civil.eraNumber64_tellable (by omega) (by omega), number]
    · rfl
    · rw [number]
      unfold Civil.Tellable lowest64 highest64
      omega

theorem zoneSeconds64_eq {hours minutes : Int} (west : Bool) (small : -9 ≤ hours ∧ hours ≤ 23)
    (also : -9 ≤ minutes ∧ minutes ≤ 59) : zoneSeconds64 hours minutes west =
      some (if west then -(hours * 3600 + minutes * 60) else hours * 3600 + minutes * 60) := by
  unfold zoneSeconds64
  refine i64_step (by omega) (i64_step (by omega) (i64_step (by omega) ?_))
  cases west
  · rfl
  · exact i64_fits (by unfold lowest64; omega) (by unfold highest64; omega)

theorem utcSeconds64_eq {days zoneSeconds : Int} {hour minute second : Nat}
    (near : -1000000000000 ≤ days ∧ days ≤ 1000000000000) (hours : hour ≤ 23) (minutes : minute ≤ 59)
    (zone : -100000 ≤ zoneSeconds ∧ zoneSeconds ≤ 100000) :
    utcSeconds64 days zoneSeconds hour minute second =
      some (days * 86400 + secondOfDay hour minute second - zoneSeconds) := by
  have whole : days * 86400 + secondOfDay hour minute second - zoneSeconds =
      days * 86400 + (hour : Int) * 3600 + (minute : Int) * 60 + (min second 59 : Nat) -
        zoneSeconds := by
    unfold secondOfDay
    omega
  rw [whole]
  unfold utcSeconds64
  refine i64_step (by omega) (i64_step (by omega) (i64_step (by omega) (i64_step (by omega)
    (i64_step (by omega) (i64_step (by omega) ?_)))))
  exact i64_fits (by unfold lowest64; omega) (by unfold highest64; omega)

end Machine

section Exactness

/-- A text in three words that tells a date, a time and a zone, each in its range. A second may be a
leap second. -/
structure Denotes (value : Bytes) (date : Date) (hour minute second : Nat) (zone : Int) : Prop where
  words : ∃ dateText timeText zoneText dayText monthText yearText hourText minuteText secondText,
    splitAsciiWhitespace value = [dateText, timeText, zoneText] ∧
    dateText.splitOn 45 = [dayText, monthText, yearText] ∧
    timeText.splitOn 58 = [hourText, minuteText, secondText] ∧
    Spells (trim dayText) date.day ∧
    monthText.map toAsciiLowercase = (monthNames.getD (date.month - 1) []).map toAsciiLowercase ∧
    (0 ≤ date.year ∧ Spells yearText date.year.toNat) ∧
    Spells hourText hour ∧ Spells minuteText minute ∧ Spells secondText second ∧
    SpellsZone zoneText zone
  hours : hour ≤ 23
  minutes : minute ≤ 59
  seconds : second ≤ 60

/-- The zone has no sign but its first byte. -/
def ZoneUnsigned (value : Bytes) : Prop :=
  ∀ zone, (splitAsciiWhitespace value)[2]? = some zone → ∀ byte ∈ zone.tail, byte ≠ 43 ∧ byte ≠ 45

/-- Milliseconds from 1970 to a clock time in a zone. -/
def instantOf (date : Date) (hour minute second : Nat) (zone : Int) : Int :=
  (date.number * 86400 + secondOfDay hour minute second - zone * 60) * 1000

theorem monthText_of_parseMonth {text : Bytes} {month : Nat} (read : parseMonth text = some month) :
    text.map toAsciiLowercase = (monthNames.getD (month - 1) []).map toAsciiLowercase := by
  have all : ∀ place : Fin 12, (["jan", "feb", "mar", "apr", "may", "jun", "jul", "aug", "sep", "oct",
      "nov", "dec"].map ascii)[place.val]? =
        some ((monthNames.getD place.val []).map toAsciiLowercase) := by decide +kernel
  have bounds := parseMonth_bounds read
  unfold parseMonth at read
  obtain ⟨place, found, rfl⟩ := Option.map_eq_some_iff.mp read
  obtain ⟨within, same, -⟩ := List.idxOf?_eq_some_iff.mp found
  have named := all ⟨place, by omega⟩
  rw [List.getElem?_eq_getElem within, same] at named
  exact Option.some.inj named

theorem denotes_of_written {value : Bytes} {date : Date} {hour minute second : Nat}
    {zoneSeconds : Int} (written : Written value date hour minute second zoneSeconds)
    (unsigned : ZoneUnsigned value) :
    ∃ zone, Denotes value date hour minute second zone ∧ zoneSeconds = zone * 60 := by
  obtain ⟨⟨dateText, timeText, zoneText, dayText, monthText, yearText, hourText, minuteText, secondText,
    words, dates, times, dayRead, monthRead, ⟨year, yearRead, same⟩, hourRead, minuteRead, secondRead,
    zoneRead⟩, hours, minutes, seconds⟩ := written
  have bare : ∀ byte ∈ zoneText.tail, byte ≠ 43 ∧ byte ≠ 45 := unsigned zoneText (by rw [words]; rfl)
  obtain ⟨zone, spelled, counted⟩ := spellsZone_of_parseZone bare zoneRead
  have years : Spells yearText date.year.toNat := by
    rw [same]
    exact spells_of_parse yearRead
  exact ⟨zone, ⟨⟨dateText, timeText, zoneText, dayText, monthText, yearText, hourText, minuteText,
    secondText, words, dates, times, spells_of_parse dayRead, monthText_of_parseMonth monthRead,
    ⟨by omega, years⟩, spells_of_parse hourRead, spells_of_parse minuteRead,
    spells_of_parse secondRead, spelled⟩, hours, minutes, seconds⟩, counted⟩

/-- The date and the second of the day at so many seconds after the first of January 1970. -/
def dateAt (seconds : Nat) : Date := Civil.dateOf (seconds / 86400)

theorem parse_format {seconds clock : Nat} {zone : Int} (padding : DayPadding)
    (shifted : (clock : Int) = seconds + zone * 60) (low : -1439 ≤ zone) (high : zone ≤ 1439)
    (earlier : (dateAt clock).year ≤ 9999) :
    parseImapInternalDate (formatInternalDate padding (dateAt clock) (clock % 86400) zone) =
      some (seconds * 1000) := by
  have later : 1970 ≤ (dateAt clock).year := Civil.year_dateOf _
  have written := written_format padding (by omega : 0 ≤ (dateAt clock).year) earlier
    (Nat.mod_lt clock (by decide : 0 < 86400)) low high
  have number : (dateAt clock).number = (clock / 86400 : Nat) := Civil.number_dateOf _
  have bounds := Civil.number_bounds (by decide : (0 : Int) ≤ 0) (by decide : (0 : Int) ≤ 9999)
    ⟨by omega, earlier⟩
  rw [number] at bounds
  refine parseImapInternalDate_eq_some.mpr ⟨_, _, _, _, _, written, seconds, ?_, ?_, rfl⟩
  · rw [number]
    unfold secondOfDay
    omega
  · unfold u64Limit
    omega

/-- What is written is read back; what is read is a date, unless its zone has signs of its own; and
no operation of sixty-four bits on the way leaves them. -/
theorem internal_dates_exact :
    (∀ (padding : DayPadding) (seconds clock : Nat) (zone : Int),
      (clock : Int) = seconds + zone * 60 → -1439 ≤ zone → zone ≤ 1439 →
      (dateAt clock).year ≤ 9999 →
      parseImapInternalDate (formatInternalDate padding (dateAt clock) (clock % 86400) zone) =
        some (seconds * 1000)) ∧
    (∀ (value : Bytes) (milliseconds : UnixMillis),
      parseImapInternalDate value = some milliseconds → ZoneUnsigned value →
      ∃ date hour minute second zone, Denotes value date hour minute second zone ∧
        (milliseconds : Int) = instantOf date hour minute second zone) ∧
    (∀ (year : Int) (month day : Nat), I32 year → daysFromCivil64 year month day = some none ∨
      ∃ date : Date, date.year = year ∧ date.month = month ∧ date.day = day ∧
        daysFromCivil64 year month day = some (some date.number) ∧
        ∀ (hours minutes : Int) (west : Bool) (hour minute second : Nat),
          -9 ≤ hours → hours ≤ 23 → -9 ≤ minutes → minutes ≤ 59 → hour ≤ 23 → minute ≤ 59 →
          ∃ zoneSeconds, zoneSeconds64 hours minutes west = some zoneSeconds ∧
            zoneSeconds = (if west then -(hours * 3600 + minutes * 60) else hours * 3600 + minutes * 60) ∧
            utcSeconds64 date.number zoneSeconds hour minute second =
              some (date.number * 86400 + secondOfDay hour minute second - zoneSeconds)) := by
  refine ⟨?_, ?_, ?_⟩
  · intro padding seconds clock zone shifted low high earlier
    exact parse_format padding shifted low high earlier
  · intro value milliseconds read unsigned
    obtain ⟨date, hour, minute, second, zoneSeconds, written, seconds, counted, -, rfl⟩ :=
      parseImapInternalDate_eq_some.mp read
    obtain ⟨zone, denotes, rfl⟩ := denotes_of_written written unsigned
    refine ⟨date, hour, minute, second, zone, denotes, ?_⟩
    unfold instantOf
    omega
  · intro year month day fits
    rcases daysFromCivil64_eq year month day fits with ⟨date, rfl, rfl, rfl, made⟩ | invalid
    · refine .inr ⟨date, rfl, rfl, rfl, made, ?_⟩
      intro hours minutes west hour minute second low high least most inDay inHour
      have bounds : 366 * (-2147483648) - 800000 ≤ date.number ∧ date.number ≤ 366 * 2147483647 :=
        Civil.number_bounds (by decide) (by decide) fits
      refine ⟨_, zoneSeconds64_eq west ⟨low, high⟩ ⟨least, most⟩, rfl, ?_⟩
      refine utcSeconds64_eq ⟨by omega, by omega⟩ inDay inHour ?_
      split <;> omega
    · exact .inl invalid

namespace DateSamples

/-- Half an hour into March, where an hour to the east it is still February. -/
def march : Bytes := ascii " 1-Mar-1970 00:30:00 +0100"

theorem march_read : parseImapInternalDate march = some 5095800000 ∧
    ∃ date hour minute second zone, Denotes march date hour minute second zone ∧
      ((5095800000 : UnixMillis) : Int) = instantOf date hour minute second zone := by
  have written : formatInternalDate .spaces (dateAt 5099400) (5099400 % 86400) 60 = march := by
    decide +kernel
  have read := internal_dates_exact.1 .spaces 5095800 5099400 60 (by decide) (by decide) (by decide)
    (by decide +kernel)
  rw [written] at read
  refine ⟨read, internal_dates_exact.2.1 march _ read ?_⟩
  intro zone third byte member
  have word : (splitAsciiWhitespace march)[2]? = some (ascii "+0100") := by decide +kernel
  have digits : ((ascii "+0100").tail.all fun byte => byte != 43 && byte != 45) = true := by
    decide +kernel
  rw [← Option.some.inj (word.symm.trans third)] at member
  simpa using List.all_eq_true.mp digits byte member

/-- Signs in the places of digits, and the last second of 2016 with the leap second behind it. -/
def signed : Bytes := ascii "17-Jul-1996 02:44:25 +-5+3"

theorem signed_read : parseImapInternalDate signed = some 837589285000 ∧
    (¬∃ date hour minute second zone, Denotes signed date hour minute second zone) ∧
    parseImapInternalDate (ascii "31-Dec-2016 23:59:60 +0000") = some 1483228799000 ∧
    parseImapInternalDate (ascii "31-Dec-2016 23:59:59 +0000") = some 1483228799000 := by
  refine ⟨by decide +kernel, ?_, by decide +kernel, by decide +kernel⟩
  rintro ⟨date, hour, minute, second, zone, ⟨dateText, timeText, zoneText, dayText, monthText, yearText,
    hourText, minuteText, secondText, words, -, -, -, -, -, -, -, -, spelled⟩, -, -, -⟩
  have cut : splitAsciiWhitespace signed = [ascii "17-Jul-1996", ascii "02:44:25", ascii "+-5+3"] := by
    decide +kernel
  rw [cut] at words
  cases words
  obtain ⟨hours, minutes, -, -, shapes⟩ := spelled
  have digits : ∀ byte ∈ Decimal.padded 2 hours ++ Decimal.padded 2 minutes,
      Decimal.isDigit byte = true := by
    intro byte member
    rcases List.mem_append.mp member with member | member
    · exact Decimal.isDigit_of_mem_padded byte member
    · exact Decimal.isDigit_of_mem_padded byte member
  have minus : (45 : UInt8) ∈ Decimal.padded 2 hours ++ Decimal.padded 2 minutes := by
    rcases shapes with ⟨shape, -⟩ | ⟨shape, -⟩
    · rw [← (List.cons.inj shape).2]
      decide
    · exact absurd (List.cons.inj shape).1 (by decide)
  exact absurd (digits 45 minus) (by decide)

end DateSamples

end Exactness

end ProfilePlatform.Imap
