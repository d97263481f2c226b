import ProfilePlatform.Foundation.Integers
import Mathlib.Tactic.IntervalCases

/-! The proleptic Gregorian calendar, and its days counted from 1970.

A day's number is what the years before it, the months before it and the days before it come to.
Tomorrow has the next number, and the arithmetic over eras of four hundred years gives the same.
-/

set_option autoImplicit false

namespace Foundation.Civil

def isLeapYear (year : Int) : Bool := year % 4 == 0 && (year % 100 != 0 || year % 400 == 0)

def daysInMonth (year : Int) (month : Nat) : Nat :=
  if month ∈ [1, 3, 5, 7, 8, 10, 12] then 31
  else if month ∈ [4, 6, 9, 11] then 30
  else if month = 2 then if isLeapYear year then 29 else 28
  else 0

structure Date where
  year : Int
  month : Nat
  day : Nat
  monthly : 1 ≤ month ∧ month ≤ 12
  daily : 1 ≤ day ∧ day ≤ daysInMonth year month

theorem daysInMonth_positive (year : Int) {month : Nat} (monthly : 1 ≤ month ∧ month ≤ 12) :
    1 ≤ daysInMonth year month := by
  obtain ⟨low, high⟩ := monthly
  interval_cases month <;> simp only [daysInMonth] <;> cases isLeapYear year <;> decide

def epoch : Date := ⟨1970, 1, 1, by decide, by decide⟩

def Date.tomorrow (date : Date) : Date :=
  if later : date.day < daysInMonth date.year date.month then
    { date with day := date.day + 1, daily := ⟨Nat.succ_pos _, later⟩ }
  else if later : date.month < 12 then
    ⟨date.year, date.month + 1, 1, ⟨Nat.succ_pos _, later⟩,
      Nat.le_refl 1, daysInMonth_positive _ ⟨Nat.succ_pos _, later⟩⟩
  else ⟨date.year + 1, 1, 1, by decide, Nat.le_refl 1, daysInMonth_positive _ (by decide)⟩

/-- The date so many days after the first of January 1970. -/
def dateOf : Nat → Date
  | 0 => epoch
  | days + 1 => (dateOf days).tomorrow

/-- The days of the years from 1970 on that are over, or those still to come, with a minus. -/
def daysBeforeYear (year : Int) : Int :=
  365 * (year - 1970) + ((year - 1) / 4 - (year - 1) / 100 + (year - 1) / 400) - 477

def daysBeforeMonth (year : Int) : Nat → Nat
  | 0 | 1 => 0
  | month + 2 => daysBeforeMonth year (month + 1) + daysInMonth year (month + 1)

def Date.number (date : Date) : Int :=
  daysBeforeYear date.year + daysBeforeMonth date.year date.month + (date.day - 1 : Nat)

section Counting

def leapDay (year : Int) : Nat := if isLeapYear year then 1 else 0

theorem isLeapYear_iff {year : Int} :
    isLeapYear year = true ↔ year % 4 = 0 ∧ (year % 100 ≠ 0 ∨ year % 400 = 0) := by
  simp [isLeapYear]

theorem daysBeforeYear_succ (year : Int) :
    daysBeforeYear (year + 1) = daysBeforeYear year + 365 + leapDay year := by
  unfold daysBeforeYear leapDay
  by_cases leap : isLeapYear year = true
  · rw [if_pos leap]
    rw [isLeapYear_iff] at leap
    omega
  · rw [if_neg leap]
    rw [isLeapYear_iff] at leap
    omega

theorem daysInMonth_february (year : Int) : daysInMonth year 2 = 28 + leapDay year := by
  unfold leapDay
  show (if isLeapYear year then 29 else 28) = _
  split <;> rfl

theorem daysBeforeMonth_later (year : Int) (month : Nat) :
    daysBeforeMonth year (month + 3) = daysBeforeMonth 2001 (month + 3) + leapDay year := by
  induction month with
  | zero =>
    show 0 + daysInMonth year 1 + daysInMonth year 2 = 0 + 31 + 28 + leapDay year
    rw [daysInMonth_february]
    show 0 + 31 + (28 + leapDay year) = _
    omega
  | succ month ih =>
    have plain : daysInMonth year (month + 3) = daysInMonth 2001 (month + 3) := by
      simp only [daysInMonth, show month + 3 ≠ 2 by omega, if_false]
    show daysBeforeMonth year (month + 3) + daysInMonth year (month + 3) =
      daysBeforeMonth 2001 (month + 3) + daysInMonth 2001 (month + 3) + leapDay year
    rw [ih, plain]
    omega

@[simp] theorem number_epoch : epoch.number = 0 := by decide

theorem number_tomorrow (date : Date) : date.tomorrow.number = date.number + 1 := by
  obtain ⟨low, high⟩ := date.monthly
  obtain ⟨first, last⟩ := date.daily
  unfold Date.tomorrow
  split
  next later =>
    simp only [Date.number]
    omega
  next whole =>
    have full : date.day = daysInMonth date.year date.month := by omega
    split
    next later =>
      have step : daysBeforeMonth date.year (date.month + 1) =
          daysBeforeMonth date.year date.month + daysInMonth date.year date.month := by
        obtain ⟨month, is⟩ : ∃ month, date.month = month + 1 := ⟨date.month - 1, by omega⟩
        rw [is]
        rfl
      simp only [Date.number, step]
      omega
    next december =>
      have twelfth : date.month = 12 := by omega
      have months : daysBeforeMonth date.year 12 = 334 + leapDay date.year :=
        daysBeforeMonth_later date.year 9
      have days : daysInMonth date.year 12 = 31 := rfl
      rw [twelfth, days] at full
      simp only [Date.number, twelfth, full, months, daysBeforeYear_succ]
      show _ + ((daysBeforeMonth (date.year + 1) 1 : Nat) : Int) + _ = _
      simp only [daysBeforeMonth]
      omega

@[simp] theorem number_dateOf (days : Nat) : (dateOf days).number = days := by
  induction days with
  | zero => exact number_epoch
  | succ days ih =>
    rw [dateOf, number_tomorrow, ih]
    rfl

theorem year_tomorrow (date : Date) : date.year ≤ date.tomorrow.year := by
  unfold Date.tomorrow
  split
  · exact Int.le_refl _
  · split
    · exact Int.le_refl _
    · exact Int.le_add_of_nonneg_right (by decide)

theorem year_dateOf (days : Nat) : 1970 ≤ (dateOf days).year := by
  induction days with
  | zero => decide
  | succ days ih => exact Int.le_trans ih (year_tomorrow _)

theorem daysInMonth_le (year : Int) (month : Nat) : daysInMonth year month ≤ 31 := by
  unfold daysInMonth
  split
  · exact Nat.le_refl 31
  · split
    · decide
    · split
      · split <;> decide
      · decide

/-- No year has less than three hundred and sixty-five days. -/
theorem years_le_number {date : Date} (later : 0 ≤ date.year) :
    365 * date.year ≤ date.number + 720000 := by
  unfold Date.number daysBeforeYear
  omega

end Counting

section Eras

/-- The number of a date by eras of four hundred years, which begin in March. -/
def eraNumber (year : Int) (month day : Int) : Int :=
  let adjustedYear := year - if month ≤ 2 then 1 else 0
  let era := adjustedYear / 400
  let yearOfEra := adjustedYear - era * 400
  let adjustedMonth := month + if 2 < month then -3 else 9
  let dayOfYear := (153 * adjustedMonth + 2) / 5 + day - 1
  let dayOfEra := yearOfEra * 365 + yearOfEra / 4 - yearOfEra / 100 + dayOfYear
  era * 146097 + dayOfEra - 719468

/-- Rounding towards zero, with what is subtracted from a year before the first, rounds down. -/
theorem tdiv_era (year : Int) :
    (if 0 ≤ year then year else year - 399).tdiv 400 = year / 400 := by
  split
  next later => exact Int.tdiv_eq_ediv_of_nonneg later
  next before =>
    rw [show year - 399 = -(399 - year) by omega, Int.neg_tdiv,
      Int.tdiv_eq_ediv_of_nonneg (by omega)]
    omega

theorem years_of_era (year : Int) :
    year / 400 * 146097 + ((year - year / 400 * 400) * 365 + (year - year / 400 * 400) / 4 -
      (year - year / 400 * 400) / 100) = daysBeforeYear (year + 1) + 719162 := by
  unfold daysBeforeYear
  omega

theorem eraNumber_eq (date : Date) : eraNumber date.year date.month date.day = date.number := by
  obtain ⟨year, month, day, ⟨low, high⟩, ⟨first, -⟩⟩ := date
  simp only [Date.number, eraNumber]
  obtain early | ⟨later, rfl⟩ : month ≤ 2 ∨ ∃ later, month = later + 3 := by
    rcases Nat.lt_or_ge 2 month with more | less
    · exact .inr ⟨month - 3, by omega⟩
    · exact .inl less
  · -- January and February end the year before.
    have before := years_of_era (year - 1)
    rw [Int.sub_add_cancel] at before
    have months : (153 * ((month : Int) + 9) + 2) / 5 = 306 + (daysBeforeMonth year month : Nat) := by
      interval_cases month <;> rfl
    rw [if_pos (by omega), if_neg (by omega), months]
    omega
  · have whole := years_of_era year
    have leap := daysBeforeYear_succ year
    have table : ∀ later : Fin 10,
        (153 * (later.val : Int) + 2) / 5 + 59 = (daysBeforeMonth 2001 (later.val + 3) : Nat) := by
      decide
    have months := table ⟨later, by omega⟩
    have named : ((later + 3 : Nat) : Int) + -3 = later := by omega
    rw [if_neg (by omega), if_pos (by omega), daysBeforeMonth_later, named]
    simp only [Int.sub_zero] at *
    omega

/-- No year has more than three hundred and sixty-six days. -/
theorem number_bounds {date : Date} {low high : Int} (before : low ≤ 0) (after : 0 ≤ high)
    (within : low ≤ date.year ∧ date.year ≤ high) :
    366 * low - 800000 ≤ date.number ∧ date.number ≤ 366 * high := by
  obtain ⟨first, last⟩ := date.daily
  have months := date.monthly
  have short := daysInMonth_le date.year date.month
  rw [← eraNumber_eq]
  simp only [eraNumber]
  have shifted : 0 ≤ (date.month : Int) + (if 2 < (date.month : Int) then -3 else 9) ∧
      (date.month : Int) + (if 2 < (date.month : Int) then -3 else 9) ≤ 11 := by
    split <;> omega
  generalize (date.month : Int) + (if 2 < (date.month : Int) then -3 else 9) = adjusted at shifted
  have years : date.year - 1 ≤ date.year - (if (date.month : Int) ≤ 2 then 1 else 0) ∧
      date.year - (if (date.month : Int) ≤ 2 then 1 else 0) ≤ date.year := by
    split <;> omega
  generalize date.year - (if (date.month : Int) ≤ 2 then 1 else 0) = adjustedYear at years
  omega

end Eras

section Machine

/-- The year that is divided, so that the division rounds down. -/
def eraDividend (adjustedYear : Int) : Option Int :=
  if 0 ≤ adjustedYear then some adjustedYear else i64 (adjustedYear - 399)

/-- The number by eras, one operation of sixty-four bits after the other. There is none where one
of them overflows. -/
def eraNumber64 (year month day : Int) : Option Int := do
  let adjustedYear ← i64 (year - if month ≤ 2 then 1 else 0)
  let dividend ← eraDividend adjustedYear
  let era := dividend.tdiv 400
  let eraStart ← i64 (era * 400)
  let yearOfEra ← i64 (adjustedYear - eraStart)
  let adjustedMonth ← i64 (month + if 2 < month then -3 else 9)
  let scaled ← i64 (153 * adjustedMonth)
  let rounded ← i64 (scaled + 2)
  let dayOfMarch ← i64 (rounded.tdiv 5 + day)
  let dayOfYear ← i64 (dayOfMarch - 1)
  let years ← i64 (yearOfEra * 365)
  let leaps ← i64 (years + yearOfEra.tdiv 4)
  let yearDays ← i64 (leaps - yearOfEra.tdiv 100)
  let dayOfEra ← i64 (yearDays + dayOfYear)
  let eraDays ← i64 (era * 146097)
  let days ← i64 (eraDays + dayOfEra)
  i64 (days - 719468)

/-- What the eras come to before the epoch is taken off fits, and so does the rest. -/
def Tellable (number : Int) : Prop := lowest64 ≤ number ∧ number + 719468 ≤ highest64

theorem dividend_eq {year dividend : Int} (made : eraDividend year = some dividend) :
    dividend.tdiv 400 = year / 400 := by
  rw [← tdiv_era year]
  unfold eraDividend at made
  split at made
  next later => rw [if_pos later, Option.some.inj made]
  next before => rw [if_neg before, (i64_eq_some.mp made).2]

section Steps

variable {year : Int} {month day : Nat}

theorem eraNumber64_eq_some (monthly : 1 ≤ month ∧ month ≤ 12) {number : Int}
    (made : eraNumber64 year month day = some number) :
    Tellable number ∧ number = eraNumber year month day := by
  unfold eraNumber64 at made
  obtain ⟨adjustedYear, first, made⟩ := Option.bind_eq_some_iff.mp made
  obtain ⟨dividend, divided, made⟩ := Option.bind_eq_some_iff.mp made
  obtain ⟨eraStart, second, made⟩ := Option.bind_eq_some_iff.mp made
  obtain ⟨yearOfEra, third, made⟩ := Option.bind_eq_some_iff.mp made
  obtain ⟨adjustedMonth, fourth, made⟩ := Option.bind_eq_some_iff.mp made
  obtain ⟨scaled, fifth, made⟩ := Option.bind_eq_some_iff.mp made
  obtain ⟨rounded, sixth, made⟩ := Option.bind_eq_some_iff.mp made
  obtain ⟨dayOfMarch, seventh, made⟩ := Option.bind_eq_some_iff.mp made
  obtain ⟨dayOfYear, eighth, made⟩ := Option.bind_eq_some_iff.mp made
  obtain ⟨years, ninth, made⟩ := Option.bind_eq_some_iff.mp made
  obtain ⟨leaps, tenth, made⟩ := Option.bind_eq_some_iff.mp made
  obtain ⟨yearDays, eleventh, made⟩ := Option.bind_eq_some_iff.mp made
  obtain ⟨dayOfEra, twelfth, made⟩ := Option.bind_eq_some_iff.mp made
  obtain ⟨eraDays, thirteenth, made⟩ := Option.bind_eq_some_iff.mp made
  obtain ⟨days, fourteenth, made⟩ := Option.bind_eq_some_iff.mp made
  have era := dividend_eq divided
  rw [era] at second thirteenth
  obtain ⟨-, rfl⟩ := i64_eq_some.mp first
  obtain ⟨-, rfl⟩ := i64_eq_some.mp second
  obtain ⟨-, rfl⟩ := i64_eq_some.mp third
  obtain ⟨-, rfl⟩ := i64_eq_some.mp fourth
  obtain ⟨-, rfl⟩ := i64_eq_some.mp fifth
  obtain ⟨-, rfl⟩ := i64_eq_some.mp sixth
  obtain ⟨-, rfl⟩ := i64_eq_some.mp seventh
  obtain ⟨-, rfl⟩ := i64_eq_some.mp eighth
  obtain ⟨-, rfl⟩ := i64_eq_some.mp ninth
  obtain ⟨-, rfl⟩ := i64_eq_some.mp tenth
  obtain ⟨-, rfl⟩ := i64_eq_some.mp eleventh
  obtain ⟨-, rfl⟩ := i64_eq_some.mp twelfth
  obtain ⟨-, rfl⟩ := i64_eq_some.mp thirteenth
  obtain ⟨⟨-, high⟩, rfl⟩ := i64_eq_some.mp fourteenth
  obtain ⟨⟨low, -⟩, rfl⟩ := i64_eq_some.mp made
  refine ⟨⟨low, by omega⟩, ?_⟩
  unfold eraNumber
  have early : 0 ≤ 153 * ((month : Int) + if 2 < (month : Int) then -3 else 9) + 2 := by
    split <;> omega
  rw [Int.tdiv_eq_ediv_of_nonneg early]
  generalize (year - if (month : Int) ≤ 2 then 1 else 0) = adjusted
  rw [Int.tdiv_eq_ediv_of_nonneg (by omega : 0 ≤ adjusted - adjusted / 400 * 400),
    Int.tdiv_eq_ediv_of_nonneg (by omega : 0 ≤ adjusted - adjusted / 400 * 400)]

theorem eraNumber64_tellable (monthly : 1 ≤ month ∧ month ≤ 12) (daily : 1 ≤ day ∧ day ≤ 31)
    (tellable : Tellable (eraNumber year month day)) :
    eraNumber64 year month day = some (eraNumber year month day) := by
  obtain ⟨low, high⟩ := tellable
  simp only [eraNumber] at low high ⊢
  unfold eraNumber64
  unfold lowest64 at low
  unfold highest64 at high
  have months : 0 ≤ (month : Int) + (if 2 < (month : Int) then -3 else 9) ∧
      (month : Int) + (if 2 < (month : Int) then -3 else 9) ≤ 11 := by
    split <;> omega
  have years : (0 : Int) ≤ (if (month : Int) ≤ 2 then 1 else 0) ∧
      (if (month : Int) ≤ 2 then (1 : Int) else 0) ≤ 1 := by
    split <;> omega
  generalize (month : Int) + (if 2 < (month : Int) then -3 else 9) = adjustedMonth at low high months ⊢
  have adjusts : year - (if (month : Int) ≤ 2 then (1 : Int) else 0) ≤ year ∧
      year - 1 ≤ year - (if (month : Int) ≤ 2 then (1 : Int) else 0) := by omega
  generalize year - (if (month : Int) ≤ 2 then (1 : Int) else 0) = adjustedYear at low high adjusts ⊢
  have quarters : (adjustedYear - adjustedYear / 400 * 400).tdiv 4 =
      (adjustedYear - adjustedYear / 400 * 400) / 4 := Int.tdiv_eq_ediv_of_nonneg (by omega)
  have centuries : (adjustedYear - adjustedYear / 400 * 400).tdiv 100 =
      (adjustedYear - adjustedYear / 400 * 400) / 100 := Int.tdiv_eq_ediv_of_nonneg (by omega)
  have fifths : (153 * adjustedMonth + 2).tdiv 5 = (153 * adjustedMonth + 2) / 5 :=
    Int.tdiv_eq_ediv_of_nonneg (by omega)
  refine i64_step (by omega) ?_
  have divided : eraDividend adjustedYear =
      some (if 0 ≤ adjustedYear then adjustedYear else adjustedYear - 399) := by
    unfold eraDividend
    split
    next => rfl
    next before => exact i64_fits (by unfold lowest64; omega) (by unfold highest64; omega)
  rw [divided, Option.bind_eq_bind, Option.bind_some, tdiv_era]
  refine i64_step (by omega) (i64_step (by omega) (i64_step (by omega) (i64_step (by omega)
    (i64_step (by omega) ?_))))
  rw [fifths]
  refine i64_step (by omega) (i64_step (by omega) (i64_step (by omega) ?_))
  rw [quarters]
  refine i64_step (by omega) ?_
  rw [centuries]
  refine i64_step (by omega) (i64_step (by omega) (i64_step (by omega) (i64_step (by omega) ?_)))
  exact i64_fits (by unfold lowest64; omega) (by unfold highest64; omega)

theorem eraNumber64_eq_some_iff (monthly : 1 ≤ month ∧ month ≤ 12) (daily : 1 ≤ day ∧ day ≤ 31)
    {number : Int} : eraNumber64 year month day = some number ↔
      Tellable (eraNumber year month day) ∧ number = eraNumber year month day := by
  constructor
  · intro made
    obtain ⟨tellable, rfl⟩ := eraNumber64_eq_some monthly made
    exact ⟨tellable, rfl⟩
  · rintro ⟨tellable, rfl⟩
    exact eraNumber64_tellable monthly daily tellable

end Steps

end Machine

end Foundation.Civil
