import TraefikManager.Runtime
import Mathlib.Tactic.Ring

/-!
# Reading ISO 8601 texts

`datetime.fromisoformat`: a calendar or week date, then a time with an optional zone. The
text that `isoformat` writes is read back as the same point in time.
-/

namespace TraefikManager

open Foundation

namespace Iso

section Calendar

def isLeap (year : Int) : Bool := year % 4 = 0 ∧ (year % 100 ≠ 0 ∨ year % 400 = 0)

def daysInMonth (year month : Int) : Int :=
  if month = 2 then if isLeap year then 29 else 28
  else if month = 4 ∨ month = 6 ∨ month = 9 ∨ month = 11 then 30
  else 31

/-- The number of days from 1970-01-01 to a date; a year is taken to begin in March. -/
def dayNumber (year month day : Int) : Int :=
  let shifted := if month ≤ 2 then year - 1 else year
  let monthFromMarch := if month ≤ 2 then month + 9 else month - 3
  let era := shifted / 400
  let yearOfEra := shifted % 400
  let dayOfYear := (153 * monthFromMarch + 2) / 5 + day - 1
  era * 146097 + (365 * yearOfEra + yearOfEra / 4 - yearOfEra / 100 + dayOfYear) - 719468

/-- The days of the years 1 to 9999. -/
def minDay : Int := -719162
def maxDay : Int := 2932896

end Calendar

section Reading

/-- Exactly `width` ASCII digits. -/
def number (width : Nat) (chars : List Char) : Option Int :=
  if chars.length = width then (Text.digitsValue chars).map Int.ofNat else none

/-- Where the date ends, in a text of more than seven characters. -/
def separatorLocation (chars : List Char) : Nat :=
  if chars[4]? = some '-' then
    if chars[5]? = some 'W' then
      if chars[8]? = some '-' then
        if (chars[10]?).any Text.isDigit then 8 else 10
      else 8
    else 10
  else if chars[4]? = some 'W' then
    let digits := ((chars.drop 7).takeWhile Text.isDigit).length
    if digits < 2 then 7 + digits else if (7 + digits) % 2 = 0 then 7 else 8
  else 8

/-- The day of a week date: week 1 is the one with the first Thursday. -/
def weekDay (year week day : Int) : Option Int :=
  let newYear := dayNumber year 1 1
  let weekday := (newYear + 3) % 7
  let long := weekday = 3 ∨ (weekday = 2 ∧ isLeap year = true)
  if 1 ≤ week ∧ (week ≤ 52 ∨ (week = 53 ∧ long)) ∧ 1 ≤ day ∧ day ≤ 7 then
    let monday := if weekday ≤ 3 then newYear - weekday else newYear - weekday + 7
    some (monday + (week - 1) * 7 + (day - 1))
  else none

/-- A date of a calendar year, as a day number. -/
def calendarDay (year month day : Int) : Option Int :=
  if 1 ≤ month ∧ month ≤ 12 ∧ 1 ≤ day ∧ day ≤ daysInMonth year month then
    some (dayNumber year month day)
  else none

/-- `_parse_isoformat_date`. -/
def readDate (chars : List Char) : Option Int := do
  let year ← number 4 (chars.take 4)
  let dashed : Bool := chars[4]? = some '-'
  let rest := chars.drop (if dashed then 5 else 4)
  let date ←
    if rest.head? = some 'W' then do
      let week ← number 2 ((rest.drop 1).take 2)
      match dashed, rest.drop 3 with
      | _, [] => weekDay year week 1
      | true, '-' :: day => do weekDay year week (← number 1 day)
      | true, _ => none
      | false, day => do weekDay year week (← number 1 day)
    else do
      let month ← number 2 (rest.take 2)
      match dashed, rest.drop 2 with
      | true, '-' :: day => do calendarDay year month (← number 2 day)
      | true, _ => none
      | false, day => do calendarDay year month (← number 2 day)
  if 1 ≤ year ∧ minDay ≤ date ∧ date ≤ maxDay then some date else none

/-- The microseconds of a fraction: digits after the sixth are dropped. -/
def readFraction (digits : List Char) : Option Int :=
  if digits.all Text.isDigit then
    (Text.digitsValue (digits.take 6)).map fun value =>
      Int.ofNat (value * 10 ^ (6 - min 6 digits.length))
  else none

/-- Seconds with an optional fraction, in microseconds. -/
def readSeconds (chars : List Char) : Option Int := do
  let seconds ← number 2 (chars.take 2)
  match chars.drop 2 with
  | [] => some (seconds * 1000000)
  | mark :: digits =>
      if mark = '.' ∨ mark = ',' then do some (seconds * 1000000 + (← readFraction digits))
      else none

/-- `_parse_hh_mm_ss_ff`: hours, minutes, and the seconds in microseconds. -/
def readClock (chars : List Char) : Option (Int × Int × Int) := do
  let hours ← number 2 (chars.take 2)
  match chars.drop 2 with
  | [] => some (hours, 0, 0)
  | c :: rest =>
      let colons := c = ':'
      let rest := if colons then rest else c :: rest
      let minutes ← number 2 (rest.take 2)
      match rest.drop 2 with
      | [] => some (hours, minutes, 0)
      | c :: rest =>
          if colons then
            if c = ':' then do some (hours, minutes, ← readSeconds rest) else none
          else do some (hours, minutes, ← readSeconds (c :: rest))

def isZoneSign (c : Char) : Bool := c = '+' ∨ c = '-' ∨ c = 'Z'

/-- `_parse_isoformat_time`: the microsecond of the day, and the offset of the zone. -/
def readTime (chars : List Char) : Option (Int × Option Int) := do
  let (hours, minutes, micros) ← readClock (chars.takeWhile (!isZoneSign ·))
  if hours < 24 ∧ minutes < 60 ∧ micros < 60000000 then
    let time := (hours * 60 + minutes) * 60000000 + micros
    match chars.dropWhile (!isZoneSign ·) with
    | [] => some (time, none)
    | sign :: zone =>
        if sign = 'Z' then if zone = [] then some (time, some 0) else none
        else do
          let (hours, minutes, micros) ← readClock zone
          let offset := (hours * 60 + minutes) * 60000000 + micros
          if offset < 86400000000 then some (time, some (if sign = '-' then -offset else offset))
          else none
  else none

end Reading

end Iso

namespace Datetime

/-- `datetime.fromisoformat`; `none` stands for its `ValueError`. -/
def fromIsoformat (text : String) : Option Datetime := do
  let chars := text.toList
  if chars.length < 7 then none
  else
    let location := if chars.length = 7 then 7 else Iso.separatorLocation chars
    let day ← Iso.readDate (chars.take location)
    match chars.drop location with
    | [] => some ⟨false, day * 86400000000⟩
    | _ :: time => do
        let (micros, offset) ← Iso.readTime time
        some ⟨offset.isSome, day * 86400000000 + micros - offset.getD 0⟩

/-- The points in time a `datetime` can hold: those of the years 1 to 9999. -/
def InRange (moment : Datetime) : Prop :=
  Iso.minDay * 86400000000 ≤ moment.micros ∧ moment.micros < (Iso.maxDay + 1) * 86400000000

instance (moment : Datetime) : Decidable moment.InRange := by unfold InRange; infer_instance

/-- A reading of the clock: a point in time a `datetime` can hold, in UTC. -/
structure Instant where
  micros : Int
  inRange : (Datetime.utc micros).InRange

example : fromIsoformat "2026-11-02T03:04:05.25Z" = some (.utc 1793588645250000) := by decide

example : fromIsoformat "2026-W45-1T12" = some ⟨false, 1793620800000000⟩ := by decide

end Datetime

namespace Iso

section CivilDate

/-- The first day of a year of the 400-year cycle; a year begins in March. -/
def yearStart (yearOfEra : Int) : Int := 365 * yearOfEra + yearOfEra / 4 - yearOfEra / 100

/-- The year of the cycle that `civilDate` computes. -/
def yearOfEra (dayOfEra : Int) : Int :=
  (dayOfEra - dayOfEra / 1460 + dayOfEra / 36524 - dayOfEra / 146096) / 365

private theorem century_yearOfEra {dayOfEra century : Int} (low : 0 ≤ century) (high : century ≤ 3)
    (isCentury : dayOfEra / 36524 = century) : yearOfEra dayOfEra / 100 = century := by
  have last : dayOfEra / 146096 = 0 := by omega
  unfold yearOfEra
  rw [isCentury, last]
  omega

private theorem yearOfEra_bounds {dayOfEra : Int} (low : 0 ≤ dayOfEra) (high : dayOfEra < 146096) :
    yearStart (yearOfEra dayOfEra) ≤ dayOfEra ∧ dayOfEra < yearStart (yearOfEra dayOfEra + 1) := by
  obtain ⟨century, isCentury⟩ : ∃ century, dayOfEra / 36524 = century := ⟨_, rfl⟩
  have lowC : 0 ≤ century := by omega
  have highC : century ≤ 3 := by omega
  have hundreds := century_yearOfEra lowC highC isCentury
  have last : dayOfEra / 146096 = 0 := by omega
  have isYear : yearOfEra dayOfEra = (dayOfEra - dayOfEra / 1460 + century) / 365 := by
    unfold yearOfEra
    rw [isCentury, last, Int.sub_zero]
  unfold yearStart
  generalize yearOfEra dayOfEra = year at *
  generalize fourYears : year / 4 = j
  generalize nextFour : (year + 1) / 4 = j'
  generalize nextHundred : (year + 1) / 100 = c'
  generalize days : dayOfEra / 1460 = k at *
  have kBounds : 1460 * k ≤ dayOfEra ∧ dayOfEra ≤ 1460 * k + 1459 := by omega
  have yearBounds : 365 * year ≤ dayOfEra - k + century ∧
      dayOfEra - k + century ≤ 365 * year + 364 := by omega
  have jBounds : 4 * j ≤ year ∧ year ≤ 4 * j + 3 := by omega
  have jBounds' : 4 * j' ≤ year + 1 ∧ year + 1 ≤ 4 * j' + 3 := by omega
  have cBounds : 100 * century ≤ year ∧ year ≤ 100 * century + 99 := by omega
  have cBounds' : 100 * c' ≤ year + 1 ∧ year + 1 ≤ 100 * c' + 99 := by omega
  have dBounds : 36524 * century ≤ dayOfEra ∧ dayOfEra ≤ 36524 * century + 36523 := by omega
  clear days isYear fourYears nextFour nextHundred hundreds isCentury last
  have jLow : j ≤ k := by omega
  have jHigh : k ≤ j + 1 := by omega
  constructor
  · omega
  · have fourth : j' = j ∨ j' = j + 1 := by omega
    have hundredth : c' = century ∨ c' = century + 1 := by omega
    obtain rfl | rfl := hundredth <;> obtain rfl | rfl := fourth <;> omega

/-- A day in a year of the 400-year cycle: the last year has one more leap day. -/
theorem yearOfEra_cases (dayOfEra : Int) (low : 0 ≤ dayOfEra) (high : dayOfEra < 146097) :
    0 ≤ yearOfEra dayOfEra ∧ yearOfEra dayOfEra ≤ 399 ∧
      yearStart (yearOfEra dayOfEra) ≤ dayOfEra ∧
      (dayOfEra < yearStart (yearOfEra dayOfEra + 1) ∨
        dayOfEra = 146096 ∧ yearOfEra dayOfEra = 399) := by
  obtain isLast | notLast : dayOfEra = 146096 ∨ dayOfEra < 146096 := by omega
  · subst isLast
    decide
  · obtain ⟨begins, ends⟩ := yearOfEra_bounds low notLast
    have lowYear : 0 ≤ yearOfEra dayOfEra := by unfold yearOfEra; omega
    have highYear : yearOfEra dayOfEra ≤ 399 := by unfold yearOfEra; omega
    exact ⟨lowYear, highYear, begins, .inl ends⟩


/-- The date of a day of a year that begins in March. -/
def dateOfYear (year dayOfYear : Int) : Int × Int × Int :=
  let monthFromMarch := (5 * dayOfYear + 2) / 153
  let month := if monthFromMarch < 10 then monthFromMarch + 3 else monthFromMarch - 9
  (if month ≤ 2 then year + 1 else year, month, dayOfYear - (153 * monthFromMarch + 2) / 5 + 1)

private theorem civilDate_eq (days : Int) : ∃ era year dayOfYear : Int,
    days + 719468 = era * 146097 + yearStart year + dayOfYear ∧ 0 ≤ year ∧ year ≤ 399 ∧
      0 ≤ dayOfYear ∧
      (dayOfYear < yearStart (year + 1) - yearStart year ∨ year = 399 ∧ dayOfYear = 365) ∧
      Datetime.civilDate days = dateOfYear (year + era * 400) dayOfYear := by
  obtain ⟨lowYear, highYear, begins, ends⟩ :=
    yearOfEra_cases ((days + 719468) % 146097) (by omega) (by omega)
  refine ⟨(days + 719468) / 146097, yearOfEra ((days + 719468) % 146097),
    (days + 719468) % 146097 - yearStart (yearOfEra ((days + 719468) % 146097)),
    by omega, lowYear, highYear, by omega, ?_, rfl⟩
  obtain inside | ⟨last, lastYear⟩ := ends
  · exact .inl (by omega)
  · exact .inr ⟨lastYear, by rw [lastYear, last]; decide⟩

private theorem dayNumber_dateOfYear {era year dayOfYear : Int} (low : 0 ≤ year) (high : year ≤ 399)
    (first : 0 ≤ dayOfYear) (last : dayOfYear ≤ 365) :
    dayNumber (dateOfYear (year + era * 400) dayOfYear).1
        (dateOfYear (year + era * 400) dayOfYear).2.1
        (dateOfYear (year + era * 400) dayOfYear).2.2 =
      era * 146097 + yearStart year + dayOfYear - 719468 := by
  obtain ⟨month, isMonth⟩ : ∃ month, (5 * dayOfYear + 2) / 153 = month := ⟨_, rfl⟩
  have lowMonth : 0 ≤ month := by omega
  have highMonth : month ≤ 11 := by omega
  unfold dayNumber dateOfYear yearStart
  simp only [isMonth]
  have isEra : (year + era * 400) / 400 = era := by omega
  have isYear : (year + era * 400) % 400 = year := by omega
  by_cases early : month < 10
  · have notWrapped : ¬ month + 3 ≤ 2 := by omega
    have back : month + 3 - 3 = month := by omega
    simp only [if_pos early, if_neg notWrapped, isEra, isYear, back]
    omega
  · have wrapped : month - 9 ≤ 2 := by omega
    have back : month - 9 + 9 = month := by omega
    have same : year + era * 400 + 1 - 1 = year + era * 400 := by omega
    simp only [if_neg early, if_pos wrapped, same, isEra, isYear, back]
    omega

private theorem yearStart_next (year : Int) :
    yearStart (year + 1) - yearStart year ≤ 366 := by
  unfold yearStart
  omega

private theorem dayNumber_civilDate (days : Int) :
    dayNumber (Datetime.civilDate days).1 (Datetime.civilDate days).2.1
      (Datetime.civilDate days).2.2 = days := by
  obtain ⟨era, year, dayOfYear, isDay, low, high, first, last, isDate⟩ := civilDate_eq days
  have := yearStart_next year
  rw [isDate, dayNumber_dateOfYear low high first (by omega)]
  omega

/-- A year with 366 days from March on is followed by a leap year. -/
theorem isLeap_next {era year : Int}
    (long : 365 < yearStart (year + 1) - yearStart year ∨ year = 399) :
    isLeap (year + era * 400 + 1) = true := by
  unfold isLeap
  obtain long | rfl := long
  · unfold yearStart at long
    have fourth : (year + 1) % 4 = 0 := by omega
    have century : (year + 1) % 100 ≠ 0 := by omega
    simp
    omega
  · simp
    omega

private theorem dateOfYear_valid (era : Int) {year dayOfYear : Int}
    (first : 0 ≤ dayOfYear)
    (last : dayOfYear < yearStart (year + 1) - yearStart year ∨ year = 399 ∧ dayOfYear = 365) :
    1 ≤ (dateOfYear (year + era * 400) dayOfYear).2.1 ∧
      (dateOfYear (year + era * 400) dayOfYear).2.1 ≤ 12 ∧
      1 ≤ (dateOfYear (year + era * 400) dayOfYear).2.2 ∧
      (dateOfYear (year + era * 400) dayOfYear).2.2 ≤
        daysInMonth (dateOfYear (year + era * 400) dayOfYear).1
          (dateOfYear (year + era * 400) dayOfYear).2.1 := by
  have := yearStart_next year
  obtain ⟨month, isMonth⟩ : ∃ month, (5 * dayOfYear + 2) / 153 = month := ⟨_, rfl⟩
  have lowMonth : 0 ≤ month := by omega
  have highMonth : month ≤ 11 := by omega
  have leap : dayOfYear = 365 → isLeap (year + era * 400 + 1) = true := fun isLast =>
    isLeap_next (by omega)
  unfold dateOfYear daysInMonth
  simp only [isMonth]
  refine ⟨by omega, by omega, by omega, ?_⟩
  obtain rfl | notFebruary : month = 11 ∨ month ≤ 10 := by omega
  · simp
    by_cases isLast : dayOfYear = 365
    · rw [if_pos (leap isLast)]
      omega
    · omega
  · rw [if_neg (by omega : ¬ (if month < 10 then month + 3 else month - 9) = 2)]
    omega

/-- A day of the years 1 to 9999 has a date in one of them. -/
theorem civilDate_year {days : Int} (low : minDay ≤ days) (high : days ≤ maxDay) :
    1 ≤ (Datetime.civilDate days).1 ∧ (Datetime.civilDate days).1 ≤ 9999 := by
  obtain ⟨era, year, dayOfYear, isDay, lowYear, highYear, first, last, isDate⟩ :=
    civilDate_eq days
  have := yearStart_next year
  rw [isDate]
  unfold dateOfYear
  unfold minDay at low
  unfold maxDay at high
  unfold yearStart at isDay
  simp only
  omega

private theorem civilDate_valid (days : Int) :
    1 ≤ (Datetime.civilDate days).2.1 ∧ (Datetime.civilDate days).2.1 ≤ 12 ∧
      1 ≤ (Datetime.civilDate days).2.2 ∧ (Datetime.civilDate days).2.2 ≤ 31 := by
  obtain ⟨era, year, dayOfYear, -, -, -, first, last, isDate⟩ := civilDate_eq days
  obtain ⟨lowMonth, highMonth, lowDay, highDay⟩ := dateOfYear_valid era first last
  rw [← isDate] at lowMonth highMonth lowDay highDay
  unfold daysInMonth at highDay
  exact ⟨lowMonth, highMonth, lowDay, by split_ifs at highDay <;> omega⟩

private theorem calendarDay_civilDate (days : Int) :
    calendarDay (Datetime.civilDate days).1 (Datetime.civilDate days).2.1
      (Datetime.civilDate days).2.2 = some days := by
  obtain ⟨era, year, dayOfYear, -, -, -, first, last, isDate⟩ := civilDate_eq days
  obtain ⟨lowMonth, highMonth, lowDay, highDay⟩ := dateOfYear_valid era first last
  rw [← isDate] at lowMonth highMonth lowDay highDay
  rw [calendarDay, if_pos ⟨lowMonth, highMonth, lowDay, highDay⟩, dayNumber_civilDate]

end CivilDate

section Digits

private theorem decimalDigits_succ (width value : Nat) :
    (Datetime.decimalDigits (width + 1) value).toList =
      Nat.digitChar (value / 10 ^ width % 10) :: (Datetime.decimalDigits width value).toList := by
  simp [Datetime.decimalDigits, List.range_succ]

@[simp] theorem length_decimalDigits (width value : Nat) :
    (Datetime.decimalDigits width value).toList.length = width := by
  simp [Datetime.decimalDigits]

private theorem digitChar_digit : ∀ digit < 10, Text.isDigit (Nat.digitChar digit) = true ∧
    (Nat.digitChar digit).toNat - '0'.toNat = digit := by
  decide

theorem all_decimalDigits (width value : Nat) :
    (Datetime.decimalDigits width value).toList.all Text.isDigit = true := by
  induction width with
  | zero => rfl
  | succ width ih =>
      rw [decimalDigits_succ, List.all_cons, ih,
        (digitChar_digit _ (Nat.mod_lt _ (by decide))).1]
      rfl

private theorem foldl_decimalDigits (width value start : Nat) :
    (Datetime.decimalDigits width value).toList.foldl
      (fun value c => value * 10 + (c.toNat - '0'.toNat)) start =
      start * 10 ^ width + value % 10 ^ width := by
  induction width generalizing start with
  | zero => simp [Datetime.decimalDigits, Nat.mod_one]
  | succ width ih =>
      have digit : value % 10 ^ (width + 1) = value / 10 ^ width % 10 * 10 ^ width +
          value % 10 ^ width := by
        rw [pow_succ, Nat.mod_mul]
        ring
      rw [decimalDigits_succ, List.foldl_cons, ih,
        (digitChar_digit _ (Nat.mod_lt _ (by decide))).2, digit]
      ring

private theorem digitsValue_decimalDigits {width value : Nat} (positive : 0 < width)
    (small : value < 10 ^ width) :
    Text.digitsValue (Datetime.decimalDigits width value).toList = some value := by
  have nonempty : (Datetime.decimalDigits width value).toList ≠ [] := by
    apply List.ne_nil_of_length_pos
    rwa [length_decimalDigits]
  rw [Text.digitsValue, if_pos ⟨nonempty, all_decimalDigits width value⟩, foldl_decimalDigits,
    Nat.mod_eq_of_lt small]
  simp

/-- Fixed-width decimal digits are read back as the number. -/
theorem number_decimalDigits (width : Nat) {value : Nat} (positive : 0 < width)
    (small : value < 10 ^ width) :
    number width (Datetime.decimalDigits width value).toList = some (value : Int) := by
  rw [number, if_pos (length_decimalDigits width value), digitsValue_decimalDigits positive small]
  rfl

private theorem ne_of_isDigit {c mark : Char} (digit : Text.isDigit c = true)
    (notDigit : Text.isDigit mark = false) : c ≠ mark := by
  rintro rfl
  rw [digit] at notDigit
  cases notDigit

private theorem isZoneSign_of_isDigit {c : Char} (digit : Text.isDigit c = true) :
    isZoneSign c = false := by
  have plus : c ≠ '+' := ne_of_isDigit digit rfl
  have minus : c ≠ '-' := ne_of_isDigit digit rfl
  have zulu : c ≠ 'Z' := ne_of_isDigit digit rfl
  simp [isZoneSign, plus, minus, zulu]

end Digits


section RoundTrip

/-- The text of a date, as `isoformat` writes it. -/
def dateText (year month day : Nat) : List Char :=
  (Datetime.decimalDigits 4 year).toList ++ '-' :: (Datetime.decimalDigits 2 month).toList ++
    '-' :: (Datetime.decimalDigits 2 day).toList

private theorem exists_four_digits {digits : List Char} (length : digits.length = 4) :
    ∃ a b c d, digits = [a, b, c, d] := by
  match digits, length with
  | [a, b, c, d], _ => exact ⟨a, b, c, d, rfl⟩

private theorem exists_two_digits {digits : List Char} (length : digits.length = 2) :
    ∃ a b, digits = [a, b] := by
  match digits, length with
  | [a, b], _ => exact ⟨a, b, rfl⟩

private theorem dateText_shape (year month day : Nat) :
    (dateText year month day).length = 10 ∧ (dateText year month day)[4]? = some '-' ∧
      (dateText year month day)[5]? ≠ some 'W' := by
  obtain ⟨y, y', y'', y''', isYear⟩ := exists_four_digits (length_decimalDigits 4 year)
  obtain ⟨m, m', isMonth⟩ := exists_two_digits (length_decimalDigits 2 month)
  have monthDigits := all_decimalDigits 2 month
  rw [isMonth] at monthDigits
  simp only [List.all_cons, Bool.and_eq_true] at monthDigits
  have notWeek : m ≠ 'W' := ne_of_isDigit monthDigits.1 rfl
  unfold dateText
  rw [isYear, isMonth]
  simp [notWeek]

private theorem readDate_dateText (year month day : Nat) {number : Int} (smallYear : year < 10000)
    (smallMonth : month < 100) (smallDay : day < 100) (positive : 1 ≤ year)
    (isDay : calendarDay year month day = some number) (low : minDay ≤ number)
    (high : number ≤ maxDay) :
    readDate (dateText year month day) = some number := by
  have yearNumber := number_decimalDigits 4 (by decide) smallYear
  have monthNumber := number_decimalDigits 2 (by decide) smallMonth
  have dayNumber := number_decimalDigits 2 (by decide) smallDay
  have monthDigits := all_decimalDigits 2 month
  obtain ⟨y, y', y'', y''', isYear⟩ := exists_four_digits (length_decimalDigits 4 year)
  obtain ⟨m, m', isMonth⟩ := exists_two_digits (length_decimalDigits 2 month)
  obtain ⟨d, d', isDate⟩ := exists_two_digits (length_decimalDigits 2 day)
  rw [isYear] at yearNumber
  rw [isMonth] at monthNumber monthDigits
  rw [isDate] at dayNumber
  have notWeek : m ≠ 'W' := by
    apply ne_of_isDigit _ rfl
    simp at monthDigits
    exact monthDigits.1
  unfold dateText readDate
  rw [isYear, isMonth, isDate]
  simp [yearNumber, monthNumber, dayNumber, notWeek, isDay, positive, low, high]


/-- The microsecond of a day without its zone, as `isoformat` writes it. -/
def clockText (inDay : Nat) : List Char :=
  (Datetime.decimalDigits 2 (inDay / 1000000 / 3600)).toList ++
    ':' :: (Datetime.decimalDigits 2 (inDay / 1000000 / 60 % 60)).toList ++
    ':' :: (Datetime.decimalDigits 2 (inDay / 1000000 % 60)).toList ++
    (if inDay % 1000000 = 0 then []
     else '.' :: (Datetime.decimalDigits 6 (inDay % 1000000)).toList)

private theorem readFraction_decimalDigits {fraction : Nat} (small : fraction < 1000000) :
    readFraction (Datetime.decimalDigits 6 fraction).toList = some (fraction : Int) := by
  rw [readFraction, if_pos (all_decimalDigits 6 fraction),
    List.take_of_length_le (by simp), digitsValue_decimalDigits (by decide) small]
  simp

private theorem readClock_clockText {inDay : Nat} (small : inDay < 86400000000) :
    readClock (clockText inDay) =
      some (((inDay / 1000000 / 3600 : Nat) : Int), ((inDay / 1000000 / 60 % 60 : Nat) : Int),
        ((inDay / 1000000 % 60 * 1000000 + inDay % 1000000 : Nat) : Int)) := by
  have hourNumber := number_decimalDigits 2 (by decide)
    (show inDay / 1000000 / 3600 < 10 ^ 2 by omega)
  have minuteNumber := number_decimalDigits 2 (by decide)
    (show inDay / 1000000 / 60 % 60 < 10 ^ 2 by omega)
  have secondNumber := number_decimalDigits 2 (by decide)
    (show inDay / 1000000 % 60 < 10 ^ 2 by omega)
  have fractionNumber := readFraction_decimalDigits
    (show inDay % 1000000 < 1000000 from Nat.mod_lt _ (by decide))
  unfold clockText
  obtain ⟨h, h', isHour⟩ := exists_two_digits (length_decimalDigits 2 (inDay / 1000000 / 3600))
  obtain ⟨m, m', isMinute⟩ :=
    exists_two_digits (length_decimalDigits 2 (inDay / 1000000 / 60 % 60))
  obtain ⟨s, s', isSecond⟩ := exists_two_digits (length_decimalDigits 2 (inDay / 1000000 % 60))
  rw [isHour] at hourNumber ⊢
  rw [isMinute] at minuteNumber ⊢
  rw [isSecond] at secondNumber ⊢
  unfold readClock
  by_cases whole : inDay % 1000000 = 0
  · simp [whole, hourNumber, minuteNumber, secondNumber, readSeconds]
  · simp [whole, hourNumber, minuteNumber, secondNumber, readSeconds, fractionNumber]

private theorem not_isZoneSign_clockText (inDay : Nat) :
    ∀ c ∈ clockText inDay, isZoneSign c = false := by
  have digits : ∀ width value, ∀ c ∈ (Datetime.decimalDigits width value).toList,
      isZoneSign c = false := by
    intro width value c isDigit
    exact isZoneSign_of_isDigit (List.all_eq_true.mp (all_decimalDigits width value) c isDigit)
  have separators : isZoneSign ':' = false ∧ isZoneSign '.' = false := by decide
  intro c inText
  unfold clockText at inText
  simp only [List.mem_append, List.mem_cons, or_assoc] at inText
  obtain inText | rfl | inText | rfl | inText | inText := inText
  · exact digits _ _ c inText
  · exact separators.1
  · exact digits _ _ c inText
  · exact separators.1
  · exact digits _ _ c inText
  · split at inText
    · cases inText
    · obtain rfl | inText := List.mem_cons.mp inText
      · exact separators.2
      · exact digits _ _ c inText

/-- The zones a text of the program carries: none, `Z` or `+00:00`. -/
theorem readTime_clockText {inDay : Nat} (small : inDay < 86400000000) {zone : List Char}
    {offset : Option Int}
    (isZone : zone = [] ∧ offset = none ∨ zone = ['Z'] ∧ offset = some 0 ∨
      zone = ['+', '0', '0', ':', '0', '0'] ∧ offset = some 0) :
    readTime (clockText inDay ++ zone) = some ((inDay : Int), offset) := by
  have clock : ∀ c ∈ clockText inDay, (!isZoneSign c) = true := by
    intro c inText
    rw [not_isZoneSign_clockText inDay c inText]
    rfl
  have zeroZone : readClock ['0', '0', ':', '0', '0'] = some (0, 0, 0) := by decide
  have bounds : ((inDay / 1000000 / 3600 : Nat) : Int) < 24 ∧
      ((inDay / 1000000 / 60 % 60 : Nat) : Int) < 60 ∧
      ((inDay / 1000000 % 60 * 1000000 + inDay % 1000000 : Nat) : Int) < 60000000 := by omega
  have total : (((inDay / 1000000 / 3600 : Nat) : Int) * 60 +
      ((inDay / 1000000 / 60 % 60 : Nat) : Int)) * 60000000 +
      ((inDay / 1000000 % 60 * 1000000 + inDay % 1000000 : Nat) : Int) = inDay := by omega
  unfold readTime
  rw [List.takeWhile_append_of_pos clock, List.dropWhile_append_of_pos clock]
  have noMore : zone.takeWhile (!isZoneSign ·) = [] ∧ zone.dropWhile (!isZoneSign ·) = zone := by
    obtain ⟨rfl, -⟩ | ⟨rfl, -⟩ | ⟨rfl, -⟩ := isZone <;> exact ⟨rfl, rfl⟩
  rw [noMore.1, noMore.2, List.append_nil, readClock_clockText small]
  simp only [Option.bind_eq_bind, Option.bind_some, if_pos bounds, total]
  obtain ⟨rfl, rfl⟩ | ⟨rfl, rfl⟩ | ⟨rfl, rfl⟩ := isZone
  · rfl
  · rfl
  · simp [zeroZone]

end RoundTrip

end Iso

namespace Datetime

open Iso

section RoundTrip

private theorem fromIsoformat_text {days : Int} {inDay : Nat} {zone : List Char}
    (offset : Option Int) (low : minDay ≤ days) (high : days ≤ maxDay) (small : inDay < 86400000000)
    (isZone : zone = [] ∧ offset = none ∨ zone = ['Z'] ∧ offset = some 0 ∨
      zone = ['+', '0', '0', ':', '0', '0'] ∧ offset = some 0) :
    fromIsoformat (String.ofList (dateText (civilDate days).1.toNat (civilDate days).2.1.toNat
      (civilDate days).2.2.toNat ++ 'T' :: (clockText inDay ++ zone))) =
      some ⟨offset.isSome, days * 86400000000 + inDay⟩ := by
  obtain ⟨lowYear, highYear⟩ := civilDate_year low high
  obtain ⟨lowMonth, highMonth, lowDay, highDay⟩ := civilDate_valid days
  have isDate := readDate_dateText (civilDate days).1.toNat (civilDate days).2.1.toNat
    (civilDate days).2.2.toNat (by omega) (by omega) (by omega) (by omega)
    (show calendarDay _ _ _ = some days by
        rw [Int.toNat_of_nonneg (by omega), Int.toNat_of_nonneg (by omega),
          Int.toNat_of_nonneg (by omega), calendarDay_civilDate]) low high
  obtain ⟨isTen, dash, notWeek⟩ := dateText_shape (civilDate days).1.toNat
    (civilDate days).2.1.toNat (civilDate days).2.2.toNat
  have isTime := readTime_clockText small isZone
  have noOffset : offset.getD 0 = 0 := by
    obtain ⟨-, rfl⟩ | ⟨-, rfl⟩ | ⟨-, rfl⟩ := isZone <;> rfl
  generalize dateText _ _ _ = date at *
  unfold fromIsoformat separatorLocation
  have long : ¬ (date ++ 'T' :: (clockText inDay ++ zone)).length < 7 := by
    rw [List.length_append]
    omega
  have notSeven : ¬ (date ++ 'T' :: (clockText inDay ++ zone)).length = 7 := by
    rw [List.length_append]
    omega
  have fifth : (date ++ 'T' :: (clockText inDay ++ zone))[4]? = some '-' := by
    rw [List.getElem?_append_left (by omega), dash]
  have sixth : (date ++ 'T' :: (clockText inDay ++ zone))[5]? ≠ some 'W' := by
    rwa [List.getElem?_append_left (by omega)]
  simp only [String.toList_ofList, if_neg long, if_neg notSeven, if_pos fifth, if_neg sixth]
  rw [← isTen, List.take_left, List.drop_left, isDate]
  simp [isTime, noOffset]

theorem isoformat_eq (moment : Datetime) :
    moment.isoformat = String.ofList (
      dateText (civilDate (moment.micros / 86400000000)).1.toNat
        (civilDate (moment.micros / 86400000000)).2.1.toNat
        (civilDate (moment.micros / 86400000000)).2.2.toNat ++
      'T' :: (clockText (moment.micros % 86400000000).toNat ++
        if moment.aware then ['+', '0', '0', ':', '0', '0'] else [])) := by
  apply String.toList_injective
  unfold isoformat dateText clockText
  cases moment.aware <;> split_ifs <;> simp [*]

/-- Reading the text of a point in time gives the point back. -/
theorem fromIsoformat_isoformat {moment : Datetime} (inRange : moment.InRange) :
    fromIsoformat moment.isoformat = some moment := by
  unfold InRange minDay maxDay at inRange
  rw [isoformat_eq, fromIsoformat_text (if moment.aware then some 0 else none)
    (by unfold minDay; omega) (by unfold maxDay; omega) (by omega)
    (by cases moment.aware <;> simp)]
  have same : moment.micros / 86400000000 * 86400000000 +
      ((moment.micros % 86400000000).toNat : Int) = moment.micros := by omega
  rw [same]
  cases moment with
  | mk aware micros => cases aware <;> rfl

/-- `text.replace("Z", "+00:00")`. -/
def spellZulu (text : String) : String :=
  String.ofList (text.toList.flatMap fun c => if c = 'Z' then "+00:00".toList else [c])

/-- The characters of the text of a point in time. -/
theorem mem_isoformat (moment : Datetime) : ∀ c ∈ moment.isoformat.toList,
    Text.isDigit c = true ∨ c ∈ ['-', 'T', ':', '.', '+'] := by
  have digits : ∀ width value, ∀ c ∈ (decimalDigits width value).toList,
      Text.isDigit c = true ∨ c ∈ ['-', 'T', ':', '.', '+'] := fun width value c inDigits =>
    .inl (List.all_eq_true.mp (all_decimalDigits width value) c inDigits)
  have marks : ∀ c ∈ ['-', 'T', ':', '.', '+'],
      Text.isDigit c = true ∨ c ∈ ['-', 'T', ':', '.', '+'] := fun _ => .inr
  simp only [List.forall_mem_cons] at marks
  obtain ⟨dash, separator, colon, point, plus, -⟩ := marks
  rw [isoformat_eq, String.toList_ofList, dateText, clockText]
  simp only [List.forall_mem_append, List.forall_mem_cons]
  refine ⟨⟨⟨digits _ _, dash, digits _ _⟩, dash, digits _ _⟩, separator,
    ⟨⟨⟨digits _ _, colon, digits _ _⟩, colon, digits _ _⟩, ?_⟩, ?_⟩
  · split
    · exact nofun
    · exact List.forall_mem_cons.mpr ⟨point, digits _ _⟩
  · split
    · simp only [List.forall_mem_cons]
      exact ⟨plus, .inl rfl, .inl rfl, colon, .inl rfl, .inl rfl, nofun⟩
    · exact nofun

private theorem notMem_isoformat_zulu (moment : Datetime) : 'Z' ∉ moment.isoformat.toList := by
  intro inText
  have noZulu : ¬ (Text.isDigit 'Z' = true ∨ 'Z' ∈ ['-', 'T', ':', '.', '+']) := by decide
  exact noZulu (mem_isoformat moment 'Z' inText)

/-- The text of a point in time is not changed by the reading of `Z`. -/
theorem spellZulu_isoformat (moment : Datetime) : spellZulu moment.isoformat = moment.isoformat := by
  have each : ∀ chars : List Char, 'Z' ∉ chars →
      (chars.flatMap fun c => if c = 'Z' then "+00:00".toList else [c]) = chars := by
    intro chars noZulu
    induction chars with
    | nil => rfl
    | cons c rest ih =>
        rw [List.mem_cons, not_or] at noZulu
        rw [List.flatMap_cons, if_neg (Ne.symm noZulu.1), ih noZulu.2]
        rfl
  rw [spellZulu, each _ (notMem_isoformat_zulu moment), String.ofList_toList]

theorem isSpace_of_isDigit {c : Char} (digit : Text.isDigit c = true) : Text.isSpace c = false := by
  have bounds : 48 ≤ c.toNat ∧ c.toNat ≤ 57 := by
    unfold Text.isDigit at digit
    exact of_decide_eq_true digit
  unfold Text.isSpace
  simp only [List.mem_cons, List.not_mem_nil, or_false, decide_eq_false_iff_not]
  omega

private theorem isSpace_of_mem_isoformat {moment : Datetime} {c : Char}
    (inText : c ∈ moment.isoformat.toList) : Text.isSpace c = false := by
  have marks : ∀ c ∈ ['-', 'T', ':', '.', '+'], Text.isSpace c = false := by decide
  exact (mem_isoformat moment c inText).elim isSpace_of_isDigit (marks c)

theorem strip_isoformat (moment : Datetime) : Text.strip moment.isoformat = moment.isoformat := by
  rw [Text.strip, Text.stripChars_of_ends, String.ofList_toList]
  · intro c isHead
    exact isSpace_of_mem_isoformat (List.mem_of_head? isHead)
  · intro c isLast
    exact isSpace_of_mem_isoformat (List.mem_of_getLast? isLast)

end RoundTrip

section Zulu

variable {moment : Datetime}

private theorem isoformat_aware (aware : moment.aware = true) :
    moment.isoformat = (⟨false, moment.micros⟩ : Datetime).isoformat ++ "+00:00" := by
  simp [isoformat, aware]

/-- `Z` is read as the zone that `isoformat` writes. -/
theorem spellZulu_isoformatZulu (aware : moment.aware = true) :
    spellZulu moment.isoformatZulu = moment.isoformat := by
  have date := congrArg String.toList (spellZulu_isoformat ⟨false, moment.micros⟩)
  rw [spellZulu, String.toList_ofList] at date
  apply String.toList_injective
  rw [isoformat_aware aware, isoformatZulu, if_pos aware, spellZulu, String.toList_ofList,
    String.toList_append, String.toList_append, List.flatMap_append, date]
  rfl

theorem fromIsoformat_spellZulu (aware : moment.aware = true) (inRange : moment.InRange) :
    fromIsoformat (spellZulu moment.isoformatZulu) = some moment := by
  rw [spellZulu_isoformatZulu aware, fromIsoformat_isoformat inRange]

end Zulu

end Datetime

end TraefikManager
