import TextGrammar.Text.Digit

/-!
# Dates

Dates of the Gregorian calendar, carried back before its introduction, with a year zero. A date is a
year, a month and a day of the month; beside it stand its day number, counted from the first day of
the year 1, its weekday, its ordinal in the year and its week in the calendar of ISO 8601, whose
year begins with the week that holds the first Thursday.

These are the dates of the calendar package that the program takes its dates from. It has dates of some
years only; a local clock may show a date of the year next to them. Each definition names the function of
the package that it stands for.
-/

namespace TextGrammar.Calendar

open Text

/-- The days of the week. -/
inductive Weekday where
  | monday | tuesday | wednesday | thursday | friday | saturday | sunday
  deriving DecidableEq, Repr

namespace Weekday

/-- The number of days since Monday (`num_days_from_monday`). -/
def index : Weekday → Nat
  | .monday => 0
  | .tuesday => 1
  | .wednesday => 2
  | .thursday => 3
  | .friday => 4
  | .saturday => 5
  | .sunday => 6

/-- The weekday a number of days after a Monday. -/
def ofIndex (days : Nat) : Weekday :=
  match days % 7 with
  | 0 => .monday
  | 1 => .tuesday
  | 2 => .wednesday
  | 3 => .thursday
  | 4 => .friday
  | 5 => .saturday
  | _ => .sunday

/-- The number of days since the last day with the weekday `start` (`days_since`). -/
def daysSince (day start : Weekday) : Nat :=
  (day.index + 7 - start.index) % 7

end Weekday

/-- Whether a year has a 29th of February. -/
def isLeapYear (year : Int) : Bool :=
  year % 4 == 0 && (year % 100 != 0 || year % 400 == 0)

/-- The number of days of a month. -/
def daysInMonth (year : Int) : Nat → Nat
  | 2 => if isLeapYear year then 29 else 28
  | 4 | 6 | 9 | 11 => 30
  | _ => 31

/-- The number of days of a year before one of its months. -/
def daysBeforeMonth (year : Int) : Nat → Nat
  | 0 | 1 => 0
  | month + 2 => daysBeforeMonth year (month + 1) + daysInMonth year (month + 1)

/-- The number of days from the start of the year 1 to the start of a year. -/
def daysBeforeYear (year : Int) : Int :=
  let past := year - 1
  365 * past + past / 4 - past / 100 + past / 400

/-- The year and the ordinal in it of a day number. The day is located in its cycle of 400 years,
then in the century, the four years and the year, each of which but the last may be a day long. -/
def ordinalOfDay (day : Int) : Int × Nat :=
  let cycle := (day - 1) / 146097
  let inCycle := ((day - 1) % 146097).toNat
  let century := min (inCycle / 36524) 3
  let inCentury := inCycle - century * 36524
  let quadrennium := inCentury / 1461
  let inQuadrennium := inCentury - quadrennium * 1461
  let year := min (inQuadrennium / 365) 3
  (400 * cycle + 100 * century + 4 * quadrennium + year + 1, inQuadrennium - year * 365 + 1)

/-- The weekday of a day number. The first day of the year 1 is a Monday. -/
def weekdayOfDay (day : Int) : Weekday :=
  .ofIndex ((day - 1) % 7).toNat

/-- The first year with dates. -/
def leastYear : Int := -262143

/-- The last year with dates. -/
def greatestYear : Int := 262142

/-- The years that have dates. -/
def IsYear (year : Int) : Prop :=
  leastYear ≤ year ∧ year ≤ greatestYear

/-- The months and days of a year. -/
def IsMonthDay (year : Int) (month day : Nat) : Prop :=
  1 ≤ month ∧ month ≤ 12 ∧ 1 ≤ day ∧ day ≤ daysInMonth year month

instance (year : Int) : Decidable (IsYear year) := by
  unfold IsYear
  infer_instance

instance (year : Int) (month day : Nat) : Decidable (IsMonthDay year month day) := by
  unfold IsMonthDay
  infer_instance

/-- A date of any year. -/
structure CivilDate where
  year : Int
  month : Nat
  day : Nat
  isMonthDay : IsMonthDay year month day
  deriving DecidableEq, Repr

namespace CivilDate

/-- The day of the year, counted from one (`ordinal`). -/
def ordinal (date : CivilDate) : Nat :=
  daysBeforeMonth date.year date.month + date.day

/-- The number of the date, counted from the first day of the year 1 (`num_days_from_ce`). -/
def dayNumber (date : CivilDate) : Int :=
  daysBeforeYear date.year + date.ordinal

/-- The date as it is written, for people and in full. Years that do not have four digits are written
with a sign. -/
def display (date : CivilDate) : List Char :=
  let year :=
    if 0 ≤ date.year ∧ date.year ≤ 9999 then padded 4 date.year.toNat
    else (if date.year < 0 then '-' else '+') :: padded 4 date.year.natAbs
  year ++ '-' :: padded 2 date.month ++ '-' :: padded 2 date.day

end CivilDate

/-- A date. -/
structure Date extends CivilDate where
  isYear : IsYear year
  deriving DecidableEq, Repr

namespace Date

/-- The date with a given year, month and day, if there is one (`from_ymd_opt`). -/
def ofYearMonthDay? (year : Int) (month day : Nat) : Option Date :=
  if isDate : IsMonthDay year month day ∧ IsYear year then
    some ⟨⟨year, month, day, isDate.1⟩, isDate.2⟩
  else none

/-- The date with a given ordinal in its year, if there is one (`from_yo_opt`): in just one month is the
rest of the ordinal a day of the month. -/
def ofOrdinal? (year : Int) (ordinal : Nat) : Option Date :=
  (List.range' 1 12).findSome? fun month =>
    ofYearMonthDay? year month (ordinal - daysBeforeMonth year month)

/-- The date with a given day number, if it is in range (`from_num_days_from_ce_opt`). -/
def ofDay? (day : Int) : Option Date :=
  let (year, ordinal) := ordinalOfDay day
  ofOrdinal? year ordinal

/-- The day of the week (`weekday`). -/
def weekday (date : Date) : Weekday :=
  weekdayOfDay date.dayNumber

/-- The quarter of the year, from one to four (`quarter`). -/
def quarter (date : Date) : Nat :=
  (date.month - 1) / 3 + 1

/-- The number of the week, if weeks begin on `start` and the days before the first such day of the
year are in week zero. -/
def weekFrom (start : Weekday) (date : Date) : Nat :=
  (date.ordinal + 6 - date.weekday.daysSince start) / 7

/-- The ISO year and week: those of the Thursday of the same week (`iso_week`). -/
def isoWeek (date : Date) : Int × Nat :=
  let thursday := date.dayNumber - date.weekday.index + 3
  let (year, ordinal) := ordinalOfDay thursday
  (year, (ordinal - 1) / 7 + 1)

/-- The date with a given ISO year, ISO week and weekday, if that year has such a week and the date
is in range (`from_isoywd_opt`). -/
def ofIsoWeek? (isoYear : Int) (week : Nat) (weekday : Weekday) : Option Date :=
  let fourthOfJanuary := daysBeforeYear isoYear + 4
  let firstMonday := fourthOfJanuary - (weekdayOfDay fourthOfJanuary).index
  let monday := firstMonday + 7 * ((week : Int) - 1)
  if 1 ≤ week ∧ (ordinalOfDay (monday + 3)).1 = isoYear then ofDay? (monday + weekday.index)
  else none

end Date

end TextGrammar.Calendar
