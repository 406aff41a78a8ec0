import TextGrammar.Calendar.Pattern
import TextGrammar.Calendar.Date

/-!
# Fields

What a text has said so far about a date or time, part by part. A part may be said more than once,
but only with the same value; a value outside the range of its part is refused.

These are the fields of the calendar package (`Parsed`), and the definitions name the functions of the
package that they stand for. What is proved of default years takes from them that a year can be said just
if none was said before, or the same one, and that saying it changes no other part.
-/

namespace TextGrammar.Calendar

/-- The parts of a date and time that are known. An hour is known by halves: the half of the day,
zero or one, and the hour in it from zero to eleven. -/
structure Fields where
  year : Option Int := none
  century : Option Nat := none
  yearOfCentury : Option Nat := none
  isoYear : Option Int := none
  isoYearOfCentury : Option Nat := none
  quarter : Option Nat := none
  month : Option Nat := none
  day : Option Nat := none
  ordinal : Option Nat := none
  weekFromSunday : Option Nat := none
  weekFromMonday : Option Nat := none
  isoWeek : Option Nat := none
  weekday : Option Weekday := none
  halfDay : Option Nat := none
  hourOfHalf : Option Nat := none
  minute : Option Nat := none
  second : Option Nat := none
  nanosecond : Option Nat := none
  timestamp : Option Int := none
  offset : Option Int := none
  deriving DecidableEq, Repr

/-- What is known of a part once it is said to have a value: that value, unless another was said
before (`set_if_consistent`). -/
def agree? {α : Type} [DecidableEq α] (known : Option α) (value : α) : Option (Option α) :=
  match known with
  | none => some (some value)
  | some old => if old = value then some known else none

/-- A value as a natural number between two bounds. -/
def between? (least greatest : Nat) (value : Int) : Option Nat :=
  if (least : Int) ≤ value ∧ value ≤ greatest then some value.toNat else none

/-- A value as a year, which has at most 32 bits with its sign. -/
def yearInRange? (value : Int) : Option Int :=
  if -2147483648 ≤ value ∧ value ≤ 2147483647 then some value else none

namespace Fields

/-- The fields with a year (`set_year`). -/
def setYear? (value : Int) (fields : Fields) : Option Fields := do
  let year ← agree? fields.year (← yearInRange? value)
  some { fields with year }

/-- The fields with an hour of the day, in its two halves (`set_hour`). -/
def setHour? (value : Int) (fields : Fields) : Option Fields := do
  let hour ← between? 0 23 value
  let halfDay ← agree? fields.halfDay (hour / 12)
  let hourOfHalf ← agree? fields.hourOfHalf (hour % 12)
  some { fields with halfDay, hourOfHalf }

/-- The fields with a weekday, as the number of days since Monday (`set_weekday`). -/
def setWeekday? (index : Nat) (fields : Fields) : Option Fields := do
  let weekday ← agree? fields.weekday (.ofIndex index)
  some { fields with weekday }

/-- The fields with a half of the day, zero for the first (`set_ampm`). -/
def setHalfDay? (half : Nat) (fields : Fields) : Option Fields := do
  let halfDay ← agree? fields.halfDay half
  some { fields with halfDay }

/-- The fields with a number of nanoseconds (`set_nanosecond`). -/
def setNanosecond? (value : Int) (fields : Fields) : Option Fields := do
  let nanosecond ← agree? fields.nanosecond (← between? 0 999999999 value)
  some { fields with nanosecond }

/-- The fields with an offset from UTC in seconds (`set_offset`). -/
def setOffset? (seconds : Int) (fields : Fields) : Option Fields := do
  let offset ← agree? fields.offset seconds
  some { fields with offset }

/-- The fields with a part that is written as a number. A century and a year of it are set by
`set_year_div_100` and `set_year_mod_100`, and so for years of ISO weeks; weekdays from Sunday and from
Monday by `set_weekday` and an hour of a half by `set_hour12`; every other part by the function that is
named like it. -/
def setNumber? (field : NumberField) (value : Int) (fields : Fields) : Option Fields := do
  match field with
  | .year => fields.setYear? value
  | .century =>
      let century ← agree? fields.century (← between? 0 2147483647 value)
      some { fields with century }
  | .yearOfCentury =>
      let yearOfCentury ← agree? fields.yearOfCentury (← between? 0 99 value)
      some { fields with yearOfCentury }
  | .isoYear =>
      let isoYear ← agree? fields.isoYear (← yearInRange? value)
      some { fields with isoYear }
  | .isoYearOfCentury =>
      let isoYearOfCentury ← agree? fields.isoYearOfCentury (← between? 0 99 value)
      some { fields with isoYearOfCentury }
  | .quarter =>
      let quarter ← agree? fields.quarter (← between? 1 4 value)
      some { fields with quarter }
  | .month =>
      let month ← agree? fields.month (← between? 1 12 value)
      some { fields with month }
  | .day =>
      let day ← agree? fields.day (← between? 1 31 value)
      some { fields with day }
  | .ordinal =>
      let ordinal ← agree? fields.ordinal (← between? 1 366 value)
      some { fields with ordinal }
  | .weekFromSunday =>
      let weekFromSunday ← agree? fields.weekFromSunday (← between? 0 53 value)
      some { fields with weekFromSunday }
  | .weekFromMonday =>
      let weekFromMonday ← agree? fields.weekFromMonday (← between? 0 53 value)
      some { fields with weekFromMonday }
  | .isoWeek =>
      let isoWeek ← agree? fields.isoWeek (← between? 1 53 value)
      some { fields with isoWeek }
  | .weekdayFromSunday => fields.setWeekday? ((← between? 0 6 value) + 6)
  | .weekdayFromMonday => fields.setWeekday? ((← between? 1 7 value) - 1)
  | .hour => fields.setHour? value
  | .hourOfHalf =>
      let hourOfHalf ← agree? fields.hourOfHalf ((← between? 1 12 value) % 12)
      some { fields with hourOfHalf }
  | .minute =>
      let minute ← agree? fields.minute (← between? 0 59 value)
      some { fields with minute }
  | .second =>
      let second ← agree? fields.second (← between? 0 60 value)
      some { fields with second }
  | .nanosecond => fields.setNanosecond? value
  | .timestamp =>
      let timestamp ← agree? fields.timestamp value
      some { fields with timestamp }

end Fields

end TextGrammar.Calendar
