import TextGrammar.Calendar.Date
import TextGrammar.Calendar.Time

/-!
# Dates and times together

A local date and time, a time with an offset, and a local date and time with an offset. The last
names an instant, so two of them are the same when their instants are, whatever their offsets. It is the
instant that has a date in range: the date of the local clock may be one day off the range.

These are the values of the calendar package that the program takes its dates and times from, and each
definition names the function of the package that it stands for.
-/

namespace TextGrammar.Calendar

open Text

/-- The number of the first day of 1970, from which timestamps count. -/
def timestampEpoch : Int := daysBeforeYear 1970 + 1

/-- The number of seconds from the start of 1970 to a date and time, if the clock shows UTC. -/
def timestamp (date : CivilDate) (time : Time) : Int :=
  (date.dayNumber - timestampEpoch) * secondsPerDay + time.secondOfDay

/-- A date and a time as they are written, with a mark between them. -/
def displayMoment (mark : Char) (date : CivilDate) (time : Time) : List Char :=
  date.display ++ mark :: time.display

/-- A date and a time of day. -/
structure LocalDateTime where
  date : Date
  time : Time
  deriving DecidableEq, Repr

namespace LocalDateTime

/-- The number of seconds from the start of 1970, as if the local clock showed UTC (`timestamp` of
`and_utc`). -/
def timestamp (moment : LocalDateTime) : Int :=
  Calendar.timestamp moment.date.toCivilDate moment.time

/-- The date and time with a given timestamp, if the date is in range (`from_timestamp` and
`naive_utc`). -/
def ofTimestamp? (timestamp : Int) : Option LocalDateTime := do
  let date ← Date.ofDay? (timestamp / secondsPerDay + timestampEpoch)
  let second := (timestamp % secondsPerDay).toNat
  let time ← Time.ofParts? (second / 3600) (second / 60 % 60) (second % 60) 0
  some ⟨date, time⟩

/-- The date and time as they are written: for people with a space between them, in full with the letter
T. -/
def display (mark : Char) (moment : LocalDateTime) : List Char :=
  displayMoment mark moment.date.toCivilDate moment.time

end LocalDateTime

/-- A time of day on a clock with an offset. -/
structure OffsetTime where
  time : Time
  offset : Offset
  deriving DecidableEq, Repr

/-- The time followed by the offset. -/
def OffsetTime.display (value : OffsetTime) : List Char :=
  value.time.display ++ value.offset.display

/-- A point of time: a number of seconds from the start of 1970 in UTC, and nanoseconds. -/
structure Instant where
  second : Int
  nanosecond : Nat
  deriving DecidableEq, Repr

/-- A date and a time of day on a clock with an offset. The date in UTC is in range. -/
structure OffsetDateTime where
  date : CivilDate
  time : Time
  offset : Offset
  utcInRange : (LocalDateTime.ofTimestamp? (timestamp date time - offset.seconds)).isSome = true
  deriving DecidableEq, Repr

namespace OffsetDateTime

/-- The instant named by a date and time with an offset. -/
def instant (value : OffsetDateTime) : Instant :=
  ⟨timestamp value.date value.time - value.offset.seconds, value.time.nanosecond⟩

/-- The date and time with an offset, if the date in UTC is in range (`from_local_datetime`). -/
def ofLocal? (moment : LocalDateTime) (offset : Offset) : Option OffsetDateTime :=
  if utcInRange :
      (LocalDateTime.ofTimestamp? (moment.timestamp - offset.seconds)).isSome = true then
    some ⟨moment.date.toCivilDate, moment.time, offset, utcInRange⟩
  else none

/-- The date, the time and the offset, each with a blank before the next. -/
def display (value : OffsetDateTime) : List Char :=
  displayMoment ' ' value.date value.time ++ ' ' :: value.offset.display

/-- The date and the time with the letter T between them, and the offset. -/
def displayInFull (value : OffsetDateTime) : List Char :=
  displayMoment 'T' value.date value.time ++ value.offset.display

theorem ofLocal?_eq_some_iff {moment : LocalDateTime} {offset : Offset} {value : OffsetDateTime} :
    ofLocal? moment offset = some value ↔
      value.date = moment.date.toCivilDate ∧ value.time = moment.time ∧ value.offset = offset := by
  obtain ⟨date, time, offset', utcInRange⟩ := value
  unfold ofLocal?
  constructor
  · intro found
    split at found
    · cases found
      exact ⟨rfl, rfl, rfl⟩
    · cases found
  · rintro ⟨rfl, rfl, rfl⟩
    exact dif_pos utcInRange

end OffsetDateTime

end TextGrammar.Calendar
