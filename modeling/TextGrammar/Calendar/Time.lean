import TextGrammar.Text.Digit

/-!
# Times of day and offsets from UTC

A time of day is given to the nanosecond. A leap second is a second together with a thousand million
nanoseconds or more, and is written as the second after it. An offset is the distance of a local clock
from UTC, in seconds, positive to the east, and less than a day.

These are the values of the calendar package that the program takes its dates and times from. `Time` has
all its times and `Offset` all its offsets, also those that no text is read as. Each definition names the
function of the package that it stands for.
-/

namespace TextGrammar.Calendar

open Text

/-- The number of nanoseconds of a second. -/
def nanosPerSecond : Nat := 1000000000

/-- The hours, minutes, seconds and nanoseconds that form a time of day. -/
def IsTime (hour minute second nanosecond : Nat) : Prop :=
  hour < 24 ∧ minute < 60 ∧ second < 60 ∧ nanosecond < 2 * nanosPerSecond

/-- A leap second may be only the last second of a minute. -/
def LeapEndsMinute (second nanosecond : Nat) : Prop :=
  nanosecond < nanosPerSecond ∨ second = 59

instance (hour minute second nanosecond : Nat) :
    Decidable (IsTime hour minute second nanosecond) := by
  unfold IsTime
  infer_instance

instance (second nanosecond : Nat) : Decidable (LeapEndsMinute second nanosecond) := by
  unfold LeapEndsMinute
  infer_instance

/-- A time of day. The nanoseconds may make any second a leap second. -/
structure Time where
  hour : Nat
  minute : Nat
  second : Nat
  nanosecond : Nat
  isTime : IsTime hour minute second nanosecond
  deriving DecidableEq, Repr

namespace Time

/-- The time of day with the given parts, if there is one (`from_hms_nano_opt`). Only the last second of
a minute is taken as a leap second. -/
def ofParts? (hour minute second nanosecond : Nat) : Option Time :=
  if parts : IsTime hour minute second nanosecond ∧ LeapEndsMinute second nanosecond then
    some ⟨hour, minute, second, nanosecond, parts.1⟩
  else none

/-- The time with other nanoseconds, if there are so many (`with_nanosecond`). They are not compared with
the second. -/
def withNanosecond? (nanosecond : Nat) (time : Time) : Option Time :=
  if inRange : nanosecond < 2 * nanosPerSecond then
    some { time with
      nanosecond, isTime := ⟨time.isTime.1, time.isTime.2.1, time.isTime.2.2.1, inRange⟩ }
  else none

/-- Whether the time lies in a leap second. -/
def inLeapSecond (time : Time) : Bool :=
  nanosPerSecond ≤ time.nanosecond

/-- The number of seconds since midnight (`num_seconds_from_midnight`). A leap second counts as the
second before it. -/
def secondOfDay (time : Time) : Nat :=
  time.hour * 3600 + time.minute * 60 + time.second

/-- The digits of a part of a second, as few groups of three as are exact. -/
def fractionDigits (nanoseconds : Nat) : List Char :=
  if nanoseconds = 0 then []
  else if nanoseconds % 1000000 = 0 then '.' :: padded 3 (nanoseconds / 1000000)
  else if nanoseconds % 1000 = 0 then '.' :: padded 6 (nanoseconds / 1000)
  else '.' :: padded 9 nanoseconds

/-- The time as it is written, for people and in full, with seconds and with a fraction if there is
one. -/
def display (time : Time) : List Char :=
  padded 2 time.hour ++ ':' :: padded 2 time.minute ++
    ':' :: padded 2 (time.second + time.nanosecond / nanosPerSecond) ++
    fractionDigits (time.nanosecond % nanosPerSecond)

end Time

/-- The number of seconds of a day. -/
def secondsPerDay : Nat := 86400

/-- The distance of a local clock from UTC. -/
structure Offset where
  /-- The number of seconds by which the clock is ahead of UTC. -/
  seconds : Int
  lessThanDay : seconds.natAbs < secondsPerDay
  deriving DecidableEq, Repr

namespace Offset

/-- The offset of the given number of seconds, if it is less than a day (`east_opt`). -/
def ofSeconds? (seconds : Int) : Option Offset :=
  if lessThanDay : seconds.natAbs < secondsPerDay then some ⟨seconds, lessThanDay⟩ else none

/-- The offset as it is written, for people and in full, with seconds only if there are some. -/
def display (offset : Offset) : List Char :=
  let size := offset.seconds.natAbs
  let sign := if offset.seconds < 0 then '-' else '+'
  let seconds := if size % 60 = 0 then [] else ':' :: padded 2 (size % 60)
  sign :: padded 2 (size / 3600) ++ ':' :: padded 2 (size / 60 % 60) ++ seconds

end Offset

end TextGrammar.Calendar
