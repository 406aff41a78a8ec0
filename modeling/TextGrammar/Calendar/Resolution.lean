import TextGrammar.Calendar.Fields
import TextGrammar.Calendar.DateTime

/-!
# From fields to dates and times

Known fields are resolved to a date by the first group of them that determines one: year, month and
day; year and ordinal; year, week and weekday; or ISO year, ISO week and weekday. All other fields
must then agree with that date. A time needs an hour and a minute. A timestamp can stand for what is
missing of both.

So the calendar package resolves its fields, and the definitions name the functions of the package that
they stand for. What is proved of default years takes from them that times do not depend on the year,
that every date which is found has the year that was said, and that fields which name a year, by itself
or by its century, determine no more dates if a year is said as well. What is proved of lists of meetings
takes from them how the parts of a time and an offset make a time with an offset.
-/

namespace TextGrammar.Calendar

/-- Why fields do not resolve (`ParseErrorKind`). -/
inductive Fault where
  /-- A value that its part cannot have. -/
  | outOfRange
  /-- Values that no date or time has at once. -/
  | contradictory
  /-- Too few values. -/
  | missing
  deriving DecidableEq, Repr

/-- A value that must exist, or the fault of its absence. -/
def orFault {α : Type} (fault : Fault) : Option α → Except Fault α
  | some value => .ok value
  | none => .error fault

/-- Whether a value is as known, if anything is known of it. -/
def agrees {α : Type} [DecidableEq α] (known : Option α) (value : α) : Bool :=
  known.all (· = value)

/-- The year that a year, a century and a year of the century determine together. A year of the
century alone belongs to the years from 1970 to 2069 (`resolve_year`). -/
def resolveYear (year : Option Int) (century yearOfCentury : Option Nat) :
    Except Fault (Option Int) :=
  match year, century, yearOfCentury with
  | year, none, none => .ok year
  | some year, century, yearOfCentury =>
      if 0 ≤ year ∧ agrees century (year.toNat / 100) ∧ agrees yearOfCentury (year.toNat % 100) then
        .ok (some year)
      else .error .contradictory
  | none, some century, some yearOfCentury =>
      let year : Int := century * 100 + yearOfCentury
      orFault .outOfRange ((yearInRange? year).map some)
  | none, none, some yearOfCentury =>
      .ok (some (yearOfCentury + if yearOfCentury < 70 then 2000 else 1900))
  | none, some _, none => .error .missing

/-- The date with a given weekday in a week of a year, if weeks begin on `start` and the first of
them on the first such day. -/
def dateInWeek (start : Weekday) (year : Int) (week : Nat) (weekday : Weekday) :
    Except Fault Date := do
  let newYear ← orFault .outOfRange (Date.ofOrdinal? year 1)
  let firstStart := 1 + start.daysSince newYear.weekday
  let ordinal : Int := firstStart + ((week : Int) - 1) * 7 + weekday.daysSince start
  orFault .contradictory (Date.ofOrdinal? year ordinal.toNat)

namespace Fields

/-- Whether a century and a year of it are as known of a year. Years before the year zero have no
century. -/
def agreesWithCentury (century yearOfCentury : Option Nat) (year : Int) : Bool :=
  if 0 ≤ year then
    agrees century (year.toNat / 100) && agrees yearOfCentury (year.toNat % 100)
  else century.isNone && yearOfCentury.isNone

/-- Whether the year, month and day of a date are as known. -/
def agreesWithMonthDay (fields : Fields) (date : Date) : Bool :=
  agrees fields.year date.year &&
    agreesWithCentury fields.century fields.yearOfCentury date.year &&
    agrees fields.month date.month && agrees fields.day date.day

/-- Whether the ISO week of a date is as known. -/
def agreesWithIsoWeek (fields : Fields) (date : Date) : Bool :=
  let (isoYear, isoWeek) := date.isoWeek
  agrees fields.isoYear isoYear && agreesWithCentury none fields.isoYearOfCentury isoYear &&
    agrees fields.isoWeek isoWeek && agrees fields.weekday date.weekday

/-- Whether the ordinal and the weeks of a date are as known. -/
def agreesWithOrdinal (fields : Fields) (date : Date) : Bool :=
  agrees fields.ordinal date.ordinal &&
    agrees fields.weekFromSunday (date.weekFrom .sunday) &&
    agrees fields.weekFromMonday (date.weekFrom .monday)

/-- Whether everything known about a date is so of the given one. -/
def agreesWithDate (fields : Fields) (date : Date) : Bool :=
  fields.agreesWithMonthDay date && fields.agreesWithIsoWeek date &&
    fields.agreesWithOrdinal date && agrees fields.quarter date.quarter

/-- The date that the first group of fields that is complete determines. -/
def candidateDate (fields : Fields) (year isoYear : Option Int) : Except Fault Date :=
  match year, fields.month, fields.day with
  | some year, some month, some day =>
      orFault .outOfRange (Date.ofYearMonthDay? year month day)
  | _, _, _ =>
  match year, fields.ordinal with
  | some year, some ordinal => orFault .outOfRange (Date.ofOrdinal? year ordinal)
  | _, _ =>
  match year, fields.weekFromSunday, fields.weekday with
  | some year, some week, some weekday => dateInWeek .sunday year week weekday
  | _, _, _ =>
  match year, fields.weekFromMonday, fields.weekday with
  | some year, some week, some weekday => dateInWeek .monday year week weekday
  | _, _, _ =>
  match isoYear, fields.isoWeek, fields.weekday with
  | some isoYear, some week, some weekday =>
      orFault .outOfRange (Date.ofIsoWeek? isoYear week weekday)
  | _, _, _ => .error .missing

/-- The date that the fields determine (`to_naive_date`). -/
def toDate (fields : Fields) : Except Fault Date := do
  let year ← resolveYear fields.year fields.century fields.yearOfCentury
  let isoYear ← resolveYear fields.isoYear none fields.isoYearOfCentury
  let date ← fields.candidateDate year isoYear
  if fields.agreesWithDate date then .ok date else .error .contradictory

/-- The time of day that the fields determine (`to_naive_time`). The second 60 is a leap second. -/
def toTime (fields : Fields) : Except Fault Time := do
  let halfDay ← orFault .missing fields.halfDay
  let hourOfHalf ← orFault .missing fields.hourOfHalf
  let minute ← orFault .missing fields.minute
  let second := fields.second.getD 0
  if fields.nanosecond.isSome ∧ fields.second.isNone then .error .missing else
  let nanosecond := fields.nanosecond.getD 0
  let time := if second = 60 then Time.ofParts? (halfDay * 12 + hourOfHalf) minute 59
      (nanosPerSecond + nanosecond)
    else Time.ofParts? (halfDay * 12 + hourOfHalf) minute second nanosecond
  orFault .outOfRange time

/-- Whether a given timestamp is that of a local date and time at an offset in seconds. The
timestamp of a leap second may be that of the next second. -/
def agreesWithTimestamp (fields : Fields) (offset : Int) (moment : LocalDateTime) : Bool :=
  let timestamp := moment.timestamp - offset
  agrees fields.timestamp timestamp ||
    (moment.time.inLeapSecond && agrees fields.timestamp (timestamp + 1))

/-- The fields with the date and time of a timestamp at an offset in seconds. If the second 60 is
known, the timestamp may be that of the second before it or after it. -/
def withTimestamp (fields : Fields) (timestamp offset : Int) : Except Fault Fields := do
  let moment ← orFault .outOfRange (LocalDateTime.ofTimestamp? (timestamp + offset))
  let (fields, moment) ←
    if fields.second = some 60 then
      if moment.time.second = 59 then .ok (fields, moment)
      else if moment.time.second = 0 then do
        let earlier ← orFault .outOfRange (LocalDateTime.ofTimestamp? (timestamp + offset - 1))
        .ok (fields, earlier)
      else .error .contradictory
    else do
      let fields ← orFault .contradictory (fields.setNumber? .second moment.time.second)
      .ok (fields, moment)
  orFault .contradictory do
    let fields ← fields.setNumber? .year moment.date.year
    let fields ← fields.setNumber? .ordinal moment.date.ordinal
    let fields ← fields.setNumber? .hour moment.time.hour
    fields.setNumber? .minute moment.time.minute

/-- The local date and time that the fields determine, if the local clock has the given offset in
seconds (`to_naive_datetime_with_offset`). A timestamp is used only where date or time lack fields and
neither is at fault. -/
def toLocalDateTime (fields : Fields) (offset : Int) : Except Fault LocalDateTime :=
  match fields.toDate, fields.toTime, fields.timestamp with
  | .ok date, .ok time, _ =>
      if fields.agreesWithTimestamp offset ⟨date, time⟩ then .ok ⟨date, time⟩
      else .error .contradictory
  | .error .outOfRange, _, _ => .error .outOfRange
  | _, .error .outOfRange, _ => .error .outOfRange
  | .error .contradictory, _, _ => .error .contradictory
  | _, .error .contradictory, _ => .error .contradictory
  | _, _, none => .error .missing
  | _, _, some timestamp => do
      let complete ← fields.withTimestamp timestamp offset
      let date ← complete.toDate
      let time ← complete.toTime
      .ok ⟨date, time⟩

/-- The offset that the fields determine (`to_fixed_offset`). -/
def toOffset (fields : Fields) : Except Fault Offset := do
  let seconds ← orFault .missing fields.offset
  orFault .outOfRange (Offset.ofSeconds? seconds)

/-- The time with an offset that the fields determine. -/
def toOffsetTime (fields : Fields) : Except Fault OffsetTime := do
  let time ← fields.toTime
  let offset ← fields.toOffset
  .ok ⟨time, offset⟩

/-- The date and time with an offset that the fields determine (`to_datetime`). A timestamp without an
offset is in UTC. -/
def toOffsetDateTime (fields : Fields) : Except Fault OffsetDateTime := do
  let seconds ← orFault .missing (fields.offset.or (fields.timestamp.map fun _ => 0))
  let moment ← fields.toLocalDateTime seconds
  let offset ← orFault .outOfRange (Offset.ofSeconds? seconds)
  orFault .contradictory (OffsetDateTime.ofLocal? moment offset)

end Fields

end TextGrammar.Calendar
