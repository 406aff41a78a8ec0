import TextGrammar.Calendar.Resolution

/-!
# Fields with a year

What fields determine once they are given a year: a date has that year, also if a timestamp stands for
some of it. If the fields have a full year of their own, the year that they are given must be the same,
and it changes nothing. Times do not depend on it.
-/

namespace TextGrammar.Calendar

theorem agree?_eq_some_iff {α : Type} [DecidableEq α] {known new : Option α} {value : α} :
    agree? known value = some new ↔ agrees known value ∧ new = some value := by
  unfold agree? agrees
  cases known with
  | none => simp [eq_comm]
  | some old =>
      by_cases same : old = value
      · simp [same, eq_comm]
      · simp [same]

theorem orFault_eq_ok_iff {α : Type} {fault : Fault} {found : Option α} {value : α} :
    orFault fault found = .ok value ↔ found = some value := by
  cases found <;> simp [orFault]

/-- A result in two steps comes from a result of the first. -/
theorem exists_of_bind_eq_ok {α β : Type} {first : Except Fault α} {next : α → Except Fault β}
    {result : β} (found : first >>= next = .ok result) :
    ∃ value, first = .ok value ∧ next value = .ok result := by
  cases first with
  | error fault => cases found
  | ok value => exact ⟨value, rfl, found⟩

theorem yearInRange?_eq_some {value year : Int} (inRange : yearInRange? value = some year) :
    year = value := by
  unfold yearInRange? at inRange
  split at inRange
  next => exact (Option.some.inj inRange).symm
  next => cases inRange

namespace Fields

variable {fields known complete : Fields} {year timestamp offset : Int}

/-- The fields with a year in place of the one they have. -/
def withYear (year : Int) (fields : Fields) : Fields := { fields with year := some year }

theorem setYear?_eq_some_iff :
    fields.setYear? year = some known ↔
      yearInRange? year = some year ∧ agrees fields.year year ∧ known = fields.withYear year := by
  simp only [setYear?, bind, Option.bind_eq_some_iff]
  constructor
  · intro set
    rcases set with ⟨value, inRange, new, agreed, ⟨⟩⟩
    cases yearInRange?_eq_some inRange
    rcases agree?_eq_some_iff.1 agreed with ⟨same, rfl⟩
    exact ⟨inRange, same, rfl⟩
  · intro set
    rcases set with ⟨inRange, same, rfl⟩
    exact ⟨year, inRange, some year, agree?_eq_some_iff.2 ⟨same, rfl⟩, rfl⟩

theorem withYear_eq_self (same : fields.year = some year) : fields.withYear year = fields := by
  simp [withYear, ← same]

@[simp] theorem year_withYear : (fields.withYear year).year = some year := rfl

/-- All other parts are set as if there was no year. -/
theorem setNumber?_withYear {field : NumberField} (other : field ≠ .year) (value : Int) :
    (fields.withYear year).setNumber? field value =
      (fields.setNumber? field value).map (withYear year) := by
  cases field
  case year => exact absurd rfl other
  all_goals
    simp only [setNumber?, setWeekday?, setHour?, setNanosecond?, bind, Option.map_bind,
      Function.comp_def]
    rfl

/-- Setting another part keeps the year. -/
theorem year_of_setNumber? {field : NumberField} {value : Int} (other : field ≠ .year)
    (set : fields.setNumber? field value = some known) : known.year = fields.year := by
  cases field
  case year => exact absurd rfl other
  all_goals
    simp only [setNumber?, setWeekday?, setHour?, setNanosecond?, bind, Option.bind_eq_some_iff,
      Option.some.injEq] at set
    grind

/-- A known year is that of the date. -/
theorem year_of_toDate {date : Date} (isYear : fields.year = some year)
    (found : fields.toDate = .ok date) : date.year = year := by
  rcases exists_of_bind_eq_ok found with ⟨fullYear, -, found⟩
  rcases exists_of_bind_eq_ok found with ⟨isoYear, -, found⟩
  rcases exists_of_bind_eq_ok found with ⟨other, -, found⟩
  split at found
  next agreed =>
    cases found
    simp only [agreesWithDate, agreesWithMonthDay, Bool.and_eq_true] at agreed
    have same : agrees fields.year date.year := agreed.1.1.1.1.1.1
    simpa [agrees, isYear, eq_comm] using same
  next => cases found

/-- The fields with the year, the day of it and the minute of a date and time. -/
def withMoment? (moment : LocalDateTime) (fields : Fields) : Option Fields := do
  let fields ← fields.setNumber? .year moment.date.year
  let fields ← fields.setNumber? .ordinal moment.date.ordinal
  let fields ← fields.setNumber? .hour moment.time.hour
  fields.setNumber? .minute moment.time.minute

theorem withTimestamp_eq (fields : Fields) (timestamp offset : Int) :
    fields.withTimestamp timestamp offset = (do
      let moment ← orFault .outOfRange (LocalDateTime.ofTimestamp? (timestamp + offset))
      if fields.second = some 60 then
        if moment.time.second = 59 then orFault .contradictory (fields.withMoment? moment)
        else if moment.time.second = 0 then do
          let earlier ← orFault .outOfRange (LocalDateTime.ofTimestamp? (timestamp + offset - 1))
          orFault .contradictory (fields.withMoment? earlier)
        else .error .contradictory
      else do
        let fields ← orFault .contradictory (fields.setNumber? .second moment.time.second)
        orFault .contradictory (fields.withMoment? moment)) := by
  unfold withTimestamp withMoment?
  rfl

/-- A date and time of another year contradicts the fields. -/
theorem withMoment?_withYear {moment : LocalDateTime}
    (found : (fields.withYear year).withMoment? moment = some complete) :
    complete.year = some year ∧ (fields.year = none → fields.withMoment? moment = some complete) := by
  simp only [withMoment?, bind, Option.bind_eq_some_iff] at found ⊢
  rcases found with ⟨dated, isDated, atDay, isAtDay, atHour, isAtHour, isComplete⟩
  rcases setYear?_eq_some_iff.1 isDated with ⟨inRange, same, rfl⟩
  have sameYear : moment.date.year = year := by simpa [agrees, eq_comm] using same
  rw [sameYear] at inRange isAtDay
  constructor
  · calc complete.year
      _ = atHour.year := year_of_setNumber? (by decide) isComplete
      _ = atDay.year := year_of_setNumber? (by decide) isAtHour
      _ = (fields.withYear year).year := year_of_setNumber? (by decide) isAtDay
      _ = some year := rfl
  · intro unknown
    refine ⟨fields.withYear year, ?_, atDay, isAtDay, atHour, isAtHour, isComplete⟩
    rw [sameYear]
    exact setYear?_eq_some_iff.2 ⟨inRange, by simp [unknown, agrees], rfl⟩

theorem withTimestamp_withYear
    (found : (fields.withYear year).withTimestamp timestamp offset = .ok complete) :
    complete.year = some year ∧
      (fields.year = none → fields.withTimestamp timestamp offset = .ok complete) := by
  rw [withTimestamp_eq] at found ⊢
  rcases exists_of_bind_eq_ok found with ⟨moment, isMoment, found⟩
  have ofMoment {used : LocalDateTime} {known : Fields}
      (found : orFault .contradictory ((known.withYear year).withMoment? used) = .ok complete) :
      complete.year = some year ∧
        (known.year = none → orFault .contradictory (known.withMoment? used) = .ok complete) := by
    rw [orFault_eq_ok_iff] at found ⊢
    exact withMoment?_withYear found
  rw [isMoment]
  change (if fields.second = some 60 then _ else _) = _ at found
  change _ ∧ (_ → (if fields.second = some 60 then _ else _) = _)
  by_cases leap : fields.second = some 60
  · rw [if_pos leap] at found ⊢
    by_cases last : moment.time.second = 59
    · rw [if_pos last] at found ⊢
      exact ofMoment found
    · rw [if_neg last] at found ⊢
      by_cases first : moment.time.second = 0
      · rw [if_pos first] at found ⊢
        rcases exists_of_bind_eq_ok found with ⟨earlier, isEarlier, found⟩
        rw [isEarlier]
        exact ofMoment found
      · rw [if_neg first] at found
        cases found
  · rw [if_neg leap] at found ⊢
    rcases exists_of_bind_eq_ok found with ⟨seconded, isSeconded, found⟩
    rw [orFault_eq_ok_iff, setNumber?_withYear (by decide), Option.map_eq_some_iff] at isSeconded
    rcases isSeconded with ⟨before, isBefore, rfl⟩
    rw [isBefore]
    rcases ofMoment found with ⟨isYear, sameWithout⟩
    refine ⟨isYear, ?_⟩
    intro unknown
    exact sameWithout ((year_of_setNumber? (by decide) isBefore).trans unknown)

/-- A known year is that of the date and time, also if they come from a timestamp. -/
theorem year_of_toLocalDateTime_withYear {moment : LocalDateTime}
    (found : (fields.withYear year).toLocalDateTime offset = .ok moment) :
    moment.date.year = year := by
  unfold toLocalDateTime at found
  split at found
  next date time isDate isTime =>
    split at found
    next =>
      cases found
      exact year_of_toDate year_withYear isDate
    next => cases found
  next => cases found
  next => cases found
  next => cases found
  next => cases found
  next => cases found
  next =>
    rcases exists_of_bind_eq_ok found with ⟨complete, isComplete, found⟩
    rcases exists_of_bind_eq_ok found with ⟨date, isDate, found⟩
    rcases exists_of_bind_eq_ok found with ⟨time, -, ⟨⟩⟩
    exact year_of_toDate (withTimestamp_withYear isComplete).1 isDate

/-- The fields have a year, or both the century and the year in it. -/
def NamesYear (fields : Fields) : Prop :=
  fields.year.isSome ∨ fields.century.isSome ∧ fields.yearOfCentury.isSome

/-- A century and a year of it agree with just one year. -/
theorem agreesWithCentury_iff {century yearOfCentury : Nat} {other : Int} (positive : 0 ≤ year)
    (isCentury : century = year.toNat / 100) (isYear : yearOfCentury = year.toNat % 100) :
    agreesWithCentury (some century) (some yearOfCentury) other ↔ other = year := by
  unfold agreesWithCentury
  split
  next =>
    simp [agrees]
    omega
  next negative =>
    have different : other ≠ year := by omega
    simp [different]

/-- If a century and a year of it are known, and a date agrees with them, it agrees with the year that
they make. -/
theorem agreesWithDate_withYear {century yearOfCentury : Nat} (unknown : fields.year = none)
    (isCentury : fields.century = some century) (isYear : fields.yearOfCentury = some yearOfCentury)
    (made : 0 ≤ year ∧ century = year.toNat / 100 ∧ yearOfCentury = year.toNat % 100)
    (date : Date) : (fields.withYear year).agreesWithDate date = fields.agreesWithDate date := by
  have sameMonthDay :
      (fields.withYear year).agreesWithMonthDay date = fields.agreesWithMonthDay date := by
    by_cases ofYear : date.year = year
    · simp [agreesWithMonthDay, withYear, unknown, agrees, ofYear]
    · have disagrees : agreesWithCentury (some century) (some yearOfCentury) date.year = false :=
        eq_false_of_ne_true (mt (agreesWithCentury_iff made.1 made.2.1 made.2.2).1 ofYear)
      simp [agreesWithMonthDay, withYear, isCentury, isYear, disagrees]
  rw [agreesWithDate, sameMonthDay]
  rfl

theorem toDate_withYear {century yearOfCentury : Nat} (inRange : yearInRange? year = some year)
    (unknown : fields.year = none) (isCentury : fields.century = some century)
    (isYear : fields.yearOfCentury = some yearOfCentury) :
    (fields.withYear year).toDate = .error .contradictory ∨
      (fields.withYear year).toDate = fields.toDate := by
  have withYear_century : (fields.withYear year).century = some century := isCentury
  have withYear_yearOfCentury : (fields.withYear year).yearOfCentury = some yearOfCentury := isYear
  by_cases made : 0 ≤ year ∧ century = year.toNat / 100 ∧ yearOfCentury = year.toNat % 100
  · right
    have resolved : resolveYear none (some century) (some yearOfCentury) = .ok (some year) := by
      have isSum : (century * 100 + yearOfCentury : Int) = year := by omega
      simp [resolveYear, isSum, inRange, orFault]
    have resolvedAgain :
        resolveYear (some year) (some century) (some yearOfCentury) = .ok (some year) := by
      simp [resolveYear, made, agrees]
    simp only [toDate, unknown, isCentury, isYear, resolved, year_withYear, withYear_century,
      withYear_yearOfCentury, resolvedAgain, agreesWithDate_withYear unknown isCentury isYear made]
    rfl
  · left
    have contradicted :
        resolveYear (some year) (some century) (some yearOfCentury) = .error .contradictory := by
      simp [resolveYear, agrees, made]
    simp only [toDate, year_withYear, withYear_century, withYear_yearOfCentury, contradicted]
    rfl

theorem toLocalDateTime_of_withYear {moment : LocalDateTime} (unknown : fields.year = none)
    (sameDate : (fields.withYear year).toDate = .error .contradictory ∨
      (fields.withYear year).toDate = fields.toDate)
    (found : (fields.withYear year).toLocalDateTime offset = .ok moment) :
    fields.toLocalDateTime offset = .ok moment := by
  have sameTime : (fields.withYear year).toTime = fields.toTime := rfl
  have sameTimestamp : (fields.withYear year).timestamp = fields.timestamp := rfl
  unfold toLocalDateTime at found ⊢
  rw [sameTime, sameTimestamp] at found
  rcases sameDate with contradicted | sameDate
  · rw [contradicted] at found
    cases time : fields.toTime with
    | ok value => simp [time] at found
    | error fault => cases fault <;> simp [time] at found
  · rw [sameDate] at found
    split at found
    next => exact found
    next => cases found
    next => cases found
    next => cases found
    next => cases found
    next => cases found
    next =>
      rcases exists_of_bind_eq_ok found with ⟨complete, isComplete, found⟩
      rw [(withTimestamp_withYear isComplete).2 unknown]
      exact found

theorem toOffsetDateTime_eq_ok_iff {value : OffsetDateTime} :
    fields.toOffsetDateTime = .ok value ↔
      ∃ seconds moment offset, fields.offset.or (fields.timestamp.map fun _ => 0) = some seconds ∧
        fields.toLocalDateTime seconds = .ok moment ∧ Offset.ofSeconds? seconds = some offset ∧
        OffsetDateTime.ofLocal? moment offset = some value := by
  constructor
  · intro found
    rcases exists_of_bind_eq_ok found with ⟨seconds, isSeconds, found⟩
    rcases exists_of_bind_eq_ok found with ⟨moment, isMoment, found⟩
    rcases exists_of_bind_eq_ok found with ⟨offset, isOffset, found⟩
    rw [orFault_eq_ok_iff] at isSeconds isOffset found
    exact ⟨seconds, moment, offset, isSeconds, isMoment, isOffset, found⟩
  · intro found
    rcases found with ⟨seconds, moment, offset, isSeconds, isMoment, isOffset, isValue⟩
    simp [toOffsetDateTime, isSeconds, isMoment, isOffset, isValue, orFault, bind, Except.bind]

end Fields

end TextGrammar.Calendar
