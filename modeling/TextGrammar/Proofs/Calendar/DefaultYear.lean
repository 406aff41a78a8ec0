import TextGrammar.Proofs.Calendar.KnownYear
import TextGrammar.Format

/-!
# The default year

The default year of a place is tried where the fields that are read determine no date. Then it is the
year of the date, or there is none, so that no other year can come from it. Where it is not tried, all
places with the same patterns read the same.
-/

namespace TextGrammar

open Text Calendar

/-- The conventions of a place that differs in the default year at most. -/
def Conventions.inYear (year : Int) (conventions : Conventions) : Conventions :=
  { conventions with dateTime := { conventions.dateTime with defaultYear := year } }

/-- The year of a date on the clock of its place. -/
def LeafValue.localYear? : LeafValue → Option Int
  | .localDate date => some date.year
  | .localDateTime moment => some moment.date.year
  | .offsetDateTime value => some value.date.year
  | _ => none

namespace DateTimeKind

variable {kind : DateTimeKind} {fields : Fields} {year : Int} {value : LeafValue}

/-- Whether values of a kind have a date. -/
def hasDate : DateTimeKind → Bool
  | .localDate | .localDateTime | .offsetDateTime => true
  | .localTime | .offsetTime => false

theorem toOption_eq_some_iff {α : Type} {result : Except Fault α} {value : α} :
    result.toOption = some value ↔ result = .ok value := by
  cases result <;> simp [Except.toOption]

/-- Times do not depend on the year. -/
theorem value?_withYear_of_time (isTime : kind.hasDate = false) :
    kind.value? (fields.withYear year) = kind.value? fields := by
  cases kind
  case localTime => rfl
  case offsetTime => rfl
  all_goals cases isTime

/-- A date that is determined has the year that is known. -/
theorem localYear?_of_value?_withYear (isDate : kind.hasDate)
    (found : kind.value? (fields.withYear year) = some value) : value.localYear? = some year := by
  cases kind
  case localTime => cases isDate
  case offsetTime => cases isDate
  all_goals
    rcases Option.map_eq_some_iff.1 found with ⟨result, isResult, rfl⟩
    rw [toOption_eq_some_iff] at isResult
    refine congrArg some ?_
  case localDate => exact Fields.year_of_toDate Fields.year_withYear isResult
  case localDateTime => exact Fields.year_of_toLocalDateTime_withYear isResult
  case offsetDateTime =>
    rcases Fields.toOffsetDateTime_eq_ok_iff.1 isResult with ⟨_, moment, _, -, isMoment, -, isValue⟩
    rw [(OffsetDateTime.ofLocal?_eq_some_iff.1 isValue).1]
    exact Fields.year_of_toLocalDateTime_withYear isMoment

/-- If the fields name a year, another year brings nothing that they do not determine without it. -/
theorem value?_of_withYear (inRange : yearInRange? year = some year)
    (agreed : agrees fields.year year) (named : fields.NamesYear)
    (found : kind.value? (fields.withYear year) = some value) : kind.value? fields = some value := by
  cases known : fields.year with
  | some own =>
      have same : own = year := by simpa [known, agrees] using agreed
      rwa [Fields.withYear_eq_self (known.trans (congrArg some same))] at found
  | none =>
      rcases named with isSome | ⟨hasCentury, hasYear⟩
      · simp [known] at isSome
      rcases Option.isSome_iff_exists.1 hasCentury with ⟨century, isCentury⟩
      rcases Option.isSome_iff_exists.1 hasYear with ⟨yearOfCentury, isYear⟩
      have sameDate := Fields.toDate_withYear inRange known isCentury isYear
      cases kind
      case localTime => exact found
      case offsetTime => exact found
      all_goals
        rcases Option.map_eq_some_iff.1 found with ⟨result, isResult, rfl⟩
        rw [toOption_eq_some_iff] at isResult
        refine Option.map_eq_some_iff.2 ⟨result, toOption_eq_some_iff.2 ?_, rfl⟩
      case localDate =>
        rcases sameDate with contradicted | same
        · rw [contradicted] at isResult
          cases isResult
        · rw [← same, isResult]
      case localDateTime => exact Fields.toLocalDateTime_of_withYear known sameDate isResult
      case offsetDateTime =>
        rw [Fields.toOffsetDateTime_eq_ok_iff] at isResult ⊢
        rcases isResult with ⟨seconds, moment, offset, isSeconds, isMoment, isValue⟩
        exact ⟨seconds, moment, offset, isSeconds,
          Fields.toLocalDateTime_of_withYear known sameDate isMoment, isValue⟩

/-- The default year is tried only where nothing is determined without it, and only if it is in range
and the fields do not have another one. -/
theorem valueInYear?_eq_some_iff :
    kind.valueInYear? year fields = some value ↔
      kind.value? fields = some value ∨
        kind.value? fields = none ∧ yearInRange? year = some year ∧ agrees fields.year year ∧
          kind.value? (fields.withYear year) = some value := by
  unfold valueInYear?
  cases own : kind.value? fields with
  | some other => simp
  | none =>
      simp only [bind, Option.bind_eq_some_iff, Fields.setYear?_eq_some_iff]
      constructor
      · intro found
        rcases found with ⟨known, ⟨inRange, agreed, rfl⟩, isValue⟩
        exact .inr ⟨trivial, inRange, agreed, isValue⟩
      · intro found
        rcases found with absurdity | ⟨-, inRange, agreed, isValue⟩
        · cases absurdity
        · exact ⟨_, ⟨inRange, agreed, rfl⟩, isValue⟩

/-- A date that is not determined without the default year is of that year. -/
theorem localYear?_of_valueInYear? (isDate : kind.hasDate) (undetermined : kind.value? fields = none)
    (found : kind.valueInYear? year fields = some value) : value.localYear? = some year := by
  rcases valueInYear?_eq_some_iff.1 found with own | ⟨-, -, -, isValue⟩
  · cases undetermined.symm.trans own
  · exact localYear?_of_value?_withYear isDate isValue

/-- Neither times nor fields that name a year need a default year. -/
theorem valueInYear?_eq_value? (independent : kind.hasDate = false ∨ fields.NamesYear) :
    kind.valueInYear? year fields = kind.value? fields := by
  refine Option.ext fun value => ?_
  rw [valueInYear?_eq_some_iff]
  constructor
  · intro found
    rcases found with own | ⟨-, inRange, agreed, isValue⟩
    · exact own
    rcases independent with isTime | named
    · rwa [value?_withYear_of_time isTime] at isValue
    · exact value?_of_withYear inRange agreed named isValue
  · intro own
    exact .inl own

end DateTimeKind

namespace Format

/-- Conventions that differ in the default year at most turn a text away together, or read the same
fields and leave the same rest. -/
theorem read?_inYear_cases (kind : DateTimeKind) (choice : PatternChoice) (conventions : Conventions)
    (text : List Char) :
    (∀ year, (dateTime kind choice).read? (conventions.inYear year) text = none) ∨
      ∃ fields rest,
        readItems? (patternItems (choice.resolve conventions.dateTime)) {} text = some (fields, rest) ∧
        ∀ year, (dateTime kind choice).read? (conventions.inYear year) text =
          (kind.valueInYear? year fields).map (·, rest) := by
  have samePattern (year : Int) :
      choice.resolve (conventions.inYear year).dateTime = choice.resolve conventions.dateTime := by
    cases choice <;> rfl
  simp only [dateTime, Conventions.forDates_eq, samePattern]
  split
  next => exact .inl fun _ => rfl
  next =>
    simp only [DateTimeKind.readPattern?, bind]
    cases reading : readItems? (patternItems (choice.resolve conventions.dateTime)) {} text with
    | none => exact .inl fun _ => rfl
    | some progress =>
        rcases progress with ⟨fields, rest⟩
        exact .inr ⟨fields, rest, rfl, fun _ => Option.map_eq_bind.symm⟩

/-- **The default year gets no further than it must.** Two places that differ in the default year
read the same times. They read the same date, or each of them reads a date of its own default year
if it reads one. If both read a value, they leave the same rest. If the fields of the text name a year,
they read the same. -/
theorem default_year_is_isolated (kind : DateTimeKind) (choice : PatternChoice)
    (conventions : Conventions) (first second : Int) (text : List Char) :
    let read (year : Int) := (dateTime kind choice).read? (conventions.inYear year) text
    (kind.hasDate = false → read first = read second) ∧
    (kind.hasDate → read first = read second ∨
      (∀ value rest, read first = some (value, rest) → value.localYear? = some first) ∧
      (∀ value rest, read second = some (value, rest) → value.localYear? = some second)) ∧
    (∀ value other rest otherRest, read first = some (value, rest) →
      read second = some (other, otherRest) → rest = otherRest) ∧
    (∀ fields rest,
      readItems? (patternItems (choice.resolve conventions.dateTime)) {} text = some (fields, rest) →
      fields.NamesYear → read first = read second) := by
  intro read
  rcases read?_inYear_cases kind choice conventions text with unread | ⟨fields, rest, reading, isRead⟩
  · have same : read first = read second := (unread first).trans (unread second).symm
    refine ⟨fun _ => same, fun _ => .inl same, ?_, fun _ _ _ _ => same⟩
    intro value other rest otherRest found
    cases (unread first).symm.trans found
  have independent (enough : kind.hasDate = false ∨ fields.NamesYear) : read first = read second := by
    simp only [read, isRead, DateTimeKind.valueInYear?_eq_value? enough]
  refine ⟨fun isTime => independent (.inl isTime), ?_, ?_, ?_⟩
  · intro isDate
    cases own : kind.value? fields with
    | some value =>
        left
        have inAnyYear (year : Int) : kind.valueInYear? year fields = some value :=
          DateTimeKind.valueInYear?_eq_some_iff.2 (.inl own)
        simp only [read, isRead, inAnyYear]
    | none =>
        right
        have ofDefault (year : Int) (value : LeafValue) (rest : List Char)
            (found : read year = some (value, rest)) : value.localYear? = some year := by
          simp only [read, isRead, Option.map_eq_some_iff] at found
          rcases found with ⟨value, isValue, ⟨⟩⟩
          exact DateTimeKind.localYear?_of_valueInYear? isDate own isValue
        exact ⟨ofDefault first, ofDefault second⟩
  · intro value other left right isLeft isRight
    simp only [read, isRead, Option.map_eq_some_iff] at isLeft isRight
    rcases isLeft with ⟨_, -, ⟨⟩⟩
    rcases isRight with ⟨_, -, ⟨⟩⟩
    rfl
  · intro others otherRest readingAgain named
    cases reading.symm.trans readingAgain
    exact independent (.inr named)

/-- A leap day is read in the default year, if that is a leap year. A time and a date with a century and
a year of it are read in no other way. -/
theorem default_year_is_isolated_leapDay :
    let read (kind : DateTimeKind) (pattern text : String) (year : Int) :=
      (dateTime kind (.fixed pattern)).read? ((Conventions.english 2000).inYear year) text.toList
    read .localTime "%H:%M" "09:30" 2000 = read .localTime "%H:%M" "09:30" 2001 ∧
    (∃ leapDay other, read .localDate "%d/%m" "29/02;" 2000 = some (leapDay, [';']) ∧
      leapDay.localYear? = some 2000 ∧
      read .localDate "%d/%m" "29/02;" 2004 = some (other, [';']) ∧
      other.localYear? = some 2004) ∧
    read .localDate "%d/%m" "29/02;" 2001 = none ∧
    read .localDate "%d/%m/%C%y" "29/02/2000" 1999 =
      read .localDate "%d/%m/%C%y" "29/02/2000" 2001 := by
  intro read
  refine ⟨?_, ?_, ?_, ?_⟩
  · exact (default_year_is_isolated .localTime (.fixed "%H:%M") (.english 2000) 2000 2001
      "09:30".toList).1 rfl
  · have leap : (read .localDate "%d/%m" "29/02;" 2000).map (·.2) = some [';'] := by decide +kernel
    have otherLeap : (read .localDate "%d/%m" "29/02;" 2004).map (·.2) = some [';'] := by
      decide +kernel
    have differ : read .localDate "%d/%m" "29/02;" 2000 ≠ read .localDate "%d/%m" "29/02;" 2004 := by
      decide +kernel
    rcases Option.map_eq_some_iff.1 leap with ⟨⟨leapDay, rest⟩, isLeap, rfl⟩
    rcases Option.map_eq_some_iff.1 otherLeap with ⟨⟨other, rest⟩, isOther, rfl⟩
    rcases ((default_year_is_isolated .localDate (.fixed "%d/%m") (.english 2000) 2000 2004
      "29/02;".toList).2.1 rfl).resolve_left differ with ⟨inFirst, inSecond⟩
    exact ⟨leapDay, other, isLeap, inFirst _ _ isLeap, isOther, inSecond _ _ isOther⟩
  · decide +kernel
  · have reading : readItems? (patternItems "%d/%m/%C%y") {} "29/02/2000".toList =
        some ({ day := some 29, month := some 2, century := some 20, yearOfCentury := some 0 }, []) := by
      decide +kernel
    exact (default_year_is_isolated .localDate (.fixed "%d/%m/%C%y") (.english 2000) 1999 2001
      "29/02/2000".toList).2.2.2 _ [] reading (.inr ⟨rfl, rfl⟩)

end Format

end TextGrammar
