import TextGrammar.Calendar.DateTime
import TextGrammar.Proofs.Text.Delimited

/-!
# Dates and times as they are written

A date or an offset can be read off from how it is written, part by part, before any character that
cannot go on with it: an offset is written with all its seconds, and a year that has not four digits with
its sign. A time of day is written by its hour, its minute and the nanoseconds of its minute. That leaves
open whether a leap second is meant or the second after it, unless leap seconds only end minutes, as the
second 60 is written for nothing else.
-/

namespace TextGrammar.Calendar

open Text

-- What is read off part by part is the same once all its parts are.
attribute [ext] CivilDate Date Time Offset LocalDateTime OffsetTime OffsetDateTime

/-- What digits end before is also what other digits end before. -/
private theorem mark_delimits {mark : Char} {rest : List Char} (noDigit : isDigit mark = false) :
    GoesOnWith (isDigit · = false) (mark :: rest) :=
  goesOnWith_cons.2 noDigit

/-- A sign that is always written. -/
def signMark (number : Int) : Char :=
  if number < 0 then '-' else '+'

theorem isDigit_signMark (number : Int) : isDigit (signMark number) = false := by
  unfold signMark
  split <;> decide

theorem signMark_inj {left right : Int} (equal : signMark left = signMark right) :
    left < 0 ↔ right < 0 := by
  unfold signMark at equal
  split at equal <;> split at equal
  · omega
  · exact absurd equal (by decide)
  · exact absurd equal (by decide)
  · omega

/-! ## Dates -/

/-- A year as it is written. -/
def yearText (year : Int) : List Char :=
  if 0 ≤ year ∧ year ≤ 9999 then padded 4 year.toNat else signMark year :: padded 4 year.natAbs

theorem CivilDate.display_eq (date : CivilDate) :
    date.display =
      yearText date.year ++ '-' :: (padded 2 date.month ++ '-' :: padded 2 date.day) := by
  simp [CivilDate.display, yearText, signMark]

theorem isDelimited_yearText : IsDelimited (isDigit · = false) yearText := by
  intro left right rest rest' goesOn goesOn' equal
  unfold yearText at equal
  split at equal <;> split at equal
  next inside inside' =>
    obtain ⟨same, following⟩ := isDelimited_padded 4 goesOn goesOn' equal
    exact ⟨by omega, following⟩
  · have digit := goesOnWith_padded 4 left.toNat rest
    rw [equal] at digit
    simp [isDigit_signMark] at digit
  · have digit := goesOnWith_padded 4 right.toNat rest'
    rw [← equal] at digit
    simp [isDigit_signMark] at digit
  next outside outside' =>
    obtain ⟨sign, equal⟩ := List.cons.inj equal
    have sameSign := signMark_inj sign
    obtain ⟨same, following⟩ := isDelimited_padded 4 goesOn goesOn' equal
    exact ⟨by omega, following⟩

theorem isDelimited_civilDate : IsDelimited (isDigit · = false) CivilDate.display := by
  intro left right rest rest' goesOn goesOn' equal
  simp only [CivilDate.display_eq, List.append_assoc, List.cons_append] at equal
  have hyphen : isDigit '-' = false := by decide
  obtain ⟨year, equal⟩ := isDelimited_yearText (mark_delimits hyphen) (mark_delimits hyphen) equal
  obtain ⟨month, equal⟩ :=
    isDelimited_padded 2 (mark_delimits hyphen) (mark_delimits hyphen) (List.cons.inj equal).2
  obtain ⟨day, following⟩ := isDelimited_padded 2 goesOn goesOn' (List.cons.inj equal).2
  exact ⟨CivilDate.ext year month day, following⟩

/-- A date is one of any year with a bound on the year. -/
theorem Date.eq_of_toCivilDate_eq {left right : Date} (equal : left.toCivilDate = right.toCivilDate) :
    left = right := by
  cases left
  cases equal
  rfl

/-- What may come after a time. -/
abbrev DelimitsTime : Char → Prop :=
  DelimitsMarked isDigit '.'

/-- The digits of a part of a second say which part it is. -/
theorem exists_fractionDigits_eq {nanoseconds : Nat} (fraction : nanoseconds < nanosPerSecond) :
    ∃ digits, Time.fractionDigits nanoseconds = marked '.' digits ∧
      (∀ c ∈ digits, isDigit c = true) ∧
      nanoseconds = decimalValue digits * powerOfTen (9 - digits.length) := by
  have three : powerOfTen 3 = 1000 := rfl
  have six : powerOfTen 6 = 1000000 := rfl
  have nine : powerOfTen 9 = 1000000000 := rfl
  have group (width part : Nat) (positive : 0 < width) (fits : part < powerOfTen width)
      (exact : nanoseconds = part * powerOfTen (9 - width)) :
      ∃ digits, '.' :: padded width part = marked '.' digits ∧ (∀ c ∈ digits, isDigit c = true) ∧
        nanoseconds = decimalValue digits * powerOfTen (9 - digits.length) := by
    have length := length_padded positive fits
    have present : padded width part ≠ [] := List.ne_nil_of_length_pos (by omega)
    refine ⟨padded width part, ?_, fun _ => isDigit_of_mem_padded, ?_⟩
    · rw [marked_of_ne_nil '.' present]
    · rw [decimalValue_padded, length, ← exact]
  unfold nanosPerSecond at fraction
  unfold Time.fractionDigits
  split
  next none => exact ⟨[], rfl, by simp, none⟩
  · split
    next =>
      have exact : nanoseconds = nanoseconds / 1000000 * powerOfTen 6 := by
        rw [six]
        omega
      exact group 3 (nanoseconds / 1000000) (by omega) (by omega) exact
    · split
      next =>
        have exact : nanoseconds = nanoseconds / 1000 * powerOfTen 3 := by
          rw [three]
          omega
        exact group 6 (nanoseconds / 1000) (by omega) (by omega) exact
      · exact group 9 nanoseconds (by omega) (by omega) (by simp)

namespace Time

/-- The number of nanoseconds since the minute began, as if no second before was a leap second. -/
def nanosecondOfMinute (time : Time) : Nat :=
  time.second * nanosPerSecond + time.nanosecond

/-- Whether two times have the same hour, the same minute and the same nanoseconds of the minute. Then
they are the same, or one of them is in a leap second and the other in the second after it. -/
structure WrittenAlike (left right : Time) : Prop where
  hour : left.hour = right.hour
  minute : left.minute = right.minute
  ofMinute : left.nanosecondOfMinute = right.nanosecondOfMinute

/-- Whether the time lies in no leap second, but for the last second of a minute. -/
abbrev LeapEndsMinute (time : Time) : Prop :=
  Calendar.LeapEndsMinute time.second time.nanosecond

variable {left right : Time}

/-- The seconds that are written, and the fraction, are parts of the nanoseconds of the minute. -/
theorem WrittenAlike.display_eq (alike : left.WrittenAlike right) : left.display = right.display := by
  obtain ⟨hour, minute, ofMinute⟩ := alike
  have second (time : Time) : time.second + time.nanosecond / nanosPerSecond =
      time.nanosecondOfMinute / nanosPerSecond := by
    simp only [nanosecondOfMinute, nanosPerSecond]
    omega
  have fraction (time : Time) : time.nanosecond % nanosPerSecond =
      time.nanosecondOfMinute % nanosPerSecond := by
    simp only [nanosecondOfMinute, nanosPerSecond]
    omega
  simp only [display, hour, minute, second, fraction, ofMinute]

theorem WrittenAlike.eq (alike : left.WrittenAlike right) (leap : left.LeapEndsMinute)
    (leap' : right.LeapEndsMinute) : left = right := by
  obtain ⟨hour, minute, ofMinute⟩ := alike
  obtain ⟨-, -, range, leapRange⟩ := left.isTime
  obtain ⟨-, -, range', leapRange'⟩ := right.isTime
  simp only [LeapEndsMinute, Calendar.LeapEndsMinute, nanosecondOfMinute, nanosPerSecond] at *
  have second : left.second = right.second := by omega
  have nanosecond : left.nanosecond = right.nanosecond := by omega
  exact Time.ext hour minute second nanosecond

theorem isDelimitedUpTo_display : IsDelimitedUpTo WrittenAlike DelimitsTime display := by
  intro left right rest rest' goesOn goesOn' equal
  simp only [display, List.append_assoc, List.cons_append] at equal
  have colon : isDigit ':' = false := by decide
  have point : isDigit '.' = false := by decide
  obtain ⟨digits, written, all, value⟩ :=
    exists_fractionDigits_eq (Nat.mod_lt left.nanosecond (by decide : 0 < nanosPerSecond))
  obtain ⟨digits', written', all', value'⟩ :=
    exists_fractionDigits_eq (Nat.mod_lt right.nanosecond (by decide : 0 < nanosPerSecond))
  rw [written, written'] at equal
  obtain ⟨hour, equal⟩ := isDelimited_padded 2 (mark_delimits colon) (mark_delimits colon) equal
  obtain ⟨minute, equal⟩ :=
    isDelimited_padded 2 (mark_delimits colon) (mark_delimits colon) (List.cons.inj equal).2
  obtain ⟨second, equal⟩ := isDelimited_padded 2 (goesOnWith_marked point _ goesOn)
    (goesOnWith_marked point _ goesOn') (List.cons.inj equal).2
  obtain ⟨sameDigits, following⟩ := marked_append_inj all all' goesOn goesOn' equal
  have part : left.nanosecond % nanosPerSecond = right.nanosecond % nanosPerSecond := by
    rw [value, value', sameDigits]
  have ofMinute : left.nanosecondOfMinute = right.nanosecondOfMinute := by
    simp only [nanosecondOfMinute, nanosPerSecond] at second part ⊢
    omega
  exact ⟨⟨hour, minute, ofMinute⟩, following⟩

end Time

/-- The digits of the seconds of an offset, if there are any. -/
def secondsDigits (seconds : Nat) : List Char :=
  if seconds = 0 then [] else padded 2 seconds

theorem Offset.display_eq (offset : Offset) :
    offset.display =
      signMark offset.seconds ::
        (padded 2 (offset.seconds.natAbs / 3600) ++
          ':' :: (padded 2 (offset.seconds.natAbs / 60 % 60) ++
            marked ':' (secondsDigits (offset.seconds.natAbs % 60)))) := by
  have seconds (seconds : Nat) : marked ':' (secondsDigits seconds) =
      if seconds = 0 then [] else ':' :: padded 2 seconds := by
    unfold secondsDigits
    split
    · rfl
    · exact marked_of_ne_nil ':' (List.ne_nil_of_length_pos (by
        have := le_length_padded 2 seconds
        omega))
  simp [Offset.display, seconds, signMark]

theorem displayMoment_append_inj {mark : Char} (noDigit : isDigit mark = false)
    {date date' : CivilDate} {time time' : Time} {rest rest' : List Char}
    (goesOn : GoesOnWith DelimitsTime rest) (goesOn' : GoesOnWith DelimitsTime rest')
    (equal : displayMoment mark date time ++ rest = displayMoment mark date' time' ++ rest') :
    date = date' ∧ time.WrittenAlike time' ∧ rest = rest' := by
  simp only [displayMoment, List.append_assoc, List.cons_append] at equal
  obtain ⟨sameDate, equal⟩ :=
    isDelimited_civilDate (mark_delimits noDigit) (mark_delimits noDigit) equal
  exact ⟨sameDate, Time.isDelimitedUpTo_display goesOn goesOn' (List.cons.inj equal).2⟩

/-- Whether two dates and times have the same date, and times that are written alike. -/
structure LocalDateTime.WrittenAlike (left right : LocalDateTime) : Prop where
  date : left.date = right.date
  time : left.time.WrittenAlike right.time

/-- Whether two times have the same offset, and are written alike. -/
structure OffsetTime.WrittenAlike (left right : OffsetTime) : Prop where
  time : left.time.WrittenAlike right.time
  offset : left.offset = right.offset

/-- Whether two dates and times have the same date and offset, and times that are written alike. -/
structure OffsetDateTime.WrittenAlike (left right : OffsetDateTime) : Prop where
  date : left.date = right.date
  time : left.time.WrittenAlike right.time
  offset : left.offset = right.offset

theorem LocalDateTime.WrittenAlike.display_eq {left right : LocalDateTime}
    (alike : left.WrittenAlike right) (mark : Char) : left.display mark = right.display mark := by
  rw [LocalDateTime.display, LocalDateTime.display, alike.date, displayMoment, displayMoment,
    alike.time.display_eq]

theorem LocalDateTime.isDelimitedUpTo_display :
    IsDelimitedUpTo WrittenAlike DelimitsTime (display 'T') := by
  intro left right rest rest' goesOn goesOn' equal
  obtain ⟨date, time, following⟩ := displayMoment_append_inj (by decide) goesOn goesOn' equal
  exact ⟨⟨Date.eq_of_toCivilDate_eq date, time⟩, following⟩

end TextGrammar.Calendar
