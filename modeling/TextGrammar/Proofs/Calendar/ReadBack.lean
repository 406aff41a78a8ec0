import TextGrammar.Calendar.Reading
import TextGrammar.Calendar.Resolution
import TextGrammar.Proofs.Calendar.Written

/-!
# Times that are read back

A time of day in whole seconds with an offset in whole minutes is read back from how it is written,
whatever comes after it. The pattern for it reads hours, minutes and seconds of two digits each, and
then the sign, the hours and the minutes of the offset.
-/

namespace TextGrammar.Calendar

open Text

/-! ## Numbers of two digits -/

theorem isBlank_eq_false_of_isDigit {c : Char} (digit : isDigit c = true) : isBlank c = false := by
  have range := isDigit_iff.1 digit
  simp [isBlank, inRanges, blankRanges]
  omega

theorem startsBlank_padded (width number : Nat) (rest : List Char) :
    startsBlank (padded width number ++ rest) = false := by
  have starts := goesOnWith_padded width number rest
  cases written : padded width number ++ rest with
  | nil => rfl
  | cons c others =>
      rw [written] at starts
      exact isBlank_eq_false_of_isDigit (goesOnWith_cons.1 starts)

section

variable {number : Nat} (fits : number < 100) (rest : List Char)

include fits

theorem length_padded_two : (padded 2 number).length = 2 :=
  length_padded (by omega) (Nat.lt_of_lt_of_eq fits rfl)

theorem readNumber?_padded :
    readNumber? (some 2) (padded 2 number ++ rest) = some (number, rest) := by
  have window : (padded 2 number ++ rest).take 2 = padded 2 number :=
    List.take_left' (length_padded_two fits)
  have digits : (padded 2 number ++ []).takeWhile isDigit = padded 2 number :=
    takeWhile_append_of_goesOnWith (fun _ => isDigit_of_mem_padded) (by simp [GoesOnWith])
  rw [List.append_nil] at digits
  have present : padded 2 number ≠ [] :=
    List.ne_nil_of_length_pos (by simp [length_padded_two fits])
  have inRange : ¬greatestNumber < number := by
    rw [greatestNumber]
    omega
  simp only [readNumber?, window, digits, decimalValue_padded, present, inRange, or_false, if_false,
    List.drop_left]

theorem readDigits?_padded :
    readDigits? 2 (padded 2 number ++ rest) = some (number, rest) := by
  have length := length_padded_two fits
  have all : (padded 2 number).all isDigit = true :=
    List.all_eq_true.2 fun _ => isDigit_of_mem_padded
  simp only [readDigits?, List.take_left' length, List.drop_left' length, length, all,
    decimalValue_padded, and_self, if_true]

/-- A part that has two digits is read as the number that is written. -/
theorem Item.read?_number_padded {field : NumberField} (twoDigits : field.width = some 2)
    {fields known : Fields} (set : fields.setNumber? field number = some known) :
    (Item.number field).read? fields (padded 2 number ++ rest) = some (known, rest) := by
  have read : field.read? (padded 2 number ++ rest) = some ((number : Int), rest) := by
    rw [NumberField.read?.eq_def, trimStart_eq_self (startsBlank_padded 2 number rest), twoDigits,
      readNumber?_padded fits]
    cases field with
    | year => cases twoDigits
    | isoYear => cases twoDigits
    | _ => rfl
  simp [Item.read?, read, set]

end

theorem Item.read?_literal (c : Char) (fields : Fields) (rest : List Char) :
    (Item.literal c).read? fields (c :: rest) = some (fields, rest) :=
  if_pos rfl

/-! ## Offsets -/

/-- No mark may stand among the digits of an offset. -/
theorem isOffsetMark_eq_false_of_isDigit {c : Char} (digit : isDigit c = true) :
    isOffsetMark c = false := by
  have noColon : c ≠ ':' := by
    rintro rfl
    exact absurd digit (by decide)
  simp [isOffsetMark, noColon, isBlank_eq_false_of_isDigit digit]

theorem readOffsetSize?_padded {hours minutes : Nat} (hoursFit : hours < 100)
    (minutesFit : minutes < 60) (minutesOptional : Bool) (rest : List Char) :
    readOffsetSize? minutesOptional (padded 2 hours ++ ':' :: (padded 2 minutes ++ rest)) =
      some (hours * 3600 + minutes * 60, rest) := by
  have starts := goesOnWith_padded 2 minutes rest
  have minutesRead := readDigits?_padded (by omega : minutes < 100) rest
  cases written : padded 2 minutes ++ rest with
  | nil =>
      have length := congrArg List.length written
      simp [length_padded_two (by omega : minutes < 100)] at length
  | cons c others =>
      rw [written] at starts minutesRead
      have noMark := isOffsetMark_eq_false_of_isDigit (goesOnWith_cons.1 starts)
      have colon : isOffsetMark ':' = true := by decide
      simp [readOffsetSize?, readDigits?_padded hoursFit, colon, noMark, minutesRead, minutesFit]

/-- An offset in whole minutes is read back. -/
theorem readOffset?_display {offset : Offset} (wholeMinutes : offset.seconds % 60 = 0)
    (rest : List Char) :
    readOffset? false (offset.display ++ rest) = some (offset.seconds, rest) := by
  have lessThanDay := offset.lessThanDay
  rw [secondsPerDay] at lessThanDay
  have noSeconds : offset.seconds.natAbs % 60 = 0 := by omega
  have text : offset.display ++ rest =
      signMark offset.seconds :: (padded 2 (offset.seconds.natAbs / 3600) ++
        ':' :: (padded 2 (offset.seconds.natAbs / 60 % 60) ++ rest)) := by
    simp [Offset.display_eq, noSeconds, secondsDigits]
  have size := readOffsetSize?_padded (by omega : offset.seconds.natAbs / 3600 < 100)
    (by omega : offset.seconds.natAbs / 60 % 60 < 60) false rest
  have together : offset.seconds.natAbs / 3600 * 3600 + offset.seconds.natAbs / 60 % 60 * 60 =
      offset.seconds.natAbs := by
    omega
  rw [together] at size
  rw [text, signMark]
  split
  next negative =>
    have value : -(offset.seconds.natAbs : Int) = offset.seconds := by omega
    simp only [readOffset?, size, Option.map_some, value]
  next positive =>
    have value : (offset.seconds.natAbs : Int) = offset.seconds := by omega
    simp only [readOffset?, size, Option.map_some, value]

/-- An offset is not written with blanks in front. -/
theorem trimStart_display (offset : Offset) (rest : List Char) :
    trimStart (offset.display ++ rest) = offset.display ++ rest := by
  apply trimStart_eq_self
  rw [Offset.display_eq, List.cons_append, startsBlank, signMark]
  split <;> decide

/-! ## Times with offsets -/

/-- The items of a pattern go on from what the first of them has read. -/
theorem readItems?_cons_of_read? {item : Item} {items : List Item} {fields known : Fields}
    {text rest : List Char} (read : item.read? fields text = some (known, rest)) :
    readItems? (item :: items) fields text = readItems? items known rest := by
  simp [readItems?, read]

/-- A value between its bounds is taken as it is. -/
theorem between?_eq_some {least greatest value : Nat} (above : least ≤ value)
    (below : value ≤ greatest) : between? least greatest value = some value := by
  simp [between?, above, below]

/-- A time with an offset is not written with blanks in front. -/
theorem startsBlank_display (value : OffsetTime) (rest : List Char) :
    startsBlank (value.display ++ rest) = false := by
  simp only [OffsetTime.display, Time.display, List.append_assoc]
  exact startsBlank_padded 2 _ _

/-- A time with an offset that can be written without fractions and without seconds of the offset: it
is given in whole seconds, none of them a leap second, with an offset in whole minutes. -/
def OffsetTime.IsWhole (value : OffsetTime) : Prop :=
  value.time.nanosecond = 0 ∧ value.offset.seconds % 60 = 0

instance (value : OffsetTime) : Decidable value.IsWhole :=
  inferInstanceAs (Decidable (_ ∧ _))

/-- What is known of a time with an offset after it was read. -/
def Fields.ofOffsetTime (value : OffsetTime) : Fields where
  halfDay := some (value.time.hour / 12)
  hourOfHalf := some (value.time.hour % 12)
  minute := some value.time.minute
  second := some value.time.second
  offset := some value.offset.seconds

/-- What is written of a time with an offset is read part by part, each into its field. -/
theorem readItems?_display {value : OffsetTime} (whole : value.IsWhole) (rest : List Char) :
    readItems? (patternItems "%H:%M:%S%:z") {} (value.display ++ rest) =
      some (.ofOffsetTime value, rest) := by
  obtain ⟨noFraction, wholeMinutes⟩ := whole
  obtain ⟨hour, minute, second, -⟩ := value.time.isTime
  have items : patternItems "%H:%M:%S%:z" =
      [.number .hour, .literal ':', .number .minute, .literal ':', .number .second,
        .offset false] := by
    decide
  have text : value.display ++ rest =
      padded 2 value.time.hour ++ ':' :: (padded 2 value.time.minute ++
        ':' :: (padded 2 value.time.second ++ (value.offset.display ++ rest))) := by
    simp [OffsetTime.display, Time.display, noFraction, Time.fractionDigits]
  let atHour : Fields :=
    { halfDay := some (value.time.hour / 12), hourOfHalf := some (value.time.hour % 12) }
  let atMinute : Fields := { atHour with minute := some value.time.minute }
  let atSecond : Fields := { atMinute with second := some value.time.second }
  have setHour : Fields.setNumber? .hour value.time.hour {} = some atHour := by
    simp [Fields.setNumber?, Fields.setHour?, between?_eq_some (Nat.zero_le _)
      (by omega : value.time.hour ≤ 23), agree?, atHour]
  have setMinute : atHour.setNumber? .minute value.time.minute = some atMinute := by
    simp [Fields.setNumber?, between?_eq_some (Nat.zero_le _)
      (by omega : value.time.minute ≤ 59), agree?, atHour, atMinute]
  have setSecond : atMinute.setNumber? .second value.time.second = some atSecond := by
    simp [Fields.setNumber?, between?_eq_some (Nat.zero_le _)
      (by omega : value.time.second ≤ 60), agree?, atHour, atMinute, atSecond]
  have setOffset : atSecond.setOffset? value.offset.seconds = some (.ofOffsetTime value) := by
    simp [Fields.setOffset?, agree?, atHour, atMinute, atSecond, Fields.ofOffsetTime]
  have offsetRead : (Item.offset false).read? atSecond (value.offset.display ++ rest) =
      some (.ofOffsetTime value, rest) := by
    simp [Item.read?, trimStart_display, readOffset?_display wholeMinutes, setOffset]
  rw [items, text,
    readItems?_cons_of_read? (Item.read?_number_padded (by omega) _ rfl setHour),
    readItems?_cons_of_read? (Item.read?_literal ':' _ _),
    readItems?_cons_of_read? (Item.read?_number_padded (by omega) _ rfl setMinute),
    readItems?_cons_of_read? (Item.read?_literal ':' _ _),
    readItems?_cons_of_read? (Item.read?_number_padded (by omega) _ rfl setSecond),
    readItems?_cons_of_read? offsetRead, readItems?]

theorem Time.ofParts?_self {time : Time} (leap : time.LeapEndsMinute) :
    Time.ofParts? time.hour time.minute time.second time.nanosecond = some time :=
  dif_pos ⟨time.isTime, leap⟩

theorem Offset.ofSeconds?_self (offset : Offset) : Offset.ofSeconds? offset.seconds = some offset :=
  dif_pos offset.lessThanDay

/-- A time with an offset is resolved from what is known after it was read. -/
theorem toOffsetTime_ofOffsetTime {value : OffsetTime} (whole : value.IsWhole) :
    (Fields.ofOffsetTime value).toOffsetTime = .ok value := by
  have hourAgain : value.time.hour / 12 * 12 + value.time.hour % 12 = value.time.hour :=
    Nat.div_add_mod' value.time.hour 12
  have noLeap : value.time.second ≠ 60 := Nat.ne_of_lt value.time.isTime.2.2.1
  have wholeSecond : value.time.LeapEndsMinute := .inl (whole.1 ▸ by decide)
  have sameTime := Time.ofParts?_self wholeSecond
  rw [whole.1] at sameTime
  have time : (Fields.ofOffsetTime value).toTime = .ok value.time := by
    simp [Fields.toTime, Fields.ofOffsetTime, orFault, bind, Except.bind, hourAgain, noLeap,
      sameTime]
  have offset : (Fields.ofOffsetTime value).toOffset = .ok value.offset := by
    simp [Fields.toOffset, Fields.ofOffsetTime, orFault, bind, Except.bind,
      value.offset.ofSeconds?_self]
  simp [Fields.toOffsetTime, time, offset, bind, Except.bind]

end TextGrammar.Calendar
