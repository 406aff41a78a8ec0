import TextGrammar.Calendar.Fields
import TextGrammar.Text.Word
import TextGrammar.Text.Digit

/-!
# Reading a text by a pattern

The items of a pattern read a text from its start, one by one. Each takes what it can of the text,
adds what it has learned to the fields and leaves the rest to the next; if one of them does not match
or contradicts the fields, the text does not match the pattern.

So the calendar package reads a text: `readItems?` stands for `parse_and_remainder`, `Item.read?` for
what that does with one item, and the others for the scanners of numbers, names and offsets that it uses.
What is proved of lists of meetings takes from them how two digits, a colon and an offset are read.
Nothing else that is proved depends on them: what is left of a text is not even assumed to be its end.
-/

namespace TextGrammar.Calendar

open Text

/-- What is known after a part of a text is read, and the text that is left. -/
abbrev Progress := Fields × List Char

/-- The greatest number that a text of digits may denote. -/
def greatestNumber : Nat := 9223372036854775807

/-- The number at the start of a text, of at most so many digits, and the text after it (`number`). -/
def readNumber? (width : Option Nat) (text : List Char) : Option (Nat × List Char) :=
  let window := match width with
    | some digits => text.take digits
    | none => text
  let digits := window.takeWhile isDigit
  let value := decimalValue digits
  if digits = [] ∨ greatestNumber < value then none
  else some (value, text.drop digits.length)

/-- The number at the start of a text that has just so many digits, and the text after it. -/
def readDigits? (count : Nat) (text : List Char) : Option (Nat × List Char) :=
  let digits := text.take count
  if digits.length = count ∧ digits.all isDigit then
    some (decimalValue digits, text.drop count)
  else none

/-- A number at the start of a text that may have a sign, and then any number of digits. -/
def readSigned? (width : Nat) (text : List Char) : Option (Int × List Char) :=
  match text with
  | '-' :: rest => (readNumber? none rest).map fun (value, rest) => (-value, rest)
  | '+' :: rest => (readNumber? none rest).map fun (value, rest) => (value, rest)
  | _ => (readNumber? (some width) text).map fun (value, rest) => (value, rest)

/-- The place in a list of names of the one whose first three letters start the text, and the text
after them, or after the whole name if the name may be whole and is (`short_or_long_month0`,
`short_or_long_weekday`). -/
def readName? (names : List String) (whole : Bool) (text : List Char) :
    Option (Nat × List Char) :=
  names.zipIdx.findSome? fun (name, place) => do
    let rest ← dropIgnoringCase? (name.toList.take 3) text
    let ending := if whole then dropIgnoringCase? (name.toList.drop 3) rest else none
    some (place, ending.getD rest)

/-- The names of the months. -/
def monthNames : List String :=
  ["january", "february", "march", "april", "may", "june", "july", "august", "september",
    "october", "november", "december"]

/-- The names of the weekdays from Monday. -/
def weekdayNames : List String :=
  ["monday", "tuesday", "wednesday", "thursday", "friday", "saturday", "sunday"]

/-- How many digits a number has at most, if it has no sign. Years and timestamps apart, this is the
number of digits of the greatest value. -/
def NumberField.width : NumberField → Option Nat
  | .timestamp => none
  | .year | .isoYear => some 4
  | .ordinal => some 3
  | .nanosecond => some 9
  | .quarter | .weekdayFromSunday | .weekdayFromMonday => some 1
  | _ => some 2

/-- A part that is written as a number, with blanks before it. Only years may have a sign. -/
def NumberField.read? (field : NumberField) (text : List Char) : Option (Int × List Char) :=
  match field with
  | .year | .isoYear => readSigned? 4 (trimStart text)
  | _ => (readNumber? field.width (trimStart text)).map fun (value, rest) => (value, rest)

/-- A fraction of a second of any number of digits, of which those after the ninth do not count
(`nanosecond`). -/
def readFraction? (text : List Char) : Option (Nat × List Char) :=
  let digits := text.takeWhile isDigit
  let counted := digits.take 9
  if digits = [] then none
  else some (decimalValue counted * powerOfTen (9 - counted.length), text.drop digits.length)

/-- A fraction of a second of just so many digits (`nanosecond_fixed`). -/
def readFractionOf? (count : Nat) (text : List Char) : Option (Nat × List Char) :=
  (readDigits? count text).map fun (value, rest) => (value * powerOfTen (9 - count), rest)

/-- Whether a character may stand between the hours and the minutes of an offset. -/
def isOffsetMark (c : Char) : Bool :=
  c = ':' || isBlank c

/-- The hours and minutes of an offset, in seconds. If they may be missing, the minutes are zero at
the end of the text. -/
def readOffsetSize? (minutesOptional : Bool) (text : List Char) : Option (Nat × List Char) := do
  let (hours, rest) ← readDigits? 2 text
  match rest.dropWhile isOffsetMark with
  | [] => if minutesOptional then some (hours * 3600, []) else none
  | rest =>
      let (minutes, rest) ← readDigits? 2 rest
      if minutes < 60 then some (hours * 3600 + minutes * 60, rest) else none

/-- An offset with a sign, in seconds (`timezone_offset`). The sign may be a hyphen or a minus sign. -/
def readOffset? (minutesOptional : Bool) (text : List Char) : Option (Int × List Char) :=
  match text with
  | '+' :: rest => (readOffsetSize? minutesOptional rest).map fun (size, rest) => (size, rest)
  | '-' :: rest | '\u2212' :: rest =>
      (readOffsetSize? minutesOptional rest).map fun (size, rest) => (-size, rest)
  | _ => none

/-- The letter Z or an offset with a sign, in seconds. -/
def readOffsetOrZ? (minutesOptional : Bool) (text : List Char) : Option (Int × List Char) :=
  match text with
  | 'Z' :: rest | 'z' :: rest => some (0, rest)
  | _ => readOffset? minutesOptional text

/-- The word UTC, the letter Z or an offset with a sign, in seconds. -/
def readOffsetOrUtc? (text : List Char) : Option (Int × List Char) :=
  match dropIgnoringCase? "utc".toList text with
  | some rest => some (0, rest)
  | none => readOffsetOrZ? false text

/-- The half of the day, zero for the first. -/
def readHalfDay? (text : List Char) : Option (Nat × List Char) :=
  match dropIgnoringCase? "am".toList text, dropIgnoringCase? "pm".toList text with
  | some rest, _ => some (0, rest)
  | none, some rest => some (1, rest)
  | none, none => none

/-- What is known after an item is read at the start of a text, and the text that is left. -/
def Item.read? (item : Item) (fields : Fields) (text : List Char) : Option Progress :=
  match item with
  | .literal c =>
      match text with
      | [] => none
      | head :: rest => if head = c then some (fields, rest) else none
  | .blank => some (fields, trimStart text)
  | .number field => do
      let (value, rest) ← field.read? text
      some (← fields.setNumber? field value, rest)
  | .monthName whole => do
      let (index, rest) ← readName? monthNames whole text
      some (← fields.setNumber? .month (index + 1), rest)
  | .weekdayName whole => do
      let (index, rest) ← readName? weekdayNames whole text
      some (← fields.setWeekday? index, rest)
  | .halfDay => do
      let (half, rest) ← readHalfDay? text
      some (← fields.setHalfDay? half, rest)
  | .fraction =>
      match text with
      | '.' :: rest => do
          let (value, rest) ← readFraction? rest
          some (← fields.setNanosecond? value, rest)
      | _ => some (fields, text)
  | .pointedFraction digits =>
      match text with
      | '.' :: rest => do
          let (value, rest) ← readFractionOf? digits rest
          some (← fields.setNanosecond? value, rest)
      | _ => some (fields, text)
  | .bareFraction digits => do
      let (value, rest) ← readFractionOf? digits text
      some (← fields.setNanosecond? value, rest)
  | .offset lenient => do
      let text := trimStart text
      let (seconds, rest) ← if lenient then readOffsetOrZ? true text else readOffset? false text
      some (← fields.setOffset? seconds, rest)
  | .zoneName => some (fields, text.dropWhile fun c => !isBlank c)
  | .dateTimeMark =>
      match text with
      | 'T' :: rest | 't' :: rest | ' ' :: rest => some (fields, rest)
      | _ => none
  | .offsetOrUtc => do
      let (seconds, rest) ← readOffsetOrUtc? text
      some (← fields.setOffset? seconds, rest)
  | .invalid => none

/-- What is known after the items of a pattern are read, and the text that is left
(`parse_and_remainder`). -/
def readItems? : List Item → Fields → List Char → Option Progress
  | [], fields, text => some (fields, text)
  | item :: items, fields, text => do
      let (fields, rest) ← item.read? fields text
      readItems? items fields rest

end TextGrammar.Calendar
