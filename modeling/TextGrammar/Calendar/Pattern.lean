import TextGrammar.Text.Property

/-!
# Date and time patterns

A pattern describes how a date or time is written: blanks stand for any amount of white space, a
percent sign begins a specifier for a part of the date or time, and all other characters stand for
themselves. A pattern is read into a list of items, the instructions for reading a text. A specifier
that does not exist becomes an item that nothing matches, so a text fails only when it gets there.

These are the patterns of the calendar package: `patternItems` stands for `StrftimeItems`, and
`specifier` for its table of specifiers. What is proved of blanks before a date or time takes from them
which patterns begin with an item of white space. What is proved of lists of meetings takes from them the
items of one pattern.
-/

namespace TextGrammar.Calendar

open Text

/-- The parts of a date or time that are written as numbers. -/
inductive NumberField where
  | year
  | century
  | yearOfCentury
  | isoYear
  | isoYearOfCentury
  | quarter
  | month
  | day
  | ordinal
  | weekFromSunday
  | weekFromMonday
  | isoWeek
  | weekdayFromSunday
  | weekdayFromMonday
  | hour
  | hourOfHalf
  | minute
  | second
  | nanosecond
  | timestamp
  deriving DecidableEq, Repr

/-- What a pattern asks of a text (`Item`). -/
inductive Item where
  /-- This very character. -/
  | literal (c : Char)
  /-- Any amount of white space. -/
  | blank
  /-- A part written as a number. -/
  | number (field : NumberField)
  /-- A month by its first three letters, and the rest of its name if the name may be whole. -/
  | monthName (whole : Bool)
  /-- A weekday by its first three letters, and the rest of its name if the name may be whole. -/
  | weekdayName (whole : Bool)
  /-- The half of the day, am or pm. -/
  | halfDay
  /-- A point and a fraction of a second, or nothing. -/
  | fraction
  /-- A point and a fraction of a second of so many digits, or nothing. -/
  | pointedFraction (digits : Nat)
  /-- A fraction of a second of so many digits. -/
  | bareFraction (digits : Nat)
  /-- An offset from UTC. A lenient one may be the letter Z or lack its minutes. -/
  | offset (lenient : Bool)
  /-- The name of a time zone, which is passed over. -/
  | zoneName
  /-- The mark between a date and a time: the letter T or a space. -/
  | dateTimeMark
  /-- The word UTC, the letter Z, or an offset from UTC. -/
  | offsetOrUtc
  /-- What nothing matches. -/
  | invalid
  deriving DecidableEq, Repr

/-- The number that a specifier letter stands for. -/
def numberField? : Char → Option NumberField
  | 'Y' => some .year
  | 'C' => some .century
  | 'y' => some .yearOfCentury
  | 'G' => some .isoYear
  | 'g' => some .isoYearOfCentury
  | 'q' => some .quarter
  | 'm' => some .month
  | 'd' | 'e' => some .day
  | 'j' => some .ordinal
  | 'U' => some .weekFromSunday
  | 'W' => some .weekFromMonday
  | 'V' => some .isoWeek
  | 'w' => some .weekdayFromSunday
  | 'u' => some .weekdayFromMonday
  | 'H' | 'k' => some .hour
  | 'I' | 'l' => some .hourOfHalf
  | 'M' => some .minute
  | 'S' => some .second
  | 'f' => some .nanosecond
  | 's' => some .timestamp
  | _ => none

/-- Three numbers with a mark between them. -/
def threeNumbers (mark : Char) (left middle right : NumberField) : List Item :=
  [.number left, .literal mark, .number middle, .literal mark, .number right]

/-- A time of day on a clock of 24 hours. -/
def clockItems : List Item := threeNumbers ':' .hour .minute .second

/-- A date and time with an offset, all in one, with room for blanks between its parts. -/
def wholeMomentItems : List Item :=
  [.number .year, .blank, .literal '-', .number .month, .blank, .literal '-', .number .day,
    .dateTimeMark, .number .hour, .blank, .literal ':', .number .minute, .blank, .literal ':',
    .number .second, .fraction, .blank, .offsetOrUtc]

/-- The items of a specifier that is one letter. -/
def letterItems (letter : Char) : List Item :=
  match numberField? letter with
  | some field => [.number field]
  | none =>
      match letter with
      | 'D' | 'x' => threeNumbers '/' .month .day .yearOfCentury
      | 'F' => threeNumbers '-' .year .month .day
      | 'v' => [.number .day, .literal '-', .monthName false, .literal '-', .number .year]
      | 'R' => [.number .hour, .literal ':', .number .minute]
      | 'T' | 'X' => clockItems
      | 'r' => threeNumbers ':' .hourOfHalf .minute .second ++ [.blank, .halfDay]
      | 'c' => [.weekdayName false, .blank, .monthName false, .blank, .number .day, .blank] ++
          clockItems ++ [.blank, .number .year]
      | '+' => wholeMomentItems
      | 'b' | 'h' => [.monthName false]
      | 'B' => [.monthName true]
      | 'a' => [.weekdayName false]
      | 'A' => [.weekdayName true]
      | 'p' | 'P' => [.halfDay]
      | 'z' => [.offset false]
      | 'Z' => [.zoneName]
      | 't' | 'n' => [.blank]
      | '%' => [.literal '%']
      | _ => [.invalid]

/-- The items of the specifier after a percent sign, and the number of its characters. A filling
mark may stand before the letter of a single number and changes nothing. -/
def specifier : List Char → List Item × Nat
  | '#' :: 'z' :: _ => ([.offset true], 2)
  | '.' :: 'f' :: _ => ([.fraction], 2)
  | '.' :: '3' :: 'f' :: _ => ([.pointedFraction 3], 3)
  | '.' :: '6' :: 'f' :: _ => ([.pointedFraction 6], 3)
  | '.' :: '9' :: 'f' :: _ => ([.pointedFraction 9], 3)
  | '3' :: 'f' :: _ => ([.bareFraction 3], 2)
  | '6' :: 'f' :: _ => ([.bareFraction 6], 2)
  | '9' :: 'f' :: _ => ([.bareFraction 9], 2)
  | ':' :: 'z' :: _ => ([.offset false], 2)
  | ':' :: ':' :: 'z' :: _ => ([.offset false], 3)
  | ':' :: ':' :: ':' :: 'z' :: _ => ([.offset false], 4)
  | letter :: rest =>
      if letter = '-' ∨ letter = '0' ∨ letter = '_' then
        match rest.head?.bind numberField? with
        | some field => ([.number field], 2)
        | none => ([.invalid], 1)
      else (letterItems letter, 1)
  | [] => ([.invalid], 0)

/-- The items of a pattern from which the given number of characters, already read as part of a
specifier, are still to be dropped. -/
def itemsAfter : Nat → List Char → List Item
  | _, [] => []
  | dropped + 1, _ :: rest => itemsAfter dropped rest
  | 0, c :: rest =>
      if c = '%' then
        let (items, length) := specifier rest
        items ++ itemsAfter length rest
      else if isBlank c then .blank :: itemsAfter 0 rest
      else .literal c :: itemsAfter 0 rest

/-- The items of a pattern (`StrftimeItems`). -/
def patternItems (pattern : String) : List Item :=
  itemsAfter 0 pattern.toList

end TextGrammar.Calendar
