import TextGrammar.Calendar.Reading
import TextGrammar.Calendar.Resolution
import TextGrammar.Conventions
import TextGrammar.Decimal
import TextGrammar.Token.Basic

/-!
# Formats

A format is a way of writing values of some type. It has a label for messages, and it reads a value
from the start of a text under given conventions, handing back the value and the text after it.
Nothing is assumed of that text: what part of a text a format has used is found by comparison.
-/

namespace TextGrammar

open Text Calendar

/-- A way of writing values. -/
structure Format (Value : Type) where
  label : String
  /-- The value at the start of a text, and the text after it. -/
  read? : Conventions → List Char → Option (Value × List Char)

/-- A format for the images of values. -/
def Format.map {Value Image : Type} (image : Value → Image) (format : Format Value) :
    Format Image where
  label := format.label
  read? conventions text :=
    (format.read? conventions text).map fun (value, rest) => (image value, rest)

/-! ## Formats of numbers

Decimals under the number conventions of the place, and a format that always finds the same integer. -/

/-- The format of decimals. -/
def Format.decimal : Format LeafValue where
  label := "decimal"
  read? conventions text :=
    (Decimal.read? conventions.forNumbers text).map fun (value, rest) => (.decimal value, rest)

/-- A format that does not look at the text: it always gives the same answer. -/
def Format.constant {Value : Type} (label : String) (answer : Option (Value × List Char)) :
    Format Value where
  label := label
  read? _ _ := answer

/-! ## Formats of dates and times

Dates and times are written by a pattern, a fixed one or one of the place. If the fields that are
read do not resolve, they are tried once more with the default year of the place. White space at the
start of a text is read only if the pattern begins with white space, although numbers may have blanks
before them anywhere else. -/

/-- The kinds of values that dates and times are read to. -/
inductive DateTimeKind where
  | localDate
  | localTime
  | localDateTime
  | offsetTime
  | offsetDateTime
  deriving DecidableEq, Repr

/-- The value of some kind that fields determine. -/
def DateTimeKind.value? (fields : Fields) : DateTimeKind → Option LeafValue
  | .localDate => fields.toDate.toOption.map .localDate
  | .localTime => fields.toTime.toOption.map .localTime
  | .localDateTime => (fields.toLocalDateTime 0).toOption.map .localDateTime
  | .offsetTime => fields.toOffsetTime.toOption.map .offsetTime
  | .offsetDateTime => fields.toOffsetDateTime.toOption.map .offsetDateTime

/-- The pattern by which dates and times are written. -/
inductive PatternChoice where
  | fixed (pattern : String)
  | shortDate
  | time
  | shortDateTime
  deriving DecidableEq, Repr

namespace PatternChoice

/-- The pattern that is chosen under given conventions. -/
def resolve (conventions : DateTimeConventions) : PatternChoice → String
  | .fixed pattern => pattern
  | .shortDate => conventions.shortDatePattern
  | .time => conventions.timePattern
  | .shortDateTime => conventions.shortDatePattern ++ " " ++ conventions.timePattern

/-- The choice as messages name it. -/
def label : PatternChoice → String
  | .fixed pattern => pattern
  | .shortDate => "short date"
  | .time => "time"
  | .shortDateTime => "short date time"

/-- The choice as diagnostics show it. -/
def describe (choice : PatternChoice) : String :=
  let shown := match choice with
    | .fixed pattern => "Fixed(" ++ quoteText pattern ++ ")"
    | .shortDate => "ShortDate"
    | .time => "Time"
    | .shortDateTime => "ShortDateTime"
  "DateTimeFormatter(" ++ shown ++ ")"

end PatternChoice

/-- The value that fields determine, if necessary with a default year. -/
def DateTimeKind.valueInYear? (defaultYear : Int) (fields : Fields) (kind : DateTimeKind) :
    Option LeafValue :=
  match kind.value? fields with
  | some value => some value
  | none => do kind.value? (← fields.setYear? defaultYear)

/-- The value that is written by a pattern at the start of a text, and the text after it. -/
def DateTimeKind.readPattern? (defaultYear : Int) (pattern : String) (text : List Char)
    (kind : DateTimeKind) : Option (LeafValue × List Char) := do
  let (fields, rest) ← readItems? (patternItems pattern) {} text
  some (← kind.valueInYear? defaultYear fields, rest)

/-- The format of a kind of dates and times under a choice of patterns. -/
def Format.dateTime (kind : DateTimeKind) (choice : PatternChoice) : Format LeafValue where
  label := choice.label
  read? conventions text :=
    let pattern := choice.resolve conventions.forDates
    if startsBlank text && !startsBlank pattern.toList then none
    else kind.readPattern? conventions.defaultYear pattern text

end TextGrammar
