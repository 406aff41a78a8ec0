/-!
# Conventions

What depends on the place and the language of a text: how dates and times are written there, and
which characters numbers use. Readers are given these conventions and only ever ask them.
-/

namespace TextGrammar

/-- How dates and times are written. -/
structure DateTimeConventions where
  /-- The name of the place and language. -/
  locale : String
  /-- The year of a date that does not name one. -/
  defaultYear : Int
  /-- The pattern of a short date. -/
  shortDatePattern : String
  /-- The pattern of a time. -/
  timePattern : String
  deriving DecidableEq, Repr

namespace DateTimeConventions

/-- English dates: the day, then the month, and a clock of 24 hours. -/
def english (defaultYear : Int) : DateTimeConventions where
  locale := "en"
  defaultYear := defaultYear
  shortDatePattern := "%d/%m/%Y"
  timePattern := "%H:%M:%S"

/-- American dates: the month, then the day, and a clock of twelve hours. -/
def american (defaultYear : Int) : DateTimeConventions where
  locale := "en-US"
  defaultYear := defaultYear
  shortDatePattern := "%m/%d/%Y"
  timePattern := "%I:%M:%S %p"

end DateTimeConventions

/-- How numbers are written. -/
structure NumberConventions where
  decimalSeparator : Char
  exponentSymbol : String
  negativeSign : Char
  positiveSign : Char
  deriving DecidableEq, Repr

namespace NumberConventions

/-- American numbers, with a point before the fraction. -/
def american : NumberConventions where
  decimalSeparator := '.'
  exponentSymbol := "E"
  negativeSign := '-'
  positiveSign := '+'

/-- German numbers, with a comma before the fraction. -/
def german : NumberConventions :=
  { american with decimalSeparator := ',' }

end NumberConventions

/-- All conventions that readers may ask for. -/
structure Conventions where
  dateTime : DateTimeConventions
  number : NumberConventions
  deriving DecidableEq, Repr

namespace Conventions

/-- English dates and American numbers. -/
def english (defaultYear : Int) : Conventions :=
  ⟨.english defaultYear, .american⟩

/-! Readers ask all conventions alike, whether they need those of dates or those of numbers. Each question
is handed on to the ones that answer it. -/

def locale (conventions : Conventions) : String :=
  conventions.dateTime.locale

def defaultYear (conventions : Conventions) : Int :=
  conventions.dateTime.defaultYear

def shortDatePattern (conventions : Conventions) : String :=
  conventions.dateTime.shortDatePattern

def timePattern (conventions : Conventions) : String :=
  conventions.dateTime.timePattern

def decimalSeparator (conventions : Conventions) : Char :=
  conventions.number.decimalSeparator

def exponentSymbol (conventions : Conventions) : String :=
  conventions.number.exponentSymbol

def negativeSign (conventions : Conventions) : Char :=
  conventions.number.negativeSign

def positiveSign (conventions : Conventions) : Char :=
  conventions.number.positiveSign

/-- What readers of dates and times learn by asking. -/
def forDates (conventions : Conventions) : DateTimeConventions where
  locale := conventions.locale
  defaultYear := conventions.defaultYear
  shortDatePattern := conventions.shortDatePattern
  timePattern := conventions.timePattern

/-- What readers of numbers learn by asking. -/
def forNumbers (conventions : Conventions) : NumberConventions where
  decimalSeparator := conventions.decimalSeparator
  exponentSymbol := conventions.exponentSymbol
  negativeSign := conventions.negativeSign
  positiveSign := conventions.positiveSign

/-- No question about dates is handed on wrongly. -/
@[simp] theorem forDates_eq (conventions : Conventions) :
    conventions.forDates = conventions.dateTime := rfl

/-- No question about numbers is handed on wrongly. -/
@[simp] theorem forNumbers_eq (conventions : Conventions) :
    conventions.forNumbers = conventions.number := rfl

end Conventions

end TextGrammar
