import TextGrammar.Text.Digit

/-!
# Integers

Integers are written in a radix, with or without a sign, and are read only as far as they stay in a
range.
-/

namespace TextGrammar

open Text

/-! ## Radices

A positional notation has from two digits to as many as there are digits and letters. -/

/-- The number of digits of a positional notation. -/
structure Radix where
  value : Nat
  two_le : 2 ≤ value
  le_thirtySix : value ≤ 36
  deriving DecidableEq, Repr

/-- A number that is no radix. -/
structure RadixError where
  value : Nat
  deriving DecidableEq, Repr

/-- The message for people. -/
def RadixError.message (error : RadixError) : String :=
  "radix must be between 2 and 36, got " ++ toString error.value

namespace Radix

/-- A number as a radix. -/
def ofNat (value : Nat) : Except RadixError Radix :=
  if bounds : 2 ≤ value ∧ value ≤ 36 then .ok ⟨value, bounds.1, bounds.2⟩ else .error ⟨value⟩

/-- The radix of decimal notation. -/
def ten : Radix := ⟨10, by decide, by decide⟩

end Radix

/-! ## Ranges of integers

Integers are read digit by digit, most significant first, and only as long as they stay in a range.
Since each digit takes a number further from zero, a number is in range if and only if all numbers
on the way to it are. -/

/-- The integers from one to another. -/
structure IntRange where
  least : Int
  greatest : Int
  deriving DecidableEq, Repr

namespace IntRange

/-- The integers with a sign that have a given number of bits. -/
def signed (bits : Nat) : IntRange :=
  let half : Int := Nat.pow 2 (bits - 1)
  ⟨-half, half - 1⟩

/-- Whether an integer is in a range. -/
def contains (range : IntRange) (value : Int) : Bool :=
  range.least ≤ value && value ≤ range.greatest

/-- An integer, if it is in a range. -/
def checked? (range : IntRange) (value : Int) : Option Int :=
  if range.contains value then some value else none

/-- An integer with one more digit, further from zero in the direction of its sign. It has to be in
the range, and so has the product that the digit is added to. -/
def withDigit? (range : IntRange) (radix : Nat) (negative : Bool) (value : Int) (digit : Nat) :
    Option Int :=
  (range.checked? (value * radix)).bind fun product =>
    range.checked? (if negative then product - digit else product + digit)

/-- An integer with more digits, or the number of digits before the first that leaves the range. -/
def appendDigits (range : IntRange) (radix : Nat) (negative : Bool) :
    Int → List Nat → Except Nat Int
  | value, [] => .ok value
  | value, digit :: digits =>
      match range.withDigit? radix negative value digit with
      | some next => (range.appendDigits radix negative next digits).mapError (· + 1)
      | none => .error 0

end IntRange

/-! ## Integers from text

The integer that a whole text writes: perhaps a sign, and then digits of a given radix. The faults
of a text are looked for from left to right, so a number that is too large before it is malformed is
reported as too large. -/

/-- Why a text does not write an integer in a range. -/
inductive NumeralFault where
  | empty
  | invalidDigit
  | tooLarge
  | tooSmall
  deriving DecidableEq, Repr

/-- The message for people. -/
def NumeralFault.message : NumeralFault → String
  | .empty => "cannot parse integer from empty string"
  | .invalidDigit => "invalid digit found in string"
  | .tooLarge => "number too large to fit in target type"
  | .tooSmall => "number too small to fit in target type"

/-- Whether a number starts with a minus sign, and the text after its sign if it has one. -/
def dropNumeralSign : List Char → Bool × List Char
  | '-' :: rest => (true, rest)
  | '+' :: rest => (false, rest)
  | text => (false, text)

/-- The integer that a text writes in a given radix. -/
def IntRange.ofNumeral (range : IntRange) (radix : Nat) (text : List Char) :
    Except NumeralFault Int :=
  if text = [] then .error .empty else
  let (negative, unsigned) := dropNumeralSign text
  if unsigned = [] then .error .invalidDigit else
  let digits := unsigned.takeWhile (isDigitOf radix)
  match range.appendDigits radix negative 0 (digitValues radix digits) with
  | .error _ => .error (if negative then .tooSmall else .tooLarge)
  | .ok value => if digits = unsigned then .ok value else .error .invalidDigit

end TextGrammar
