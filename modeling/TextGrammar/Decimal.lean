import TextGrammar.Conventions
import TextGrammar.Integer
import TextGrammar.Text.Digit
import TextGrammar.Text.Word

/-!
# Decimals

A decimal is a sign, a whole number of at most 96 bits and a scale of at most 28, the number of its digits
after the point. The scale is part of the value as it is written, but not of the number: 1.0 and 1.00 are
the same number. So is the sign of a zero.

A decimal is made from digits before and after a point, and multiplied with a power of ten. Digits after
the point that do not fit are rounded off, a half away from zero; digits before it must all fit.

These are the values of the decimal package that the program takes its decimals from. `Decimal` has all
its values, also those that no text is read as, such as a negative zero. Each definition up to the reading
of decimals names the function of the package that it stands for. What is proved of reading rests on two
of them: `ofDigits?` and `timesPowerOfTen?` say which digits and exponents make a decimal, and which one.
-/

namespace TextGrammar

open Text

/-- The least number that is too large for a decimal without its point, the first of more than 96
bits. -/
def coefficientLimit : Nat := 79228162514264337593543950336

/-- The greatest scale. -/
def greatestScale : Nat := 28

/-- A number with a fixed number of digits after the point. -/
structure Decimal where
  isNegative : Bool
  /-- The number without its sign and point. -/
  size : Nat
  scale : Nat
  size_lt : size < coefficientLimit
  scale_le : scale ≤ greatestScale
  deriving DecidableEq, Repr

namespace Decimal

/-- The number without its point (`mantissa`). -/
def coefficient (decimal : Decimal) : Int :=
  if decimal.isNegative then -(decimal.size : Int) else decimal.size

/-- The decimal with a given coefficient and scale, if they are in range (`try_from_i128_with_scale`).
Zero has no sign. -/
def ofParts? (coefficient : Int) (scale : Nat) : Option Decimal :=
  if inRange : coefficient.natAbs < coefficientLimit ∧ scale ≤ greatestScale then
    some ⟨coefficient < 0, coefficient.natAbs, scale, inRange.1, inRange.2⟩
  else none

/-- The decimal with the same digits and another scale, if it is in range (`set_scale`). -/
def withScale? (scale : Nat) (decimal : Decimal) : Option Decimal :=
  if inRange : scale ≤ greatestScale then some { decimal with scale, scale_le := inRange } else none

/-- Whether two decimals are the same number (`eq`). -/
def sameNumber (left right : Decimal) : Bool :=
  left.coefficient * powerOfTen right.scale == right.coefficient * powerOfTen left.scale

/-- The decimal as it is written, for people and in full, with just as many digits after the point as its
scale says and at least one before it. -/
def display (decimal : Decimal) : List Char :=
  let digits := padded (decimal.scale + 1) decimal.size
  let whole := digits.take (digits.length - decimal.scale)
  let fraction := digits.drop (digits.length - decimal.scale)
  let sign := if decimal.isNegative then ['-'] else []
  sign ++ whole ++ if decimal.scale = 0 then [] else '.' :: fraction

/-- The coefficient and scale if the next digit after the point does not fit: a digit of five or more
adds one, and if that does not fit either, the last digit is dropped as well. -/
def roundOff? (coefficient scale digit : Nat) : Option (Nat × Nat) :=
  if digit < 5 then some (coefficient, scale)
  else if coefficient + 1 < coefficientLimit then some (coefficient + 1, scale)
  else if scale = 0 then none
  else some ((coefficient + 1 + 4) / 10, scale - 1)

/-- The coefficient and scale with the digits after the point appended while they fit. -/
def appendFraction? (coefficient scale : Nat) : List Nat → Option (Nat × Nat)
  | [] => some (coefficient, scale)
  | digit :: digits =>
      if scale < greatestScale ∧ coefficient * 10 + digit < coefficientLimit then
        appendFraction? (coefficient * 10 + digit) (scale + 1) digits
      else roundOff? coefficient scale digit

/-- The decimal written by digits before and after a point, with a sign (`from_str`). -/
def ofDigits? (negative : Bool) (whole fraction : List Char) : Option Decimal := do
  let integer := decimalValue whole
  if coefficientLimit ≤ integer then none else
  let (size, scale) ← appendFraction? integer 0 (digitValues 10 fraction)
  ofParts? (if negative then -(size : Int) else size) scale

/-- The greatest exponent that is read at all. -/
def greatestExponent : Nat := 4294967295

/-- The product of a decimal with a power of ten, if it can be written with the digits of the decimal, or
without digits after the point (`from_scientific`, once the digits are read). The exponent is given by its
sign and size. -/
def timesPowerOfTen? (decimal : Decimal) (negative : Bool) (exponent : Nat) : Option Decimal :=
  if greatestExponent < exponent then none
  else if negative then decimal.withScale? (decimal.scale + exponent)
  else if exponent ≤ decimal.scale then decimal.withScale? (decimal.scale - exponent)
  else if greatestScale < exponent then none
  else ofParts? (decimal.coefficient * powerOfTen (exponent - decimal.scale)) 0

@[simp] theorem natAbs_coefficient (decimal : Decimal) :
    decimal.coefficient.natAbs = decimal.size := by
  unfold coefficient
  split <;> simp

theorem parts_of_ofParts? {coefficient : Int} {scale : Nat} {decimal : Decimal}
    (found : ofParts? coefficient scale = some decimal) :
    decimal.coefficient = coefficient ∧ decimal.scale = scale := by
  unfold ofParts? at found
  split at found
  · obtain rfl := Option.some.inj found
    refine ⟨?_, rfl⟩
    simp only [Decimal.coefficient, decide_eq_true_eq]
    split <;> omega
  · simp at found

theorem exists_ofParts?_eq_some {coefficient : Int} {scale : Nat}
    (inRange : coefficient.natAbs < coefficientLimit) (scale_le : scale ≤ greatestScale) :
    ∃ decimal, ofParts? coefficient scale = some decimal :=
  ⟨_, dif_pos ⟨inRange, scale_le⟩⟩

theorem parts_of_withScale? {scale : Nat} {decimal scaled : Decimal}
    (found : decimal.withScale? scale = some scaled) :
    scaled.coefficient = decimal.coefficient ∧ scaled.scale = scale := by
  unfold withScale? at found
  split at found
  · obtain rfl := Option.some.inj found
    exact ⟨rfl, rfl⟩
  · simp at found

theorem exists_withScale?_eq_some {scale : Nat} (decimal : Decimal)
    (scale_le : scale ≤ greatestScale) : ∃ scaled, decimal.withScale? scale = some scaled :=
  ⟨_, dif_pos scale_le⟩

/-! ## Reading decimals

The program itself finds a decimal in a text: a sign, digits, a separator and more digits, and an
exponent. The sign, the separator, the digits on one of its sides and the exponent may be missing. A
separator without digits after it is left unread, and so is an exponent that is not complete or that takes
the number out of the range of decimals. -/

/-- Whether a text starts with the negative sign, and the text after its sign if it has one. The
negative sign is looked for first, so it wins if the signs are the same character. -/
def dropSign (conventions : NumberConventions) (text : List Char) : Bool × List Char :=
  match text with
  | [] => (false, [])
  | c :: rest =>
      if c = conventions.negativeSign then (true, rest)
      else if c = conventions.positiveSign then (false, rest)
      else (false, text)

/-- The digits after a separator at the start of a text, and the text after them. Without such
digits the separator is not dropped. -/
def splitFraction (separator : Char) (text : List Char) : List Char × List Char :=
  match text with
  | [] => ([], [])
  | c :: rest =>
      let digits := rest.takeWhile isDigit
      if c = separator ∧ digits ≠ [] then (digits, rest.dropWhile isDigit) else ([], text)

/-- The sign and the digits of an exponent after its symbol, and the text after them. -/
def readExponent? (symbol : List Char) (text : List Char) :
    Option (Bool × List Char × List Char) := do
  if symbol = [] then none else
  let afterSymbol ← dropIgnoringCase? symbol text
  let (negative, rest) := dropNumeralSign afterSymbol
  let digits := rest.takeWhile isDigit
  if digits = [] then none else some (negative, digits, rest.dropWhile isDigit)

/-- A decimal with the exponent at the start of a text, and the text after it. The exponent is left
unread if there is no such decimal. -/
def applyExponent (symbol : List Char) (decimal : Decimal) (text : List Char) :
    Decimal × List Char :=
  match readExponent? symbol text with
  | none => (decimal, text)
  | some (negative, digits, rest) =>
      match decimal.timesPowerOfTen? negative (decimalValue digits) with
      | some scaled => (scaled, rest)
      | none => (decimal, text)

/-- The decimal at the start of a text, and the text after it. -/
def read? (conventions : NumberConventions) (text : List Char) : Option (Decimal × List Char) := do
  let (negative, unsigned) := dropSign conventions text
  let whole := unsigned.takeWhile isDigit
  let (fraction, rest) := splitFraction conventions.decimalSeparator (unsigned.dropWhile isDigit)
  if whole = [] ∧ fraction = [] then none else
  let decimal ← ofDigits? negative whole fraction
  some (decimal.applyExponent conventions.exponentSymbol.toList rest)

end Decimal

end TextGrammar
