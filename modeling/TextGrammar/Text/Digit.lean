/-!
# Digits

Digits are ASCII only: `0` to `9`, then the letters in either case. A radix from 2 to 36 takes the
first so many of them.
-/

namespace TextGrammar.Text

/-- The value of a digit in the greatest radix. -/
def digitValue? (c : Char) : Option Nat :=
  let code := c.toNat
  if 0x30 ≤ code ∧ code ≤ 0x39 then some (code - 0x30)
  else if 0x61 ≤ code ∧ code ≤ 0x7A then some (code - 0x61 + 10)
  else if 0x41 ≤ code ∧ code ≤ 0x5A then some (code - 0x41 + 10)
  else none

/-- The value of a digit in a given radix. -/
def digitOf? (radix : Nat) (c : Char) : Option Nat :=
  (digitValue? c).filter (· < radix)

/-- Whether a character is a digit in a given radix. -/
def isDigitOf (radix : Nat) (c : Char) : Bool :=
  (digitOf? radix c).isSome

/-- Whether a character is a decimal digit. -/
def isDigit (c : Char) : Bool :=
  isDigitOf 10 c

/-- The number that a list of digit values, most significant first, denotes. -/
def digitsValue (radix : Nat) (digits : List Nat) : Nat :=
  digits.foldl (fun value digit => value * radix + digit) 0

/-- The values of the digits among the characters of a text. -/
def digitValues (radix : Nat) (text : List Char) : List Nat :=
  text.filterMap (digitOf? radix)

/-- The decimal number that a text of digits denotes. -/
def decimalValue (text : List Char) : Nat :=
  digitsValue 10 (digitValues 10 text)

/-- The power of ten with a given exponent. -/
def powerOfTen (exponent : Nat) : Nat :=
  Nat.pow 10 exponent

/-- A number in decimal, with zeros in front up to the given number of digits. -/
def padded (width number : Nat) : List Char :=
  let digits := Nat.toDigits 10 number
  List.replicate (width - digits.length) '0' ++ digits

@[simp] theorem powerOfTen_zero : powerOfTen 0 = 1 := rfl

/-- The decimal digits are the ASCII digits. -/
theorem isDigit_iff {c : Char} : isDigit c = true ↔ 0x30 ≤ c.toNat ∧ c.toNat ≤ 0x39 := by
  have kept : ∀ value : Nat, ((some value).filter (· < 10)).isSome = decide (value < 10) := by
    intro value
    by_cases small : value < 10 <;> simp [Option.filter, small]
  simp only [isDigit, isDigitOf, digitOf?, digitValue?]
  constructor
  · intro digit
    split at digit
    · assumption
    · split at digit
      · rw [kept] at digit
        have := of_decide_eq_true digit
        omega
      · split at digit
        · rw [kept] at digit
          have := of_decide_eq_true digit
          omega
        · exact absurd digit (by decide)
  · intro range
    rw [if_pos range, kept]
    exact decide_eq_true (by omega)

end TextGrammar.Text
