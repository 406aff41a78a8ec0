import Mathlib.Data.Nat.Digits.Defs
import TextGrammar.Text.Word
import TextGrammar.Text.Digit

/-!
# Numbers written in digits

A digit has the value that is its place among all digits, in either case, and a number that is
written in digits is the sum of their values at their positions. Readers find a value by the code of
its character, and the number by taking the digits from the front, which makes it greater with each
digit.
-/

namespace TextGrammar.Text

/-- The digits of the greatest radix in the order of their values. -/
def digitCharacters : List Char :=
  "0123456789abcdefghijklmnopqrstuvwxyz".toList

/-- The value of a digit in either case. For other characters it is too large for a digit. -/
def valueOfDigit (c : Char) : Nat :=
  digitCharacters.idxOf c.toLower

/-- Whether a character is one of the digits of a radix. -/
def isDigitBelow (radix : Nat) (c : Char) : Bool :=
  valueOfDigit c < radix

/-- The number that digits write in a radix, the last of them at the position of the units. -/
def numberOf (radix : Nat) (digits : List Char) : Nat :=
  Nat.ofDigits radix (digits.map valueOfDigit).reverse

variable {radix digit : Nat} {c : Char} {text front back : List Char}

/-! ## Values of digits -/

/-- Beyond ASCII there are no digits. -/
theorem valueOfDigit_of_large (large : 128 ≤ c.toNat) : valueOfDigit c = 36 := by
  have ascii : digitCharacters.all (·.toNat < 128) = true := by decide
  rw [valueOfDigit, toLower_eq_self_of_large large]
  refine List.idxOf_eq_length fun member => ?_
  have bound := of_decide_eq_true (List.all_eq_true.1 ascii c member)
  omega

/-- The value that is found by the code of a character is its place among the digits. -/
theorem digitValue?_eq (c : Char) :
    digitValue? c = (some (valueOfDigit c)).filter (· < 36) := by
  by_cases small : c.toNat < 128
  · exact forall_ascii (fun c => digitValue? c = (some (valueOfDigit c)).filter (· < 36))
      (by decide +kernel) small
  · rw [valueOfDigit_of_large (Nat.le_of_not_lt small), digitValue?, if_neg (by omega),
      if_neg (by omega), if_neg (by omega)]
    rfl

theorem digitOf?_eq (le : radix ≤ 36) (c : Char) :
    digitOf? radix c = (some (valueOfDigit c)).filter (· < radix) := by
  rw [digitOf?, digitValue?_eq, Option.filter_filter]
  congr 1
  funext value
  by_cases below : value < radix
  · have all : value < 36 := Nat.lt_of_lt_of_le below le
    simp [below, all]
  · simp [below]

theorem isDigitOf_eq (le : radix ≤ 36) : isDigitOf radix = isDigitBelow radix := by
  funext c
  rw [isDigitOf, digitOf?_eq le, isDigitBelow]
  by_cases below : valueOfDigit c < radix <;> simp [below, Option.filter]

/-- The decimal digits are those of ASCII. -/
theorem isDigit_eq : isDigit = Char.isDigit := by
  funext c
  have bounds : c.isDigit = true ↔ 0x30 ≤ c.toNat ∧ c.toNat ≤ 0x39 := by
    rw [Char.isDigit, Bool.and_eq_true, decide_eq_true_eq, decide_eq_true_eq, ge_iff_le,
      UInt32.le_iff_toNat_le, UInt32.le_iff_toNat_le]
    exact Iff.rfl
  exact Bool.eq_iff_iff.2 (isDigit_iff.trans bounds.symm)

theorem isDigitBelow_ten : isDigitBelow 10 = Char.isDigit := by
  rw [← isDigitOf_eq (by decide)]
  exact isDigit_eq

theorem digitValues_eq (le : radix ≤ 36) (all : ∀ c ∈ text, isDigitBelow radix c = true) :
    digitValues radix text = text.map valueOfDigit := by
  induction text with
  | nil => rfl
  | cons c text ih =>
      obtain ⟨below, others⟩ := List.forall_mem_cons.1 all
      have value : digitOf? radix c = some (valueOfDigit c) := by
        rw [digitOf?_eq le]
        exact if_pos below
      rw [digitValues, List.filterMap_cons_some value, List.map_cons, ← ih others, digitValues]

/-! ## Numbers -/

/-- A number with the values of more digits after it. -/
def appendValues (radix : Nat) (number : Nat) (values : List Nat) : Nat :=
  values.foldl (fun number value => number * radix + value) number

theorem appendValues_zero (radix : Nat) (digits : List Char) :
    appendValues radix 0 (digits.map valueOfDigit) = numberOf radix digits := by
  simp [appendValues, numberOf, Nat.ofDigits_eq_foldr, Nat.add_comm, Nat.mul_comm]

/-- The number that is read of digits is the one that they write. -/
theorem digitsValue_digitValues (le : radix ≤ 36) (all : ∀ c ∈ text, isDigitBelow radix c = true) :
    digitsValue radix (digitValues radix text) = numberOf radix text := by
  rw [digitValues_eq le all]
  exact appendValues_zero radix text

theorem decimalValue_eq (all : ∀ c ∈ text, c.isDigit = true) :
    decimalValue text = numberOf 10 text :=
  digitsValue_digitValues (by decide) (isDigitBelow_ten ▸ all)

/-- More digits take a number further from zero. -/
theorem le_appendValues (positive : 0 < radix) (number : Nat) (values : List Nat) :
    number ≤ appendValues radix number values := by
  induction values generalizing number with
  | nil => exact Nat.le_refl number
  | cons value values ih =>
      calc number ≤ number * radix := Nat.le_mul_of_pos_right number positive
        _ ≤ number * radix + value := Nat.le_add_right _ _
        _ ≤ _ := ih _

theorem numberOf_append (radix : Nat) (front back : List Char) :
    numberOf radix (front ++ back) =
      appendValues radix (numberOf radix front) (back.map valueOfDigit) := by
  simp only [← appendValues_zero, appendValues, List.map_append, List.foldl_append]

/-- A number is less than the power of the radix for as many digits. -/
theorem numberOf_lt_pow (one_lt : 1 < radix) (all : ∀ c ∈ text, isDigitBelow radix c = true) :
    numberOf radix text < Nat.pow radix text.length := by
  have small : ∀ value ∈ (text.map valueOfDigit).reverse, value < radix := by
    intro value member
    obtain ⟨c, written, rfl⟩ := List.mem_map.1 (List.mem_reverse.1 member)
    exact of_decide_eq_true (all c written)
  have bound := Nat.ofDigits_lt_base_pow_length one_lt small
  rwa [List.length_reverse, List.length_map] at bound

end TextGrammar.Text
