import TextGrammar.Integer
import TextGrammar.Proofs.Integer.Range
import TextGrammar.Proofs.Number.Sign
import TextGrammar.Proofs.Text.Delimited

/-!
# Integers that whole texts write

A whole text writes an integer if it consists of digits, of which there is one at least, and perhaps a
sign before them. The reader looks for the faults of a text from left to right, but whichever it finds
first, what it accepts are just the texts that write an integer of the range.
-/

namespace TextGrammar

open Text

/-- A text is made of digits of a radix and is not empty. -/
structure IsNumeral (radix : Nat) (text : List Char) : Prop where
  nonempty : text ≠ []
  digits : ∀ c ∈ text, isDigitBelow radix c = true

/-- A text writes an integer in a radix, with or without a sign. -/
inductive WritesInteger (radix : Nat) : List Char → Int → Prop where
  | unsigned {digits : List Char} (numeral : IsNumeral radix digits) :
      WritesInteger radix digits (numberOf radix digits)
  | positive {digits : List Char} (numeral : IsNumeral radix digits) :
      WritesInteger radix ('+' :: digits) (numberOf radix digits)
  | negative {digits : List Char} (numeral : IsNumeral radix digits) :
      WritesInteger radix ('-' :: digits) (-(numberOf radix digits : Int))

variable {radix : Nat} {text sign unsigned : List Char} {negative : Bool} {value : Int}

theorem WritesInteger.text_ne_nil (writes : WritesInteger radix text value) : text ≠ [] := by
  cases writes with
  | unsigned numeral => exact numeral.nonempty
  | positive numeral => exact List.cons_ne_nil _ _
  | negative numeral => exact List.cons_ne_nil _ _

/-- The signs are digits of no radix. -/
theorem goesOnWith_noSign (le : radix ≤ 36) (all : ∀ c ∈ text, isDigitBelow radix c = true) :
    GoesOnWith (fun c => c ≠ '-' ∧ c ≠ '+') text := by
  have noDigit {c : Char} (value : valueOfDigit c = 36) : isDigitBelow radix c = false := by
    simp [isDigitBelow, value, le]
  cases text with
  | nil => simp [GoesOnWith]
  | cons c rest =>
      have digit := all c List.mem_cons_self
      refine goesOnWith_cons.2 ⟨?_, ?_⟩
      · rintro rfl
        rw [noDigit (by decide)] at digit
        cases digit
      · rintro rfl
        rw [noDigit (by decide)] at digit
        cases digit

/-- What a text writes can be told from its sign and the rest. -/
theorem writesInteger_iff (le : radix ≤ 36)
    (split : SignSplit '-' '+' text negative sign unsigned) :
    WritesInteger radix text value ↔
      IsNumeral radix unsigned ∧ value = IntRange.withSign negative (numberOf radix unsigned) := by
  constructor
  · intro writes
    cases writes with
    | unsigned numeral =>
        have split' := SignSplit.unsigned text (goesOnWith_noSign le numeral.digits)
        obtain ⟨rfl, -, rfl⟩ := split.unique split'
        exact ⟨numeral, rfl⟩
    | positive numeral =>
        obtain ⟨rfl, -, rfl⟩ := split.unique (.positive _ (by decide))
        exact ⟨numeral, rfl⟩
    | negative numeral =>
        obtain ⟨rfl, -, rfl⟩ := split.unique (.negative _)
        exact ⟨numeral, rfl⟩
  · rintro ⟨numeral, rfl⟩
    cases split with
    | negative rest => exact .negative numeral
    | positive rest other => exact .positive numeral
    | unsigned text noSign => exact .unsigned numeral

namespace IntRange

variable {range : IntRange}

/-- An integer is read of a text just if the whole text writes it and it is in the range. -/
theorem ofNumeral_eq_ok_iff (zero : range.contains 0 = true) (positive : 0 < radix)
    (le : radix ≤ 36) :
    range.ofNumeral radix text = .ok value ↔
      WritesInteger radix text value ∧ range.contains value = true := by
  obtain ⟨negative, sign, unsigned, split⟩ := SignSplit.exists_split '-' '+' text
  rw [writesInteger_iff le split]
  simp only [ofNumeral, split.dropNumeralSign_eq, isDigitOf_eq le]
  constructor
  · intro read
    split at read
    · cases read
    split at read
    · cases read
    next nonempty =>
      split at read
      · cases read
      next found appended =>
        split at read
        next whole =>
          cases read
          rw [whole] at appended
          have digits := whole ▸ (isLongestRun_takeWhile (isDigitBelow radix) unsigned).all
          obtain ⟨inside, written⟩ :=
            (appendDigits_digitValues_eq_ok_iff zero positive le digits).1 appended
          exact ⟨⟨⟨nonempty, digits⟩, written⟩, inside⟩
        · cases read
  · rintro ⟨⟨numeral, written⟩, inside⟩
    have nonempty : text ≠ [] := by simp [split.text_eq, numeral.nonempty]
    have longest : IsLongestRun (isDigitBelow radix) unsigned [] :=
      ⟨numeral.digits, by simp [GoesOnWith]⟩
    have whole := longest.takeWhile_eq
    rw [List.append_nil] at whole
    have appended :=
      (appendDigits_digitValues_eq_ok_iff zero positive le numeral.digits).2 ⟨inside, written⟩
    rw [if_neg nonempty, if_neg numeral.nonempty, whole, appended]
    exact if_pos rfl

end IntRange

/-- A text may write an integer of a range after any number of zeros, and a sign is no digit. -/
example : (IntRange.signed 8).ofNumeral 16 "-00080".toList = .ok (-128) := by
  rfl

example : (IntRange.signed 8).ofNumeral 10 "+-1".toList = .error .invalidDigit := by
  rfl

end TextGrammar
