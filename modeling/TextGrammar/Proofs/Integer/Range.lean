import TextGrammar.Integer
import TextGrammar.Proofs.Text.Number

/-!
# Integers in a range

An integer that is read digit by digit, and only as long as it stays in a range, is read to its end
just if it is in the range itself: each digit takes it further from zero, so that it never comes
back.
-/

namespace TextGrammar

open Text

namespace IntRange

/-- A size with a sign. -/
def withSign (negative : Bool) (size : Nat) : Int :=
  if negative then -(size : Int) else size

variable {range : IntRange} {radix size : Nat} {negative : Bool} {value : Int}

theorem withSign_mul (negative : Bool) (size radix : Nat) :
    withSign negative size * radix = withSign negative (size * radix) := by
  cases negative <;> simp [withSign]

theorem withSign_add (negative : Bool) (size digit : Nat) :
    (if negative then withSign negative size - (digit : Int) else withSign negative size + digit) =
      withSign negative (size + digit) := by
  cases negative with
  | false => simp [withSign]
  | true =>
      simp only [withSign, if_true]
      omega

theorem natAbs_withSign (negative : Bool) (size : Nat) :
    (withSign negative size).natAbs = size := by
  cases negative <;> simp [withSign]

theorem checked?_eq_some_iff {checked : Int} :
    range.checked? value = some checked ↔ range.contains value = true ∧ value = checked := by
  simp [checked?]

/-- A range with zero in it has with a number all that are nearer to zero on the same side. -/
theorem contains_withSign_of_le (zero : range.contains 0 = true) {greater : Nat}
    (le : size ≤ greater) (inside : range.contains (withSign negative greater) = true) :
    range.contains (withSign negative size) = true := by
  simp only [contains, Bool.and_eq_true, decide_eq_true_eq] at zero inside ⊢
  cases negative with
  | false =>
      simp only [withSign, Bool.false_eq_true, if_false] at inside ⊢
      omega
  | true =>
      simp only [withSign, if_true] at inside ⊢
      omega

/-- Of the two checks of a digit only that of the sum decides: the product is nearer to zero. -/
theorem withDigit?_eq_some_iff (zero : range.contains 0 = true) {digit : Nat} :
    range.withDigit? radix negative (withSign negative size) digit = some value ↔
      range.contains value = true ∧ value = withSign negative (size * radix + digit) := by
  simp only [withDigit?, Option.bind_eq_some_iff, checked?_eq_some_iff, withSign_mul]
  constructor
  · rintro ⟨_, ⟨-, rfl⟩, inside, rfl⟩
    rw [withSign_add] at inside ⊢
    exact ⟨inside, rfl⟩
  · rintro ⟨inside, rfl⟩
    have product := contains_withSign_of_le zero (Nat.le_add_right (size * radix) digit) inside
    refine ⟨_, ⟨product, rfl⟩, ?_⟩
    rw [withSign_add]
    exact ⟨inside, rfl⟩

theorem appendDigits_cons_eq_ok_iff {first : Int} {digit : Nat} {digits : List Nat} :
    range.appendDigits radix negative first (digit :: digits) = .ok value ↔
      ∃ next, range.withDigit? radix negative first digit = some next ∧
        range.appendDigits radix negative next digits = .ok value := by
  rw [appendDigits]
  cases range.withDigit? radix negative first digit with
  | none => simp
  | some next =>
      cases appended : range.appendDigits radix negative next digits with
      | ok found => simp [Except.mapError, appended]
      | error accepted => simp [Except.mapError, appended]

/-- Digits can be appended one by one within a range just if the number with all of them is in the
range, and the result is that number. -/
theorem appendDigits_eq_ok_iff (zero : range.contains 0 = true) (positive : 0 < radix)
    (digits : List Nat) (inside : range.contains (withSign negative size) = true) :
    range.appendDigits radix negative (withSign negative size) digits = .ok value ↔
      range.contains value = true ∧
        value = withSign negative (appendValues radix size digits) := by
  induction digits generalizing size with
  | nil =>
      simp only [appendDigits, Except.ok.injEq, appendValues, List.foldl_nil]
      constructor
      · rintro rfl
        exact ⟨inside, rfl⟩
      · rintro ⟨-, rfl⟩
        rfl
  | cons digit digits ih =>
      simp only [appendDigits_cons_eq_ok_iff, withDigit?_eq_some_iff zero]
      constructor
      · rintro ⟨_, ⟨next, rfl⟩, appended⟩
        exact (ih next).1 appended
      · rintro ⟨last, rfl⟩
        have farther := le_appendValues positive (size * radix + digit) digits
        have next := contains_withSign_of_le zero farther last
        exact ⟨_, ⟨next, rfl⟩, (ih next).2 ⟨last, rfl⟩⟩

/-- Digits that are read from the front can be taken into a range just if the number that they write
is in the range with its sign, and the result is that number. -/
theorem appendDigits_digitValues_eq_ok_iff (zero : range.contains 0 = true) (positive : 0 < radix)
    (le : radix ≤ 36) {digits : List Char} (all : ∀ c ∈ digits, isDigitBelow radix c = true) :
    range.appendDigits radix negative 0 (digitValues radix digits) = .ok value ↔
      range.contains value = true ∧ value = withSign negative (numberOf radix digits) := by
  have start : (0 : Int) = withSign negative 0 := by simp [withSign]
  rw [digitValues_eq le all, start, appendDigits_eq_ok_iff zero positive _ (start ▸ zero),
    appendValues_zero]

end IntRange

end TextGrammar
