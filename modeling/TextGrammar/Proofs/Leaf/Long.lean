import TextGrammar.Proofs.Integer.Range
import TextGrammar.Proofs.Leaf.Matches
import TextGrammar.Proofs.Number.Sign
import TextGrammar.Proofs.Text.Delimited

/-!
# Longs are exact

A long is read digit by digit in 64 bits. It is found just if the integer that all its digits write
fits, and then it is that integer: an intermediate result is out of range only if the last one would
be. This holds in every radix, for any number of digits and whatever characters the signs are, also
if a sign is a digit.
-/

namespace TextGrammar

open Text

/-- A text that may start with an integer, split into its sign, its digits and the rest. -/
structure IntegerFront where
  negative : Bool
  sign : List Char
  digits : List Char
  rest : List Char

namespace IntegerFront

/-- The parts are those of a text: the sign if there is one, and all digits after it. -/
structure IsOf (conventions : NumberConventions) (radix : Nat) (text : List Char)
    (front : IntegerFront) : Prop where
  signed : SignSplit conventions.negativeSign conventions.positiveSign text front.negative
    front.sign (front.digits ++ front.rest)
  longest : IsLongestRun (isDigitBelow radix) front.digits front.rest

/-- The integer that the sign and the digits write. -/
def value (radix : Nat) (front : IntegerFront) : Int :=
  IntRange.withSign front.negative (numberOf radix front.digits)

/-- There are digits, and the integer that they write has 64 bits with its sign. -/
def FitsLong (radix : Nat) (front : IntegerFront) : Prop :=
  front.digits ≠ [] ∧ -9223372036854775808 ≤ front.value radix ∧
    front.value radix ≤ 9223372036854775807

variable {conventions : NumberConventions} {radix : Nat} {text : List Char}
  {front other : IntegerFront}

theorem IsOf.unique (splits : front.IsOf conventions radix text)
    (otherSplits : other.IsOf conventions radix text) : front = other := by
  obtain ⟨negative, sign, digits, rest⟩ := front
  obtain ⟨negative', sign', digits', rest'⟩ := other
  obtain ⟨rfl, rfl, same⟩ := splits.signed.unique otherSplits.signed
  obtain ⟨rfl, rfl⟩ := splits.longest.append_inj otherSplits.longest same
  rfl

/-- The sign and the digits are those of their text alone too. -/
theorem IsOf.alone (splits : front.IsOf conventions radix text) :
    { front with rest := [] }.IsOf conventions radix (front.sign ++ (front.digits ++ [])) where
  signed := splits.signed.of_isPrefix (by simp)
  longest := splits.longest.of_isPrefix List.nil_prefix

/-- Every text is split in one way. -/
theorem exists_isOf_iff (conventions : NumberConventions) (radix : Nat) (text : List Char) :
    ∃ front : IntegerFront, ∀ other : IntegerFront,
      other.IsOf conventions radix text ↔ other = front := by
  obtain ⟨negative, sign, unsigned, split⟩ :=
    SignSplit.exists_split conventions.negativeSign conventions.positiveSign text
  have splits : IsOf conventions radix text
      ⟨negative, sign, unsigned.takeWhile (isDigitBelow radix),
        unsigned.dropWhile (isDigitBelow radix)⟩ :=
    { signed := by
        rw [List.takeWhile_append_dropWhile]
        exact split
      longest := isLongestRun_takeWhile _ _ }
  refine ⟨_, fun other => ⟨fun otherSplits => otherSplits.unique splits, ?_⟩⟩
  rintro rfl
  exact splits

end IntegerFront

theorem contains_longRange_iff {value : Int} :
    longRange.contains value = true ↔
      -9223372036854775808 ≤ value ∧ value ≤ 9223372036854775807 := by
  have bounds : longRange = ⟨-9223372036854775808, 9223372036854775807⟩ := by decide
  simp [bounds, IntRange.contains]

variable {conventions : NumberConventions} {radix : Radix} {text used : List Char}
  {value : LeafValue} {front : IntegerFront}

/-- Digits fit one after the other just if the integer that they write does. -/
theorem appendDigits_longRange_eq_ok_iff {found : Int}
    (digits : ∀ c ∈ front.digits, isDigitBelow radix.value c = true) :
    longRange.appendDigits radix.value front.negative 0 (digitValues radix.value front.digits) =
        .ok found ↔
      longRange.contains found = true ∧ found = front.value radix.value := by
  have zero : longRange.contains 0 = true := by decide
  have positive : 0 < radix.value := Nat.lt_of_lt_of_le (by decide) radix.two_le
  exact IntRange.appendDigits_digitValues_eq_ok_iff zero positive radix.le_thirtySix digits

/-- A long is found in a text just if the integer that its parts write fits. -/
theorem readLong_eq_found_iff (splits : front.IsOf conventions radix.value text) :
    readLong radix conventions text = .found value used ↔
      front.FitsLong radix.value ∧ value = .long (front.value radix.value) ∧
        used = front.sign ++ front.digits := by
  obtain ⟨negative, sign⟩ := splits.signed.readSign?_eq
  have digits : (text.drop front.sign.length).takeWhile (isDigitOf radix.value) = front.digits := by
    rw [splits.signed.text_eq, List.drop_left, isDigitOf_eq radix.le_thirtySix,
      splits.longest.takeWhile_eq]
  simp only [readLong, negative, sign, digits, IntegerFront.FitsLong, ← contains_longRange_iff]
  split
  next empty => simp [empty]
  next nonempty =>
    split
    next found appended =>
      obtain ⟨inside, rfl⟩ := (appendDigits_longRange_eq_ok_iff splits.longest.all).1 appended
      simp [nonempty, inside, eq_comm]
    next accepted overflowed =>
      have outside : ¬longRange.contains (front.value radix.value) = true := by
        intro inside
        rw [(appendDigits_longRange_eq_ok_iff splits.longest.all).2 ⟨inside, rfl⟩] at overflowed
        cases overflowed
      simp [outside]

/-- The least long is read, and the positive integer of the same size is not. -/
example : readLong .ten .american "-9223372036854775808x".toList =
    .found (.long (-9223372036854775808)) "-9223372036854775808".toList := by
  rfl

example : readLong .ten .american "9223372036854775808x".toList =
    .outOfRange "922337203685477580".toList := by
  rfl

end TextGrammar
