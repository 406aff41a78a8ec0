import Mathlib.Data.Rat.Cast.Order
import Mathlib.Tactic.NormNum
import TextGrammar.Proofs.Decimal.Front

/-!
# Decimals are read exactly

A decimal is read from the parts of a text. Digits that all fit are not rounded, so that the value
is the number that the parts write; and the exponent multiplies it with a power of ten without loss,
or is left unread. It is read if the product can be written with the digits that are there, or with zeros
behind them, and if the exponent is not too large by itself. That is not the same as that the product is a
decimal: ten times the smallest power of ten that is not a decimal is one, but it cannot be written with
both digits of ten.
-/

namespace TextGrammar

open Text

namespace Decimal

/-- The number that a decimal is, whatever its scale. -/
def toRat (decimal : Decimal) : ℚ :=
  decimal.coefficient * 10 ^ (-(decimal.scale : ℤ))

/-! ## Digits that fit -/

/-- Digits after the point are all appended if all of them fit. -/
theorem appendFraction?_eq {coefficient scale : Nat} {digits : List Nat}
    (fits : appendValues 10 coefficient digits < coefficientLimit)
    (short : scale + digits.length ≤ greatestScale) :
    appendFraction? coefficient scale digits =
      some (appendValues 10 coefficient digits, scale + digits.length) := by
  induction digits generalizing coefficient scale with
  | nil => rfl
  | cons digit digits ih =>
      have next : coefficient * 10 + digit < coefficientLimit :=
        Nat.lt_of_le_of_lt (le_appendValues (by decide) _ digits) fits
      rw [List.length_cons, ← Nat.add_assoc, Nat.add_right_comm] at short ⊢
      rw [appendFraction?, if_pos ⟨by omega, next⟩, ih fits short]
      rfl

/-- Digits that fit make a decimal, which has just these digits. -/
theorem exists_ofDigits?_eq_some (negative : Bool) {whole fraction : List Char}
    (wholeDigits : ∀ c ∈ whole, c.isDigit = true) (digits : ∀ c ∈ fraction, c.isDigit = true)
    (fits : numberOf 10 (whole ++ fraction) < coefficientLimit)
    (short : fraction.length ≤ greatestScale) :
    ∃ decimal, ofDigits? negative whole fraction = some decimal ∧
      decimal.coefficient = IntRange.withSign negative (numberOf 10 (whole ++ fraction)) ∧
      decimal.scale = fraction.length := by
  have values : digitValues 10 fraction = fraction.map valueOfDigit :=
    digitValues_eq (by decide) (isDigitBelow_ten ▸ digits)
  have appended : appendFraction? (numberOf 10 whole) 0 (digitValues 10 fraction) =
      some (numberOf 10 (whole ++ fraction), fraction.length) := by
    rw [numberOf_append] at fits ⊢
    rw [values, appendFraction?_eq fits (by simpa using short), List.length_map, Nat.zero_add]
  have wholeFits : ¬coefficientLimit ≤ numberOf 10 whole := by
    rw [numberOf_append] at fits
    exact Nat.not_le.2 (Nat.lt_of_le_of_lt (le_appendValues (by decide) _ _) fits)
  have inRange : (IntRange.withSign negative (numberOf 10 (whole ++ fraction))).natAbs <
      coefficientLimit := by
    rw [IntRange.natAbs_withSign]
    exact fits
  obtain ⟨decimal, made⟩ := exists_ofParts?_eq_some inRange short
  refine ⟨decimal, ?_, parts_of_ofParts? made⟩
  simp only [ofDigits?, decimalValue_eq wholeDigits, wholeFits, if_false, appended]
  exact made

/-! ## Powers of ten -/

/-- A power of ten that moves the point behind all digits makes a decimal an integer, with zeros behind
its digits. -/
theorem toRat_mul_zpow_eq {decimal : Decimal} {exponent : Nat} (behind : decimal.scale ≤ exponent) :
    decimal.toRat * 10 ^ (exponent : ℤ) =
      (decimal.coefficient * powerOfTen (exponent - decimal.scale) : ℤ) := by
  have places : -(decimal.scale : ℤ) + (exponent : ℤ) = ((exponent - decimal.scale : Nat) : ℤ) := by
    omega
  have zeros : (10 : ℚ) ^ (exponent - decimal.scale) =
      (powerOfTen (exponent - decimal.scale) : Nat) := (Nat.cast_pow 10 _).symm
  rw [toRat, mul_assoc, ← zpow_add₀ (by decide), places, zpow_natCast, zeros, Int.cast_mul,
    Int.cast_natCast]

/-- A product with a power of ten is exact: the digits stay the same and the point moves, or there
are zeros after the digits. -/
theorem toRat_of_timesPowerOfTen? {decimal product : Decimal} {negative : Bool} {exponent : Nat}
    (found : decimal.timesPowerOfTen? negative exponent = some product) :
    product.toRat = decimal.toRat * 10 ^ IntRange.withSign negative exponent := by
  have moved {scale : Nat} (coefficient : product.coefficient = decimal.coefficient)
      (scale_eq : product.scale = scale)
      (places : -(scale : ℤ) = -(decimal.scale : ℤ) + IntRange.withSign negative exponent) :
      product.toRat = decimal.toRat * 10 ^ IntRange.withSign negative exponent := by
    rw [toRat, toRat, coefficient, scale_eq, places, zpow_add₀ (by decide), mul_assoc]
  unfold timesPowerOfTen? at found
  split at found
  next => cases found
  next =>
    split at found
    -- the point moves to the left
    next isNegative =>
      obtain ⟨coefficient, scale⟩ := parts_of_withScale? found
      refine moved coefficient scale ?_
      rw [isNegative, IntRange.withSign, if_pos rfl]
      omega
    next isPositive =>
      rw [Bool.not_eq_true] at isPositive
      subst isPositive
      split at found
      -- the point moves to the right, within the digits
      next inside =>
        obtain ⟨coefficient, scale⟩ := parts_of_withScale? found
        refine moved coefficient scale ?_
        rw [IntRange.withSign, if_neg (by decide)]
        omega
      next outside =>
        split at found
        next => cases found
        -- the point moves behind the digits, where there are zeros then
        next =>
          obtain ⟨coefficient, scale⟩ := parts_of_ofParts? found
          rw [IntRange.withSign, if_neg (by decide), toRat_mul_zpow_eq (Nat.le_of_not_le outside),
            toRat, coefficient, scale]
          simp

/-! ## Products that are found -/

/-- A number is a decimal, by some coefficient and scale. -/
def IsRepresentable (number : ℚ) : Prop :=
  ∃ decimal : Decimal, decimal.toRat = number

/-- A decimal that is an integer has all its digits in the coefficient. -/
theorem natAbs_lt_of_toRat_eq {decimal : Decimal} {integer : ℤ}
    (whole : decimal.toRat = integer) : integer.natAbs < coefficientLimit := by
  have coefficient : decimal.coefficient = integer * 10 ^ decimal.scale := by
    rw [toRat, zpow_neg, zpow_natCast, ← div_eq_mul_inv, div_eq_iff (by positivity)] at whole
    exact_mod_cast whole
  calc integer.natAbs ≤ integer.natAbs * 10 ^ decimal.scale :=
        Nat.le_mul_of_pos_right _ (by positivity)
    _ = decimal.size := by
        rw [← decimal.natAbs_coefficient, coefficient, Int.natAbs_mul, Int.natAbs_pow]
        rfl
    _ < coefficientLimit := decimal.size_lt

/-- An exponent and the scale that it leads to are no greater than scales may be. -/
structure InReach (scale : Nat) (exponent : ℤ) : Prop where
  exponent_le : exponent ≤ greatestScale
  scale_le : scale - exponent ≤ greatestScale

variable {base : Decimal} {size : Nat} {negative : Bool}

theorem inReach_of_timesPowerOfTen? {product : Decimal}
    (found : base.timesPowerOfTen? negative size = some product) :
    InReach base.scale (IntRange.withSign negative size) := by
  have inRange := base.scale_le
  unfold timesPowerOfTen? at found
  split at found
  next => cases found
  next =>
    split at found
    next isNegative =>
      obtain ⟨-, scale⟩ := parts_of_withScale? found
      have atMost := product.scale_le
      rw [scale] at atMost
      constructor <;> rw [isNegative, IntRange.withSign, if_pos rfl] <;> omega
    next isPositive =>
      have exponent_le : size ≤ greatestScale := by
        split at found
        next inside => exact Nat.le_trans inside inRange
        next =>
          split at found
          next => cases found
          next atMost => exact Nat.le_of_not_lt atMost
      constructor <;> rw [IntRange.withSign, if_neg isPositive] <;> omega

/-- The size of an exponent in reach, whatever its sign, is no greater than a scale. -/
theorem InReach.size_le {scale : Nat} (inReach : InReach scale (IntRange.withSign negative size)) :
    size ≤ greatestScale := by
  obtain ⟨exponent_le, scale_le⟩ := inReach
  cases negative with
  | true =>
      simp only [IntRange.withSign, if_true] at scale_le
      omega
  | false =>
      simp only [IntRange.withSign, Bool.false_eq_true, if_false] at exponent_le
      omega

/-- The product with a power of ten is found if the exponent is in reach and the product is a decimal.
-/
theorem exists_timesPowerOfTen?_eq_some
    (inReach : InReach base.scale (IntRange.withSign negative size))
    (representable : IsRepresentable (base.toRat * 10 ^ IntRange.withSign negative size)) :
    ∃ product, base.timesPowerOfTen? negative size = some product := by
  have size_le := inReach.size_le
  have readable : ¬greatestExponent < size := Nat.not_lt.2 (Nat.le_trans size_le (by decide))
  rw [timesPowerOfTen?, if_neg readable]
  cases negative with
  | true =>
      have scale_le := inReach.scale_le
      simp only [IntRange.withSign, if_true] at scale_le
      rw [if_pos rfl]
      exact exists_withScale?_eq_some base (by omega)
  | false =>
      rw [if_neg (by decide)]
      split
      next =>
        exact exists_withScale?_eq_some base
          (Nat.le_trans (Nat.sub_le base.scale size) base.scale_le)
      next outside =>
        rw [if_neg (Nat.not_lt.2 size_le)]
        -- the product is an integer here, so that it has to fit as it is
        obtain ⟨decimal, number⟩ := representable
        simp only [IntRange.withSign, Bool.false_eq_true, if_false] at number
        rw [toRat_mul_zpow_eq (Nat.le_of_not_le outside)] at number
        exact exists_ofParts?_eq_some (natAbs_lt_of_toRat_eq number) (Nat.zero_le _)

/-! ## Exponents -/

/-- A decimal is multiplied with the exponent that a text starts with, and what comes after it is
left. Without an exponent, or with one whose product is no decimal, the decimal and the text stay as
they are. -/
inductive ExponentRead (symbol : List Char) (base : Decimal) (text : List Char) :
    ℤ → Decimal → List Char → Prop where
  | read (front : ExponentFront) (product : Decimal) (splits : front.IsOf symbol text)
      (accepted : base.timesPowerOfTen? front.negative (numberOf 10 front.digits) = some product) :
      ExponentRead symbol base text front.exponent product front.rest
  | unread (refused : ∀ front : ExponentFront, front.IsOf symbol text →
      base.timesPowerOfTen? front.negative (numberOf 10 front.digits) = none) :
      ExponentRead symbol base text 0 base text

variable {symbol text rest : List Char} {value : Decimal} {exponent : ℤ}

theorem applyExponent_of_isOf {front : ExponentFront} (splits : front.IsOf symbol text) :
    base.applyExponent symbol text =
      (base.timesPowerOfTen? front.negative (numberOf 10 front.digits)).elim (base, text)
        fun product => (product, front.rest) := by
  simp only [applyExponent, splits.readExponent?_eq, decimalValue_eq splits.longest.all]
  cases base.timesPowerOfTen? front.negative (numberOf 10 front.digits) <;> rfl

theorem applyExponent_of_not_isOf (missing : ¬∃ front : ExponentFront, front.IsOf symbol text) :
    base.applyExponent symbol text = (base, text) := by
  cases found : readExponent? symbol text with
  | none => simp only [applyExponent, found]
  | some parts => exact absurd (ExponentFront.exists_isOf_of_readExponent? found) missing

theorem applyExponent_eq_iff :
    base.applyExponent symbol text = (value, rest) ↔
      ∃ exponent, ExponentRead symbol base text exponent value rest := by
  constructor
  · intro applied
    by_cases present : ∃ front : ExponentFront, front.IsOf symbol text
    · obtain ⟨front, splits⟩ := present
      rw [applyExponent_of_isOf splits] at applied
      cases accepted : base.timesPowerOfTen? front.negative (numberOf 10 front.digits) with
      | some product =>
          rw [accepted] at applied
          cases applied
          exact ⟨_, .read front _ splits accepted⟩
      | none =>
          rw [accepted] at applied
          cases applied
          refine ⟨0, .unread fun other otherSplits => ?_⟩
          rw [otherSplits.unique splits]
          exact accepted
    · rw [applyExponent_of_not_isOf present] at applied
      cases applied
      exact ⟨0, .unread fun front splits => absurd ⟨front, splits⟩ present⟩
  · rintro ⟨exponent, read⟩
    cases read with
    | read front product splits accepted =>
        rw [applyExponent_of_isOf splits, accepted]
        rfl
    | unread refused =>
        by_cases present : ∃ front : ExponentFront, front.IsOf symbol text
        · obtain ⟨front, splits⟩ := present
          rw [applyExponent_of_isOf splits, refused front splits]
          rfl
        · exact applyExponent_of_not_isOf present

/-- What is read as an exponent is read so by itself too, and what is not read is not missed. -/
theorem ExponentRead.exists_alone (read : ExponentRead symbol base text exponent value rest) :
    ∃ written, text = written ++ rest ∧ ExponentRead symbol base written exponent value [] := by
  cases read with
  | read front product splits accepted =>
      refine ⟨front.symbol ++ (front.sign ++ (front.digits ++ [])), ?_, ?_⟩
      · simpa using splits.text_eq
      · exact .read { front with rest := [] } _ splits.alone accepted
  | unread refused =>
      refine ⟨[], rfl, .unread fun front splits => ?_⟩
      have empty := splits.text_eq
      exact absurd (List.append_eq_nil_iff.1 empty.symm).1 splits.symbol_ne_nil

/-- The number that is read is that of the digits times the power of ten. -/
theorem ExponentRead.toRat_eq (read : ExponentRead symbol base text exponent value rest) :
    value.toRat = base.toRat * 10 ^ exponent := by
  cases read with
  | read front product splits accepted =>
      rw [toRat_of_timesPowerOfTen? accepted, ExponentFront.exponent]
  | unread refused => simp

end Decimal

/-! ## Decimals -/

namespace DecimalFront

/-- The number that the sign and the digits write, without the exponent. -/
def number (front : DecimalFront) : ℚ :=
  IntRange.withSign front.negative (numberOf 10 (front.whole ++ front.fraction)) *
    10 ^ (-(front.fraction.length : ℤ))

/-- All digits together write an integer of at most 96 bits, and at most 28 of them are after the
separator. -/
def Fits (front : DecimalFront) : Prop :=
  numberOf 10 (front.whole ++ front.fraction) < 2 ^ 96 ∧ front.fraction.length ≤ 28

/-- What the parts write is a decimal if it fits, and that decimal is the number. -/
theorem IsOf.exists_toRat_eq {conventions : NumberConventions} {text : List Char}
    {front : DecimalFront} (splits : front.IsOf conventions text) (fits : front.Fits) :
    ∃ decimal, Decimal.ofDigits? front.negative front.whole front.fraction = some decimal ∧
      decimal.toRat = front.number := by
  obtain ⟨decimal, made, coefficient, scale⟩ :=
    Decimal.exists_ofDigits?_eq_some front.negative splits.longest.all splits.fractional.all fits.1
      fits.2
  exact ⟨decimal, made, by rw [Decimal.toRat, coefficient, scale, number]⟩

end DecimalFront

namespace Decimal

variable {text rest : List Char} {value : Decimal} {conventions : NumberConventions}
  {front : DecimalFront}

theorem read?_eq_some_iff (splits : front.IsOf conventions text) :
    read? conventions text = some (value, rest) ↔
      ¬(front.whole = [] ∧ front.fraction = []) ∧
        ∃ base, ofDigits? front.negative front.whole front.fraction = some base ∧
          base.applyExponent conventions.exponentSymbol.toList front.rest = (value, rest) := by
  simp only [read?, splits.signed.dropSign_eq, isDigit_eq, splits.longest.takeWhile_eq,
    splits.longest.dropWhile_eq, splits.fractional.splitFraction_eq]
  split
  next empty => simp [empty]
  next digits => simp [digits, Option.bind_eq_some_iff]

theorem read?_eq_none_iff (splits : front.IsOf conventions text) :
    read? conventions text = none ↔
      (front.whole = [] ∧ front.fraction = []) ∨
        ofDigits? front.negative front.whole front.fraction = none := by
  simp only [read?, splits.signed.dropSign_eq, isDigit_eq, splits.longest.takeWhile_eq,
    splits.longest.dropWhile_eq, splits.fractional.splitFraction_eq]
  split
  next empty => simp [empty]
  next digits =>
    cases ofDigits? front.negative front.whole front.fraction <;> simp [digits]

/-- A decimal is read as the same one from just the text that it was read from. -/
theorem read?_alone {used : List Char}
    (found : read? conventions (used ++ rest) = some (value, rest)) :
    read? conventions used = some (value, []) := by
  obtain ⟨front, unique⟩ := DecimalFront.exists_isOf_iff conventions (used ++ rest)
  have splits := (unique front).2 rfl
  obtain ⟨digits, base, made, applied⟩ := (read?_eq_some_iff splits).1 found
  obtain ⟨exponent, read⟩ := applyExponent_eq_iff.1 applied
  obtain ⟨written, rest_eq, alone⟩ := read.exists_alone
  have used_eq :
      used = front.sign ++ (front.whole ++ (front.point ++ (front.fraction ++ written))) := by
    have text_eq := splits.text_eq
    rw [rest_eq] at text_eq
    simp only [← List.append_assoc] at text_eq ⊢
    exact List.append_cancel_right text_eq
  have cut := splits.of_isPrefix (rest_eq ▸ List.prefix_append written rest)
  rw [used_eq]
  exact (read?_eq_some_iff cut).2 ⟨digits, base, made, applyExponent_eq_iff.2 ⟨exponent, alone⟩⟩

end Decimal

namespace DecimalFront

variable {conventions : NumberConventions} {text : List Char} {front : DecimalFront}
  {power : ExponentFront}

/-- An exponent behind a decimal is in reach, and the product is a decimal. -/
structure Reaches (front : DecimalFront) (exponent : ℤ) : Prop where
  inReach : Decimal.InReach front.fraction.length exponent
  isRepresentable : Decimal.IsRepresentable (front.number * 10 ^ exponent)

/-- What is read of a decimal that fits and has an exponent behind it: the product with the power of ten
if the exponent reaches it, and else the decimal without the exponent. -/
theorem IsOf.exists_read?_eq_some (splits : front.IsOf conventions text)
    (digits : ¬(front.whole = [] ∧ front.fraction = [])) (fits : front.Fits)
    (follows : power.IsOf conventions.exponentSymbol.toList front.rest) :
    ∃ value rest, Decimal.read? conventions text = some (value, rest) ∧
      (front.Reaches power.exponent ∧ rest = power.rest ∧
          value.toRat = front.number * 10 ^ power.exponent ∨
        ¬front.Reaches power.exponent ∧ rest = front.rest ∧ value.toRat = front.number) := by
  obtain ⟨base, made, coefficient, scale⟩ := Decimal.exists_ofDigits?_eq_some front.negative
    splits.longest.all splits.fractional.all fits.1 fits.2
  have number : base.toRat = front.number := by
    rw [Decimal.toRat, coefficient, scale, DecimalFront.number]
  have applied : base.applyExponent conventions.exponentSymbol.toList front.rest = _ :=
    Decimal.applyExponent_of_isOf follows
  have read {value : Decimal} {rest : List Char}
      (found : base.applyExponent conventions.exponentSymbol.toList front.rest = (value, rest)) :
      Decimal.read? conventions text = some (value, rest) :=
    (Decimal.read?_eq_some_iff splits).2 ⟨digits, base, made, found⟩
  cases product : base.timesPowerOfTen? power.negative (numberOf 10 power.digits) with
  | some value =>
      rw [product] at applied
      have value_eq := Decimal.toRat_of_timesPowerOfTen? product
      have inReach := Decimal.inReach_of_timesPowerOfTen? product
      rw [number] at value_eq
      rw [scale] at inReach
      exact ⟨value, power.rest, read applied, .inl ⟨⟨inReach, value, value_eq⟩, rfl, value_eq⟩⟩
  | none =>
      rw [product] at applied
      refine ⟨base, front.rest, read applied, .inr ⟨fun reaches => ?_, rfl, number⟩⟩
      obtain ⟨inReach, representable⟩ := reaches
      rw [← scale] at inReach
      rw [← number] at representable
      obtain ⟨value, found⟩ := Decimal.exists_timesPowerOfTen?_eq_some inReach representable
      rw [product] at found
      cases found

/-- What is behind an exponent is left just if the exponent reaches a decimal. -/
theorem IsOf.exists_read?_iff (splits : front.IsOf conventions text)
    (digits : ¬(front.whole = [] ∧ front.fraction = [])) (fits : front.Fits)
    (follows : power.IsOf conventions.exponentSymbol.toList front.rest) :
    (∃ value, Decimal.read? conventions text = some (value, power.rest)) ↔
      front.Reaches power.exponent := by
  obtain ⟨value, rest, read, ⟨reached, rfl, -⟩ | ⟨unreached, rfl, -⟩⟩ :=
    splits.exists_read?_eq_some digits fits follows
  · exact ⟨fun _ => reached, fun _ => ⟨value, read⟩⟩
  · constructor
    · rintro ⟨other, isRead⟩
      rw [read, Option.some.injEq, Prod.mk.injEq] at isRead
      exact absurd isRead.2.symm follows.rest_ne
    · exact (absurd · unreached)

end DecimalFront

namespace Decimal

/-- **Decimals are read exactly.** A text can be split in just one way into a sign, if it starts
with one, all digits after it, a fraction if there is one, and the rest. Nothing is read just if
there are no digits or they make no decimal, which digits that fit always do. Otherwise the rest is
left, or what comes after an exponent at its start if the product with the power of ten is found. The
value of digits that fit is the number that they write times that power, and an exponent behind them is
read just if it reaches a decimal. -/
theorem reading_is_exact (conventions : NumberConventions) (text : List Char) :
    ∃ front : DecimalFront,
      (∀ other : DecimalFront, other.IsOf conventions text ↔ other = front) ∧
      text = front.sign ++ (front.whole ++ (front.point ++ (front.fraction ++ front.rest))) ∧
      (read? conventions text = none ↔
        (front.whole = [] ∧ front.fraction = []) ∨
          ofDigits? front.negative front.whole front.fraction = none) ∧
      (front.Fits → ofDigits? front.negative front.whole front.fraction ≠ none) ∧
      (∀ value rest, read? conventions text = some (value, rest) →
        ∃ base exponent,
          ofDigits? front.negative front.whole front.fraction = some base ∧
          ExponentRead conventions.exponentSymbol.toList base front.rest exponent value rest ∧
          (front.Fits → value.toRat = front.number * 10 ^ exponent)) ∧
      (¬(front.whole = [] ∧ front.fraction = []) → front.Fits →
        ∀ power : ExponentFront, power.IsOf conventions.exponentSymbol.toList front.rest →
          ((∃ value, read? conventions text = some (value, power.rest)) ↔
            front.Reaches power.exponent)) := by
  obtain ⟨front, unique⟩ := DecimalFront.exists_isOf_iff conventions text
  have splits := (unique front).2 rfl
  refine ⟨front, unique, splits.text_eq, read?_eq_none_iff splits, ?_, ?_, ?_⟩
  · intro fits
    obtain ⟨decimal, made, -⟩ := splits.exists_toRat_eq fits
    rw [made]
    exact Option.some_ne_none decimal
  · intro value rest found
    obtain ⟨-, base, made, applied⟩ := (read?_eq_some_iff splits).1 found
    obtain ⟨exponent, read⟩ := applyExponent_eq_iff.1 applied
    refine ⟨base, exponent, made, read, fun fits => ?_⟩
    obtain ⟨decimal, same, number⟩ := splits.exists_toRat_eq fits
    obtain rfl := Option.some.inj (made.symm.trans same)
    rw [read.toRat_eq, number]
  · intro digits fits power follows
    exact splits.exists_read?_iff digits fits follows

/-- An exponent that is out of reach is left unread. -/
example : (read? .american "1.50e-99x".toList).map
    (fun found => (found.1.coefficient, found.1.scale, found.2)) =
      some (150, 2, "e-99x".toList) := by
  decide

variable {conventions : NumberConventions} {text : List Char} {front : DecimalFront}
  {power : ExponentFront}

/-- **An exponent is read just if it reaches a decimal.** Behind a decimal that fits there is an
exponent. It is read, and the value is the product with the power of ten, just if that product is a
decimal, the exponent is at most the greatest scale, and so is the scale that it leads to. In every
other case the exponent is left and the value is that of the digits. -/
theorem exponent_is_read_iff_reaches (splits : front.IsOf conventions text)
    (digits : ¬(front.whole = [] ∧ front.fraction = [])) (fits : front.Fits)
    (follows : power.IsOf conventions.exponentSymbol.toList front.rest) :
    ((∃ value, read? conventions text = some (value, power.rest) ∧
        value.toRat = front.number * 10 ^ power.exponent) ↔
      IsRepresentable (front.number * 10 ^ power.exponent) ∧
        power.exponent ≤ 28 ∧ front.fraction.length - power.exponent ≤ 28) ∧
    ((∃ value, read? conventions text = some (value, front.rest) ∧ value.toRat = front.number) ↔
      ¬(IsRepresentable (front.number * 10 ^ power.exponent) ∧
        power.exponent ≤ 28 ∧ front.fraction.length - power.exponent ≤ 28)) := by
  have reaches : front.Reaches power.exponent ↔
      IsRepresentable (front.number * 10 ^ power.exponent) ∧
        power.exponent ≤ 28 ∧ front.fraction.length - power.exponent ≤ 28 :=
    ⟨fun found => ⟨found.isRepresentable, found.inReach.exponent_le, found.inReach.scale_le⟩,
      fun ⟨representable, exponent_le, scale_le⟩ => ⟨⟨exponent_le, scale_le⟩, representable⟩⟩
  rw [← reaches]
  obtain ⟨value, rest, read, ⟨reached, rfl, product⟩ | ⟨unreached, rfl, number⟩⟩ :=
    splits.exists_read?_eq_some digits fits follows
  · refine ⟨⟨fun _ => reached, fun _ => ⟨value, read, product⟩⟩, ?_, (absurd reached ·)⟩
    rintro ⟨other, unread, -⟩
    rw [read, Option.some.injEq, Prod.mk.injEq] at unread
    exact absurd unread.2 follows.rest_ne
  · refine ⟨⟨?_, (absurd · unreached)⟩, fun _ => unreached, fun _ => ⟨value, read, number⟩⟩
    rintro ⟨other, isRead, -⟩
    rw [read, Option.some.injEq, Prod.mk.injEq] at isRead
    exact absurd isRead.2.symm follows.rest_ne

/-- The exponent leads to the greatest scale. -/
theorem exponent_is_read_iff_reaches_greatestScale :
    let front : DecimalFront := ⟨false, [], ['1'], ['.'], ['5', '0'], "e-26;".toList⟩
    let power : ExponentFront := ⟨['e'], true, ['-'], ['2', '6'], [';']⟩
    front.IsOf .american "1.50e-26;".toList ∧ ¬(front.whole = [] ∧ front.fraction = []) ∧
    front.Fits ∧ power.IsOf NumberConventions.american.exponentSymbol.toList front.rest ∧
    ∃ value, read? .american "1.50e-26;".toList = some (value, [';']) ∧
      value.toRat = 150 * 10 ^ (-28 : ℤ) := by
  intro front power
  have splits : front.IsOf .american "1.50e-26;".toList :=
    { signed := .unsigned _ (goesOnWith_cons.2 (by decide))
      longest := ⟨by simp [front], goesOnWith_cons.2 (by decide)⟩
      fractional := .present ['5', '0'] "e-26;".toList (by decide)
        ⟨by simp, goesOnWith_cons.2 (by decide)⟩ }
  have digits : ¬(front.whole = [] ∧ front.fraction = []) := by decide
  have fits : front.Fits := ⟨by decide, by decide⟩
  have follows : power.IsOf NumberConventions.american.exponentSymbol.toList front.rest :=
    { text_eq := rfl
      given := by decide
      spelled := by decide
      signed := .negative _
      nonempty := by decide
      longest := ⟨by simp [power], goesOnWith_cons.2 (by decide)⟩ }
  have exponent : power.exponent = -26 := by decide
  have digitsOf : numberOf 10 (front.whole ++ front.fraction) = 150 := by decide
  have number : front.number * 10 ^ power.exponent = 150 * 10 ^ (-28 : ℤ) := by
    rw [exponent, DecimalFront.number, digitsOf]
    norm_num [IntRange.withSign, front]
  have representable : IsRepresentable (front.number * 10 ^ power.exponent) :=
    ⟨⟨false, 150, 28, by decide, by decide⟩, by rw [number]; rfl⟩
  have reached := (exponent_is_read_iff_reaches splits digits fits follows).1.2
    ⟨representable, by decide, by decide⟩
  rw [number] at reached
  exact ⟨splits, digits, fits, follows, reached⟩

/-- An exponent may be left unread although the product is a decimal: ten times the first power of ten
that is too small is the last one that is not. -/
theorem exponent_left_unread_of_representable :
    let front : DecimalFront := ⟨false, [], ['1', '0'], [], [], "e-29".toList⟩
    let power : ExponentFront := ⟨['e'], true, ['-'], ['2', '9'], []⟩
    front.IsOf .american "10e-29".toList ∧ ¬(front.whole = [] ∧ front.fraction = []) ∧
    front.Fits ∧ power.IsOf NumberConventions.american.exponentSymbol.toList front.rest ∧
    IsRepresentable (front.number * 10 ^ power.exponent) ∧
    (∃ value, read? .american "10e-29".toList = some (value, "e-29".toList) ∧ value.toRat = 10) ∧
    ¬∃ value, read? .american "10e-29".toList = some (value, power.rest) := by
  intro front power
  have splits : front.IsOf .american "10e-29".toList :=
    { signed := .unsigned _ (goesOnWith_cons.2 (by decide))
      longest := ⟨by simp [front], goesOnWith_cons.2 (by decide)⟩
      fractional := .absent _ fun rest starts => by cases starts }
  have digits : ¬(front.whole = [] ∧ front.fraction = []) := by decide
  have fits : front.Fits := ⟨by decide, by decide⟩
  have follows : power.IsOf NumberConventions.american.exponentSymbol.toList front.rest :=
    { text_eq := rfl
      given := by decide
      spelled := by decide
      signed := .negative _
      nonempty := by decide
      longest := ⟨by simp [power], by simp [GoesOnWith, power]⟩ }
  have found : read? .american "10e-29".toList =
      some (⟨false, 10, 0, by decide, by decide⟩, "e-29".toList) := by
    decide +kernel
  have exponent : power.exponent = -29 := by decide
  have digitsOf : numberOf 10 (front.whole ++ front.fraction) = 10 := by decide
  have representable : IsRepresentable (front.number * 10 ^ power.exponent) := by
    refine ⟨⟨false, 1, 28, by decide, by decide⟩, ?_⟩
    rw [exponent, DecimalFront.number, digitsOf]
    norm_num [toRat, coefficient, IntRange.withSign, front]
  refine ⟨splits, digits, fits, follows, representable, ⟨_, found, ?_⟩, ?_⟩
  · norm_num [toRat, coefficient]
  · rintro ⟨value, isRead⟩
    rw [found] at isRead
    cases isRead

end Decimal

end TextGrammar
