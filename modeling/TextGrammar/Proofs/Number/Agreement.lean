import TextGrammar.Proofs.Decimal.Reading
import TextGrammar.Proofs.Leaf.Long

/-!
# The readers of numbers agree

Where a long is read, a decimal can be read as well, since it has room for all longs. Both readers take
the same sign and the same digits. The decimal may go on with a fraction or an exponent; if it does not,
it is the same number.
-/

namespace TextGrammar

open Text

namespace Decimal

/-! ## Rounding -/

variable {coefficient scale : Nat}

/-- A coefficient and a scale are in range, and if there are no digits after the point that could be
dropped, then the next coefficient is in range too. -/
structure HasRoom (coefficient scale : Nat) : Prop where
  coefficient_lt : coefficient < coefficientLimit
  scale_le : scale ≤ greatestScale
  succ_lt : scale = 0 → coefficient + 1 < coefficientLimit

theorem HasRoom.exists_roundOff?_eq_some (room : HasRoom coefficient scale) (digit : Nat) :
    ∃ size places, roundOff? coefficient scale digit = some (size, places) ∧
      size < coefficientLimit ∧ places ≤ greatestScale := by
  unfold roundOff?
  split
  next => exact ⟨_, _, rfl, room.coefficient_lt, room.scale_le⟩
  next =>
    split
    next next_lt => exact ⟨_, _, rfl, next_lt, room.scale_le⟩
    next full =>
      rw [if_neg fun unscaled => full (room.succ_lt unscaled)]
      refine ⟨_, _, rfl, ?_, Nat.le_trans (Nat.sub_le _ _) room.scale_le⟩
      have inRange := room.coefficient_lt
      simp only [coefficientLimit] at inRange ⊢
      omega

/-- Digits after the point always give a coefficient and a scale in range, since those that do not fit
are rounded off. -/
theorem HasRoom.exists_appendFraction?_eq_some (room : HasRoom coefficient scale)
    (digits : List Nat) :
    ∃ size places, appendFraction? coefficient scale digits = some (size, places) ∧
      size < coefficientLimit ∧ places ≤ greatestScale := by
  induction digits generalizing coefficient scale with
  | nil => exact ⟨_, _, rfl, room.coefficient_lt, room.scale_le⟩
  | cons digit digits ih =>
      rw [appendFraction?]
      split
      next fits =>
        exact ih ⟨fits.2, fits.1, fun unscaled => absurd unscaled (Nat.succ_ne_zero _)⟩
      next => exact room.exists_roundOff?_eq_some digit

/-- Digits make a decimal, however many are after the point, if there is room for those before it. -/
theorem exists_ofDigits?_eq_some_of_lt (negative : Bool) {whole : List Char}
    (wholeDigits : ∀ c ∈ whole, c.isDigit = true)
    (room : numberOf 10 whole + 1 < coefficientLimit) (fraction : List Char) :
    ∃ decimal, ofDigits? negative whole fraction = some decimal := by
  have wholeFits := Nat.lt_of_succ_lt room
  obtain ⟨size, places, appended, size_lt, places_le⟩ :=
    HasRoom.exists_appendFraction?_eq_some
      ⟨wholeFits, Nat.zero_le greatestScale, fun _ => room⟩ (digitValues 10 fraction)
  have inRange : (IntRange.withSign negative size).natAbs < coefficientLimit := by
    rw [IntRange.natAbs_withSign]
    exact size_lt
  simp only [ofDigits?, decimalValue_eq wholeDigits, Nat.not_le.2 wholeFits, if_false, appended]
  exact exists_ofParts?_eq_some inRange places_le

/-- Digits without any after the point make the integer that they write. -/
theorem toRat_of_ofDigits?_nil {negative : Bool} {whole : List Char} {decimal : Decimal}
    (wholeDigits : ∀ c ∈ whole, c.isDigit = true) (fits : numberOf 10 whole < coefficientLimit)
    (made : ofDigits? negative whole [] = some decimal) :
    decimal.toRat = IntRange.withSign negative (numberOf 10 whole) := by
  rw [← List.append_nil whole] at fits
  obtain ⟨integer, integerMade, coefficient, scale⟩ :=
    exists_ofDigits?_eq_some negative wholeDigits (by simp) fits (Nat.zero_le _)
  obtain rfl := Option.some.inj (made.symm.trans integerMade)
  rw [List.append_nil] at coefficient
  simp [toRat, coefficient, scale]

end Decimal

/-! ## Behind the digits of an integer -/

/-- What a decimal may have behind its first digits: it starts with the separator, or with the symbol of
exponents in whatever case. -/
def NumberConventions.GoesOnDecimal (conventions : NumberConventions) (further : List Char) : Prop :=
  (∃ others, further = conventions.decimalSeparator :: others) ∨
    ∃ symbol others, further = symbol ++ others ∧ symbol ≠ [] ∧
      symbol.map Char.toLower = conventions.exponentSymbol.toList.map Char.toLower

/-- An exponent is read with all that stands before the rest, and without one the decimal is the same as
before. -/
theorem Decimal.ExponentRead.exists_append {symbol text rest : List Char} {base value : Decimal}
    {exponent : ℤ} (read : ExponentRead symbol base text exponent value rest) :
    ∃ written, text = written ++ rest ∧ (written = [] → value = base) ∧
      (written ≠ [] → ∃ spelled others, written = spelled ++ others ∧ spelled ≠ [] ∧
        spelled.map Char.toLower = symbol.map Char.toLower) := by
  cases read with
  | read front product splits accepted =>
      refine ⟨front.symbol ++ (front.sign ++ front.digits), ?_, ?_, ?_⟩
      · rw [splits.text_eq, List.append_assoc, List.append_assoc]
      · intro empty
        exact absurd (List.append_eq_nil_iff.1 empty).1 splits.symbol_ne_nil
      · intro _
        exact ⟨front.symbol, _, rfl, splits.symbol_ne_nil, splits.spelled⟩
  | unread refused => exact ⟨[], rfl, fun _ => rfl, fun nonempty => absurd rfl nonempty⟩

namespace IntegerFront

variable {conventions : NumberConventions} {text : List Char} {integer : IntegerFront}
  {front : DecimalFront}

/-- A decimal has the sign of an integer in the same text and its digits. -/
theorem IsOf.decimalFront_eq (splits : integer.IsOf conventions 10 text)
    (decimalSplits : front.IsOf conventions text) :
    front.negative = integer.negative ∧ front.sign = integer.sign ∧ front.whole = integer.digits ∧
      front.point ++ (front.fraction ++ front.rest) = integer.rest := by
  obtain ⟨negative, sign, unsigned⟩ := decimalSplits.signed.unique splits.signed
  have longest := splits.longest
  rw [isDigitBelow_ten] at longest
  obtain ⟨digits, rest⟩ := decimalSplits.longest.append_inj longest unsigned
  exact ⟨negative, sign, digits, rest⟩

/-- Where an integer of 64 bits stands, a decimal can be read. If it has no more characters than the
integer, it is the same number. -/
theorem IsOf.exists_read?_eq_some (splits : integer.IsOf conventions 10 text)
    (fits : integer.FitsLong 10) :
    ∃ decimal further rest, Decimal.read? conventions text = some (decimal, rest) ∧
      integer.rest = further ++ rest ∧
      (further = [] → decimal.toRat = (integer.value 10 : ℤ)) ∧
      (further ≠ [] → conventions.GoesOnDecimal further) := by
  obtain ⟨front, unique⟩ := DecimalFront.exists_isOf_iff conventions text
  have decimalSplits := (unique front).2 rfl
  obtain ⟨negative, -, whole, following⟩ := splits.decimalFront_eq decimalSplits
  obtain ⟨nonempty, least, greatest⟩ := fits
  have digits : ∀ c ∈ integer.digits, c.isDigit = true := isDigitBelow_ten ▸ splits.longest.all
  have size_le : numberOf 10 integer.digits ≤ 9223372036854775808 := by
    rw [value] at least greatest
    rw [← IntRange.natAbs_withSign integer.negative (numberOf 10 integer.digits)]
    omega
  have room : numberOf 10 integer.digits + 1 < coefficientLimit :=
    Nat.lt_of_le_of_lt (Nat.succ_le_succ size_le) (by decide)
  obtain ⟨base, made⟩ :=
    Decimal.exists_ofDigits?_eq_some_of_lt integer.negative digits room front.fraction
  obtain ⟨⟨decimal, rest⟩, applied⟩ :
      ∃ found, base.applyExponent conventions.exponentSymbol.toList front.rest = found := ⟨_, rfl⟩
  obtain ⟨exponent, exponentRead⟩ := Decimal.applyExponent_eq_iff.1 applied
  obtain ⟨written, rest_eq, same, spelled⟩ := exponentRead.exists_append
  refine ⟨decimal, front.point ++ (front.fraction ++ written), rest, ?_, ?_, ?_, ?_⟩
  · refine (Decimal.read?_eq_some_iff decimalSplits).2 ⟨?_, base, ?_, applied⟩
    · rw [whole]
      exact fun empty => nonempty empty.1
    · rw [negative, whole]
      exact made
  · rw [← following, List.append_assoc, List.append_assoc, ← rest_eq]
  · intro empty
    obtain ⟨-, noFraction, unwritten⟩ : _ ∧ front.fraction = [] ∧ written = [] := by
      simpa using empty
    rw [noFraction] at made
    rw [same unwritten]
    exact Decimal.toRat_of_ofDigits?_nil digits (Nat.lt_of_succ_lt room) made
  · intro more
    rcases decimalSplits.fractional.point_eq with ⟨noPoint, noFraction⟩ | point
    · rw [noPoint, noFraction, List.nil_append, List.nil_append] at more ⊢
      exact .inr (spelled more)
    · exact .inl ⟨front.fraction ++ written, by rw [point, List.singleton_append]⟩

end IntegerFront

namespace Leaf

variable {conventions : Conventions} {start : Cursor} {token : Token}

/-- Where a long matches, a decimal is found with what it uses and perhaps more. -/
theorem exists_finds_decimal_of_long
    (matched : ((long .ten).matcher conventions start).outcome = .matched token) :
    ∃ integer used value further rest,
      (long .ten).Finds conventions start (.long integer) used (further ++ rest) ∧
      decimal.Finds conventions start (.decimal value) (used ++ further) rest ∧
      (further = [] → value.toRat = integer) ∧
      (further ≠ [] → conventions.number.GoesOnDecimal further) := by
  obtain ⟨value, used, reading, -, -⟩ := matches_matcher_iff.1 ⟨matched, rfl⟩
  obtain ⟨front, unique⟩ := IntegerFront.exists_isOf_iff conventions.number 10 start.after
  have splits := (unique front).2 rfl
  obtain ⟨fits, -, -⟩ := (readLong_eq_found_iff splits).1 reading
  obtain ⟨value, further, rest, read, rest_eq, same, goesOn⟩ := splits.exists_read?_eq_some fits
  have text : start.after = (front.sign ++ front.digits) ++ (further ++ rest) := by
    rw [← rest_eq, List.append_assoc]
    exact splits.signed.text_eq
  have nonempty : (front.sign ++ front.digits) ++ further ≠ [] :=
    List.append_ne_nil_of_left_ne_nil (List.append_ne_nil_of_right_ne_nil _ fits.1) _
  refine ⟨front.value 10, front.sign ++ front.digits, value, further, rest, ?_, ?_, same, goesOn⟩
  · exact finds_of_read text ((readLong_eq_found_iff splits).2 ⟨fits, rfl, rfl⟩)
  · rw [← List.append_assoc] at text
    have answer : Format.decimal.read? conventions start.after = some (.decimal value, rest) :=
      Option.map_eq_some_iff.2 ⟨_, read, rfl⟩
    exact finds_of_read text (found_ofFormat_iff.2 ⟨rest, answer, nonempty, text⟩)

/-- **The readers of numbers agree.** Wherever a long matches, a decimal matches too, and uses at least
as many bytes. If it uses as many, it is the same number. If it uses more, they start with the separator
of decimals or with the symbol of exponents. -/
theorem number_readers_agree
    (matched : ((long .ten).matcher conventions start).outcome = .matched token) :
    let longEnd := ((long .ten).matcher conventions start).cursor.offset
    let decimalEnd := (decimal.matcher conventions start).cursor.offset
    ∃ integer used value further rest,
      (long .ten).Finds conventions start (.long integer) used (further ++ rest) ∧
      decimal.Finds conventions start (.decimal value) (used ++ further) rest ∧
      longEnd ≤ decimalEnd ∧
      (longEnd = decimalEnd → value.toRat = integer) ∧
      (longEnd < decimalEnd → conventions.number.GoesOnDecimal further) := by
  intro longEnd decimalEnd
  obtain ⟨integer, used, value, further, rest, integerFound, found, same, goesOn⟩ :=
    exists_finds_decimal_of_long matched
  have behind : decimalEnd = longEnd + byteSize further := by
    simp only [decimalEnd, longEnd, found.passes.offset_eq, integerFound.passes.offset_eq,
      byteSize_append, Nat.add_assoc]
  refine ⟨integer, used, value, further, rest, integerFound, found, ?_, ?_, ?_⟩
  · rw [behind]
    exact Nat.le_add_right _ _
  · intro level
    rw [behind] at level
    exact same (byteSize_eq_zero.1 (Nat.left_eq_add.1 level))
  · intro more
    refine goesOn fun empty => ?_
    rw [behind, empty] at more
    exact Nat.lt_irrefl _ more

/-- The sign is a digit here, and the decimal goes on with a fraction and an exponent. -/
theorem number_readers_agree_digitAsSign :
    let conventions : Conventions :=
      { Conventions.english 2000 with number := ⟨',', "E", '1', '+'⟩ }
    let start : Cursor := ⟨['x'], "12,5e1;".toList⟩
    let longReply := (long .ten).matcher conventions start
    let decimalReply := decimal.matcher conventions start
    longReply.outcome = .matched (.leaf (.long (-2)) "12") ∧
    longReply.cursor.offset = 3 ∧ decimalReply.cursor.offset = 7 ∧
    ∃ integer used value further rest,
      (long .ten).Finds conventions start (.long integer) used (further ++ rest) ∧
      decimal.Finds conventions start (.decimal value) (used ++ further) rest ∧
      conventions.number.GoesOnDecimal further := by
  intro conventions start longReply decimalReply
  have matched : longReply.outcome = .matched (.leaf (.long (-2)) "12") := rfl
  have longEnd : longReply.cursor.offset = 3 := rfl
  have decimalEnd : decimalReply.cursor.offset = 7 := by decide +kernel
  obtain ⟨integer, used, value, further, rest, integerFound, found, -, -, goesOn⟩ :=
    number_readers_agree matched
  have more : longReply.cursor.offset < decimalReply.cursor.offset := by
    rw [longEnd, decimalEnd]
    decide
  exact ⟨matched, longEnd, decimalEnd, integer, used, value, further, rest, integerFound, found,
    goesOn more⟩

end Leaf

end TextGrammar
