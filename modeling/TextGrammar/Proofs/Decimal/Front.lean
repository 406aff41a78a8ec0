import TextGrammar.Proofs.Integer.Range
import TextGrammar.Proofs.Number.Sign
import TextGrammar.Proofs.Text.Delimited

/-!
# The parts of a decimal in a text

A text is split into the parts that a decimal at its front would have, and an exponent after it is
split into its parts as well. Each part takes as much of the text as it can, so there is just one
way to do this, and it is the way in which decimals are read.
-/

namespace TextGrammar

open Text

/-! ## Fractions -/

/-- A text starts with a separator and digits, which are all there are, or else without a fraction.
It is split into the separator if there is a fraction, its digits and the rest. -/
inductive FractionSplit (separator : Char) :
    List Char → List Char → List Char → List Char → Prop where
  | present (digits rest : List Char) (nonempty : digits ≠ [])
      (longest : IsLongestRun Char.isDigit digits rest) :
      FractionSplit separator (separator :: (digits ++ rest)) [separator] digits rest
  | absent (text : List Char)
      (incomplete : ∀ rest, text = separator :: rest → GoesOnWith (Char.isDigit · = false) rest) :
      FractionSplit separator text [] [] text

namespace FractionSplit

variable {separator : Char} {text point digits rest : List Char}

theorem text_eq (split : FractionSplit separator text point digits rest) :
    text = point ++ (digits ++ rest) := by
  cases split <;> rfl

theorem all (split : FractionSplit separator text point digits rest) :
    ∀ c ∈ digits, c.isDigit = true := by
  cases split with
  | present digits rest nonempty longest => exact longest.all
  | absent text incomplete => simp

/-- Digits have the separator before them. -/
theorem point_eq (split : FractionSplit separator text point digits rest) :
    (point = [] ∧ digits = []) ∨ point = [separator] := by
  cases split with
  | present digits rest nonempty longest => exact .inr rfl
  | absent text incomplete => exact .inl ⟨rfl, rfl⟩

/-- Where the text is cut behind the fraction makes no difference to the fraction. -/
theorem of_isPrefix {front : List Char} (split : FractionSplit separator text point digits rest)
    (isFront : front <+: rest) :
    FractionSplit separator (point ++ (digits ++ front)) point digits front := by
  cases split with
  | present digits rest nonempty longest =>
      exact .present digits front nonempty (longest.of_isPrefix isFront)
  | absent text incomplete =>
      refine .absent front ?_
      rintro others rfl
      obtain ⟨cut, rfl⟩ := isFront
      exact (incomplete (others ++ cut) rfl).of_isPrefix (List.prefix_append others cut)

/-- The reader of fractions finds the digits of the split. -/
theorem splitFraction_eq (split : FractionSplit separator text point digits rest) :
    Decimal.splitFraction separator text = (digits, rest) := by
  cases split with
  | present digits rest nonempty longest =>
      simp [Decimal.splitFraction, isDigit_eq, longest.takeWhile_eq, longest.dropWhile_eq, nonempty]
  | absent text incomplete =>
      cases text with
      | nil => rfl
      | cons c rest =>
          refine if_neg ?_
          rintro ⟨rfl, digits⟩
          rw [isDigit_eq] at digits
          exact digits (takeWhile_eq_nil_iff.2 (incomplete rest rfl))

/-- Every text can be split so. -/
theorem exists_split (separator : Char) (text : List Char) :
    ∃ point digits rest, FractionSplit separator text point digits rest := by
  by_cases found : ∃ rest, text = separator :: rest ∧ rest.takeWhile Char.isDigit ≠ []
  · obtain ⟨rest, rfl, nonempty⟩ := found
    have split : FractionSplit separator _ _ _ _ :=
      .present _ _ nonempty (isLongestRun_takeWhile Char.isDigit rest)
    rw [List.takeWhile_append_dropWhile] at split
    exact ⟨_, _, _, split⟩
  · refine ⟨_, _, _, .absent text ?_⟩
    rintro rest rfl
    refine takeWhile_eq_nil_iff.1 ?_
    by_cases none : rest.takeWhile Char.isDigit = []
    · exact none
    · exact absurd ⟨rest, rfl, none⟩ found

/-- There is only one way to split a text. -/
theorem unique {point' digits' rest' : List Char}
    (split : FractionSplit separator text point digits rest)
    (split' : FractionSplit separator text point' digits' rest') :
    point = point' ∧ digits = digits' ∧ rest = rest' := by
  have found := split.splitFraction_eq.symm.trans split'.splitFraction_eq
  obtain ⟨rfl, rfl⟩ := Prod.mk.inj found
  exact ⟨List.append_cancel_right (split.text_eq.symm.trans split'.text_eq), rfl, rfl⟩

end FractionSplit

/-! ## Decimals without exponents -/

/-- A text that may start with a decimal, split into its sign, the digits before the separator, the
separator, the digits after it and the rest, in which the exponent is. -/
structure DecimalFront where
  negative : Bool
  sign : List Char
  whole : List Char
  point : List Char
  fraction : List Char
  rest : List Char

namespace DecimalFront

/-- The parts are those of a text: the sign if there is one, all digits after it, and the fraction
if there is one. -/
structure IsOf (conventions : NumberConventions) (text : List Char) (front : DecimalFront) :
    Prop where
  signed : SignSplit conventions.negativeSign conventions.positiveSign text front.negative
    front.sign (front.whole ++ (front.point ++ (front.fraction ++ front.rest)))
  longest : IsLongestRun Char.isDigit front.whole (front.point ++ (front.fraction ++ front.rest))
  fractional : FractionSplit conventions.decimalSeparator
    (front.point ++ (front.fraction ++ front.rest)) front.point front.fraction front.rest

variable {conventions : NumberConventions} {text : List Char} {front other : DecimalFront}

theorem IsOf.text_eq (splits : front.IsOf conventions text) :
    text = front.sign ++ (front.whole ++ (front.point ++ (front.fraction ++ front.rest))) :=
  splits.signed.text_eq

/-- Where the text is cut in the rest makes no difference to the parts before it. -/
theorem IsOf.of_isPrefix {cut : List Char} (splits : front.IsOf conventions text)
    (isFront : cut <+: front.rest) :
    { front with rest := cut }.IsOf conventions
      (front.sign ++ (front.whole ++ (front.point ++ (front.fraction ++ cut)))) := by
  have fractional : front.point ++ (front.fraction ++ cut) <+:
      front.point ++ (front.fraction ++ front.rest) := by
    rwa [List.prefix_append_right_inj, List.prefix_append_right_inj]
  have unsigned : front.whole ++ (front.point ++ (front.fraction ++ cut)) <+:
      front.whole ++ (front.point ++ (front.fraction ++ front.rest)) := by
    rwa [List.prefix_append_right_inj]
  exact
    { signed := splits.signed.of_isPrefix unsigned
      longest := splits.longest.of_isPrefix fractional
      fractional := splits.fractional.of_isPrefix isFront }

theorem IsOf.unique (splits : front.IsOf conventions text)
    (otherSplits : other.IsOf conventions text) : front = other := by
  obtain ⟨negative, sign, whole, point, fraction, rest⟩ := front
  obtain ⟨negative', sign', whole', point', fraction', rest'⟩ := other
  obtain ⟨rfl, rfl, unsigned⟩ := splits.signed.unique otherSplits.signed
  obtain ⟨rfl, following⟩ := splits.longest.append_inj otherSplits.longest unsigned
  have fractional := otherSplits.fractional
  simp only at following fractional
  rw [← following] at fractional
  obtain ⟨rfl, rfl, rfl⟩ := splits.fractional.unique fractional
  rfl

/-- Every text is split in one way. -/
theorem exists_isOf_iff (conventions : NumberConventions) (text : List Char) :
    ∃ front : DecimalFront, ∀ other : DecimalFront,
      other.IsOf conventions text ↔ other = front := by
  obtain ⟨negative, sign, unsigned, signed⟩ :=
    SignSplit.exists_split conventions.negativeSign conventions.positiveSign text
  have longest := isLongestRun_takeWhile Char.isDigit unsigned
  obtain ⟨point, fraction, rest, fractional⟩ :=
    FractionSplit.exists_split conventions.decimalSeparator (unsigned.dropWhile Char.isDigit)
  rw [← List.takeWhile_append_dropWhile (p := Char.isDigit) (l := unsigned)] at signed
  rw [fractional.text_eq] at signed longest fractional
  have splits : IsOf conventions text ⟨negative, sign, _, point, fraction, rest⟩ :=
    ⟨signed, longest, fractional⟩
  refine ⟨_, fun other => ⟨fun otherSplits => otherSplits.unique splits, ?_⟩⟩
  rintro rfl
  exact splits

end DecimalFront

/-! ## Exponents -/

/-- A text that starts with an exponent, split into its symbol, its sign, its digits and the rest.
-/
structure ExponentFront where
  symbol : List Char
  negative : Bool
  sign : List Char
  digits : List Char
  rest : List Char

namespace ExponentFront

/-- The parts are those of a text. There has to be a symbol, in whatever case, and there have to be
digits. The sign is a minus or plus in all conventions. -/
structure IsOf (symbol text : List Char) (front : ExponentFront) : Prop where
  text_eq : text = front.symbol ++ (front.sign ++ (front.digits ++ front.rest))
  given : symbol ≠ []
  spelled : front.symbol.map Char.toLower = symbol.map Char.toLower
  signed : SignSplit '-' '+' (front.sign ++ (front.digits ++ front.rest)) front.negative front.sign
    (front.digits ++ front.rest)
  nonempty : front.digits ≠ []
  longest : IsLongestRun Char.isDigit front.digits front.rest

/-- The exponent that the sign and the digits write. -/
def exponent (front : ExponentFront) : Int :=
  IntRange.withSign front.negative (numberOf 10 front.digits)

variable {symbol text : List Char} {front other : ExponentFront}

theorem IsOf.symbol_ne_nil (splits : front.IsOf symbol text) : front.symbol ≠ [] := by
  intro empty
  have spelled := splits.spelled
  rw [empty] at spelled
  exact splits.given (List.map_eq_nil_iff.1 spelled.symm)

/-- An exponent is not left in the rest. -/
theorem IsOf.rest_ne (splits : front.IsOf symbol text) : front.rest ≠ text := by
  rw [splits.text_eq, ← List.append_assoc, ← List.append_assoc, Ne, List.self_eq_append_left]
  exact List.append_ne_nil_of_right_ne_nil _ splits.nonempty

/-- An exponent is one by itself, whatever comes after it. -/
theorem IsOf.alone (splits : front.IsOf symbol text) :
    { front with rest := [] }.IsOf symbol (front.symbol ++ (front.sign ++ (front.digits ++ []))) where
  text_eq := rfl
  given := splits.given
  spelled := splits.spelled
  signed := splits.signed.of_isPrefix (by simp)
  nonempty := splits.nonempty
  longest := splits.longest.of_isPrefix List.nil_prefix

/-- The reader of exponents finds the parts of the exponent. -/
theorem IsOf.readExponent?_eq (splits : front.IsOf symbol text) :
    Decimal.readExponent? symbol text = some (front.negative, front.digits, front.rest) := by
  have dropped :=
    dropIgnoringCase?_append (front.sign ++ (front.digits ++ front.rest)) splits.spelled
  rw [← splits.text_eq] at dropped
  simp only [Decimal.readExponent?, splits.given, if_false, dropped, Option.bind_eq_bind,
    Option.bind_some, splits.signed.dropNumeralSign_eq, isDigit_eq, splits.longest.takeWhile_eq,
    splits.longest.dropWhile_eq, splits.nonempty]

/-- There is only one way to split a text. -/
theorem IsOf.unique (splits : front.IsOf symbol text) (otherSplits : other.IsOf symbol text) :
    front = other := by
  have read := splits.readExponent?_eq.symm.trans otherSplits.readExponent?_eq
  have text_eq := splits.text_eq.symm.trans otherSplits.text_eq
  have length : front.symbol.length = other.symbol.length := by
    have spelled := splits.spelled.trans otherSplits.spelled.symm
    simpa using congrArg List.length spelled
  obtain ⟨written, negative, sign, digits, rest⟩ := front
  obtain ⟨written', negative', sign', digits', rest'⟩ := other
  simp only [Option.some.injEq, Prod.mk.injEq] at read
  obtain ⟨rfl, rfl, rfl⟩ := read
  obtain ⟨rfl, following⟩ := List.append_inj text_eq length
  obtain rfl := List.append_cancel_right following
  rfl

/-- Exponents are only read where there are some. -/
theorem exists_isOf_of_readExponent? {negative : Bool} {digits rest : List Char}
    (found : Decimal.readExponent? symbol text = some (negative, digits, rest)) :
    ∃ front : ExponentFront, front.IsOf symbol text := by
  unfold Decimal.readExponent? at found
  split at found
  next => cases found
  next given =>
    obtain ⟨afterSymbol, dropped, complete⟩ := Option.bind_eq_some_iff.1 found
    obtain ⟨symbol', rfl, spelled⟩ := eq_append_of_dropIgnoringCase? dropped
    obtain ⟨negative', sign, unsigned, signed⟩ := SignSplit.exists_split '-' '+' afterSymbol
    obtain rfl := signed.text_eq
    simp only [signed.dropNumeralSign_eq, isDigit_eq] at complete
    split at complete
    next => cases complete
    next nonempty =>
      rw [← List.takeWhile_append_dropWhile (p := Char.isDigit) (l := unsigned)] at signed
      exact ⟨⟨symbol', negative', sign, _, _⟩,
        { text_eq := by simp
          given := given
          spelled := spelled
          signed := signed
          nonempty := nonempty
          longest := isLongestRun_takeWhile Char.isDigit unsigned }⟩

end ExponentFront

end TextGrammar
