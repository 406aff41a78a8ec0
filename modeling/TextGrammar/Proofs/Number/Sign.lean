import TextGrammar.Decimal
import TextGrammar.Proofs.Leaf.Reading
import TextGrammar.Proofs.Text.Delimited

/-!
# Signs in front of numbers

A number may have a sign in front of it, the negative one or else the positive one. Which of the two
a text starts with, and what comes after it, is the same for whole numbers, for decimals and for
their exponents, whatever characters the signs are.
-/

namespace TextGrammar

open Text

/-- A text starts with the negative sign, with the positive one if that is another character, or
with neither. It is split into its sign, if it has one, and the rest. -/
inductive SignSplit (minus plus : Char) : List Char → Bool → List Char → List Char → Prop where
  | negative (rest : List Char) : SignSplit minus plus (minus :: rest) true [minus] rest
  | positive (rest : List Char) (other : plus ≠ minus) :
      SignSplit minus plus (plus :: rest) false [plus] rest
  | unsigned (text : List Char) (noSign : GoesOnWith (fun c => c ≠ minus ∧ c ≠ plus) text) :
      SignSplit minus plus text false [] text

namespace SignSplit

variable {minus plus : Char} {text sign rest : List Char} {negative : Bool}

theorem text_eq (split : SignSplit minus plus text negative sign rest) : text = sign ++ rest := by
  cases split <;> rfl

/-- Every text can be split so. -/
theorem exists_split (minus plus : Char) (text : List Char) :
    ∃ negative sign rest, SignSplit minus plus text negative sign rest := by
  cases text with
  | nil => exact ⟨_, _, _, .unsigned [] (by simp [GoesOnWith])⟩
  | cons c rest =>
      by_cases isNegative : c = minus
      · subst isNegative
        exact ⟨_, _, _, .negative rest⟩
      · by_cases isPositive : c = plus
        · subst isPositive
          exact ⟨_, _, _, .positive rest isNegative⟩
        · exact ⟨_, _, _, .unsigned _ (goesOnWith_cons.2 ⟨isNegative, isPositive⟩)⟩

/-- There is only one way to split a text. -/
theorem unique {negative' : Bool} {sign' rest' : List Char}
    (split : SignSplit minus plus text negative sign rest)
    (split' : SignSplit minus plus text negative' sign' rest') :
    negative = negative' ∧ sign = sign' ∧ rest = rest' := by
  cases split with
  | negative rest =>
      cases split' with
      | negative => exact ⟨rfl, rfl, rfl⟩
      | positive _ other => exact absurd rfl other
      | unsigned _ noSign => exact absurd rfl (goesOnWith_cons.1 noSign).1
  | positive rest other =>
      cases split' with
      | negative => exact absurd rfl other
      | positive => exact ⟨rfl, rfl, rfl⟩
      | unsigned _ noSign => exact absurd rfl (goesOnWith_cons.1 noSign).2
  | unsigned text noSign =>
      cases split' with
      | negative => exact absurd rfl (goesOnWith_cons.1 noSign).1
      | positive => exact absurd rfl (goesOnWith_cons.1 noSign).2
      | unsigned => exact ⟨rfl, rfl, rfl⟩

/-- Where the text is cut behind the sign makes no difference to the sign. -/
theorem of_isPrefix {front : List Char} (split : SignSplit minus plus text negative sign rest)
    (isFront : front <+: rest) : SignSplit minus plus (sign ++ front) negative sign front := by
  cases split with
  | negative rest => exact .negative front
  | positive rest other => exact .positive front other
  | unsigned text noSign => exact .unsigned front (noSign.of_isPrefix isFront)

/-- The reader of numerals drops the sign of the split. -/
theorem dropNumeralSign_eq (split : SignSplit '-' '+' text negative sign rest) :
    dropNumeralSign text = (negative, rest) := by
  cases split with
  | negative => rfl
  | positive => rfl
  | unsigned text noSign =>
      cases text with
      | nil => rfl
      | cons c rest =>
          obtain ⟨notMinus, notPlus⟩ := goesOnWith_cons.1 noSign
          simp [dropNumeralSign, notMinus, notPlus]

variable {conventions : NumberConventions}

/-- The reader of signs finds the sign of the split. -/
theorem readSign?_eq (split : SignSplit conventions.negativeSign conventions.positiveSign text
    negative sign rest) :
    (readSign? conventions text).any (fun found => found.1 = .negative) = negative ∧
      (readSign? conventions text).toList.map Prod.snd = sign := by
  cases split with
  | negative rest => simp [readSign?]
  | positive rest other => simp [readSign?, other]
  | unsigned text noSign =>
      cases text with
      | nil => simp [readSign?]
      | cons c rest =>
          obtain ⟨notNegative, notPositive⟩ := goesOnWith_cons.1 noSign
          simp [readSign?, notNegative, notPositive]

/-- The reader of decimals drops the sign of the split. -/
theorem dropSign_eq (split : SignSplit conventions.negativeSign conventions.positiveSign text
    negative sign rest) : Decimal.dropSign conventions text = (negative, rest) := by
  cases split with
  | negative rest => simp [Decimal.dropSign]
  | positive rest other => simp [Decimal.dropSign, other]
  | unsigned text noSign =>
      cases text with
      | nil => rfl
      | cons c rest =>
          obtain ⟨notNegative, notPositive⟩ := goesOnWith_cons.1 noSign
          simp [Decimal.dropSign, notNegative, notPositive]

end SignSplit

end TextGrammar
