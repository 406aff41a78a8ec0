import TextGrammar.Conventions
import TextGrammar.Integer
import TextGrammar.Diagnostics

/-!
# Changing tokens

Functions that make one token of another. Most keep the text and give it another value: a number
that is written with its radix in front becomes an integer, any text becomes a symbol or a sign.
-/

namespace TextGrammar

/-- The integers that a big integer can be. -/
def bigIntegerRange : IntRange := .signed 128

/-- The radix that the letter at the end of a text stands for. -/
def radixOfMark (mark : String) : Nat :=
  match mark.toList.getLast?.map Char.toLower with
  | some 'x' => 16
  | some 'o' => 8
  | some 'b' => 2
  | _ => 10

namespace Token

/-- The outcome of making a token as an outcome of reading. -/
def orInvalid (made : Except TokenError Token) : Except ParseError Token :=
  made.mapError .invalidToken

/-- The integer that a token of two children writes: the first child ends with a letter for the
radix, and the text of the second is read in that radix. -/
def prefixedNumber (token : Token) : Except ParseError Token :=
  match token with
  | .parent _ [mark, digits] text =>
      match bigIntegerRange.ofNumeral (radixOfMark mark.text) digits.text.toList with
      | .ok value => orInvalid (makeLeaf (.bigInteger value) text)
      | .error fault => .error (.transform text fault.message)
  | other => .error (.transform other.text "expected a prefix followed by digits")

/-- A symbol of the same text. A token without text stays as it is. -/
def asSymbol (token : Token) : Token :=
  (makeSymbol token.text).toOption.getD token

/-- A sequence of just the given token. -/
def wrap (token : Token) : Token :=
  (makeParent .sequence [token] token.text).toOption.getD token

/-- A sign of the same text, which is negative if the text starts with the negative sign. -/
def asSign (conventions : NumberConventions) (token : Token) : Except ParseError Token :=
  let negative := token.text.toList.head? = some conventions.negativeSign
  orInvalid (makeLeaf (.sign (if negative then .negative else .positive)) token.text)

end Token

end TextGrammar
