import TextGrammar.Text.Property
import TextGrammar.Text.Digit
import TextGrammar.Text.Escaped

/-!
# Classes of characters

A class of characters has a label for messages and a test. There are classes of single characters,
of the characters of a text, of ranges, of ASCII digits, of letters and of white space; two classes
join to one, and any class can be given another label.
-/

namespace TextGrammar

open Text

/-- A set of characters and its name in messages. -/
structure CharClass where
  label : String
  test : Char → Bool

namespace CharClass

/-- The class of one character. -/
def single (c : Char) : CharClass :=
  ⟨quoteChar c, (· == c)⟩

/-- The class of the characters of a text. -/
def anyOf (chars : String) : CharClass :=
  ⟨quoteText chars, chars.toList.contains⟩

/-- The class of the characters from one to another. -/
def range (first last : Char) : CharClass :=
  ⟨quoteChar first ++ ".." ++ quoteChar last, fun c => first ≤ c && c ≤ last⟩

/-- The class of ASCII digits. -/
def digit : CharClass :=
  ⟨"digit", isDigit⟩

/-- The class of letters. -/
def letter : CharClass :=
  ⟨"letter", isLetter⟩

/-- The class of white space. -/
def whitespace : CharClass :=
  ⟨"whitespace", isBlank⟩

/-- The characters of two classes. -/
def or (left right : CharClass) : CharClass :=
  ⟨left.label ++ " | " ++ right.label, fun c => left.test c || right.test c⟩

/-- The same class with another label. -/
def withLabel (label : String) (charClass : CharClass) : CharClass :=
  { charClass with label }

/-- The class as diagnostics show it. -/
def describe (charClass : CharClass) : String :=
  "CharPredicate(" ++ quoteText charClass.label ++ ")"

end CharClass

end TextGrammar
