import TextGrammar.Calendar.DateTime
import TextGrammar.Decimal
import TextGrammar.Text.Escaped

/-!
# Tokens

What readers find in a text is a tree of tokens. A leaf has a value and the text it was read from,
which is not empty. A parent has children in order, and its text is the texts of its children one
after the other. Both rules are checked where tokens are made, so every token that is made that way
is well formed all the way down.
-/

namespace TextGrammar

open Text Calendar

/-! ## Values

The values that the leaves of a token tree carry, of sixteen kinds. A value is written in two ways:
plainly, as people write it, and in full, with its kind around it and texts between quotation marks,
so that values of different kinds never look the same. -/

/-- The sign of a number. -/
inductive Sign where
  | positive
  | negative
  deriving DecidableEq, Repr

/-- The name of a sign. -/
def Sign.name : Sign → String
  | .positive => "Positive"
  | .negative => "Negative"

/-- The value of a leaf. -/
inductive LeafValue where
  | bigInteger (value : Int)
  | character (value : Char)
  | comment (value : String)
  | decimal (value : Decimal)
  | doubleQuoted (value : String)
  | localDate (value : Date)
  | localDateTime (value : LocalDateTime)
  | localTime (value : Time)
  | long (value : Int)
  | offsetDateTime (value : OffsetDateTime)
  | offsetTime (value : OffsetTime)
  | sign (value : Sign)
  | singleQuoted (value : String)
  | string (value : String)
  | symbol (value : String)
  | whitespace (value : String)
  deriving DecidableEq, Repr

namespace LeafValue

/-- The name of the kind of a value. -/
def kindName : LeafValue → String
  | .bigInteger _ => "BigInteger"
  | .character _ => "Character"
  | .comment _ => "Comment"
  | .decimal _ => "Decimal"
  | .doubleQuoted _ => "DoubleQuoted"
  | .localDate _ => "LocalDate"
  | .localDateTime _ => "LocalDateTime"
  | .localTime _ => "LocalTime"
  | .long _ => "Long"
  | .offsetDateTime _ => "OffsetDateTime"
  | .offsetTime _ => "OffsetTime"
  | .sign _ => "Sign"
  | .singleQuoted _ => "SingleQuoted"
  | .string _ => "String"
  | .symbol _ => "Symbol"
  | .whitespace _ => "Whitespace"

/-- The value as people write it. -/
def display : LeafValue → String
  | .bigInteger value | .long value => toString value
  | .character value => String.singleton value
  | .decimal value => String.ofList value.display
  | .localDate value => String.ofList value.display
  | .localDateTime value => String.ofList (value.display ' ')
  | .localTime value => String.ofList value.display
  | .offsetDateTime value => String.ofList value.display
  | .offsetTime value => String.ofList value.display
  | .sign value => value.name
  | .comment value | .doubleQuoted value | .singleQuoted value | .string value
  | .symbol value | .whitespace value => value

/-- The value in full, without its kind. -/
def fullText : LeafValue → String
  | .bigInteger value | .long value => toString value
  | .character value => quoteChar value
  | .decimal value => String.ofList value.display
  | .localDate value => String.ofList value.display
  | .localDateTime value => String.ofList (value.display 'T')
  | .localTime value => String.ofList value.display
  | .offsetDateTime value => String.ofList value.displayInFull
  | .offsetTime value => "OffsetTime \x7b time: " ++ String.ofList value.time.display ++
      ", offset: " ++ String.ofList value.offset.display ++ " \x7d"
  | .sign value => value.name
  | .comment value | .doubleQuoted value | .singleQuoted value | .string value
  | .symbol value | .whitespace value => quoteText value

/-- The value in full, with its kind around it. -/
def describe (value : LeafValue) : String :=
  value.kindName ++ "(" ++ value.fullText ++ ")"

/-- Whether two values are the same. Decimals are compared as numbers, and dates and times with an
offset as instants. -/
def same : LeafValue → LeafValue → Bool
  | .decimal left, .decimal right => left.sameNumber right
  | .offsetDateTime left, .offsetDateTime right => left.instant == right.instant
  | left, right => left == right

end LeafValue

/-! ## Trees of tokens -/

/-- The kinds of tokens with children. -/
inductive ParentKind where
  | optional
  | repeated
  | sequence
  deriving DecidableEq, Repr

/-- The name of a kind of tokens with children. -/
def ParentKind.name : ParentKind → String
  | .optional => "Optional"
  | .repeated => "Repeated"
  | .sequence => "Sequence"

/-- A part of a text and what was read from it. -/
inductive Token where
  | leaf (value : LeafValue) (text : String)
  | parent (kind : ParentKind) (children : List Token) (text : String)
  deriving Repr

/-- Why a token cannot be made. -/
inductive TokenError where
  /-- A leaf without text. -/
  | emptyText (kind : String)
  /-- A parent with a text that is not that of its children. -/
  | textMismatch (kind : String) (text expected : String)
  deriving DecidableEq, Repr

/-- The message for people. -/
def TokenError.message : TokenError → String
  | .emptyText kind => kind ++ " text must not be empty"
  | .textMismatch kind text expected =>
      kind ++ " text " ++ quoteText text ++ " is not the concatenation of its children " ++
        quoteText expected

namespace Token

/-- The text a token was read from. -/
def text : Token → String
  | .leaf _ text => text
  | .parent _ _ text => text

/-- The token as it is written: its text. -/
def display (token : Token) : String :=
  token.text

/-- The texts of tokens one after the other. -/
def joinTexts (tokens : List Token) : String :=
  String.ofList (tokens.flatMap fun token => token.text.toList)

/-- The name of the kind of a token. -/
def kindName : Token → String
  | .leaf value _ => value.kindName
  | .parent kind _ _ => kind.name

/-- Whether a token is a leaf. -/
def isLeaf : Token → Bool
  | .leaf _ _ => true
  | .parent _ _ _ => false

/-- Whether a token is a parent. -/
def isParent : Token → Bool
  | .leaf _ _ => false
  | .parent _ _ _ => true

/-- The children of a token, of which a leaf has none. -/
def children : Token → List Token
  | .leaf _ _ => []
  | .parent _ children _ => children

/-- Whether a token is a symbol. White space counts as one. -/
def isSymbol : Token → Bool
  | .leaf (.symbol _) _ | .leaf (.whitespace _) _ => true
  | _ => false

/-- Whether a token is white space. -/
def isWhitespace : Token → Bool
  | .leaf (.whitespace _) _ => true
  | _ => false

/-- Whether a token carries no data: a symbol, white space or a comment. -/
def isNoise (token : Token) : Bool :=
  match token with
  | .leaf (.comment _) _ => true
  | _ => token.isSymbol

/-- A leaf with a value and the text it was read from. -/
def makeLeaf (value : LeafValue) (text : String) : Except TokenError Token :=
  if text = "" then .error (.emptyText value.kindName) else .ok (.leaf value text)

/-- A symbol, whose value is its text. -/
def makeSymbol (text : String) : Except TokenError Token :=
  makeLeaf (.symbol text) text

/-- A parent with children and the text they were read from. -/
def makeParent (kind : ParentKind) (children : List Token) (text : String) :
    Except TokenError Token :=
  if text = joinTexts children then .ok (.parent kind children text)
  else .error (.textMismatch kind.name text (joinTexts children))

/-- The tokens whose leaves have text and whose parents have the text of their children, at every
depth. -/
inductive WellFormed : Token → Prop where
  | leaf {value : LeafValue} {text : String} (nonempty : text ≠ "") :
      WellFormed (.leaf value text)
  | parent {kind : ParentKind} {children : List Token} {text : String}
      (joined : text = joinTexts children)
      (eachChild : ∀ child ∈ children, WellFormed child) :
      WellFormed (.parent kind children text)

mutual

/-- Whether two tokens are the same: of one shape, with the same kinds, texts and values. -/
def same : Token → Token → Bool
  | .leaf value text, .leaf value' text' => value.same value' && text == text'
  | .parent kind children text, .parent kind' children' text' =>
      kind == kind' && sameAll children children' && text == text'
  | _, _ => false

/-- Whether two lists of tokens are the same, member by member. -/
def sameAll : List Token → List Token → Bool
  | [], [] => true
  | token :: tokens, token' :: tokens' => same token token' && sameAll tokens tokens'
  | _, _ => false

end

@[simp] theorem joinTexts_nil : joinTexts [] = "" := rfl

@[simp] theorem toList_joinTexts (tokens : List Token) :
    (joinTexts tokens).toList = tokens.flatMap fun token => token.text.toList := by
  simp [joinTexts]

/-- A leaf that can be made is well formed, and has the text it was made with. -/
theorem wellFormed_of_makeLeaf {value : LeafValue} {text : String} {token : Token}
    (made : makeLeaf value text = .ok token) : token.WellFormed ∧ token.text = text := by
  unfold makeLeaf at made
  split at made
  · simp at made
  next nonempty =>
    obtain rfl := Except.ok.inj made
    exact ⟨.leaf nonempty, rfl⟩

/-- A parent that can be made of well formed children is well formed, and has the text it was made
with. -/
theorem wellFormed_of_makeParent {kind : ParentKind} {children : List Token} {text : String}
    {token : Token} (eachChild : ∀ child ∈ children, child.WellFormed)
    (made : makeParent kind children text = .ok token) :
    token.WellFormed ∧ token.text = text := by
  unfold makeParent at made
  split at made
  next joined =>
    obtain rfl := Except.ok.inj made
    exact ⟨.parent joined eachChild, rfl⟩
  · simp at made

end Token

end TextGrammar
