import TextGrammar.Leaf

/-!
# What leaves read

What a leaf finds at a cursor can be said without the cursor, of the text behind it alone: which value
stands there and which characters are used for it. These readings are stated here on lists of
characters, without places to go back to, and it is proved elsewhere that leaves reply as they say.
-/

namespace TextGrammar

open Text

/-- What a leaf finds at the start of a text. -/
inductive Reading where
  /-- A value, and the characters that were used for it. -/
  | found (value : LeafValue) (used : List Char)
  /-- Nothing. -/
  | nothing
  /-- A number that leaves its range with the digit after the given characters. -/
  | outOfRange (accepted : List Char)
  /-- Nothing that the format accepts. -/
  | refused

/-! ## Characters and words -/

/-- The character at the start of a text, if it is in a class. -/
def readOne? (charClass : CharClass) (text : List Char) : Option Char :=
  text.head?.filter charClass.test

/-- The run of characters of a class at the start of a text, as long as it can be without having
more than `maximum` characters, if it has at least `minimum`. -/
def readRun? (charClass : CharClass) (minimum : Nat) (maximum : Option Nat) (text : List Char) :
    Option (List Char) :=
  let window := match maximum with
    | some count => text.take count
    | none => text
  let run := window.takeWhile charClass.test
  if minimum ≤ run.length then some run else none

/-- The start of a text that spells a word, in the spelling of the text. -/
def CaseRule.spelling? (rule : CaseRule) : List Char → List Char → Option (List Char)
  | [], _ => some []
  | _ :: _, [] => none
  | wanted :: word, actual :: text =>
      if rule.accepts wanted actual then (rule.spelling? word text).map (actual :: ·) else none

/-- The start of a text that spells a literal. The empty literal is nowhere found. -/
def readLiteral? (rule : CaseRule) (literal text : List Char) : Option (List Char) :=
  if literal = [] then none else rule.spelling? literal text

/-! ## Comments and quoted texts -/

/-- The body of the comment at the start of a text. Marks without characters are nowhere found. -/
def readComment? (opening closing text : List Char) : Option (List Char) := do
  if opening = [] ∨ closing = [] then none else
  let inside ← dropExact? opening text
  let (body, _) ← splitAtWord? closing inside
  some body

/-- The character whose code point four hexadecimal digits write. Half of a surrogate pair is no
character. -/
def readCode? (digits : List Char) : Option Char :=
  let values := digitValues 16 digits
  let code := digitsValue 16 values
  if values.length = digits.length ∧ code.isValidChar then some (Char.ofNat code) else none

/-- The value of a quoted text whose first mark is already read, and the text after its last mark. -/
def unquote? (quote : Quote) : List Char → Option (List Char × List Char)
  | [] => none
  | '\\' :: 'u' :: a :: b :: c :: d :: text => do
      let value ← readCode? [a, b, c, d]
      let (values, rest) ← unquote? quote text
      some (value :: values, rest)
  | '\\' :: c :: text => do
      if c = 'u' then none else
      let (values, rest) ← unquote? quote text
      some (unescape c :: values, rest)
  | c :: text =>
      if c = quote.mark then some ([], text)
      else if c = '\\' then none
      else (unquote? quote text).map fun (values, rest) => (c :: values, rest)

/-- The value of the quoted text at the start of a text, and the text after it. -/
def readQuoted? (quote : Quote) (text : List Char) : Option (List Char × List Char) :=
  match text with
  | [] => none
  | c :: text => if c = quote.mark then unquote? quote text else none

/-- The reading of a quoted text. -/
def readQuotedValue? (quote : Quote) (text : List Char) : Option (LeafValue × List Char) :=
  (readQuoted? quote text).map fun (value, rest) =>
    (quote.value (String.ofList value), text.take (text.length - rest.length))

/-! ## Numbers -/

/-- The sign at the start of a text and its character. The negative sign is looked for first. -/
def readSign? (conventions : NumberConventions) (text : List Char) : Option (Sign × Char) :=
  match text with
  | [] => none
  | c :: _ =>
      if c = conventions.negativeSign then some (.negative, c)
      else if c = conventions.positiveSign then some (.positive, c)
      else none

/-- The reading of a long: perhaps a sign, and then as many digits as there are. -/
def readLong (radix : Radix) (conventions : NumberConventions) (text : List Char) : Reading :=
  let sign := readSign? conventions text
  let negative := sign.any fun found => found.1 = .negative
  let spelledSign := sign.toList.map Prod.snd
  let digits := (text.drop spelledSign.length).takeWhile (isDigitOf radix.value)
  if digits = [] then .nothing else
  match longRange.appendDigits radix.value negative 0 (digitValues radix.value digits) with
  | .ok value => .found (.long value) (spelledSign ++ digits)
  | .error accepted => .outOfRange (spelledSign ++ digits.take accepted)

/-! ## Formats and leaves -/

/-- The part of a text before the given rest, if the text ends with the rest and that part is not
empty. -/
def usedText? (text rest : List Char) : Option (List Char) :=
  let used := text.take (text.length - rest.length)
  if used ≠ [] ∧ used ++ rest = text then some used else none

theorem usedText?_eq_some_iff {text rest used : List Char} :
    usedText? text rest = some used ↔ used ≠ [] ∧ text = used ++ rest := by
  constructor
  · intro found
    simp only [usedText?] at found
    split at found
    next split =>
      obtain rfl := Option.some.inj found
      exact ⟨split.1, split.2.symm⟩
    next => simp at found
  · rintro ⟨nonempty, rfl⟩
    simp [usedText?, nonempty]

namespace Reading

/-- The reading of a value that may be missing. -/
def ofOption : Option (LeafValue × List Char) → Reading
  | some (value, used) => .found value used
  | none => .nothing

/-- The reading of a format. -/
def ofFormat (format : Format LeafValue) (conventions : Conventions) (text : List Char) : Reading :=
  match format.read? conventions text with
  | none => .refused
  | some (value, rest) => ofOption ((usedText? text rest).map fun used => (value, used))

end Reading

/-- A value whose text is its value too. -/
def sameValueAndText (value : String → LeafValue) (used : List Char) : LeafValue × List Char :=
  (value (String.ofList used), used)

/-- What the leaf finds at the start of a text. -/
def Leaf.read (conventions : Conventions) (text : List Char) : Leaf → Reading
  | .character charClass =>
      .ofOption ((readOne? charClass text).map fun c => (.character c, [c]))
  | .literal caseRule wanted =>
      .ofOption ((readLiteral? caseRule wanted.toList text).map (sameValueAndText .string))
  | .symbol wanted =>
      .ofOption ((readLiteral? .exact wanted.toList text).map (sameValueAndText .symbol))
  | .run charClass minimum maximum =>
      .ofOption ((readRun? charClass (runMinimum minimum) maximum text).map
        (sameValueAndText .string))
  | .whitespace =>
      .ofOption ((readRun? .whitespace 1 none text).map (sameValueAndText .whitespace))
  | .comment opening closing =>
      .ofOption ((readComment? opening.toList closing.toList text).map fun body =>
        (.comment (String.ofList body), opening.toList ++ body ++ closing.toList))
  | .quoted quote => .ofOption (readQuotedValue? quote text)
  | .long radix => readLong radix conventions.number text
  | .sign =>
      .ofOption ((readSign? conventions.number text).map fun found =>
        (.sign found.1, [found.2]))
  | .decimal => .ofFormat .decimal conventions text
  | .dateTime kind choice => .ofFormat (.dateTime kind choice) conventions text
  | .formatted format => .ofFormat format conventions text

/-- The reply that a reading stands for. -/
def Reading.reply (label : String) (start : Cursor) : Reading → Reply Token
  | .found value used =>
      .ofToken (Token.makeLeaf value (String.ofList used)) (start.skip used.length)
  | .nothing => .noMatch start
  | .outOfRange accepted =>
      ⟨.noMatch, start, [.overflowed label (start.offset + byteSize accepted)]⟩
  | .refused => ⟨.noMatch, start, [.rejected label start.offset]⟩

end TextGrammar
