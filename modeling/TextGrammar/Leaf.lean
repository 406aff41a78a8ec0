import TextGrammar.CharClass
import TextGrammar.Format
import TextGrammar.Integer
import TextGrammar.Matcher.Reply
import TextGrammar.Text.LowerCase
import TextGrammar.Text.Word

/-!
# Leaves of a grammar

The smallest parts of a grammar each read one value. A leaf moves the cursor as it reads, mostly
character by character, and the text of its token is what lies between the place where it started and
the place it has come to. It may find out late that there is no value; then it goes back to the place
that it saved before.
-/

namespace TextGrammar

open Text

/-- How the characters of a literal are compared with those of a text. -/
inductive CaseRule where
  /-- Only a character itself. -/
  | exact
  /-- Any character with the same lower case form. -/
  | ignoring
  deriving DecidableEq, Repr

/-- Whether a character of a text is as a literal wants it. -/
def CaseRule.accepts (rule : CaseRule) (wanted actual : Char) : Bool :=
  match rule with
  | .exact => wanted == actual
  | .ignoring => wanted == actual || lowerCase wanted == lowerCase actual

/-- The kinds of quotation marks. -/
inductive Quote where
  | single
  | double
  deriving DecidableEq, Repr

/-- The mark itself. -/
def Quote.mark : Quote → Char
  | .single => '\''
  | .double => '"'

/-- The character that a letter stands for after a backslash, which is mostly the letter itself. -/
def unescape (c : Char) : Char :=
  match c with
  | 'b' => '\x08'
  | 'f' => '\x0c'
  | 'n' => '\n'
  | 'r' => '\r'
  | 't' => '\t'
  | '0' => '\x00'
  | c => c

/-- The value of a quoted text. -/
def Quote.value : Quote → String → LeafValue
  | .single => .singleQuoted
  | .double => .doubleQuoted

/-- The integers that a long can be. -/
def longRange : IntRange := .signed 64

/-- The smallest parts of a grammar. -/
inductive Leaf where
  /-- One character of a class. -/
  | character (charClass : CharClass)
  /-- A given text. -/
  | literal (caseRule : CaseRule) (text : String)
  /-- A given text that carries no data. -/
  | symbol (text : String)
  /-- A run of characters of a class, of bounded length. -/
  | run (charClass : CharClass) (minimum : Nat) (maximum : Option Nat)
  /-- Any amount of white space, but some. -/
  | whitespace
  /-- What stands between two marks. -/
  | comment (opening closing : String)
  /-- A text between quotation marks. -/
  | quoted (quote : Quote)
  /-- An integer of 64 bits with a sign. -/
  | long (radix : Radix)
  /-- The sign of a number. -/
  | sign
  /-- A decimal. -/
  | decimal
  /-- A date or time. -/
  | dateTime (kind : DateTimeKind) (choice : PatternChoice)
  /-- A value of any other format. -/
  | formatted (format : Format LeafValue)

/-- The fewest characters that a run has: it is never empty. -/
def runMinimum (minimum : Nat) : Nat := max minimum 1

namespace Leaf

/-- What the leaf is called in messages. -/
def label : Leaf → String
  | .character charClass => charClass.label
  | .literal _ text | .symbol text => quoteText text
  | .run charClass minimum maximum =>
      charClass.label ++ "\x7b" ++ toString (runMinimum minimum) ++ "," ++
        (match maximum with | some count => toString count | none => "") ++ "\x7d"
  | .whitespace => CharClass.whitespace.label
  | .comment opening closing => quoteText opening ++ ".." ++ quoteText closing
  | .quoted .single => "single quoted"
  | .quoted .double => "double quoted"
  | .long radix => if radix.value = 10 then "long" else "long radix " ++ toString radix.value
  | .sign => "sign"
  | .decimal => Format.decimal.label
  | .dateTime kind choice => (Format.dateTime kind choice).label
  | .formatted format => format.label

/-! ## Moving the cursor

Readers that move the cursor over what they accept. Where something else comes they stop, wherever
they are then; going back is left to the leaf that has called them. -/

/-- The next character, of whatever kind. -/
def readNext (cursor : Cursor) : Reply Char :=
  match cursor.next? with
  | some (c, later) => .matched c later
  | none => .noMatch cursor

/-- The number of characters of a class that come next, but at most as many as given, and the cursor
behind them. -/
def passRun (charClass : CharClass) : Nat → Cursor → Nat × Cursor
  | 0, cursor => (0, cursor)
  | limit + 1, cursor =>
      if cursor.at?.any charClass.test then
        let (count, finish) := passRun charClass limit cursor.forward
        (count + 1, finish)
      else (0, cursor)

/-- The characters of a word, each as the rule accepts it. -/
def readWord (rule : CaseRule) : List Char → Cursor → Reply Unit
  | [], cursor => .matched () cursor
  | wanted :: word, cursor =>
      (readNext cursor).andThen fun actual later =>
        if rule.accepts wanted actual then readWord rule word later else .noMatch later

/-- The number that is written with as many hexadecimal digits as given, behind the number that was
read before. -/
def readCode : Nat → Nat → Cursor → Reply Nat
  | 0, code, cursor => .matched code cursor
  | digits + 1, code, cursor =>
      (readNext cursor).andThen fun c later =>
        match digitOf? 16 c with
        | some digit => readCode digits (code * 16 + digit) later
        | none => .noMatch later

/-- The character that is written behind a backslash: by its code point in four hexadecimal digits
behind a u, or else by a letter. Half of a surrogate pair is no character. -/
def readEscape (cursor : Cursor) : Reply Char :=
  (readNext cursor).andThen fun c later =>
    if c = 'u' then
      (readCode 4 0 later).andThen fun code finish =>
        if code.isValidChar then .matched (Char.ofNat code) finish else .noMatch finish
    else .matched (unescape c) later

/-- What comes up to the closing mark, behind the value that was read before. Each turn reads a
character, so it is enough to take as many turns as there are characters. -/
def readQuotedBody (quote : Quote) : Nat → List Char → Cursor → Reply (List Char)
  | 0, _, cursor => .noMatch cursor
  | turns + 1, value, cursor =>
      (readNext cursor).andThen fun c later =>
        if c = quote.mark then .matched value later
        else if c = '\\' then
          (readEscape later).andThen fun escaped finish =>
            readQuotedBody quote turns (value ++ [escaped]) finish
        else readQuotedBody quote turns (value ++ [c]) later

/-- A text between two marks. -/
def readQuoted (quote : Quote) (cursor : Cursor) : Reply (List Char) :=
  (readNext cursor).andThen fun c later =>
    if c = quote.mark then readQuotedBody quote later.after.length [] later else .noMatch later

/-- The sign that comes next. The negative sign is looked for first. -/
def signAt? (conventions : NumberConventions) (cursor : Cursor) : Option Sign :=
  match cursor.at? with
  | some c =>
      if c = conventions.negativeSign then some .negative
      else if c = conventions.positiveSign then some .positive
      else none
  | none => none

/-- The integer that all digits write that come next, behind a number and a count of digits that were
read before, and the count of all. A digit that takes the number out of its range is logged. -/
def readDigits (label : String) (radix : Radix) (negative : Bool) :
    Nat → Int → Nat → Cursor → Reply (Int × Nat)
  | 0, value, count, cursor => .matched (value, count) cursor
  | turns + 1, value, count, cursor =>
      match cursor.at?.bind (digitOf? radix.value) with
      | none => .matched (value, count) cursor
      | some digit =>
          match longRange.withDigit? radix.value negative value digit with
          | some next => readDigits label radix negative turns next (count + 1) cursor.forward
          | none => ⟨.noMatch, cursor, [.overflowed label cursor.offset]⟩

/-- The cursor behind what a format has used, if its answer can be believed. It would have used as
many bytes as are not left; these have to be some, the text has to end with what is left, and the
cursor has to be able to advance by them. -/
def advanceTo? (rest : List Char) (cursor : Cursor) : Option Cursor :=
  let used := byteSize cursor.after - byteSize rest
  if used = 0 || !endsWith cursor.after rest then none else cursor.advance? used

/-! ## Matching -/

/-- The token of a value and of the text between a place and the cursor. -/
def tokenSince (place : SavePoint) (value : String → LeafValue) (cursor : Cursor) : Reply Token :=
  let text := cursor.textBetween place
  .ofToken (Token.makeLeaf (value text) text) cursor

/-- No match, with the cursor back at a place. -/
def goBack (place : SavePoint) (cursor : Cursor) : Reply Token :=
  .noMatch (cursor.restore place)

/-- One character of a class. -/
def matchCharacter (charClass : CharClass) (start : Cursor) : Reply Token :=
  ((readNext start).andThen fun c finish =>
    if charClass.test c then tokenSince start.save (fun _ => .character c) finish
    else .noMatch finish).orElse (goBack start.save)

/-- A run of characters of a class. Where it has no upper bound the text is one. -/
def matchRun (charClass : CharClass) (minimum : Nat) (maximum : Option Nat) (start : Cursor) :
    Reply Token :=
  let (count, finish) := passRun charClass (maximum.getD start.after.length) start
  if count < minimum then goBack start.save finish
  else tokenSince start.save .string finish

/-- White space, as much as there is. Where there is none the cursor was not moved. -/
def matchWhitespace (start : Cursor) : Reply Token :=
  let (count, finish) := passRun .whitespace start.after.length start
  if count = 0 then .noMatch finish else tokenSince start.save .whitespace finish

/-- A word, whose text is a value. No text is no word. -/
def matchWord (rule : CaseRule) (word : String) (value : String → LeafValue) (start : Cursor) :
    Reply Token :=
  if word = "" then .noMatch start else
  ((readWord rule word.toList start).andThen fun _ finish =>
    tokenSince start.save value finish).orElse (goBack start.save)

/-- What stands between two marks. It is looked for before the cursor is moved. Marks without
characters are nowhere found. -/
def matchComment (opening closing : String) (start : Cursor) : Reply Token :=
  if opening = "" ∨ closing = "" then .noMatch start else
  match (dropExact? opening.toList start.after).bind (splitAtWord? closing.toList) with
  | none => .noMatch start
  | some (body, _) =>
      match start.advance? (byteSize opening.toList + byteSize body + byteSize closing.toList) with
      | none => .noMatch start
      | some finish => tokenSince start.save (fun _ => .comment (String.ofList body)) finish

/-- A quoted text. -/
def matchQuoted (quote : Quote) (start : Cursor) : Reply Token :=
  ((readQuoted quote start).andThen fun value finish =>
    tokenSince start.save (fun _ => quote.value (String.ofList value)) finish).orElse
      (goBack start.save)

/-- The sign of a number. -/
def matchSign (conventions : NumberConventions) (start : Cursor) : Reply Token :=
  match signAt? conventions start with
  | none => .noMatch start
  | some found => tokenSince start.save (fun _ => .sign found) start.forward

/-- An integer: perhaps a sign, and then as many digits as there are. -/
def matchLong (label : String) (radix : Radix) (conventions : NumberConventions)
    (start : Cursor) : Reply Token :=
  let sign := signAt? conventions start
  let unsigned := if sign.isSome then start.forward else start
  ((readDigits label radix (sign = some .negative) unsigned.after.length 0 0 unsigned).andThen
    fun (value, digits) finish =>
      if digits = 0 then .noMatch finish
      else tokenSince start.save (fun _ => .long value) finish).orElse (goBack start.save)

/-- A value of a format, which is handed the text behind the cursor. -/
def matchFormat (format : Format LeafValue) (conventions : Conventions) (start : Cursor) :
    Reply Token :=
  match format.read? conventions start.after with
  | none => ⟨.noMatch, start, [.rejected format.label start.offset]⟩
  | some (value, rest) =>
      match advanceTo? rest start with
      | none => .noMatch start
      | some finish => tokenSince start.save (fun _ => value) finish

/-- How a leaf matches. -/
def matcher (leaf : Leaf) : Matcher := fun conventions start =>
  match leaf with
  | .character charClass => matchCharacter charClass start
  | .literal caseRule text => matchWord caseRule text .string start
  | .symbol text => matchWord .exact text .symbol start
  | .run charClass minimum maximum => matchRun charClass (runMinimum minimum) maximum start
  | .whitespace => matchWhitespace start
  | .comment opening closing => matchComment opening closing start
  | .quoted quote => matchQuoted quote start
  | .long radix => matchLong (Leaf.long radix).label radix conventions.forNumbers start
  | .sign => matchSign conventions.forNumbers start
  | .decimal => matchFormat .decimal conventions start
  | .dateTime kind choice => matchFormat (.dateTime kind choice) conventions start
  | .formatted format => matchFormat format conventions start

end Leaf

end TextGrammar
