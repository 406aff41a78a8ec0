import TextGrammar.Grammar
import TextGrammar.Leaf
import TextGrammar.Token.Inspection

/-!
# Checks

Helpers for those who test a grammar: each reads a text and says how the reply differs from what is
expected of it. Tokens are compared by their dumps, so a difference that is in no dump does not
count.
-/

namespace TextGrammar

open Text

/-- How a reply differs from what was expected. -/
inductive CheckFailure where
  | didNotMatch (label text : String)
  | failedOn (label text : String) (error : ParseError)
  | matchedIn (label found text : String)
  | shouldHaveFailed (label found : String)
  | didNotFail (label : String)
  | otherMessage (label message part : String)
  | tokensDiffer (actual expected : String)
  | otherConsumed (label consumed text : String)
  | otherRemaining (label remaining expected : String)
  | moved (label : String) (offset : Nat) (text : String)
  | defect (broken : TokenDefect)
  deriving DecidableEq, Repr

/-- The message that two values do not compare as they should, with a note if there is one. -/
def comparisonMessage (comparison : String) (note : Option String) (left right : String) : String :=
  let noted := match note with
    | some note => ": " ++ note
    | none => ""
  "assertion `left " ++ comparison ++ " right` failed" ++ noted ++ "\n  left: " ++ left ++
    "\n right: " ++ right

/-- The message that two values are not equal. -/
def unequalMessage (note left right : String) : String :=
  comparisonMessage "==" (some note) left right

/-- The counts as messages write them. -/
def SkipCount.display (count : SkipCount) : String :=
  "(" ++ toString count.starts ++ ", " ++ toString count.ends ++ ", " ++ toString count.others ++ ")"

/-- The message for people. -/
def TokenDefect.message : TokenDefect → String
  | .kindUnclear kind isLeaf isParent =>
      comparisonMessage "!=" (some (kind ++ " is both or neither leaf and parent"))
        (toString isLeaf) (toString isParent)
  | .otherDisplay display text =>
      comparisonMessage "==" none (quoteText display) (quoteText text)
  | .whitespaceNoSymbol => "whitespace must be a symbol"
  | .symbolNoNoise => "symbols must be noise"
  | .noText kind => kind ++ " has no text"
  | .textNotOfChildren kind text joined =>
      unequalMessage (kind ++ " text is not its children's") (quoteText text) (quoteText joined)
  | .visitedWhenSkipped kind count =>
      unequalMessage ("skipping " ++ kind ++ " visited more") count.display
        SkipCount.ofSkipped.display

/-- The message for people. -/
def CheckFailure.message : CheckFailure → String
  | .didNotMatch label text => label ++ " did not match " ++ quoteText text
  | .failedOn label text error =>
      label ++ " failed on " ++ quoteText text ++ ": " ++ error.message
  | .matchedIn label found text =>
      label ++ " matched " ++ quoteText found ++ " in " ++ quoteText text
  | .shouldHaveFailed label found =>
      label ++ " matched " ++ quoteText found ++ " but should have failed"
  | .didNotFail label => label ++ " did not match but should have failed"
  | .otherMessage label message part =>
      label ++ " failed with " ++ quoteText message ++ ", expected it to contain " ++
        quoteText part
  | .tokensDiffer actual expected =>
      "tokens differ\nactual:\n" ++ actual ++ "\nexpected:\n" ++ expected
  | .otherConsumed label consumed text =>
      unequalMessage (label ++ " consumed text differing from its token") (quoteText consumed)
        (quoteText text)
  | .otherRemaining label remaining expected =>
      unequalMessage (label ++ " left the wrong text") (quoteText remaining) (quoteText expected)
  | .moved label offset text =>
      unequalMessage (label ++ " moved the cursor without matching " ++ quoteText text)
        (toString offset) "0"
  | .defect broken => broken.message

/-- That two tokens have the same dump. -/
def checkEquals (actual expected : Token) : Except CheckFailure Unit :=
  if actual.dump = expected.dump then .ok ()
  else .error (.tokensDiffer actual.dump expected.dump)

/-- That a token is as it should be. -/
def checkToken (token : Token) : Except CheckFailure Unit :=
  token.inspect.mapError .defect

namespace Grammar

/-- That a reply is the match of an expected token, after which a given text remains. The token is
returned. -/
def checkMatch (grammar : Grammar) (text : String) (reply : Reply Token) (expected : Token)
    (remaining : String) : Except CheckFailure Token := do
  match reply.outcome with
  | .noMatch => throw (.didNotMatch grammar.label text)
  | .failed error => throw (.failedOn grammar.label text error)
  | .matched token =>
      checkEquals token expected
      if reply.cursor.consumed ≠ token.text then
        throw (.otherConsumed grammar.label reply.cursor.consumed token.text)
      if reply.cursor.remaining ≠ remaining then
        throw (.otherRemaining grammar.label reply.cursor.remaining remaining)
      checkToken token
      return token

/-- That a reply is no match and leaves the cursor at the start of the text. -/
def checkNoMatch (grammar : Grammar) (text : String) (reply : Reply Token) :
    Except CheckFailure Unit := do
  match reply.outcome with
  | .matched token => throw (.matchedIn grammar.label token.text text)
  | .failed error => throw (.failedOn grammar.label text error)
  | .noMatch =>
      if reply.cursor.offset ≠ 0 then
        throw (.moved grammar.label reply.cursor.offset text)

/-- That a reply is an error whose message contains a given text. The error is returned. -/
def checkFailure (grammar : Grammar) (reply : Reply Token) (part : String) :
    Except CheckFailure ParseError :=
  match reply.outcome with
  | .matched token => .error (.shouldHaveFailed grammar.label token.text)
  | .noMatch => .error (.didNotFail grammar.label)
  | .failed error =>
      if (splitAtWord? part.toList error.message.toList).isSome then .ok error
      else .error (.otherMessage grammar.label error.message part)

/-- The reply of a grammar at the start of a text. -/
def parseText (grammar : Grammar) (conventions : Conventions) (text : String) : Reply Token :=
  grammar.parse conventions (.ofText text)

/-- The reply of a grammar at the end of a text. -/
def parseAtEnd (grammar : Grammar) (conventions : Conventions) (text : String) : Reply Token :=
  grammar.parse conventions (Cursor.ofText text).toEnd

end Grammar

end TextGrammar
