import TextGrammar.Token.Visitor

/-!
# Inspection of tokens

An independent check that a token tree is as it should be: leaves have text, parents have the text of
their children, tokens are written as their texts, what is said of their kinds fits together, and a
visitor that skips a token is called just at its start and at its end.
-/

namespace TextGrammar

open Text

/-- How often a visitor that skips everything was called at starts, at ends and elsewhere. -/
structure SkipCount where
  starts : Nat
  ends : Nat
  others : Nat
  deriving DecidableEq, Repr

/-- A rule that a token breaks. -/
inductive TokenDefect where
  /-- A token is a leaf and a parent, or neither. -/
  | kindUnclear (kind : String) (isLeaf isParent : Bool)
  /-- A token is not written as its text. -/
  | otherDisplay (display text : String)
  /-- White space is not a symbol. -/
  | whitespaceNoSymbol
  /-- A symbol is not noise. -/
  | symbolNoNoise
  /-- A leaf has no text. -/
  | noText (kind : String)
  /-- The text of a parent is not that of its children. -/
  | textNotOfChildren (kind : String) (text joined : String)
  /-- A visitor that skips the token is not called just at its start and at its end. -/
  | visitedWhenSkipped (kind : String) (count : SkipCount)
  deriving DecidableEq, Repr

/-- A visitor that skips every token and counts its calls. -/
def Visitor.skipCounting : Visitor SkipCount where
  startVisit _ count := (.skip, { count with starts := count.starts + 1 })
  endVisit _ count := { count with ends := count.ends + 1 }
  startParent _ _ _ count := (.enter, { count with others := count.others + 1 })

/-- The calls of a visitor that skips a token: one at its start and one at its end. -/
def SkipCount.ofSkipped : SkipCount := ⟨1, 1, 0⟩

namespace Token

/-- How often a visitor that skips everything is called for the token. -/
def skipCount (token : Token) : SkipCount :=
  token.accept Visitor.skipCounting ⟨0, 0, 0⟩

/-- The rules on the kind of a token and on how it is written. -/
def inspectKind (token : Token) : Except TokenDefect Unit := do
  if token.isLeaf = token.isParent then
    throw (.kindUnclear token.kindName token.isLeaf token.isParent)
  if token.display ≠ token.text then throw (.otherDisplay token.display token.text)
  if token.isWhitespace ∧ !token.isSymbol then throw .whitespaceNoSymbol
  if token.isSymbol ∧ !token.isNoise then throw .symbolNoNoise

/-- The rule that a token can be skipped. -/
def inspectSkipping (token : Token) : Except TokenDefect Unit :=
  if token.skipCount = .ofSkipped then .ok ()
  else .error (.visitedWhenSkipped token.kindName token.skipCount)

mutual

/-- The first rule that a token or one of the tokens inside of it breaks. -/
def inspect : Token → Except TokenDefect Unit
  | .leaf value text => do
      inspectKind (.leaf value text)
      if text = "" then throw (.noText value.kindName)
      inspectSkipping (.leaf value text)
  | .parent kind children text => do
      inspectKind (.parent kind children text)
      if text ≠ joinTexts children then
        throw (.textNotOfChildren kind.name text (joinTexts children))
      inspectAll children
      inspectSkipping (.parent kind children text)

/-- The first rule that one of several tokens breaks. -/
def inspectAll : List Token → Except TokenDefect Unit
  | [] => .ok ()
  | token :: tokens => do
      inspect token
      inspectAll tokens

end

end Token

/-! ## Dumps

A dump shows a token tree with one line for each token: the kind of a parent or the value of a leaf
in full, then the text, indented by two blanks for each token around it. It is written by a visitor
that counts the tokens it is inside of. -/

/-- A dump as far as it is written. -/
structure DumpState where
  /-- The number of parents that are being visited. -/
  depth : Nat
  /-- The lines so far. -/
  written : String

/-- What the line of a token says. -/
def Token.dumpLine : Token → String
  | .leaf value text => value.describe ++ " " ++ quoteText text
  | .parent kind _ text => kind.name ++ " " ++ quoteText text

/-- The blanks in front of a line at a given depth. -/
def indentation (depth : Nat) : String :=
  String.ofList (List.replicate (2 * depth) ' ')

/-- The dump with one more line. -/
def DumpState.addLine (state : DumpState) (line : String) : DumpState :=
  { state with written := state.written ++ (indentation state.depth ++ line ++ "\n") }

/-- A visitor that writes a dump. -/
def Visitor.dumping : Visitor DumpState where
  startVisit token state :=
    let state := state.addLine token.dumpLine
    (.enter, if token.isParent then { state with depth := state.depth + 1 } else state)
  endVisit token state :=
    if token.isParent then { state with depth := state.depth - 1 } else state

/-- The dump of a token tree. -/
def Token.dump (token : Token) : String :=
  (token.accept Visitor.dumping ⟨0, ""⟩).written

end TextGrammar
