import TextGrammar.Leaf
import TextGrammar.Matcher.Combinators

/-!
# Grammars

A grammar is an expression: leaves, ways of combining grammars, and matchers from elsewhere. It has
a label, which messages call it by, and a meaning, which is a matcher. Labels say what was expected
and never change what is matched.
-/

namespace TextGrammar

open Text

mutual

/-- What a text is read by. -/
inductive Grammar where
  /-- A single value. -/
  | leaf (leaf : Leaf)
  /-- Several parts, one after the other. -/
  | sequence (components : List Component)
  /-- The first of several grammars that matches. -/
  | alternatives (choices : List Grammar)
  /-- A grammar that may match or not. -/
  | optional (inner : Grammar)
  /-- A grammar as often as it matches in a row, but at least so many times. -/
  | repeated (minimum : Nat) (inner : Grammar)
  /-- A grammar by another name. -/
  | labelled (label : String) (inner : Grammar)
  /-- A grammar that has to match. -/
  | orReport (reporter : Reporter) (inner : Grammar)
  /-- A grammar that has to match everything if it matches at all. -/
  | orFailIfTextRemains (reporter : Reporter) (inner : Grammar)
  /-- A grammar that does not match unless it matches everything. -/
  | andNothingRemains (inner : Grammar)
  /-- A grammar whose tokens are changed. -/
  | map (change : Token → Token) (inner : Grammar)
  /-- A grammar whose tokens are changed in a way that may fail. -/
  | transform (change : Token → Conventions → Except ParseError Token) (inner : Grammar)
  /-- A matcher that is not an expression. -/
  | external (label : String) (matcher : Matcher)

/-- A part of a sequence. -/
inductive Component where
  /-- A part without which the sequence does not match. -/
  | required (grammar : Grammar)
  /-- A part that is left out if it does not match. -/
  | optional (grammar : Grammar)

end

/-- Labels between two marks with a separator between them. -/
def joinLabels (opening separator closing : String) (labels : List String) : String :=
  opening ++ separator.intercalate labels ++ closing

mutual

/-- What a grammar is called in messages. -/
def Grammar.label : Grammar → String
  | .leaf leaf => leaf.label
  | .sequence components => joinLabels "(" ", " ")" (componentLabels components)
  | .alternatives choices => joinLabels "(" " | " ")" (grammarLabels choices)
  | .optional inner => "[" ++ inner.label ++ "]"
  | .repeated _ inner => "\x7b" ++ inner.label ++ "\x7d"
  | .labelled label _ => label
  | .orReport _ inner => inner.label
  | .orFailIfTextRemains _ inner => inner.label
  | .andNothingRemains inner => inner.label
  | .map _ inner => inner.label
  | .transform _ inner => inner.label
  | .external label _ => label

/-- What a part of a sequence is called in messages. -/
def Component.label : Component → String
  | .required grammar => grammar.label
  | .optional grammar => "[" ++ grammar.label ++ "]"

/-- The labels of several parts. -/
def componentLabels : List Component → List String
  | [] => []
  | component :: components => component.label :: componentLabels components

/-- The labels of several grammars. -/
def grammarLabels : List Grammar → List String
  | [] => []
  | grammar :: grammars => grammar.label :: grammarLabels grammars

end

mutual

/-- How a grammar matches. -/
def Grammar.matcher : Grammar → Matcher
  | .leaf leaf => leaf.matcher
  | .sequence components =>
      .sequence (Grammar.sequence components).label (componentParts components)
  | .alternatives choices => .firstOf (grammarMatchers choices)
  | .optional inner => inner.matcher.optional
  | .repeated minimum inner =>
      inner.matcher.repeated (Grammar.repeated minimum inner).label minimum
  | .labelled _ inner => inner.matcher
  | .orReport reporter inner => inner.matcher.orReport reporter inner.label
  | .orFailIfTextRemains reporter inner =>
      inner.matcher.orFailIfTextRemains reporter inner.label
  | .andNothingRemains inner => inner.matcher.andNothingRemains
  | .map change inner => inner.matcher.map change
  | .transform change inner => inner.matcher.transform change
  | .external _ matcher => matcher

/-- How a part of a sequence matches. -/
def Component.part : Component → Matcher.Part
  | .required grammar => ⟨true, grammar.label, grammar.matcher⟩
  | .optional grammar => ⟨false, grammar.label, grammar.matcher⟩

/-- How several parts match. -/
def componentParts : List Component → List Matcher.Part
  | [] => []
  | component :: components => component.part :: componentParts components

/-- How several grammars match. -/
def grammarMatchers : List Grammar → List Matcher
  | [] => []
  | grammar :: grammars => grammar.matcher :: grammarMatchers grammars

end

/-- Whether a sequence needs a part. -/
def Component.isRequired : Component → Bool
  | .required _ => true
  | .optional _ => false

/-- The grammar of a part of a sequence. -/
def Component.grammar : Component → Grammar
  | .required grammar => grammar
  | .optional grammar => grammar

namespace Grammar

/-- The reply of a grammar at a cursor. -/
def parse (grammar : Grammar) (conventions : Conventions) (cursor : Cursor) : Reply Token :=
  grammar.matcher conventions cursor

/-- One grammar or else another. Choices of the first are not nested but continued. -/
def or : Grammar → Grammar → Grammar
  | .alternatives choices, other => .alternatives (choices ++ [other])
  | first, other => .alternatives [first, other]

theorem componentParts_eq_map (components : List Component) :
    componentParts components = components.map Component.part := by
  induction components with
  | nil => rfl
  | cons component components ih => simp [componentParts, ih]

theorem grammarMatchers_eq_map (grammars : List Grammar) :
    grammarMatchers grammars = grammars.map Grammar.matcher := by
  induction grammars with
  | nil => rfl
  | cons grammar grammars ih => simp [grammarMatchers, ih]

end Grammar

end TextGrammar
