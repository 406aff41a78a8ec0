import TextGrammar.Token.Basic

/-!
# Visitors

A visitor is led through a token tree, parents before children and children in order, and may keep a
state. It is called at the start and at the end of each token, and between them at the value of a
leaf, or at the start and at the end of the children of a parent. A start may answer that what is
inside is to be skipped; the matching end is called all the same.
-/

namespace TextGrammar

/-- Whether the inside of a token is visited. -/
inductive Visiting where
  | enter
  | skip
  deriving DecidableEq, Repr

/-- What is called while a token tree is visited. Each call is given the state and returns it. -/
structure Visitor (State : Type) where
  /-- At the start of each token. -/
  startVisit : Token → State → Visiting × State := fun _ state => (.enter, state)
  /-- At the end of each token. -/
  endVisit : Token → State → State := fun _ state => state
  /-- Before the children of a parent. -/
  startParent : ParentKind → List Token → String → State → Visiting × State :=
    fun _ _ _ state => (.enter, state)
  /-- After the children of a parent. -/
  endParent : ParentKind → List Token → String → State → State := fun _ _ _ state => state
  /-- At the value of a leaf. -/
  visitLeaf : LeafValue → String → State → State := fun _ _ state => state

namespace Token

variable {State : Type}

mutual

/-- The state of a visitor after it was led through a token tree. -/
def accept (visitor : Visitor State) : Token → State → State
  | .leaf value text, state =>
      match visitor.startVisit (.leaf value text) state with
      | (.enter, state) =>
          visitor.endVisit (.leaf value text) (visitor.visitLeaf value text state)
      | (.skip, state) => visitor.endVisit (.leaf value text) state
  | .parent kind children text, state =>
      match visitor.startVisit (.parent kind children text) state with
      | (.enter, state) =>
          let inside := match visitor.startParent kind children text state with
            | (.enter, state) => acceptAll visitor children state
            | (.skip, state) => state
          visitor.endVisit (.parent kind children text)
            (visitor.endParent kind children text inside)
      | (.skip, state) => visitor.endVisit (.parent kind children text) state

/-- The state of a visitor after it was led through token trees, one after the other. -/
def acceptAll (visitor : Visitor State) : List Token → State → State
  | [], state => state
  | token :: tokens, state => acceptAll visitor tokens (accept visitor token state)

end

end Token

/-! ## Records of visits

What happens while a token tree is visited, call by call, and visitors that write it down. -/

/-- A call of a visitor. -/
inductive VisitCall where
  | startVisit (token : Token)
  | endVisit (token : Token)
  | startParent (kind : ParentKind) (children : List Token) (text : String)
  | endParent (kind : ParentKind) (children : List Token) (text : String)
  | visitLeaf (value : LeafValue) (text : String)

namespace Visitor

/-- A visitor that acts as another one and also records its calls in order. -/
def recorded {State : Type} (visitor : Visitor State) : Visitor (State × List VisitCall) where
  startVisit token state :=
    let (visiting, inner) := visitor.startVisit token state.1
    (visiting, inner, state.2 ++ [.startVisit token])
  endVisit token state :=
    (visitor.endVisit token state.1, state.2 ++ [.endVisit token])
  startParent kind children text state :=
    let (visiting, inner) := visitor.startParent kind children text state.1
    (visiting, inner, state.2 ++ [.startParent kind children text])
  endParent kind children text state :=
    (visitor.endParent kind children text state.1, state.2 ++ [.endParent kind children text])
  visitLeaf value text state :=
    (visitor.visitLeaf value text state.1, state.2 ++ [.visitLeaf value text])

/-- A visitor without state that skips the tokens and the children of the kinds it is told to. -/
def skipping (skipToken : Token → Bool) (skipChildren : ParentKind → Bool) : Visitor Unit where
  startVisit token _ := (if skipToken token then .skip else .enter, ())
  startParent kind _ _ _ := (if skipChildren kind then .skip else .enter, ())

end Visitor

/-- The calls of a visitor that is led through a token tree. -/
def Token.visitCalls {State : Type} (visitor : Visitor State) (start : State) (token : Token) :
    List VisitCall :=
  (token.accept visitor.recorded (start, [])).2

end TextGrammar
