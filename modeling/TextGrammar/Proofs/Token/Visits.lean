import TextGrammar.Proofs.Token.Tree
import TextGrammar.Token.Visitor

/-!
# Visits of a token tree

A visit is a call of a visitor together with the state in which it is called. The visits of a token
tree are what a visitor sees while it is led through the tree: a start, an end, and what is inside of
the token between them, for which there are four ways.
-/

namespace TextGrammar

/-- A call of a visitor, and the state of the visitor just before. -/
structure Visit (State : Type) where
  call : VisitCall
  state : State

variable {State Note : Type}

namespace Visitor

/-- A visitor that acts as another one and also notes something at each of its calls. -/
def noting (note : VisitCall → State → Note) (visitor : Visitor State) :
    Visitor (State × List Note) where
  startVisit token state :=
    let (visiting, inner) := visitor.startVisit token state.1
    (visiting, inner, state.2 ++ [note (.startVisit token) state.1])
  endVisit token state :=
    (visitor.endVisit token state.1, state.2 ++ [note (.endVisit token) state.1])
  startParent kind children text state :=
    let (visiting, inner) := visitor.startParent kind children text state.1
    (visiting, inner, state.2 ++ [note (.startParent kind children text) state.1])
  endParent kind children text state :=
    (visitor.endParent kind children text state.1,
      state.2 ++ [note (.endParent kind children text) state.1])
  visitLeaf value text state :=
    (visitor.visitLeaf value text state.1, state.2 ++ [note (.visitLeaf value text) state.1])

section

variable (note : VisitCall → State → Note) (visitor : Visitor State) (state : State)
  (before : List Note)

@[simp] theorem noting_startVisit (token : Token) :
    (visitor.noting note).startVisit token (state, before) =
      ((visitor.startVisit token state).1, (visitor.startVisit token state).2,
        before ++ [note (.startVisit token) state]) := rfl

@[simp] theorem noting_endVisit (token : Token) :
    (visitor.noting note).endVisit token (state, before) =
      (visitor.endVisit token state, before ++ [note (.endVisit token) state]) := rfl

@[simp] theorem noting_startParent (kind : ParentKind) (children : List Token) (text : String) :
    (visitor.noting note).startParent kind children text (state, before) =
      ((visitor.startParent kind children text state).1,
        (visitor.startParent kind children text state).2,
        before ++ [note (.startParent kind children text) state]) := rfl

@[simp] theorem noting_endParent (kind : ParentKind) (children : List Token) (text : String) :
    (visitor.noting note).endParent kind children text (state, before) =
      (visitor.endParent kind children text state,
        before ++ [note (.endParent kind children text) state]) := rfl

@[simp] theorem noting_visitLeaf (value : LeafValue) (text : String) :
    (visitor.noting note).visitLeaf value text (state, before) =
      (visitor.visitLeaf value text state, before ++ [note (.visitLeaf value text) state]) := rfl

end

/-- To record calls is to note each of them. -/
theorem recorded_eq_noting (visitor : Visitor State) :
    visitor.recorded = visitor.noting fun call _ => call := rfl

end Visitor

namespace Token

/-- The visits of a visitor that is led through a token tree. -/
def visits (visitor : Visitor State) (token : Token) (start : State) : List (Visit State) :=
  (token.accept (visitor.noting Visit.mk) (start, [])).2

/-- The visits of a visitor that is led through token trees, one after the other. -/
def visitsOfAll (visitor : Visitor State) : List Token → State → List (Visit State)
  | [], _ => []
  | token :: tokens, state =>
      token.visits visitor state ++ visitsOfAll visitor tokens (token.accept visitor state)

/-- What a visitor sees between the start and the end of a token, and the state at that end. -/
inductive Interior (visitor : Visitor State) : Token → State → List (Visit State) → State → Prop where
  /-- The start of the token answers to skip it. -/
  | skipped {token : Token} {state first : State}
      (answer : visitor.startVisit token state = (.skip, first)) :
      Interior visitor token state [] first
  /-- A leaf has its one visit. -/
  | leaf {value : LeafValue} {text : String} {state first : State}
      (answer : visitor.startVisit (.leaf value text) state = (.enter, first)) :
      Interior visitor (.leaf value text) state [⟨.visitLeaf value text, first⟩]
        (visitor.visitLeaf value text first)
  /-- The start of the children answers to skip them. -/
  | childrenSkipped {kind : ParentKind} {children : List Token} {text : String}
      {state first second : State}
      (answer : visitor.startVisit (.parent kind children text) state = (.enter, first))
      (childrenAnswer : visitor.startParent kind children text first = (.skip, second)) :
      Interior visitor (.parent kind children text) state
        [⟨.startParent kind children text, first⟩, ⟨.endParent kind children text, second⟩]
        (visitor.endParent kind children text second)
  /-- All children are visited. -/
  | children {kind : ParentKind} {children : List Token} {text : String}
      {state first second : State}
      (answer : visitor.startVisit (.parent kind children text) state = (.enter, first))
      (childrenAnswer : visitor.startParent kind children text first = (.enter, second)) :
      Interior visitor (.parent kind children text) state
        (⟨.startParent kind children text, first⟩ :: visitsOfAll visitor children second ++
          [⟨.endParent kind children text, acceptAll visitor children second⟩])
        (visitor.endParent kind children text (acceptAll visitor children second))

/-- What is noted of visits. -/
def notes (note : VisitCall → State → Note) (visits : List (Visit State)) : List Note :=
  visits.map fun visit => note visit.call visit.state

/-- A visitor that notes something goes the same way, and adds its notes to those there are. -/
def NotesVisits (visitor : Visitor State) (token : Token) : Prop :=
  ∀ (Note : Type) (note : VisitCall → State → Note) (state : State) (before : List Note),
    token.accept (visitor.noting note) (state, before) =
      (token.accept visitor state, before ++ notes note (token.visits visitor state))

theorem acceptAll_noting {visitor : Visitor State} {tokens : List Token}
    (each : ∀ token ∈ tokens, NotesVisits visitor token) (note : VisitCall → State → Note)
    (state : State) (before : List Note) :
    acceptAll (visitor.noting note) tokens (state, before) =
      (acceptAll visitor tokens state, before ++ notes note (visitsOfAll visitor tokens state)) := by
  induction tokens generalizing state before with
  | nil => simp [acceptAll, visitsOfAll, notes]
  | cons token tokens ih =>
      obtain ⟨here, there⟩ := List.forall_mem_cons.1 each
      simp only [acceptAll, visitsOfAll, here Note note state before, ih there]
      simp [notes]

/-- Whatever is noted, a token is visited at its start, then inside and at its end. -/
theorem accept_noting_of_children {visitor : Visitor State} {token : Token}
    (each : ∀ child ∈ token.children, NotesVisits visitor child) (state : State) :
    ∃ inside last, Interior visitor token state inside last ∧
      token.accept visitor state = visitor.endVisit token last ∧
      ∀ (Note : Type) (note : VisitCall → State → Note) (before : List Note),
        token.accept (visitor.noting note) (state, before) =
          (visitor.endVisit token last,
            before ++ notes note
              (⟨.startVisit token, state⟩ :: inside ++ [⟨.endVisit token, last⟩])) := by
  rcases answer : visitor.startVisit token state with ⟨_ | _, first⟩
  case skip =>
    refine ⟨_, _, .skipped answer, ?_, fun Note note before => ?_⟩ <;> cases token <;>
      simp [accept, answer, notes]
  case enter =>
    cases token with
    | leaf value text =>
        refine ⟨_, _, .leaf answer, ?_, fun Note note before => ?_⟩ <;>
          simp [accept, answer, notes]
    | parent kind children text =>
        rcases childrenAnswer : visitor.startParent kind children text first with ⟨_ | _, second⟩
        case skip =>
          refine ⟨_, _, .childrenSkipped answer childrenAnswer, ?_, fun Note note before => ?_⟩ <;>
            simp [accept, answer, childrenAnswer, notes]
        case enter =>
          have eachChild : ∀ child ∈ children, NotesVisits visitor child := each
          refine ⟨_, _, .children answer childrenAnswer, ?_, fun Note note before => ?_⟩ <;>
            simp [accept, answer, childrenAnswer, acceptAll_noting eachChild, notes]

theorem notesVisits (visitor : Visitor State) (token : Token) : NotesVisits visitor token := by
  have goesOn (token : Token) (each : ∀ child ∈ token.children, NotesVisits visitor child) :
      NotesVisits visitor token := by
    intro Note note state before
    obtain ⟨inside, last, -, finish, noted⟩ := accept_noting_of_children each state
    rw [noted, finish, visits, noted]
    simp [notes]
  induction token with
  | leaf value text => exact goesOn _ fun _ member => absurd member List.not_mem_nil
  | parent kind children text ih => exact goesOn _ ih

/-- A token is visited at its start, then inside and at its end. -/
theorem visits_eq (visitor : Visitor State) (token : Token) (state : State) :
    ∃ inside last, Interior visitor token state inside last ∧
      token.visits visitor state =
        ⟨.startVisit token, state⟩ :: inside ++ [⟨.endVisit token, last⟩] ∧
      token.accept visitor state = visitor.endVisit token last := by
  obtain ⟨inside, last, interior, finish, noted⟩ :=
    accept_noting_of_children (fun child _ => notesVisits visitor child) state
  refine ⟨inside, last, interior, ?_, finish⟩
  simp [visits, noted, notes]

/-- The calls that are recorded are those of the visits. -/
theorem visitCalls_eq (visitor : Visitor State) (start : State) (token : Token) :
    token.visitCalls visitor start = (token.visits visitor start).map Visit.call := by
  rw [visitCalls, Visitor.recorded_eq_noting, notesVisits]
  simp [notes]

end Token

end TextGrammar
