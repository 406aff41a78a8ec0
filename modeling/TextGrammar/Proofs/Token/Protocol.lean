import TextGrammar.Proofs.Token.Nesting
import TextGrammar.Proofs.Token.Visits

/-!
# The protocol of visitors

Whatever a visitor answers and however its answers depend on what it has seen, its calls follow one
protocol: starts and ends match like brackets, a start that answers to skip is followed by its end at
once, a leaf is visited once, and the children of a parent are visited in order and once each. If the
answers depend on tokens alone, then the tokens that are started are those that are inside of no
skipped token, in preorder.
-/

namespace TextGrammar

variable {State : Type}

namespace Visitor

/-- What a visitor answers to a call in a state. Most calls are not asked for an answer. -/
def answer (visitor : Visitor State) (visit : Visit State) : Visiting :=
  match visit.call with
  | .startVisit token => (visitor.startVisit token visit.state).1
  | .startParent kind children text => (visitor.startParent kind children text visit.state).1
  | _ => .enter

/-- The state after a visit. -/
def after (visitor : Visitor State) (visit : Visit State) : State :=
  match visit.call with
  | .startVisit token => (visitor.startVisit token visit.state).2
  | .endVisit token => visitor.endVisit token visit.state
  | .startParent kind children text => (visitor.startParent kind children text visit.state).2
  | .endParent kind children text => visitor.endParent kind children text visit.state
  | .visitLeaf value text => visitor.visitLeaf value text visit.state

/-- Visits that lead from one state to another, each in the state that the one before leaves. -/
def InTurn (visitor : Visitor State) : State → List (Visit State) → State → Prop
  | start, [], finish => start = finish
  | start, visit :: visits, finish =>
      visit.state = start ∧ InTurn visitor (visitor.after visit) visits finish

theorem InTurn.append {visitor : Visitor State} {start middle finish : State}
    {front back : List (Visit State)} (first : visitor.InTurn start front middle)
    (second : visitor.InTurn middle back finish) : visitor.InTurn start (front ++ back) finish := by
  induction front generalizing start with
  | nil =>
      obtain rfl : start = middle := first
      exact second
  | cons visit visits ih => exact ⟨first.1, ih first.2⟩

end Visitor

/-- Visits of tokens in order and once each, every one from its start to the end that matches. -/
inductive InOrder : List Token → List (Visit State) → Prop where
  | nil : InOrder [] []
  | cons {token : Token} {tokens : List Token} {first last : State}
      {inside visits : List (Visit State)} (nested : Nested (inside.map Visit.call))
      (others : InOrder tokens visits) :
      InOrder (token :: tokens)
        (⟨.startVisit token, first⟩ :: inside ++ ⟨.endVisit token, last⟩ :: visits)

/-- What the protocol allows between the start of a token in a state and its end. -/
inductive Visitor.Inside (visitor : Visitor State) : Token → State → List (Visit State) → Prop where
  /-- Nothing, if the start answers to skip the token. -/
  | skipped {token : Token} {state : State}
      (answer : visitor.answer ⟨.startVisit token, state⟩ = .skip) :
      Inside visitor token state []
  /-- For a leaf just the visit of its value. -/
  | leaf {value : LeafValue} {text : String} {state first : State}
      (answer : visitor.answer ⟨.startVisit (.leaf value text), state⟩ = .enter) :
      Inside visitor (.leaf value text) state [⟨.visitLeaf value text, first⟩]
  /-- For a parent just the start and the end of its children, if that start answers to skip them. -/
  | childrenSkipped {kind : ParentKind} {children : List Token} {text : String}
      {state first second : State}
      (answer : visitor.answer ⟨.startVisit (.parent kind children text), state⟩ = .enter)
      (childrenAnswer : visitor.answer ⟨.startParent kind children text, first⟩ = .skip) :
      Inside visitor (.parent kind children text) state
        [⟨.startParent kind children text, first⟩, ⟨.endParent kind children text, second⟩]
  /-- For a parent all children, between their start and their end. -/
  | children {kind : ParentKind} {children : List Token} {text : String}
      {state first second : State} {visits : List (Visit State)}
      (answer : visitor.answer ⟨.startVisit (.parent kind children text), state⟩ = .enter)
      (childrenAnswer : visitor.answer ⟨.startParent kind children text, first⟩ = .enter)
      (eachChild : InOrder children visits) :
      Inside visitor (.parent kind children text) state
        (⟨.startParent kind children text, first⟩ :: visits ++
          [⟨.endParent kind children text, second⟩])

/-- A token that was started in a state is ended by just one of the visits that follow. The visits
before that end are nested, belong to the token and are as the protocol says. -/
def Visitor.Ends (visitor : Visitor State) (token : Token) (state : State)
    (following : List (Visit State)) : Prop :=
  ∃ inside last others, following = inside ++ ⟨.endVisit token, last⟩ :: others ∧
    Nested (inside.map Visit.call) ∧ (∀ visit ∈ inside, visit.call.token.IsIn token) ∧
    visitor.Inside token state inside ∧
    ∀ inside' closing others', following = inside' ++ closing :: others' →
      Nested (inside'.map Visit.call) → closing.call.isEnd = true →
        inside' = inside ∧ closing = ⟨.endVisit token, last⟩ ∧ others' = others

namespace Visitor.Ends

variable {visitor : Visitor State} {token : Token} {state : State}

theorem of_nested {last : State} {inside : List (Visit State)}
    (nested : Nested (inside.map Visit.call))
    (belong : ∀ visit ∈ inside, visit.call.token.IsIn token)
    (allowed : visitor.Inside token state inside) (others : List (Visit State)) :
    visitor.Ends token state (inside ++ ⟨.endVisit token, last⟩ :: others) := by
  refine ⟨inside, last, others, rfl, nested, belong, allowed, ?_⟩
  intro inside' closing others' split nested' closes
  have calls := congrArg (List.map Visit.call) split
  simp only [List.map_append, List.map_cons] at calls
  have sameLength := congrArg List.length (nested.end_unique nested' rfl closes calls).1
  rw [List.length_map, List.length_map] at sameLength
  obtain ⟨rfl, rest⟩ := List.append_inj split sameLength
  obtain ⟨rfl, rfl⟩ := List.cons.inj rest
  exact ⟨rfl, rfl, rfl⟩

theorem append {following : List (Visit State)} (ends : visitor.Ends token state following)
    (more : List (Visit State)) : visitor.Ends token state (following ++ more) := by
  obtain ⟨inside, last, others, rfl, nested, belong, allowed, -⟩ := ends
  rw [List.append_assoc]
  exact of_nested nested belong allowed (others ++ more)

end Visitor.Ends

/-- Each token that is started in a list of visits is ended in it. -/
def Visitor.EachEnds (visitor : Visitor State) (visits : List (Visit State)) : Prop :=
  ∀ (front : List (Visit State)) (token : Token) (state : State) (following : List (Visit State)),
    visits = front ++ ⟨.startVisit token, state⟩ :: following → visitor.Ends token state following

namespace Visitor.EachEnds

variable {visitor : Visitor State}

theorem nil : visitor.EachEnds [] := by
  intro front token state following split
  simp at split

theorem append {front back : List (Visit State)} (first : visitor.EachEnds front)
    (second : visitor.EachEnds back) : visitor.EachEnds (front ++ back) := by
  intro before token state following split
  rcases List.append_eq_append_iff.1 split with ⟨between, -, behind⟩ | ⟨between, ahead, behind⟩
  · exact second _ _ _ _ behind
  · cases between with
    | nil => exact second [] _ _ _ behind.symm
    | cons visit between =>
        obtain ⟨rfl, rfl⟩ := List.cons.inj behind
        exact (first _ _ _ _ ahead).append back

theorem cons {visit : Visit State} {visits : List (Visit State)}
    (here : ∀ token, visit.call = .startVisit token → visitor.Ends token visit.state visits)
    (later : visitor.EachEnds visits) : visitor.EachEnds (visit :: visits) := by
  intro before token state following split
  cases before with
  | nil =>
      obtain ⟨rfl, rfl⟩ := List.cons.inj split
      exact here token rfl
  | cons first before => exact later _ _ _ _ (List.cons.inj split).2

end Visitor.EachEnds

/-- Visits as the protocol wants them, all of which belong to tokens of some kind. -/
structure Visitor.Proper (visitor : Visitor State) (belongs : Token → Prop) (start : State)
    (visits : List (Visit State)) (finish : State) : Prop where
  inTurn : visitor.InTurn start visits finish
  nested : Nested (visits.map Visit.call)
  belong : ∀ visit ∈ visits, belongs visit.call.token
  eachEnds : visitor.EachEnds visits

namespace Visitor.Proper

variable {visitor : Visitor State} {belongs : Token → Prop}

theorem nil (state : State) : visitor.Proper belongs state [] state where
  inTurn := rfl
  nested := .nil
  belong := by simp
  eachEnds := .nil

theorem leaf {value : LeafValue} {text : String} (own : belongs (.leaf value text)) (state : State) :
    visitor.Proper belongs state [⟨.visitLeaf value text, state⟩]
      (visitor.visitLeaf value text state) where
  inTurn := ⟨rfl, rfl⟩
  nested := .leaf .nil
  belong := by simpa [VisitCall.token] using own
  eachEnds := .cons (by simp) .nil

theorem append {start middle finish : State} {front back : List (Visit State)}
    (first : visitor.Proper belongs start front middle)
    (second : visitor.Proper belongs middle back finish) :
    visitor.Proper belongs start (front ++ back) finish where
  inTurn := first.inTurn.append second.inTurn
  nested := by
    rw [List.map_append]
    exact first.nested.append second.nested
  belong := List.forall_mem_append.2 ⟨first.belong, second.belong⟩
  eachEnds := first.eachEnds.append second.eachEnds

/-- A start before proper visits and the end that matches it after them. -/
theorem pair {opening closing : VisitCall} {start first last : State}
    {inside : List (Visit State)} (closes : opening.closing? = some closing)
    (opens : visitor.after ⟨opening, start⟩ = first)
    (inner : visitor.Proper belongs first inside last)
    (opensOwn : belongs opening.token) (closesOwn : belongs closing.token)
    (ends : ∀ token, opening = .startVisit token →
      visitor.Ends token start (inside ++ [⟨closing, last⟩])) :
    visitor.Proper belongs start (⟨opening, start⟩ :: inside ++ [⟨closing, last⟩])
      (visitor.after ⟨closing, last⟩) where
  inTurn := ⟨rfl, opens ▸ inner.inTurn.append ⟨rfl, rfl⟩⟩
  nested := by simpa using Nested.pair closes inner.nested .nil
  belong := by
    intro visit member
    simp only [List.cons_append, List.mem_cons, List.mem_append, List.not_mem_nil, or_false] at member
    rcases member with rfl | member | rfl
    · exact opensOwn
    · exact inner.belong visit member
    · exact closesOwn
  eachEnds := by
    have noStart : ∀ token, closing ≠ .startVisit token := by
      rintro token rfl
      exact absurd (VisitCall.isEnd_of_closing? closes) (by simp [VisitCall.isEnd])
    exact .cons ends (inner.eachEnds.append
      (.cons (fun token isStart => absurd isStart (noStart token)) .nil))

theorem mono {belongs' : Token → Prop} {start finish : State} {visits : List (Visit State)}
    (proper : visitor.Proper belongs start visits finish)
    (wider : ∀ token, belongs token → belongs' token) :
    visitor.Proper belongs' start visits finish where
  inTurn := proper.inTurn
  nested := proper.nested
  belong visit member := wider _ (proper.belong visit member)
  eachEnds := proper.eachEnds

end Visitor.Proper

namespace Token

variable {visitor : Visitor State}

/-- A token with nested visits inside of it is visited in order. -/
theorem inOrder_visitsOfAll {tokens : List Token} (state : State)
    (nested : ∀ token ∈ tokens, ∀ state inside last, Interior visitor token state inside last →
      Nested (inside.map Visit.call)) :
    InOrder tokens (visitsOfAll visitor tokens state) := by
  induction tokens generalizing state with
  | nil => exact .nil
  | cons token tokens ih =>
      obtain ⟨here, later⟩ := List.forall_mem_cons.1 nested
      obtain ⟨inside, last, interior, visits, -⟩ := visits_eq visitor token state
      rw [visitsOfAll, visits, List.append_assoc]
      exact .cons (here _ _ _ interior) (ih _ later)

/-- The visits of several tokens are proper if those of each token are. -/
theorem proper_visitsOfAll {belongs : Token → Prop} {tokens : List Token} (state : State)
    (each : ∀ token ∈ tokens, ∀ state,
      visitor.Proper belongs state (token.visits visitor state) (token.accept visitor state)) :
    visitor.Proper belongs state (visitsOfAll visitor tokens state)
      (acceptAll visitor tokens state) := by
  induction tokens generalizing state with
  | nil => exact .nil state
  | cons token tokens ih =>
      obtain ⟨here, later⟩ := List.forall_mem_cons.1 each
      exact (here state).append (ih _ later)

/-- If visits inside of a token are proper, then they are so with its start and its end around them. -/
theorem proper_visits_of_inside {token : Token} (state : State)
    (inner : ∀ inside last, Interior visitor token state inside last →
      visitor.Proper (IsIn · token) (visitor.startVisit token state).2 inside last ∧
        visitor.Inside token state inside) :
    visitor.Proper (IsIn · token) state (token.visits visitor state)
      (token.accept visitor state) := by
  obtain ⟨inside, last, interior, visits, finish⟩ := visits_eq visitor token state
  obtain ⟨proper, allowed⟩ := inner inside last interior
  rw [visits, finish]
  refine .pair rfl rfl proper .self .self ?_
  rintro _ ⟨⟩
  exact .of_nested proper.nested proper.belong allowed []

/-- What is seen inside of a token is proper and is what the protocol allows. -/
theorem proper_inside (token : Token) {state last : State} {inside : List (Visit State)}
    (interior : Interior visitor token state inside last) :
    visitor.Proper (IsIn · token) (visitor.startVisit token state).2 inside last ∧
      visitor.Inside token state inside := by
  induction token generalizing state inside last with
  | leaf value text =>
      cases interior with
      | skipped answer =>
          rw [answer]
          exact ⟨.nil _, .skipped (by simp [Visitor.answer, answer])⟩
      | leaf answer =>
          rw [answer]
          exact ⟨.leaf .self _, .leaf (by simp [Visitor.answer, answer])⟩
  | parent kind children text ih =>
      cases interior with
      | skipped answer =>
          rw [answer]
          exact ⟨.nil _, .skipped (by simp [Visitor.answer, answer])⟩
      | @childrenSkipped _ _ _ _ first second answer childrenAnswer =>
          rw [answer]
          have after : visitor.after ⟨.startParent kind children text, first⟩ = second := by
            simp [Visitor.after, childrenAnswer]
          refine ⟨.pair rfl after (.nil second) .self .self (by simp), .childrenSkipped ?_ ?_⟩
          · simp [Visitor.answer, answer]
          · simp [Visitor.answer, childrenAnswer]
      | @children _ _ _ _ first second answer childrenAnswer =>
          rw [answer]
          have after : visitor.after ⟨.startParent kind children text, first⟩ = second := by
            simp [Visitor.after, childrenAnswer]
          have inner : visitor.Proper (IsIn · (.parent kind children text)) second
              (visitsOfAll visitor children second) (acceptAll visitor children second) :=
            proper_visitsOfAll second fun child member state =>
              (proper_visits_of_inside state fun _ _ => ih child member).mono fun _ => .inner member
          refine ⟨.pair rfl after inner .self .self (by simp), .children ?_ ?_ ?_⟩
          · simp [Visitor.answer, answer]
          · simp [Visitor.answer, childrenAnswer]
          · exact inOrder_visitsOfAll second fun child member _ _ _ interior =>
              (ih child member interior).1.nested

/-- All visits of a token are proper. -/
theorem proper_visits (visitor : Visitor State) (token : Token) (state : State) :
    visitor.Proper (IsIn · token) state (token.visits visitor state)
      (token.accept visitor state) :=
  proper_visits_of_inside state fun _ _ => proper_inside token

/-! ## Answers that depend on tokens alone -/

end Token

/-- A visitor whose answers do not depend on its state. -/
structure Visitor.Steady (visitor : Visitor State) : Prop where
  startVisit : ∀ token state state',
    (visitor.startVisit token state).1 = (visitor.startVisit token state').1
  startParent : ∀ kind children text state state',
    (visitor.startParent kind children text state).1 =
      (visitor.startParent kind children text state').1

/-- Whether a visitor in a state answers to skip what is inside of a token, at the start of the token or
at the start of its children. -/
def Visitor.skips (visitor : Visitor State) (state : State) : Token → Bool
  | .leaf value text => (visitor.startVisit (.leaf value text) state).1 = .skip
  | .parent kind children text =>
      (visitor.startVisit (.parent kind children text) state).1 = .skip ||
        (visitor.startParent kind children text state).1 = .skip

/-- The calls at starts of tokens, of which just the tokens are left. -/
def startedTokens (calls : List VisitCall) : List Token :=
  calls.filterMap VisitCall.started?

namespace Token

variable {visitor : Visitor State}

/-- Whether a visitor in a state skips none of the tokens around a place. -/
def Place.isReached (visitor : Visitor State) (state : State) (place : Place) : Bool :=
  place.ancestors.all fun ancestor => !visitor.skips state ancestor

theorem isReached_of_free {ancestors : List Token} {state : State}
    (free : ∀ ancestor ∈ ancestors, visitor.skips state ancestor = false) (token : Token) :
    Place.isReached visitor state ⟨ancestors, token⟩ = true := by
  simpa [Place.isReached] using free

/-- Nothing is reached inside of a token that is skipped. -/
theorem reached_of_skips {token : Token} {ancestors : List Token} {state : State}
    (free : ∀ ancestor ∈ ancestors, visitor.skips state ancestor = false)
    (skipped : visitor.skips state token = true) :
    (placesIn ancestors token).filter (Place.isReached visitor state) = [⟨ancestors, token⟩] := by
  rw [placesIn_eq, List.filter_cons_of_pos (isReached_of_free free token), List.cons.injEq,
    List.filter_eq_nil_iff]
  refine ⟨rfl, fun place inside => ?_⟩
  obtain ⟨child, -, inside⟩ := List.mem_flatMap.1 inside
  rw [Place.isReached, Bool.not_eq_true, List.all_eq_false]
  exact ⟨token, mem_ancestors_of_mem_placesIn inside List.mem_cons_self, by simp [skipped]⟩

/-- Several tokens are reached one after the other. -/
theorem startedTokens_visitsOfAll {tokens ancestors : List Token} {start : State}
    (each : ∀ token ∈ tokens, ∀ state,
      startedTokens ((token.visits visitor state).map Visit.call) =
        ((placesIn ancestors token).filter (Place.isReached visitor start)).map Place.token)
    (state : State) :
    startedTokens ((visitsOfAll visitor tokens state).map Visit.call) =
      ((tokens.flatMap (placesIn ancestors)).filter (Place.isReached visitor start)).map
        Place.token := by
  induction tokens generalizing state with
  | nil => rfl
  | cons token tokens ih =>
      obtain ⟨here, later⟩ := List.forall_mem_cons.1 each
      have first := here state
      have second := ih later (token.accept visitor state)
      simp only [startedTokens] at first second ⊢
      simp only [visitsOfAll, List.map_append, List.filterMap_append, first, second,
        List.flatMap_cons, List.filter_append]

/-- The tokens that are started, if the answers are those in a given state, are those that are
reached. -/
theorem startedTokens_visits (steady : visitor.Steady) (token : Token) {ancestors : List Token}
    {start : State} (free : ∀ ancestor ∈ ancestors, visitor.skips start ancestor = false)
    (state : State) :
    startedTokens ((token.visits visitor state).map Visit.call) =
      ((placesIn ancestors token).filter (Place.isReached visitor start)).map Place.token := by
  induction token generalizing ancestors state with
  | leaf value text =>
      obtain ⟨inside, last, interior, visits, -⟩ := visits_eq visitor (.leaf value text) state
      rw [visits, placesIn, List.filter_cons_of_pos (isReached_of_free free _)]
      cases interior <;> rfl
  | parent kind children text ih =>
      obtain ⟨inside, last, interior, visits, -⟩ := visits_eq visitor (.parent kind children text) state
      rw [visits]
      cases interior with
      | skipped answer =>
          have skipped : visitor.skips start (.parent kind children text) = true := by
            simp [Visitor.skips, steady.startVisit _ start state, answer]
          rw [reached_of_skips free skipped]
          rfl
      | @childrenSkipped _ _ _ _ first _ answer childrenAnswer =>
          have skipped : visitor.skips start (.parent kind children text) = true := by
            simp [Visitor.skips, steady.startParent _ _ _ start first, childrenAnswer]
          rw [reached_of_skips free skipped]
          rfl
      | @children _ _ _ _ first second answer childrenAnswer =>
          have entered : visitor.skips start (.parent kind children text) = false := by
            simp [Visitor.skips, steady.startVisit _ start state, answer,
              steady.startParent _ _ _ start first, childrenAnswer]
          have freeInside : ∀ ancestor ∈ .parent kind children text :: ancestors,
              visitor.skips start ancestor = false := List.forall_mem_cons.2 ⟨entered, free⟩
          have inside := startedTokens_visitsOfAll
            (fun child member state => ih child member freeInside state) second
          rw [placesIn_eq, List.filter_cons_of_pos (isReached_of_free free _), List.map_cons,
            Token.children, ← inside]
          simp [startedTokens, VisitCall.started?, List.filterMap_cons]

/-! ## The protocol -/

/-- The visits of a token tree are the calls of the visitor in the states that it has there. They are
properly nested, and begin and end with the token itself. Each token that is started is ended in just
one place, and what is between is as the protocol says. If the answers of the visitor depend on
tokens alone, then the tokens that are started are those that are inside of no skipped one, in
preorder. -/
theorem visits_follow_protocol (visitor : Visitor State) (token : Token) (start : State) :
    (token.visits visitor start).map Visit.call = token.visitCalls visitor start ∧
    visitor.InTurn start (token.visits visitor start) (token.accept visitor start) ∧
    Nested (token.visitCalls visitor start) ∧
    InOrder [token] (token.visits visitor start) ∧
    (∀ front opened state following,
      token.visits visitor start = front ++ ⟨.startVisit opened, state⟩ :: following →
        visitor.Ends opened state following) ∧
    (visitor.Steady →
      startedTokens (token.visitCalls visitor start) =
        (token.places.filter (Place.isReached visitor start)).map Place.token) := by
  have proper := proper_visits visitor token start
  have inOrder : InOrder [token] (visitsOfAll visitor [token] start) :=
    inOrder_visitsOfAll start fun _ _ _ _ _ interior => (proper_inside _ interior).1.nested
  rw [visitsOfAll, visitsOfAll, List.append_nil] at inOrder
  rw [visitCalls_eq]
  refine ⟨rfl, proper.inTurn, proper.nested, inOrder, proper.eachEnds, fun steady => ?_⟩
  exact startedTokens_visits steady token (by simp) start

/-- A number, two letters that are repeated, and a blank, in sequence. -/
def numberAndLetters : Token :=
  .parent .sequence
    [.leaf (.long 1) "1",
      .parent .repeated [.leaf (.character 'a') "a", .leaf (.character 'b') "b"] "ab",
      .leaf (.whitespace " ") " "]
    "1ab "

/-- A visitor that skips blanks, and what is repeated. -/
def skippingRepeated : Visitor Unit :=
  .skipping isWhitespace (· == .repeated)

theorem visits_follow_protocol_skippingRepeated :
    (∃ following,
      numberAndLetters.visits skippingRepeated () =
        [] ++ ⟨.startVisit numberAndLetters, ()⟩ :: following ∧
      skippingRepeated.Ends numberAndLetters () following) ∧
    skippingRepeated.Steady ∧
    startedTokens (numberAndLetters.visitCalls skippingRepeated ()) =
      [numberAndLetters, .leaf (.long 1) "1",
        .parent .repeated [.leaf (.character 'a') "a", .leaf (.character 'b') "b"] "ab",
        .leaf (.whitespace " ") " "] := by
  obtain ⟨-, -, -, -, ends, started⟩ :=
    visits_follow_protocol skippingRepeated numberAndLetters ()
  have steady : skippingRepeated.Steady := ⟨fun _ _ _ => rfl, fun _ _ _ _ _ => rfl⟩
  refine ⟨⟨_, rfl, ends [] numberAndLetters () _ rfl⟩, steady, ?_⟩
  rw [started steady]
  rfl

end Token

end TextGrammar
