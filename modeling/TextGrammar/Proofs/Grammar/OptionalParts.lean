import TextGrammar.Proofs.Grammar.Sequence

/-!
# Two spellings of an optional part

A part of a sequence may be left out in two ways: the component is optional, or it is required and its
grammar is optional. The first goes back by itself and gives no token, the second lets its grammar go
back and gives a token without children. The components behind it begin at the same place either way,
so the two spellings differ in that token only.
-/

namespace TextGrammar

/-- The optional token that holds given tokens. -/
def Token.optionalOf (tokens : List Token) : Token :=
  .parent .optional tokens (joinTexts tokens)

/-- An optional token has the text of the token that it holds. -/
theorem Token.text_optionalOf_singleton (token : Token) :
    (Token.optionalOf [token]).text = token.text := by
  rw [optionalOf, text, joinTexts_cons, joinTexts_nil, String.append_empty]

namespace Matcher

variable {matcher : Matcher}

/-- An optional matcher holds the tokens of an optional part. -/
theorem alike_tokens_optional (consumes : matcher.ConsumesText) (label partLabel : String)
    (conventions : Conventions) (start : Cursor) :
    (Part.tokens label ⟨false, partLabel, matcher⟩ conventions start).Alike
      (fun tokens token => token = .optionalOf tokens) (matcher.optional conventions start) := by
  apply Reply.Alike.orElse
  · apply (Reply.Alike.refl _).andThen
    intro token token' finish found same
    cases same
    have joined : finish.textBetween start.save = Token.joinTexts [token] := by
      have passage := consumes conventions start token found.outcome_eq
      rw [found.cursor_eq] at passage
      rw [passage.textBetween_eq, String.ofList_toList]
      exact (Token.text_optionalOf_singleton token).symm
    rw [Token.makeParent_eq_ok_iff.2 ⟨joined, rfl⟩, joined]
    exact .matched (by rfl) finish
  · intro cursor cursor'
    exact .matched (by rfl) start

theorem consumesText_optional (consumes : matcher.ConsumesText) :
    matcher.optional.ConsumesText := by
  intro conventions start token matched
  have alike := (alike_tokens_optional consumes "" "" conventions start).symm
  rcases alike.outcomes.exists_of_matched matched with ⟨tokens, collected, rfl⟩
  have cursor := alike.cursors (by simp [matched])
  rcases matches_tokens_iff.1 ⟨collected, cursor⟩ with ⟨token, found, rfl⟩ | ⟨-, -, rfl, same⟩
  · have passage := consumes conventions start token found.outcome_eq
    rw [found.cursor_eq] at passage
    rwa [Token.text_optionalOf_singleton]
  · rw [same]
    exact .refl start

end Matcher

namespace Grammar

/-- Components are those of another sequence, but for some optional ones in whose place stand required
ones with an optional grammar. -/
inductive Respells : List Component → List Component → Prop
  | nil : Respells [] []
  | kept {components others : List Component} (component : Component)
      (rest : Respells components others) :
      Respells (component :: components) (component :: others)
  | respelled {components others : List Component} (inner : Grammar)
      (rest : Respells components others) :
      Respells (.optional inner :: components) (.required (.optional inner) :: others)

/-- From a cursor on, two sequences collect the same tokens, but for the components that are spelled
in two ways: what the one collects of such a component, if anything, the other collects inside an
optional token. -/
inductive CollectAlike (conventions : Conventions) :
    Cursor → List Component → List Component → List Token → List Token → Prop
  | nil (start : Cursor) : CollectAlike conventions start [] [] [] []
  | found {start next : Cursor} {component : Component} {components others : List Component}
      {token : Token} {tokens images : List Token}
      (found : (component.grammar.parse conventions start).Matches token next)
      (rest : CollectAlike conventions next components others tokens images) :
      CollectAlike conventions start (component :: components) (component :: others)
        (token :: tokens) (token :: images)
  | missed {start : Cursor} {inner : Grammar} {components others : List Component}
      {tokens images : List Token} (missing : (inner.parse conventions start).outcome = .noMatch)
      (rest : CollectAlike conventions start components others tokens images) :
      CollectAlike conventions start (.optional inner :: components) (.optional inner :: others)
        tokens images
  | held {start next : Cursor} {inner : Grammar} {components others : List Component}
      {token : Token} {tokens images : List Token}
      (found : (inner.parse conventions start).Matches token next)
      (rest : CollectAlike conventions next components others tokens images) :
      CollectAlike conventions start (.optional inner :: components)
        (.required (.optional inner) :: others) (token :: tokens) (.optionalOf [token] :: images)
  | empty {start : Cursor} {inner : Grammar} {components others : List Component}
      {tokens images : List Token} (missing : (inner.parse conventions start).outcome = .noMatch)
      (rest : CollectAlike conventions start components others tokens images) :
      CollectAlike conventions start (.optional inner :: components)
        (.required (.optional inner) :: others) tokens (.optionalOf [] :: images)

variable {conventions : Conventions} {start : Cursor} {components others : List Component}
  {tokens images : List Token} {inner : Grammar}

theorem Respells.consumeText (respells : Respells components others)
    (consume : ConsumeText components) : ConsumeText others := by
  induction respells with
  | nil => exact consume
  | kept component rest ih =>
      rw [ConsumeText, List.forall_mem_cons] at consume
      exact List.forall_mem_cons.2 ⟨consume.1, ih consume.2⟩
  | respelled inner rest ih =>
      rw [ConsumeText, List.forall_mem_cons] at consume
      exact List.forall_mem_cons.2 ⟨Matcher.consumesText_optional consume.1, ih consume.2⟩

theorem CollectAlike.joinTexts_eq
    (alike : CollectAlike conventions start components others tokens images) :
    Token.joinTexts images = Token.joinTexts tokens := by
  induction alike with
  | nil start => rfl
  | found found rest ih => rw [Token.joinTexts_cons, ih, Token.joinTexts_cons]
  | missed missing rest ih => exact ih
  | held found rest ih =>
      rw [Token.joinTexts_cons, ih, Token.text_optionalOf_singleton, Token.joinTexts_cons]
  | empty missing rest ih =>
      rw [Token.joinTexts_cons, ih]
      exact String.empty_append

/-- A component that is optional gives a token or none, and its other spelling an optional token with
that. -/
theorem alike_tokens_respelled (consumes : inner.matcher.ConsumesText) (label label' : String)
    (conventions : Conventions) (start : Cursor) :
    ((Component.optional inner).part.tokens label conventions start).Alike
      (fun tokens images => images = [.optionalOf tokens])
      ((Component.required (.optional inner)).part.tokens label' conventions start) := by
  have held := (Matcher.alike_tokens_optional consumes label inner.label conventions start).trans
    (Matcher.alike_tokens_of_required label' (Grammar.optional inner).label inner.matcher.optional
      conventions start).symm
  apply held.mono
  intro tokens images pair
  rcases pair with ⟨token, rfl, rfl⟩
  rfl

/-- The components behind one that is spelled in two ways are tried at the same place. -/
theorem alike_gather_respelled (respells : Respells components others)
    (consume : ConsumeText components) (label label' : String) (conventions : Conventions)
    (start : Cursor) :
    (Matcher.gather label (componentParts components) conventions start).Alike
      (CollectAlike conventions start components others)
      (Matcher.gather label' (componentParts others) conventions start) := by
  induction respells generalizing start with
  | nil => exact .matched (.nil start) start
  | kept component rest ih =>
      rw [ConsumeText, List.forall_mem_cons] at consume
      apply (Matcher.alike_tokens component.part label label' conventions start).andThen
      intro front front' next collected same
      cases same
      apply (ih consume.2 next).andThen
      intro tokens images finish _ alike
      rcases Matcher.matches_tokens_iff.1 collected with
        ⟨token, found, rfl⟩ | ⟨free, missing, rfl, rfl⟩
      · cases component with
        | required grammar => exact .matched (.found found alike) finish
        | optional grammar => exact .matched (.found found alike) finish
      · cases component with
        | required grammar => cases free
        | optional grammar => exact .matched (.missed missing alike) finish
  | respelled inner rest ih =>
      rw [ConsumeText, List.forall_mem_cons] at consume
      apply (alike_tokens_respelled consume.1 label label' conventions start).andThen
      intro front front' next collected same
      subst same
      apply (ih consume.2 next).andThen
      intro tokens images finish _ alike
      rcases Matcher.matches_tokens_iff.1 collected with ⟨token, found, rfl⟩ | ⟨-, missing, rfl, rfl⟩
      · exact .matched (.held found alike) finish
      · exact .matched (.empty missing alike) finish

/-- An optional part of a sequence may be spelled in two ways, as an optional component or as a
required one with an optional grammar. Whichever components are respelled, the sequence matches, does
not match or fails with the same error, leaves the cursor at the same place, and matches the same text.
The children are the same but for the respelled components, each of which gives an optional token with
what its grammar has matched in its place, and one without children if there was no match. -/
theorem optional_spellings_agree {components others : List Component}
    (respells : Respells components others) (consume : ConsumeText components)
    (conventions : Conventions) (start : Cursor) :
    let plain := (sequence components).parse conventions start
    let respelled := (sequence others).parse conventions start
    respelled.cursor = plain.cursor ∧
      plain.outcome.Alike (fun token image =>
        Token.SequencesOf (CollectAlike conventions start components others) token image ∧
          image.text = token.text) respelled.outcome := by
  intro plain respelled
  have alike := Matcher.alike_sequences consume.parts (respells.consumeText consume).parts
    (alike_gather_respelled respells consume (sequence components).label (sequence others).label
      conventions start)
  refine ⟨alike.2, alike.1.mono ?_⟩
  intro token image sequences
  rcases id sequences with ⟨tokens, images, rfl, rfl, collected⟩
  exact ⟨sequences, collected.joinTexts_eq⟩

/-- A letter with a mark before it, a mark behind it and a symbol at the end, all of which may be
missing. -/
def markedLetter : List Component :=
  [.optional strayMark, .required (.leaf (.symbol "b")), .optional strayMark,
    .optional (.leaf (.symbol ";"))]

/-- The same with the first mark and the symbol at the end spelled the other way. -/
def respelledLetter : List Component :=
  [.required (.optional strayMark), .required (.leaf (.symbol "b")), .optional strayMark,
    .required (.optional (.leaf (.symbol ";")))]

theorem respells_markedLetter : Respells markedLetter respelledLetter :=
  .respelled _ (.kept _ (.kept _ (.respelled _ .nil)))

theorem consumeText_markedLetter : ConsumeText markedLetter := by
  have symbol (wanted : String) : (leaf (.symbol wanted)).matcher.ConsumesText :=
    ((Leaf.symbol wanted).reads_matcher fun _ _ => True).consumesText
  simp [markedLetter, ConsumeText, Component.grammar, consumesText_strayMark, symbol]

/-- A cursor before a letter with a mark behind it. -/
def letterStart : Cursor :=
  (Cursor.ofText "xbé;").skip 1

/-- What is found there. -/
def foundLetter : List Token :=
  [.leaf (.symbol "b") "b", .leaf (.symbol "é") "é", .leaf (.symbol ";") ";"]

set_option maxRecDepth 4000 in
theorem outcome_markedLetter :
    ((sequence markedLetter).parse (.english 2000) letterStart).outcome =
      .matched (.sequenceOf foundLetter) := rfl

set_option maxRecDepth 4000 in
theorem outcome_markedLetter_missing :
    ((sequence markedLetter).parse (.english 2000) (.ofText "éc")).outcome = .noMatch := rfl

theorem optional_spellings_agree_markedLetter :
    Respells markedLetter respelledLetter ∧ ConsumeText markedLetter ∧
      (∃ images, ((sequence respelledLetter).parse (.english 2000) letterStart).outcome =
          .matched (.sequenceOf images) ∧ Token.joinTexts images = "bé;" ∧
        CollectAlike (.english 2000) letterStart markedLetter respelledLetter foundLetter images) ∧
      ((sequence respelledLetter).parse (.english 2000) (.ofText "éc")).outcome = .noMatch := by
  rcases optional_spellings_agree respells_markedLetter consumeText_markedLetter (.english 2000)
    letterStart with ⟨-, found⟩
  rcases optional_spellings_agree respells_markedLetter consumeText_markedLetter (.english 2000)
    (.ofText "éc") with ⟨-, missing⟩
  rcases found.exists_of_matched outcome_markedLetter with
    ⟨_, outcome, ⟨tokens, images, same, rfl, alike⟩, text⟩
  cases same
  exact ⟨respells_markedLetter, consumeText_markedLetter, ⟨images, outcome, text, alike⟩,
    missing.noMatch_of_noMatch outcome_markedLetter_missing⟩

end Grammar

end TextGrammar
