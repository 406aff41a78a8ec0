import TextGrammar.Proofs.Grammar.Choices
import TextGrammar.Proofs.Grammar.Parts
import TextGrammar.Proofs.Matcher.Labels

/-!
# Labels say what was expected and nothing else

A grammar may be called by another name wherever it stands, inside of other grammars as well. What is
matched, how far the cursor goes and which errors end the reading does not depend on names; only the
messages do, which quote them. So grammars that are the same without their labels can be used in place
of each other.
-/

namespace TextGrammar

/-- The choices of a grammar, which is its own only choice if it is not made of alternatives. -/
def Grammar.choices : Grammar → List Grammar
  | .alternatives choices => choices
  | grammar => [grammar]

mutual

/-- A grammar without the labels that were given to it and inside of it. Alternatives that are
continued with `or` get one choice more, unless a label stands between; so without labels choices among
the choices are choices themselves. -/
def Grammar.withoutLabels : Grammar → Grammar
  | .leaf leaf => .leaf leaf
  | .sequence components => .sequence (componentsWithoutLabels components)
  | .alternatives choices => .alternatives (choicesWithoutLabels choices)
  | .optional inner => .optional inner.withoutLabels
  | .repeated minimum inner => .repeated minimum inner.withoutLabels
  | .labelled _ inner => inner.withoutLabels
  | .orReport reporter inner => .orReport reporter inner.withoutLabels
  | .orFailIfTextRemains reporter inner => .orFailIfTextRemains reporter inner.withoutLabels
  | .andNothingRemains inner => .andNothingRemains inner.withoutLabels
  | .map change inner => .map change inner.withoutLabels
  | .transform change inner => .transform change inner.withoutLabels
  | .external label matcher => .external label matcher

/-- A component of a sequence without the labels inside of it. -/
def Component.withoutLabels : Component → Component
  | .required grammar => .required grammar.withoutLabels
  | .optional grammar => .optional grammar.withoutLabels

/-- Several components without the labels inside of them. -/
def componentsWithoutLabels : List Component → List Component
  | [] => []
  | component :: components => component.withoutLabels :: componentsWithoutLabels components

/-- All choices of several grammars without labels. -/
def choicesWithoutLabels : List Grammar → List Grammar
  | [] => []
  | choice :: choices => choice.withoutLabels.choices ++ choicesWithoutLabels choices

end

namespace Grammar

theorem componentsWithoutLabels_eq_map (components : List Component) :
    componentsWithoutLabels components = components.map Component.withoutLabels := by
  induction components with
  | nil => rfl
  | cons component components ih => simp [componentsWithoutLabels, ih]

theorem choicesWithoutLabels_eq_flatMap (grammars : List Grammar) :
    choicesWithoutLabels grammars =
      (grammars.map Grammar.withoutLabels).flatMap Grammar.choices := by
  induction grammars with
  | nil => rfl
  | cons grammar grammars ih => simp [choicesWithoutLabels, ih]

theorem grammar_withoutLabels (component : Component) :
    component.withoutLabels.grammar = component.grammar.withoutLabels := by
  cases component <;> rfl

/-! ## The reporters of a grammar -/

/-- The reporter of a grammar that has one itself. -/
def reporter? : Grammar → Option Reporter
  | .orReport reporter _ => some reporter
  | .orFailIfTextRemains reporter _ => some reporter
  | _ => none

/-- The reporters of a grammar and of all grammars inside of it. -/
def reporters (grammar : Grammar) : List Reporter :=
  grammar.parts.filterMap reporter?

theorem reporters_sequence (components : List Component) :
    (sequence components).reporters =
      components.flatMap fun component => component.grammar.reporters := by
  rw [reporters, parts, List.filterMap_cons_none rfl, partsOfComponents_eq_flatMap,
    List.filterMap_flatMap]
  rfl

theorem reporters_alternatives (choices : List Grammar) :
    (alternatives choices).reporters = choices.flatMap reporters := by
  rw [reporters, parts, List.filterMap_cons_none rfl, partsOfGrammars_eq_flatMap,
    List.filterMap_flatMap]
  rfl

theorem flatMap_reporters_choices (grammar : Grammar) :
    grammar.choices.flatMap reporters = grammar.reporters := by
  cases grammar with
  | alternatives choices => exact (reporters_alternatives choices).symm
  | _ => exact List.flatMap_singleton ..

/-- Without labels a grammar has the same reporters. -/
theorem reporters_withoutLabels (grammar : Grammar) :
    grammar.withoutLabels.reporters = grammar.reporters := by
  induction grammar with
  | leaf leaf => rfl
  | sequence components ih =>
      rw [withoutLabels, reporters_sequence, reporters_sequence, componentsWithoutLabels_eq_map,
        List.flatMap_map]
      apply List.flatMap_congr
      intro component member
      rw [grammar_withoutLabels, ih component member]
  | alternatives choices ih =>
      rw [withoutLabels, reporters_alternatives, reporters_alternatives,
        choicesWithoutLabels_eq_flatMap, List.flatMap_assoc, List.flatMap_map]
      apply List.flatMap_congr
      intro choice member
      rw [flatMap_reporters_choices, ih choice member]
  | optional inner ih => exact ih
  | repeated minimum inner ih => exact ih
  | labelled label inner ih => exact ih
  | orReport reporter inner ih => exact congrArg (reporter :: ·) ih
  | orFailIfTextRemains reporter inner ih => exact congrArg (reporter :: ·) ih
  | andNothingRemains inner ih => exact ih
  | map change inner ih => exact ih
  | transform change inner ih => exact ih
  | external label matcher => rfl

/-! ## What is matched without labels -/

/-- The choices of a grammar are tried in its place. -/
theorem orElse_firstOf_choices (grammar : Grammar) (conventions : Conventions) (start : Cursor)
    (other : Reply Token) :
    (Matcher.firstOf (grammar.choices.map matcher) conventions start).orElse (fun _ => other) =
      (grammar.parse conventions start).orElse fun _ => other := by
  cases grammar with
  | alternatives choices => rw [parse, matcher, grammarMatchers_eq_map, Grammar.choices]
  | _ =>
      simp only [Grammar.choices, List.map_cons, List.map_nil, Matcher.firstOf, Answers.orElse_reply,
        Answers.still_reply, Reply.orElse_assoc, Reply.orElse_noMatch, parse]

theorem firstOf_flatMap_choices (grammars : List Grammar) :
    Matcher.firstOf ((grammars.flatMap Grammar.choices).map matcher) =
      Matcher.firstOf (grammars.map matcher) := by
  funext conventions start
  induction grammars with
  | nil => rfl
  | cons grammar grammars ih =>
      rw [List.flatMap_cons, List.map_append, Matcher.firstOf_append, ih,
        orElse_firstOf_choices]
      rfl

/-- A grammar without labels has the same replies, in every view in which names are not seen and the
reporters do not show them. -/
theorem seenAlike_withoutLabels {view : View} (grammar : Grammar)
    (reports : ∀ reporter ∈ grammar.reporters, reporter.SeenAlike view) :
    grammar.matcher.SeenAlike view grammar.withoutLabels.matcher := by
  induction grammar with
  | leaf leaf => exact fun conventions start => .refl _
  | sequence components ih =>
      rw [reporters_sequence, List.forall_mem_flatMap] at reports
      rw [withoutLabels, matcher, matcher, componentParts_eq_map, componentParts_eq_map,
        componentsWithoutLabels_eq_map]
      apply Matcher.SeenAlike.sequence
      rw [List.map_map, List.forall₂_map_left_iff, List.forall₂_map_right_iff,
        List.forall₂_same]
      intro component member
      have alike := ih component member (reports component member)
      cases component with
      | required grammar => exact ⟨rfl, alike⟩
      | optional grammar => exact ⟨rfl, alike⟩
  | alternatives choices ih =>
      rw [reporters_alternatives, List.forall_mem_flatMap] at reports
      rw [withoutLabels, matcher, matcher, grammarMatchers_eq_map, grammarMatchers_eq_map,
        choicesWithoutLabels_eq_flatMap, firstOf_flatMap_choices]
      apply Matcher.SeenAlike.firstOf
      rw [List.map_map, List.forall₂_map_left_iff, List.forall₂_map_right_iff,
        List.forall₂_same]
      intro choice member
      exact ih choice member (reports choice member)
  | optional inner ih => exact (ih reports).optional
  | repeated minimum inner ih => exact (ih reports).repeated _ _ minimum
  | labelled label inner ih => exact ih reports
  | orReport reporter inner ih =>
      have reports := List.forall_mem_cons.1 reports
      exact (ih reports.2).orReport reports.1 _ _
  | orFailIfTextRemains reporter inner ih =>
      have reports := List.forall_mem_cons.1 reports
      exact (ih reports.2).orFailIfTextRemains reports.1 _ _
  | andNothingRemains inner ih => exact (ih reports).andNothingRemains
  | map change inner ih => exact (ih reports).map change
  | transform change inner ih => exact (ih reports).transform change
  | external label matcher => exact fun conventions start => .refl _

/-- Grammars that are the same without labels have the same replies in every such view. -/
theorem seenAlike_of_withoutLabels_eq {view : View} {grammar other : Grammar}
    (relabelled : grammar.withoutLabels = other.withoutLabels)
    (reports : ∀ reporter ∈ grammar.reporters, reporter.SeenAlike view) :
    grammar.matcher.SeenAlike view other.matcher := by
  have same : other.reporters = grammar.reporters := by
    rw [← reporters_withoutLabels, ← relabelled, reporters_withoutLabels]
  have first := grammar.seenAlike_withoutLabels reports
  have second := other.seenAlike_withoutLabels (same ▸ reports)
  rw [relabelled] at first
  exact fun conventions start => (first conventions start).trans (second conventions start).symm

/-- If all reporters of a grammar are the basic one, other labels change nothing in a reply but the names
that its error and its log quote. -/
theorem same_but_names_of_basic_reporters {grammar other : Grammar}
    (relabelled : grammar.withoutLabels = other.withoutLabels)
    (basic : ∀ reporter ∈ grammar.reporters, reporter = .basic) (conventions : Conventions)
    (start : Cursor) :
    let reply := grammar.parse conventions start
    let otherReply := other.parse conventions start
    reply.outcome.seen .withoutLabels = otherReply.outcome.seen .withoutLabels ∧
      reply.cursor = otherReply.cursor ∧
      reply.log.map LogRecord.withoutLabels = otherReply.log.map LogRecord.withoutLabels ∧
      reply.log.map LogRecord.level = otherReply.log.map LogRecord.level := by
  intro reply otherReply
  have reports : ∀ reporter ∈ grammar.reporters, reporter.SeenAlike .withoutLabels := by
    intro reporter member
    rw [basic reporter member]
    exact Reporter.seenAlike_basic
  have unnamed : reply.SeenAlike .withoutLabels otherReply :=
    seenAlike_of_withoutLabels_eq relabelled reports conventions start
  exact ⟨unnamed.outcome_eq, unnamed.cursor_eq, unnamed.logs_eq, unnamed.levels_eq⟩

/-- **Labels are diagnostics.** Two grammars that differ in nothing but labels, wherever these stand,
match the same token at every place of every text, or both do not match, or both fail; and the cursor
ends at the same place, whatever their reporters do. Where the reporters use what they are told to have
been expected in no other way than to name it, as the basic one does, the errors are of the same kind
with the same fields but for that name, and the logs are the same record by record but for names, so
that the records matter equally much. -/
theorem labels_are_diagnostics {grammar other : Grammar}
    (relabelled : grammar.withoutLabels = other.withoutLabels) (conventions : Conventions)
    (start : Cursor) :
    let reply := grammar.parse conventions start
    let otherReply := other.parse conventions start
    (∀ token, reply.outcome = .matched token ↔ otherReply.outcome = .matched token) ∧
      (reply.outcome = .noMatch ↔ otherReply.outcome = .noMatch) ∧
      reply.cursor = otherReply.cursor ∧
      ((∀ reporter ∈ grammar.reporters, reporter.SeenAlike .withoutLabels) →
        reply.outcome.seen .withoutLabels = otherReply.outcome.seen .withoutLabels ∧
          reply.log.map LogRecord.withoutLabels = otherReply.log.map LogRecord.withoutLabels ∧
          reply.log.map LogRecord.level = otherReply.log.map LogRecord.level) := by
  intro reply otherReply
  have unreported : reply.SeenAlike .withoutReports otherReply :=
    seenAlike_of_withoutLabels_eq relabelled
      (fun reporter _ => reporter.seenAlike_withoutReports) conventions start
  refine ⟨unreported.matched_iff, unreported.noMatch_iff, unreported.cursor_eq, ?_⟩
  intro reports
  have unnamed : reply.SeenAlike .withoutLabels otherReply :=
    seenAlike_of_withoutLabels_eq relabelled reports conventions start
  exact ⟨unnamed.outcome_eq, unnamed.logs_eq, unnamed.levels_eq⟩

/-- A word, perhaps behind some blanks, that some mark has to follow. -/
def markedWord : Grammar :=
  .sequence [
    .optional (.repeated 1 (.leaf (.symbol " "))),
    .required (.labelled "word" (.repeated 1 (.leaf (.symbol "é")))),
    .required (.orReport .basic
      (((leaf (.symbol "!")).or (.leaf (.symbol "?"))).or (.leaf (.symbol "."))))]

/-- A word and its mark by other names. -/
def namedMarkedWord : Grammar :=
  .labelled "sentence" (.sequence [
    .optional (.repeated 1 (.labelled "blank" (.leaf (.symbol " ")))),
    .required (.repeated 1 (.labelled "letter" (.labelled "é" (.leaf (.symbol "é"))))),
    .required (.orReport .basic (.labelled "end"
      ((labelled "call" ((leaf (.symbol "!")).or (.leaf (.symbol "?")))).or
        (.leaf (.symbol ".")))))])

theorem withoutLabels_namedMarkedWord :
    markedWord.withoutLabels = namedMarkedWord.withoutLabels := rfl

theorem seenAlike_reporters_markedWord :
    ∀ reporter ∈ markedWord.reporters, reporter.SeenAlike .withoutLabels := by
  have basic : markedWord.reporters = [.basic] := rfl
  simp [basic, Reporter.seenAlike_basic]

set_option maxRecDepth 4000 in
theorem labels_are_diagnostics_markedWord :
    markedWord.withoutLabels = namedMarkedWord.withoutLabels ∧
      (∀ reporter ∈ markedWord.reporters, reporter.SeenAlike .withoutLabels) ∧
      let reply := markedWord.parse (.english 2000) (.ofText "éé;")
      let otherReply := namedMarkedWord.parse (.english 2000) (.ofText "éé;")
      reply.outcome = .failed (.invalidCharacter ';' ⟨3, 1⟩ "(\"!\" | \"?\" | \".\")") ∧
        otherReply.outcome = .failed (.invalidCharacter ';' ⟨3, 1⟩ "end") ∧
        reply.log.head? = some (.tooFew "\x7b\" \"\x7d" 0 1) ∧
        otherReply.log.head? = some (.tooFew "\x7bblank\x7d" 0 1) ∧
        reply.cursor = otherReply.cursor ∧
        reply.outcome.seen .withoutLabels = otherReply.outcome.seen .withoutLabels ∧
        reply.log.map LogRecord.withoutLabels = otherReply.log.map LogRecord.withoutLabels ∧
        reply.log.map LogRecord.level = otherReply.log.map LogRecord.level := by
  have diagnostics := labels_are_diagnostics withoutLabels_namedMarkedWord (.english 2000)
    (.ofText "éé;")
  exact ⟨withoutLabels_namedMarkedWord, seenAlike_reporters_markedWord, rfl, rfl, rfl, rfl,
    diagnostics.2.2.1, diagnostics.2.2.2 seenAlike_reporters_markedWord⟩

end Grammar

end TextGrammar
