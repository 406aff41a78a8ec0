import TextGrammar.Proofs.Grammar.Repetition
import TextGrammar.Proofs.Matcher.Alike

/-!
# Sequences of parts that consume their text

A sequence collects the tokens of its parts and then makes one token of them. If the parts consume the
text of what they match, the tokens together have the text between the two cursors, so the last step
cannot fail: the sequence matches, does not match or fails just as the collecting does. What is left
to say of two sequences is what they collect.
-/

namespace TextGrammar

variable {conventions : Conventions} {start finish : Cursor} {tokens : List Token}

/-- The sequence that is made of tokens, with their text. -/
def Token.sequenceOf (tokens : List Token) : Token :=
  .parent .sequence tokens (joinTexts tokens)

/-- Two tokens are sequences of tokens that are related. -/
def Token.SequencesOf (collected : List Token → List Token → Prop) (token token' : Token) : Prop :=
  ∃ tokens tokens', token = sequenceOf tokens ∧ token' = sequenceOf tokens' ∧
    collected tokens tokens'

/-- A matcher that reads faithfully consumes the text of what it matches. -/
theorem Matcher.Reads.consumesText {blames : ParseError → Cursor → Prop} {matcher : Matcher}
    (reads : matcher.Reads blames) : matcher.ConsumesText := by
  intro conventions start token matched
  rcases (reads conventions start).finds token matched with ⟨passed, passage, -, rfl⟩
  exact passage

namespace Matcher

variable {label : String} {parts : List Part}

/-- The parts before some place of a sequence are gone through before those behind it. -/
theorem gather_append (front back : List Part) (label : String) (conventions : Conventions)
    (start : Cursor) :
    gather label (front ++ back) conventions start =
      (gather label front conventions start).andThen fun found next =>
        (gather label back conventions next).andThen fun later finish =>
          .matched (found ++ later) finish := by
  induction front generalizing start with
  | nil =>
      rw [List.nil_append, gather, Answers.still_reply, Reply.andThen_matched]
      exact (Reply.andThen_matched_right _).symm
  | cons part front ih =>
      simp only [List.cons_append, gather, ih, Answers.andThen_reply, Answers.still_reply,
        Reply.andThen_assoc, Reply.andThen_matched, List.append_assoc]

/-- What the parts have passed over is the text of the tokens that were collected. -/
theorem passes_of_gather (each : ∀ part ∈ parts, part.matcher.ConsumesText)
    (found : (gather label parts conventions start).Matches tokens finish) :
    start.Passes (Token.joinTexts tokens).toList finish := by
  induction parts generalizing start tokens with
  | nil =>
      rcases matches_gather_nil_iff.1 found with ⟨rfl, rfl⟩
      exact .refl finish
  | cons part parts ih =>
      rw [List.forall_mem_cons] at each
      rcases matches_gather_cons_iff.1 found with ⟨front, middle, later, first, others, rfl⟩
      have passed := ih each.2 others
      rcases matches_tokens_iff.1 first with ⟨token, matched, rfl⟩ | ⟨-, -, rfl, rfl⟩
      · have passage := each.1 conventions start token matched.outcome_eq
        rw [matched.cursor_eq] at passage
        rw [List.singleton_append, Token.joinTexts_cons, String.toList_append]
        exact passage.trans passed
      · exact passed

/-- The token of a sequence can be made of what was collected. -/
theorem alike_sequence (each : ∀ part ∈ parts, part.matcher.ConsumesText) (label : String)
    (conventions : Conventions) (start : Cursor) :
    (sequence label parts conventions start).Alike (fun token tokens => token = .sequenceOf tokens)
      (gather label parts conventions start) := by
  have made : ((gather label parts conventions start).andThen fun tokens finish =>
      .ofToken (Token.makeParent .sequence tokens (finish.textBetween start.save)) finish).Alike
        (fun token tokens => token = .sequenceOf tokens)
        ((gather label parts conventions start).andThen Reply.matched) := by
    apply (Reply.Alike.refl _).andThen
    intro tokens tokens' finish found same
    cases same
    have joined := (passes_of_gather each found).textBetween_eq
    rw [String.ofList_toList] at joined
    rw [Token.makeParent_eq_ok_iff.2 ⟨joined, rfl⟩, joined]
    exact .matched (by rfl) finish
  rw [Reply.andThen_matched_right] at made
  exact made.orElse_noMatch fun _ => rfl

/-- A part that is required gives the token of its matcher, or else nothing is collected. -/
theorem alike_tokens_of_required (label partLabel : String) (matcher : Matcher)
    (conventions : Conventions) (start : Cursor) :
    (Part.tokens label ⟨true, partLabel, matcher⟩ conventions start).Alike
      (fun found token => found = [token]) (matcher conventions start) := by
  have found : ((matcher conventions start).andThen fun token finish =>
      Reply.matched [token] finish).Alike (fun found token => found = [token])
      ((matcher conventions start).andThen Reply.matched) := by
    apply (Reply.Alike.refl _).andThen
    intro token token' finish matched same
    cases same
    exact .matched (by rfl) finish
  rw [Reply.andThen_matched_right] at found
  exact found.orElse_noMatch fun _ => rfl

/-- A sequence consumes the text of its token. -/
theorem consumesText_sequence (each : ∀ part ∈ parts, part.matcher.ConsumesText) (label : String) :
    (sequence label parts).ConsumesText := by
  intro conventions start token matched
  rcases alike_sequence each label conventions start with ⟨outcomes, cursors⟩
  rcases outcomes.exists_of_matched matched with ⟨tokens, collected, rfl⟩
  exact passes_of_gather each ⟨collected, cursors (by simp [matched])⟩

/-- Two sequences that collect what is alike reply alike. They leave the cursor at the same place even
where they do not match, since both go back. -/
theorem alike_sequences {collected : List Token → List Token → Prop} {label' : String}
    {parts' : List Part} (each : ∀ part ∈ parts, part.matcher.ConsumesText)
    (each' : ∀ part ∈ parts', part.matcher.ConsumesText)
    (alike : (gather label parts conventions start).Alike collected
      (gather label' parts' conventions start)) :
    (sequence label parts conventions start).outcome.Alike (Token.SequencesOf collected)
        (sequence label' parts' conventions start).outcome ∧
      (sequence label' parts' conventions start).cursor =
        (sequence label parts conventions start).cursor := by
  have sequences := ((alike_sequence each label conventions start).trans alike).trans
    (alike_sequence each' label' conventions start).symm
  have related : (sequence label parts conventions start).Alike (Token.SequencesOf collected)
      (sequence label' parts' conventions start) := by
    apply sequences.mono
    intro token token' pair
    rcases pair with ⟨tokens', ⟨tokens, made, pair⟩, made'⟩
    exact ⟨tokens, tokens', made, made', pair⟩
  refine ⟨related.outcomes, ?_⟩
  by_cases missing : (sequence label parts conventions start).outcome = .noMatch
  · have missing' := related.outcomes.noMatch_of_noMatch missing
    rw [rewinds_sequence label parts conventions start missing,
      rewinds_sequence label' parts' conventions start missing']
  · exact related.cursors missing

end Matcher

namespace Grammar

/-- The matchers of the components consume the text of what they match. -/
def ConsumeText (components : List Component) : Prop :=
  ∀ component ∈ components, component.grammar.matcher.ConsumesText

theorem ConsumeText.parts {components : List Component} (consume : ConsumeText components) :
    ∀ part ∈ componentParts components, part.matcher.ConsumesText := by
  intro part member
  rw [componentParts_eq_map] at member
  rcases List.mem_map.1 member with ⟨component, inside, rfl⟩
  cases component with
  | required grammar => exact consume _ inside
  | optional grammar => exact consume _ inside

theorem componentParts_append (front back : List Component) :
    componentParts (front ++ back) = componentParts front ++ componentParts back := by
  simp only [componentParts_eq_map, List.map_append]

end Grammar

end TextGrammar
