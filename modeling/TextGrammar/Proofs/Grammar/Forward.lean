import TextGrammar.Proofs.Grammar.Parts
import TextGrammar.Proofs.Leaf.Scanning
import TextGrammar.Proofs.Matcher.Forward
import TextGrammar.Proofs.Text.Utf8
import TextGrammar.Token.Change

/-!
# Nothing behind the cursor matters

A grammar reads a text in the same way wherever the text stands. What is in front of it has no
influence on what is matched, on how much is consumed or on which error ends the reading: only the
places that errors name are counted from the start of the whole text.
-/

namespace TextGrammar

open Text

/-- A leaf is given nothing but the text behind the cursor. -/
theorem Leaf.looksForward_matcher (leaf : Leaf) : leaf.matcher.LooksForward := by
  intro front conventions start
  rw [Leaf.matcher_eq, Leaf.matcher_eq, Cursor.after_withFront]
  cases found : leaf.read conventions start.after with
  | found value used =>
      rcases (Leaf.usedOf_of_read found).starts with ⟨rest, after_eq⟩
      simp only [Reading.reply, Cursor.skip_withFront]
      exact .ofToken _ ⟨used, Cursor.passes_skip after_eq⟩
  | nothing => exact .noMatch _ _ (.refl start)
  | outOfRange accepted => exact .noMatch _ _ (.refl start)
  | refused => exact .noMatch _ _ (.refl start)

namespace Grammar

/-- A part of a grammar does not look back by itself: its reporter and its matcher from elsewhere look
forward only. Functions on tokens see no text but that of their tokens. -/
def LooksForward : Grammar → Prop
  | .orReport reporter _ => reporter.LooksForward
  | .orFailIfTextRemains reporter _ => reporter.LooksForward
  | .external _ matcher => matcher.LooksForward
  | _ => True

theorem looksForward_matcher (grammar : Grammar)
    (forward : ∀ part ∈ grammar.parts, part.LooksForward) : grammar.matcher.LooksForward := by
  induction grammar with
  | leaf leaf => exact leaf.looksForward_matcher
  | sequence components ih =>
      rw [matcher, componentParts_eq_map]
      apply Matcher.LooksForward.sequence
      intro part member
      rcases List.mem_map.1 member with ⟨component, inside, rfl⟩
      have ahead := ih component inside fun part below =>
        forward part (parts_subset_sequence inside below)
      cases component with
      | required grammar => exact ahead
      | optional grammar => exact ahead
  | alternatives choices ih =>
      rw [matcher, grammarMatchers_eq_map]
      apply Matcher.LooksForward.firstOf
      intro matcher member
      rcases List.mem_map.1 member with ⟨choice, inside, rfl⟩
      exact ih choice inside fun part below =>
        forward part (parts_subset_alternatives inside below)
  | optional inner ih =>
      rw [parts, List.forall_mem_cons] at forward
      exact (ih forward.2).optional
  | repeated minimum inner ih =>
      rw [parts, List.forall_mem_cons] at forward
      exact (ih forward.2).repeated _ minimum
  | labelled label inner ih =>
      rw [parts, List.forall_mem_cons] at forward
      exact ih forward.2
  | orReport reporter inner ih =>
      rw [parts, List.forall_mem_cons] at forward
      exact (ih forward.2).orReport forward.1 _
  | orFailIfTextRemains reporter inner ih =>
      rw [parts, List.forall_mem_cons] at forward
      exact (ih forward.2).orFailIfTextRemains forward.1 _
  | andNothingRemains inner ih =>
      rw [parts, List.forall_mem_cons] at forward
      exact (ih forward.2).andNothingRemains
  | map change inner ih =>
      rw [parts, List.forall_mem_cons] at forward
      exact (ih forward.2).map change
  | transform change inner ih =>
      rw [parts, List.forall_mem_cons] at forward
      exact (ih forward.2).transform change
  | external label matcher => exact forward _ (self_mem_parts _)

/-- What is in front of a text does not change how the text is read. Called behind other text, at the
offset in bytes where that ends, a grammar has the same kind of outcome as at the start of the text
alone: a match of the same token, no match, or an error of the same kind with the same fields but for
its place. The cursor has gone equally far and leaves the same text. -/
theorem never_looks_behind (grammar : Grammar)
    (forward : ∀ part ∈ grammar.parts, part.LooksForward) (conventions : Conventions)
    (frontText text : String) :
    ∃ start, (Cursor.ofText (frontText ++ text)).advance? frontText.utf8ByteSize = some start ∧
      start.offset = frontText.utf8ByteSize ∧
      let behind := grammar.parse conventions start
      let alone := grammar.parse conventions (.ofText text)
      behind.outcome.withoutPlace = alone.outcome.withoutPlace ∧
        (∀ token, behind.outcome = .matched token ↔ alone.outcome = .matched token) ∧
        (behind.outcome = .noMatch ↔ alone.outcome = .noMatch) ∧
        behind.cursor.offset = frontText.utf8ByteSize + alone.cursor.offset ∧
        behind.cursor.remaining = alone.cursor.remaining := by
  have carries := grammar.looksForward_matcher forward frontText.toList conventions (.ofText text)
  have size : byteSize frontText.toList = frontText.utf8ByteSize :=
    (utf8ByteSize_eq_byteSize frontText).symm
  refine ⟨(Cursor.ofText text).withFront frontText.toList, ?_, ?_, carries.outcome_eq, ?_, ?_, ?_, ?_⟩
  · rw [← size, Cursor.advance?_ofText_append]
  · simp [size]
  · exact Outcome.matched_iff_of_withoutPlace_eq carries.outcome_eq
  · exact Outcome.noMatch_iff_of_withoutPlace_eq carries.outcome_eq
  · rw [parse, carries.cursor_eq, Cursor.offset_withFront, size]
    rfl
  · rw [parse, carries.cursor_eq]
    rfl

/-- Some vowels and a mark that has to be there, perhaps with a question mark before it if that is all
that is left. -/
def markedVowels : Grammar :=
  .sequence [
    .required (.repeated 1 (.leaf (.literal .ignoring "é"))),
    .optional (.andNothingRemains (.leaf (.symbol "?"))),
    .required (.orReport .basic (.labelled "mark" (.map Token.asSymbol (.leaf (.symbol "!")))))]

theorem looksForward_markedVowels : ∀ part ∈ markedVowels.parts, part.LooksForward := by
  simp [markedVowels, parts, Component.parts, partsOfComponents, LooksForward,
    Reporter.looksForward_basic]

set_option maxRecDepth 4000 in
theorem never_looks_behind_markedVowels :
    (∀ part ∈ markedVowels.parts, part.LooksForward) ∧
      (markedVowels.parse (.english 2000) (.ofText "éÉ?x")).outcome =
        .failed (.invalidCharacter '?' ⟨3, 1⟩ "mark") ∧
      ∃ start, (Cursor.ofText ("ü\n" ++ "éÉ?x")).advance? "ü\n".utf8ByteSize = some start ∧
        start.offset = "ü\n".utf8ByteSize ∧
        let behind := markedVowels.parse (.english 2000) start
        let alone := markedVowels.parse (.english 2000) (.ofText "éÉ?x")
        behind.outcome.withoutPlace = alone.outcome.withoutPlace ∧
          (∀ token, behind.outcome = .matched token ↔ alone.outcome = .matched token) ∧
          (behind.outcome = .noMatch ↔ alone.outcome = .noMatch) ∧
          behind.cursor.offset = "ü\n".utf8ByteSize + alone.cursor.offset ∧
          behind.cursor.remaining = alone.cursor.remaining :=
  ⟨looksForward_markedVowels, rfl,
    never_looks_behind markedVowels looksForward_markedVowels (.english 2000) "ü\n" "éÉ?x"⟩

end Grammar

end TextGrammar
