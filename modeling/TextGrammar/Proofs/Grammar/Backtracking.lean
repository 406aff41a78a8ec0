import TextGrammar.Proofs.Grammar.Steps
import TextGrammar.Proofs.Leaf.Scanning

/-!
# Going back

A grammar that does not match leaves its cursor where it was. Leaves see to it by themselves, and five
of the combinations whatever they are built of: a sequence, alternatives, an optional grammar, a
repetition and a grammar that has to match everything go back even if a matcher from elsewhere has
moved the cursor without matching. The other combinations hand on what the grammar inside does.
Those that are called after such a matcher do not notice it, since the calls of a run are in step.
-/

namespace TextGrammar

namespace Grammar

/-- A grammar is a matcher from elsewhere. -/
def IsExternal : Grammar → Prop
  | .external _ _ => True
  | _ => False

/-- The matchers from elsewhere that stand under no sequence, no alternatives, nothing optional, no
repetition and nothing that has to match everything. -/
def exposed : Grammar → List Matcher
  | .labelled _ inner => inner.exposed
  | .orReport _ inner => inner.exposed
  | .orFailIfTextRemains _ inner => inner.exposed
  | .map _ inner => inner.exposed
  | .transform _ inner => inner.exposed
  | .external _ matcher => [matcher]
  | _ => []

theorem exposed_eq_nil (grammar : Grammar) (own : ∀ part ∈ grammar.parts, ¬part.IsExternal) :
    grammar.exposed = [] := by
  induction grammar with
  | labelled label inner ih =>
      rw [parts, List.forall_mem_cons] at own
      exact ih own.2
  | orReport reporter inner ih =>
      rw [parts, List.forall_mem_cons] at own
      exact ih own.2
  | orFailIfTextRemains reporter inner ih =>
      rw [parts, List.forall_mem_cons] at own
      exact ih own.2
  | map change inner ih =>
      rw [parts, List.forall_mem_cons] at own
      exact ih own.2
  | transform change inner ih =>
      rw [parts, List.forall_mem_cons] at own
      exact ih own.2
  | external label matcher => exact absurd trivial (own _ (self_mem_parts _))
  | _ => rfl

end Grammar

theorem Leaf.rewinds_matcher (leaf : Leaf) : leaf.matcher.Rewinds := by
  intro conventions start missing
  rw [Leaf.matcher_eq] at missing ⊢
  cases found : leaf.read conventions start.after with
  | found value used =>
      rw [found] at missing
      exact absurd missing (Reply.ofToken_ne_noMatch _ _)
  | nothing => rfl
  | outOfRange accepted => rfl
  | refused => rfl

/-- A grammar goes back whenever it does not match, if the exposed matchers in it do. -/
theorem Grammar.rewinds_matcher (grammar : Grammar)
    (exposed : ∀ matcher ∈ grammar.exposed, matcher.Rewinds) : grammar.matcher.Rewinds := by
  induction grammar with
  | leaf leaf => exact leaf.rewinds_matcher
  | sequence components ih => exact Matcher.rewinds_sequence _ _
  | alternatives choices ih => exact Matcher.rewinds_firstOf _
  | optional inner ih => exact Matcher.rewinds_optional _
  | repeated minimum inner ih => exact Matcher.rewinds_repeated _ minimum _
  | labelled label inner ih => exact ih exposed
  | orReport reporter inner ih => exact Matcher.rewinds_orReport reporter _ _
  | orFailIfTextRemains reporter inner ih =>
      exact Matcher.rewinds_orFailIfTextRemains (ih exposed) reporter _
  | andNothingRemains inner ih => exact Matcher.rewinds_andNothingRemains _
  | map change inner ih => exact Matcher.rewinds_map (ih exposed) change
  | transform change inner ih => exact Matcher.rewinds_transform (ih exposed) change
  | external label matcher => exact exposed matcher (List.mem_singleton.2 rfl)

/-- The calls of every run are in step, also of one that makes none. -/
theorem Grammar.inStep_run (grammar : Grammar) (conventions : Conventions) (start : Cursor) :
    ∃ last, InStep start (grammar.run conventions start).calls last ∧
      (grammar.IsCombination → ∀ token,
        (grammar.parse conventions start).outcome = .matched token →
          (grammar.parse conventions start).cursor = last) := by
  by_cases combination : grammar.IsCombination
  · rcases grammar.keepsStep_run combination conventions start with ⟨last, steps, ends⟩
    rw [grammar.reply_run] at ends
    exact ⟨last, steps, fun _ => ends⟩
  · have calls : (grammar.run conventions start).calls = [] := by
      cases grammar with
      | leaf leaf => rfl
      | external label matcher => rfl
      | _ => exact absurd trivial combination
    rw [calls]
    exact ⟨start, rfl, fun built => absurd built combination⟩

namespace Grammar

/-- A grammar that does not match leaves its cursor where it was: always if it is built of leaves and
combinations only, and with matchers from elsewhere as long as those that do not go back stand
somewhere under one of the five combinations that do. Each call is made where the last match has left
the cursor, so that no call is shifted by one that has not matched. -/
theorem backtracks (grammar : Grammar) (conventions : Conventions) (start : Cursor) :
    ((∀ part ∈ grammar.parts, ¬part.IsExternal) →
      (grammar.parse conventions start).outcome = .noMatch →
        (grammar.parse conventions start).cursor = start) ∧
    ((∀ matcher ∈ grammar.exposed, matcher.Rewinds) →
      (grammar.parse conventions start).outcome = .noMatch →
        (grammar.parse conventions start).cursor = start) ∧
    ∃ last, InStep start (grammar.run conventions start).calls last ∧
      (grammar.IsCombination → ∀ token,
        (grammar.parse conventions start).outcome = .matched token →
          (grammar.parse conventions start).cursor = last) := by
  refine ⟨?_, ?_, grammar.inStep_run conventions start⟩
  · intro own
    apply grammar.rewinds_matcher
    rw [grammar.exposed_eq_nil own]
    intro matcher member
    exact absurd member List.not_mem_nil
  · intro exposed
    exact grammar.rewinds_matcher exposed conventions start

/-- A letter among matchers that pass over characters without matching: one before it, one tried in
its place and one behind it. -/
def besetLetter (marks : Nat) : Grammar :=
  .labelled "letter" (.sequence [
    .optional (.external "early" (.eat 2)),
    .required (.alternatives [.external "rival" (.eat 1), .leaf (.symbol "b")]),
    .required (.repeated marks (.external "late" (.eat 1)))])

/-- The token of the letter, with no marks behind it. -/
def besetLetterToken : Token :=
  .parent .sequence [.leaf (.symbol "b") "b", .parent .repeated [] ""] "b"

/-- Two letters, one after the other. -/
def letterPair : Grammar :=
  .sequence [.required (.leaf (.symbol "b")), .required (.leaf (.symbol "d"))]

theorem exposed_besetLetter (marks : Nat) :
    ∀ matcher ∈ (besetLetter marks).exposed, matcher.Rewinds := by
  intro matcher member
  exact absurd member List.not_mem_nil

theorem not_isExternal_letterPair : ∀ part ∈ letterPair.parts, ¬part.IsExternal := by
  simp [letterPair, parts, Component.parts, partsOfComponents, IsExternal]

/-- A cursor before the letter. -/
def besetStart : Cursor :=
  (Cursor.ofText "abc").skip 1

set_option maxRecDepth 4000 in
theorem outcome_letterPair :
    (letterPair.parse (.english 2000) besetStart).outcome = .noMatch := rfl

set_option maxRecDepth 4000 in
theorem outcome_besetLetter_one :
    ((besetLetter 1).parse (.english 2000) besetStart).outcome = .noMatch := rfl

set_option maxRecDepth 4000 in
theorem outcome_besetLetter_zero :
    ((besetLetter 0).parse (.english 2000) besetStart).outcome = .matched besetLetterToken := rfl

theorem backtracks_besetLetter :
    (letterPair.parse (.english 2000) besetStart).cursor = besetStart ∧
      ((besetLetter 1).parse (.english 2000) besetStart).cursor = besetStart ∧
      ∃ last, InStep besetStart ((besetLetter 0).run (.english 2000) besetStart).calls last ∧
        ((besetLetter 0).parse (.english 2000) besetStart).cursor = last := by
  have pair := (backtracks letterPair (.english 2000) besetStart).1
  have marked := (backtracks (besetLetter 1) (.english 2000) besetStart).2.1
  have unmarked := (backtracks (besetLetter 0) (.english 2000) besetStart).2.2
  refine ⟨pair not_isExternal_letterPair outcome_letterPair,
    marked (exposed_besetLetter 1) outcome_besetLetter_one, ?_⟩
  rcases unmarked with ⟨last, steps, ends⟩
  exact ⟨last, steps, ends trivial besetLetterToken outcome_besetLetter_zero⟩

end Grammar

end TextGrammar
