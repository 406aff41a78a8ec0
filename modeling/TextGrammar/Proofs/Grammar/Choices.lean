import TextGrammar.Grammar

/-!
# Alternatives of alternatives

Alternatives try their choices in order, each of them at the place where the first was tried, until one
matches or fails. Choices that are alternatives themselves go back to the same place, so it makes no
difference whether they are tried as one choice or one by one. Hence only the order of the choices
counts, and not the way in which they were put together.
-/

namespace TextGrammar

namespace Matcher

variable {conventions : Conventions} {start : Cursor}

/-- Further matchers are tried at the same place if none of the first has an answer. -/
theorem firstOf_append (front back : List Matcher) (conventions : Conventions) (start : Cursor) :
    firstOf (front ++ back) conventions start =
      (firstOf front conventions start).orElse fun _ => firstOf back conventions start := by
  induction front with
  | nil => exact (Reply.orElse_noMatch start _).symm
  | cons matcher front ih =>
      simp only [List.cons_append, firstOf, ih, Answers.orElse_reply, Reply.orElse_assoc]

theorem firstOf_map_firstOf (groups : List (List Matcher)) (conventions : Conventions)
    (start : Cursor) :
    firstOf (groups.map firstOf) conventions start =
      firstOf groups.flatten conventions start := by
  induction groups with
  | nil => rfl
  | cons group groups ih =>
      rw [List.map_cons, List.flatten_cons, firstOf, Answers.orElse_reply, ih, firstOf_append]

end Matcher

namespace Grammar

/-- A reply is that of the first of several grammars that matches or fails at a place. If there is
none, there is no match and the cursor is back at the place. -/
inductive IsFirstAnswer (conventions : Conventions) (start : Cursor) (choices : List Grammar)
    (reply : Reply Token) : Prop
  | answered {tried untried : List Grammar} {choice : Grammar}
      (split : choices = tried ++ choice :: untried)
      (missing : ∀ earlier ∈ tried, (earlier.parse conventions start).outcome = .noMatch)
      (answers : (choice.parse conventions start).outcome ≠ .noMatch)
      (outcome_eq : reply.outcome = (choice.parse conventions start).outcome)
      (cursor_eq : reply.cursor = (choice.parse conventions start).cursor)
  | unanswered
      (missing : ∀ choice ∈ choices, (choice.parse conventions start).outcome = .noMatch)
      (outcome_eq : reply.outcome = .noMatch) (cursor_eq : reply.cursor = start)

/-- Grammars that were put together with `or`, in some nesting. -/
inductive Nesting where
  | single (grammar : Grammar)
  | either (first second : Nesting)

namespace Nesting

/-- The grammar that was put together. -/
def grammar : Nesting → Grammar
  | single grammar => grammar
  | either first second => first.grammar.or second.grammar

/-- The grammars that it was put together of, in order. -/
def choices : Nesting → List Grammar
  | single grammar => [grammar]
  | either first second => first.choices ++ second.choices

end Nesting

variable {conventions : Conventions} {start : Cursor}

/-- The first of several choices that has an answer gives the reply. -/
theorem isFirstAnswer_alternatives (choices : List Grammar) (conventions : Conventions)
    (start : Cursor) :
    IsFirstAnswer conventions start choices ((alternatives choices).parse conventions start) := by
  induction choices with
  | nil => exact .unanswered (by simp) rfl rfl
  | cons choice choices ih =>
      have reply : (alternatives (choice :: choices)).parse conventions start =
          (choice.parse conventions start).orElse fun _ =>
            (alternatives choices).parse conventions start := rfl
      by_cases first : (choice.parse conventions start).outcome = .noMatch
      · rw [reply, Reply.orElse_of_noMatch first]
        cases ih with
        | @answered tried untried later split missing answers outcome cursor =>
            have split' : choice :: choices = (choice :: tried) ++ later :: untried := by
              rw [split, List.cons_append]
            refine .answered split' ?_ answers outcome cursor
            exact List.forall_mem_cons.2 ⟨first, missing⟩
        | unanswered missing outcome cursor =>
            refine .unanswered ?_ outcome cursor
            exact List.forall_mem_cons.2 ⟨first, missing⟩
      · rw [reply, Reply.orElse_of_ne_noMatch first]
        exact .answered (List.nil_append _).symm (by simp) first rfl rfl

theorem parse_alternatives_groups (groups : List (List Grammar)) (conventions : Conventions)
    (start : Cursor) :
    (alternatives (groups.map alternatives)).parse conventions start =
      (alternatives groups.flatten).parse conventions start := by
  have grouped : (groups.map alternatives).map Grammar.matcher =
      (groups.map (List.map Grammar.matcher)).map Matcher.firstOf := by
    simp only [List.map_map]
    refine List.map_congr_left fun group _ => ?_
    simp only [Function.comp_apply, matcher, grammarMatchers_eq_map]
  simp only [parse, matcher, grammarMatchers_eq_map, grouped, Matcher.firstOf_map_firstOf,
    List.map_flatten]

/-- One grammar or else another are alternatives, also where the first already has choices. -/
theorem matcher_or (first other : Grammar) :
    (first.or other).matcher = .firstOf [first.matcher, other.matcher] := by
  cases first with
  | alternatives choices =>
      funext conventions start
      rw [or, matcher, matcher, grammarMatchers_eq_map, grammarMatchers_eq_map, List.map_append]
      exact Matcher.firstOf_append _ _ conventions start
  | _ => rfl

/-- A nesting is tried as its choices are in a row. -/
theorem Nesting.firstOf_grammar (nesting : Nesting) :
    Matcher.firstOf [nesting.grammar.matcher] =
      Matcher.firstOf (nesting.choices.map Grammar.matcher) := by
  funext conventions start
  induction nesting with
  | single grammar => rfl
  | either first second ihFirst ihSecond =>
      calc Matcher.firstOf [(first.grammar.or second.grammar).matcher] conventions start
        _ = Matcher.firstOf [.firstOf [first.grammar.matcher, second.grammar.matcher]]
              conventions start := by rw [matcher_or]
        _ = Matcher.firstOf ([first.grammar.matcher] ++ [second.grammar.matcher])
              conventions start :=
            Matcher.firstOf_map_firstOf [[first.grammar.matcher, second.grammar.matcher]]
              conventions start
        _ = _ := by
            rw [Matcher.firstOf_append, ihFirst, ihSecond, choices, List.map_append,
              Matcher.firstOf_append]

theorem Nesting.parse_either (first second : Nesting) (conventions : Conventions)
    (start : Cursor) :
    (either first second).grammar.parse conventions start =
      (alternatives (first.choices ++ second.choices)).parse conventions start := by
  calc (either first second).grammar.parse conventions start
    _ = Matcher.firstOf [(either first second).grammar.matcher] conventions start := by
        rw [parse, grammar, matcher_or]
        exact (Matcher.firstOf_map_firstOf [[first.grammar.matcher, second.grammar.matcher]]
          conventions start).symm
    _ = _ := by
        rw [firstOf_grammar, parse, matcher, grammarMatchers_eq_map, choices]

/-- Alternatives may be grouped in any way, also with groups that are empty and whatever the choices
do. Alternatives of the groups reply just as the alternatives of all choices do: as the first choice in
order that matches or fails where the reading began, or with no match, back at that place, if there is
none. Hence grammars that are put together with `or` in any nesting reply as one row of alternatives
does. -/
theorem choices_regroup (groups : List (List Grammar)) (conventions : Conventions)
    (start : Cursor) :
    let nested := (alternatives (groups.map alternatives)).parse conventions start
    let flat := (alternatives groups.flatten).parse conventions start
    nested = flat ∧ IsFirstAnswer conventions start groups.flatten flat ∧
      ∀ first second : Nesting,
        (Nesting.either first second).grammar.parse conventions start =
          (alternatives (first.choices ++ second.choices)).parse conventions start := by
  intro nested flat
  refine ⟨parse_alternatives_groups groups conventions start, ?_, ?_⟩
  · exact isFirstAnswer_alternatives groups.flatten conventions start
  · intro first second
    exact first.parse_either second conventions start

end Grammar

end TextGrammar
