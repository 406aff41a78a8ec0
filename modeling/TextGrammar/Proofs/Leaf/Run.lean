import TextGrammar.Proofs.Grammar.Repetition
import TextGrammar.Proofs.Leaf.Matches
import TextGrammar.Proofs.Matcher.Alike
import TextGrammar.Proofs.Text.Delimited

/-!
# Runs are greedy

A run takes characters of its class from the front of the text, as many as there are up to its upper
bound, and matches if these are enough. So it is told by one number, the length of the longest run that
the text starts with. Without an upper bound a run takes in one step what a repetition takes character
by character, and white space is a run of that sort.
-/

namespace TextGrammar

open Text

variable {charClass : CharClass} {minimum : Nat} {maximum : Option Nat} {run rest : List Char}
  {conventions : Conventions} {start : Cursor}

/-- So much of a length as a bound allows, if there is one. -/
def boundedLength : Option Nat → Nat → Nat
  | some most, length => min most length
  | none, length => length

/-- No length is enough if the upper bound is below the lower one or allows nothing. -/
theorem boundedLength_lt_of_crossed {most : Nat} (crossed : most < minimum ∨ most = 0)
    (length : Nat) : boundedLength (some most) length < max minimum 1 := by
  have bounded : boundedLength (some most) length ≤ most := Nat.min_le_left most length
  omega

/-- Of the longest run as many characters are read as the upper bound allows. -/
theorem readRun?_eq_of_isLongestRun (longest : IsLongestRun charClass.test run rest)
    (minimum : Nat) (maximum : Option Nat) :
    readRun? charClass minimum maximum (run ++ rest) =
      if minimum ≤ boundedLength maximum run.length then
        some (run.take (boundedLength maximum run.length))
      else none := by
  cases maximum with
  | none => simp [readRun?, boundedLength, longest.takeWhile_eq]
  | some most =>
      have window : ((run ++ rest).take most).takeWhile charClass.test = run.take most := by
        rw [← List.take_takeWhile, longest.takeWhile_eq]
      simp only [readRun?, boundedLength, window, List.length_take]
      rw [List.take_eq_take_min]
      rfl

namespace Leaf

/-! ## Runs and the bounds on their length -/

theorem finds_run (longest : IsLongestRun charClass.test run rest)
    (text_eq : start.after = run ++ rest)
    (enough : max minimum 1 ≤ boundedLength maximum run.length) :
    (Leaf.run charClass minimum maximum).Finds conventions start
      (.string (String.ofList (run.take (boundedLength maximum run.length))))
      (run.take (boundedLength maximum run.length))
      (run.drop (boundedLength maximum run.length) ++ rest) := by
  apply finds_of_read
  · rw [text_eq, ← List.append_assoc, List.take_append_drop]
  · rw [read, found_sameValueAndText_iff, text_eq, readRun?_eq_of_isLongestRun longest]
    exact ⟨if_pos enough, rfl⟩

/-- Without an upper bound all of the longest run is taken. -/
theorem finds_unboundedRun (longest : IsLongestRun charClass.test run rest)
    (text_eq : start.after = run ++ rest) (enough : max minimum 1 ≤ run.length) :
    (Leaf.run charClass minimum none).Finds conventions start (.string (String.ofList run)) run
      rest := by
  have bounded : (Leaf.run charClass minimum none).Finds conventions start
      (.string (String.ofList (run.take run.length))) (run.take run.length)
      (run.drop run.length ++ rest) := finds_run longest text_eq enough
  simpa using bounded

theorem declines_run (longest : IsLongestRun charClass.test run rest)
    (text_eq : start.after = run ++ rest)
    (tooFew : ¬max minimum 1 ≤ boundedLength maximum run.length) :
    (Leaf.run charClass minimum maximum).Declines conventions start := by
  refine declines_of_not_found fun value used reading => ?_
  rw [read, found_sameValueAndText_iff, text_eq, readRun?_eq_of_isLongestRun longest,
    runMinimum, if_neg tooFew] at reading
  cases reading.1

end Leaf

/-! ## Repetitions of a character -/

namespace Token

/-- The token of a character. -/
def ofChar (c : Char) : Token :=
  .leaf (.character c) (String.singleton c)

/-- The token of a text that was read as a string. -/
def ofString (text : String) : Token :=
  .leaf (.string text) text

/-- The token of a text that was read character by character. -/
def ofChars (chars : List Char) : Token :=
  .parent .repeated (chars.map ofChar) (String.ofList chars)

/-- The tokens of characters have these as their text. -/
theorem joinTexts_map_ofChar (chars : List Char) :
    joinTexts (chars.map ofChar) = String.ofList chars := by
  induction chars with
  | nil => rfl
  | cons c chars ih =>
      rw [List.map_cons, joinTexts_cons, ih, ofChar, text, String.ofList_cons]

end Token

namespace Leaf

theorem matches_character_cons {c : Char} (accepted : charClass.test c = true)
    (conventions : Conventions) (before text : List Char) :
    ((Leaf.character charClass).matcher conventions ⟨before, c :: text⟩).Matches (Token.ofChar c)
      ⟨c :: before, text⟩ := by
  refine matches_matcher_iff.2 ⟨.character c, [c], ?_, ?_, rfl⟩
  · simp [read, readOne?, Option.filter, accepted, Reading.ofOption]
  · rw [Token.ofChar, String.singleton_eq_ofList]

theorem declines_character (stops : GoesOnWith (charClass.test · = false) start.after) :
    (Leaf.character charClass).Declines conventions start := by
  refine declines_of_not_found fun value used reading => ?_
  have found := Reading.ofOption_eq_found_iff.1 reading
  obtain ⟨c, one, -⟩ := Option.map_eq_some_iff.1 found
  obtain ⟨first, accepted⟩ := Option.filter_eq_some_iff.1 one
  rw [stops c first] at accepted
  cases accepted

/-- The characters of the longest run are matched one by one, and no other behind them. -/
theorem matches_iterate_character (longest : IsLongestRun charClass.test run rest)
    (conventions : Conventions) (before : List Char) {calls : Nat} (enough : run.length < calls) :
    (Matcher.iterate (Leaf.character charClass).matcher conventions calls
      ⟨before, run ++ rest⟩).Matches (run.map Token.ofChar) ⟨run.reverse ++ before, rest⟩ := by
  induction run generalizing before calls with
  | nil =>
      obtain ⟨calls, rfl⟩ := Nat.exists_eq_add_one.2 enough
      have missing : (Leaf.character charClass).Declines conventions ⟨before, rest⟩ :=
        declines_character longest.stops
      exact Matcher.matches_iterate_succ_iff.2 (.inr ⟨missing.outcome_eq, rfl, rfl⟩)
  | cons c run ih =>
      obtain ⟨calls, rfl⟩ := Nat.exists_eq_add_one.2 (Nat.zero_lt_of_lt enough)
      obtain ⟨accepted, all⟩ := List.forall_mem_cons.1 longest.all
      have first := matches_character_cons accepted conventions before (run ++ rest)
      have others := ih ⟨all, longest.stops⟩ (c :: before) (Nat.lt_of_succ_lt_succ enough)
      have passage : Cursor.Passes ⟨before, c :: (run ++ rest)⟩ [c] ⟨c :: before, run ++ rest⟩ :=
        ⟨rfl, rfl⟩
      rw [List.reverse_cons, List.append_assoc]
      exact Matcher.matches_iterate_cons first passage (List.cons_ne_nil c []) others

/-- A repetition of a character takes the longest run if that is long enough. -/
theorem parse_repeated_character (longest : IsLongestRun charClass.test run rest)
    (text_eq : start.after = run ++ rest) (conventions : Conventions) (minimum : Nat) :
    let repetition :=
      (Grammar.repeated minimum (.leaf (.character charClass))).parse conventions start
    (minimum ≤ run.length →
      repetition.Matches (.ofChars run) ⟨run.reverse ++ start.before, rest⟩) ∧
    (run.length < minimum → repetition.outcome = .noMatch ∧ repetition.cursor = start) := by
  obtain ⟨before, after⟩ := start
  subst text_eq
  have limit : run.length < Matcher.callLimit ⟨before, run ++ rest⟩ := by
    have less := Matcher.length_after_lt_callLimit ⟨before, run ++ rest⟩
    rw [List.length_append] at less
    omega
  have passage : Cursor.Passes ⟨before, run ++ rest⟩ run ⟨run.reverse ++ before, rest⟩ :=
    ⟨rfl, rfl⟩
  have between := passage.textBetween_eq.trans (Token.joinTexts_map_ofChar run).symm
  have replies := Matcher.repeated_of_matches_iterate
    (matches_iterate_character longest conventions before limit) between
    (Grammar.repeated minimum (.leaf (.character charClass))).label minimum
  rw [List.length_map, Token.joinTexts_map_ofChar] at replies
  exact replies

/-- A leaf that has used some characters leaves the cursor behind them. -/
theorem Finds.cursor_eq {leaf : Leaf} {value : LeafValue} {used : List Char}
    (finds : leaf.Finds conventions start value used rest) :
    (leaf.matcher conventions start).cursor = ⟨used.reverse ++ start.before, rest⟩ := by
  rw [← finds.passes.before_eq, ← finds.after_eq]

/-- Without an upper bound a run and a repetition of its characters take the same text. -/
theorem alike_run_repeated (charClass : CharClass) (minimum : Nat) (conventions : Conventions)
    (start : Cursor) :
    let unbounded := (Leaf.run charClass minimum none).matcher conventions start
    let repetition := (Grammar.repeated (max minimum 1) (.leaf (.character charClass))).parse
      conventions start
    repetition.cursor = unbounded.cursor ∧
      unbounded.outcome.Alike (fun token image => ∃ chars,
        token = .ofString (String.ofList chars) ∧ image = .ofChars chars) repetition.outcome := by
  intro unbounded repetition
  obtain ⟨run, rest, text_eq, longest⟩ := exists_isLongestRun charClass.test start.after
  obtain ⟨found, missing⟩ :=
    parse_repeated_character longest text_eq conventions (max minimum 1)
  by_cases enough : max minimum 1 ≤ run.length
  · have finds : (Leaf.run charClass minimum none).Finds conventions start _ run rest :=
      finds_unboundedRun longest text_eq enough
    have repeats := found enough
    refine ⟨repeats.cursor_eq.trans finds.cursor_eq.symm, ?_⟩
    rw [finds.outcome_eq, repeats.outcome_eq]
    exact .matched ⟨run, rfl, rfl⟩
  · have declines : (Leaf.run charClass minimum none).Declines conventions start :=
      declines_run longest text_eq enough
    obtain ⟨outcome, cursor⟩ := missing (Nat.lt_of_not_le enough)
    refine ⟨cursor.trans declines.cursor_eq.symm, ?_⟩
    rw [declines.outcome_eq, outcome]
    exact .noMatch

/-- Two leaves that find the same text, each as a value of its own kind, match alike. -/
theorem alike_of_read {leaf leaf' : Leaf} {kind kind' : String → LeafValue}
    {found : Option (List Char)}
    (reading : leaf.read conventions start.after =
      .ofOption (found.map (sameValueAndText kind)))
    (reading' : leaf'.read conventions start.after =
      .ofOption (found.map (sameValueAndText kind'))) :
    (leaf'.matcher conventions start).cursor = (leaf.matcher conventions start).cursor ∧
      (leaf.matcher conventions start).outcome.Alike (fun token image => ∃ text,
        token = .leaf (kind text) text ∧ image = .leaf (kind' text) text)
        (leaf'.matcher conventions start).outcome := by
  cases found with
  | none =>
      have declines : leaf.Declines conventions start :=
        declines_of_not_found fun value used => by simp [reading, Reading.ofOption]
      have declines' : leaf'.Declines conventions start :=
        declines_of_not_found fun value used => by simp [reading', Reading.ofOption]
      refine ⟨declines'.cursor_eq.trans declines.cursor_eq.symm, ?_⟩
      rw [declines.outcome_eq, declines'.outcome_eq]
      exact .noMatch
  | some used =>
      obtain ⟨outcome, cursor⟩ := matches_matcher_iff.2 ⟨_, used, reading, rfl, rfl⟩
      obtain ⟨outcome', cursor'⟩ := matches_matcher_iff.2 ⟨_, used, reading', rfl, rfl⟩
      refine ⟨cursor'.trans cursor.symm, ?_⟩
      rw [outcome, outcome']
      exact .matched ⟨_, rfl, rfl⟩

/-- **Runs are greedy.** A text starts with some longest run of characters of a class. Of that a run
takes as many characters as its upper bound allows, and it matches just if these are as many as its
lower bound asks for, and at least one. In every other case, so whenever no number is within its
bounds, there is no match and the cursor has not moved. Without an upper bound a run matches just where
a repetition of one character of the class does, its value is made of the characters of the children in
their order, and both leave the cursor at the same place. White space is an unbounded run of blanks, but
for the kind of its value. -/
theorem runs_are_greedy (charClass : CharClass) (minimum : Nat) (maximum : Option Nat)
    (conventions : Conventions) (start : Cursor) :
    let bounded := Leaf.run charClass minimum maximum
    let unbounded := (Leaf.run charClass minimum none).matcher conventions start
    let repetition := (Grammar.repeated (max minimum 1) (.leaf (.character charClass))).parse
      conventions start
    let blanks := Leaf.whitespace.matcher conventions start
    (∃ run rest, start.after = run ++ rest ∧ IsLongestRun charClass.test run rest ∧
      (∀ front, front <+: start.after → (∀ c ∈ front, charClass.test c = true) → front <+: run) ∧
      let count := boundedLength maximum run.length
      ((∃ token, (bounded.matcher conventions start).outcome = .matched token) ↔
        max minimum 1 ≤ count) ∧
      (max minimum 1 ≤ count →
        bounded.Finds conventions start (.string (String.ofList (run.take count)))
          (run.take count) (run.drop count ++ rest)) ∧
      (¬max minimum 1 ≤ count → bounded.Declines conventions start)) ∧
    (∀ most, maximum = some most → most < minimum ∨ most = 0 →
      bounded.Declines conventions start) ∧
    (repetition.cursor = unbounded.cursor ∧
      unbounded.outcome.Alike (fun token image => ∃ chars,
        token = .ofString (String.ofList chars) ∧ image = .ofChars chars) repetition.outcome) ∧
    ∀ least ≤ 1,
      let run := (Leaf.run .whitespace least none).matcher conventions start
      run.cursor = blanks.cursor ∧
        blanks.outcome.Alike (fun token image => ∃ text,
          token = .leaf (.whitespace text) text ∧ image = .ofString text) run.outcome := by
  intro bounded unbounded repetition blanks
  obtain ⟨run, rest, text_eq, longest⟩ := exists_isLongestRun charClass.test start.after
  refine ⟨⟨run, rest, text_eq, longest, ?_, ?_, ?_, ?_⟩, ?_, ?_, ?_⟩
  · intro front isFront all
    rw [text_eq] at isFront
    exact longest.isPrefix_of_all isFront all
  · exact matched_iff (fun enough => ⟨_, _, _, finds_run longest text_eq enough⟩)
      (declines_run longest text_eq)
  · exact finds_run longest text_eq
  · exact declines_run longest text_eq
  · rintro most rfl crossed
    exact declines_run longest text_eq
      (Nat.not_le.2 (boundedLength_lt_of_crossed crossed run.length))
  · exact alike_run_repeated charClass minimum conventions start
  · intro least few
    have minimum_eq : runMinimum least = 1 := Nat.max_eq_right few
    exact alike_of_read rfl (by rw [read, minimum_eq])

/-- As many digits as are allowed are taken, and the others are left. -/
example : readRun? .digit 2 (some 3) "12345".toList = some "123".toList := by
  rfl

end Leaf

end TextGrammar
