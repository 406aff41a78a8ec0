import TextGrammar.Proofs.Cursor.Passage
import TextGrammar.Proofs.Grammar.Consumption
import TextGrammar.Proofs.Grammar.Events
import TextGrammar.Proofs.Matcher.Matches

/-!
# Repetitions

A repetition calls its grammar again and again. What it does is told here without any bound on the
number of calls: it goes on just behind a match that has moved the cursor. If matches consume the
text of their tokens, every call after which it goes on leaves less text for the next one, so it
comes to an end by itself, and the bound that is set to its calls elsewhere is never felt.
-/

namespace TextGrammar

/-- A matcher consumes the text of what it matches and nothing else. Where it does not match, it may
leave its cursor anywhere. -/
def Matcher.ConsumesText (matcher : Matcher) : Prop :=
  ∀ conventions start token, (matcher conventions start).outcome = .matched token →
    start.Passes token.text.toList (matcher conventions start).cursor

/-- What is matched, if there is a match. -/
def Outcome.value? {α : Type} : Outcome α → Option α
  | .matched value => some value
  | _ => none

/-- A cursor that has come forward and still stands where it was has not moved. -/
theorem Cursor.Passes.eq_of_isAt {start finish : Cursor} {passed : List Char}
    (passage : start.Passes passed finish) (still : finish.isAt start.save = true) :
    passed = [] ∧ finish = start := by
  cases passed with
  | nil =>
      rcases start with ⟨before, after⟩
      rcases finish with ⟨before', after'⟩
      have before_eq : before' = before := passage.before_eq
      have after_eq : after = after' := passage.after_eq
      exact ⟨rfl, by rw [before_eq, after_eq]⟩
  | cons c rest =>
      rw [passage.isAt_eq_false (List.cons_ne_nil c rest)] at still
      cases still

namespace Reply

variable {α β : Type} {value : α} {finish : Cursor}

/-- Behind a match it is the next step that has the outcome and leaves the cursor. -/
theorem Matches.andThen {reply : Reply α} (found : reply.Matches value finish)
    (next : α → Cursor → Reply β) :
    (reply.andThen next).outcome = (next value finish).outcome ∧
      (reply.andThen next).cursor = (next value finish).cursor := by
  obtain ⟨outcome, rfl⟩ := found
  simp [Reply.andThen, outcome]

end Reply

/-- A repetition that has collected tokens, with the text that was passed over, matches if they are
enough, and does not match otherwise. -/
theorem Matcher.repeated_of_matches_iterate {matcher : Matcher} {conventions : Conventions}
    {start finish : Cursor} {tokens : List Token}
    (collected : (iterate matcher conventions (callLimit start) start).Matches tokens finish)
    (between : finish.textBetween start.save = Token.joinTexts tokens) (label : String)
    (minimum : Nat) :
    let reply := matcher.repeated label minimum conventions start
    (minimum ≤ tokens.length →
      reply.Matches (.parent .repeated tokens (Token.joinTexts tokens)) finish) ∧
    (tokens.length < minimum → reply.outcome = .noMatch ∧ reply.cursor = start) := by
  intro reply
  obtain ⟨outcome, cursor⟩ := collected.andThen fun tokens finish =>
    if tokens.length < minimum then
      (⟨.noMatch, start, [.tooFew label tokens.length minimum]⟩ : Reply Token)
    else .ofToken (Token.makeParent .repeated tokens (finish.textBetween start.save)) finish
  constructor
  · intro enough
    rw [if_neg (Nat.not_lt.2 enough), between, Token.makeParent_eq_ok_iff.2 ⟨rfl, rfl⟩]
      at outcome cursor
    exact ⟨outcome, cursor⟩
  · intro tooFew
    rw [if_pos tooFew] at outcome cursor
    exact ⟨outcome, cursor⟩

namespace Run

variable {α β : Type}

theorem calls_orElse_still (run : Run α) (reply : Reply α) :
    (run.orElse fun _ => still reply).calls = run.calls := by
  by_cases outcome : run.reply.outcome = .noMatch
  · simp [orElse_of_noMatch outcome, still]
  · rw [orElse_of_ne_noMatch outcome]

theorem calls_andThen_still (run : Run α) (next : α → Cursor → Reply β) :
    (run.andThen fun value cursor => still (next value cursor)).calls = run.calls := by
  cases outcome : run.reply.outcome with
  | matched value => simp [andThen_of_matched outcome, still]
  | noMatch => rw [andThen_of_noMatch outcome]
  | failed error => rw [andThen_of_failed outcome]

end Run

namespace Grammar

/-- The call of a grammar at a cursor, with the calls that it makes and its reply. -/
def callAt (grammar : Grammar) (conventions : Conventions) (start : Cursor) : Call :=
  .reading grammar start (grammar.run conventions start).calls (grammar.parse conventions start)

/-- The token that a grammar matches at a cursor, if it matches there. -/
def tokenAt? (grammar : Grammar) (conventions : Conventions) (start : Cursor) : Option Token :=
  (grammar.parse conventions start).outcome.value?

/-- A grammar matches at a cursor and moves it. -/
def MovesAt (grammar : Grammar) (conventions : Conventions) (start : Cursor) : Prop :=
  (∃ token, (grammar.parse conventions start).outcome = .matched token) ∧
    (grammar.parse conventions start).cursor.isAt start.save = false

/-- A repetition that begins at a cursor calls its grammar at certain places, of which one is the
last. It calls again where a match has moved the cursor to, and does so as often as that happens. -/
inductive Repeats (grammar : Grammar) (conventions : Conventions) :
    Cursor → List Cursor → Cursor → Prop where
  | stop {start : Cursor} (stops : ¬grammar.MovesAt conventions start) :
      Repeats grammar conventions start [start] start
  | again {start last : Cursor} {places : List Cursor} (moves : grammar.MovesAt conventions start)
      (later : Repeats grammar conventions (grammar.parse conventions start).cursor places last) :
      Repeats grammar conventions start (start :: places) last

variable {grammar : Grammar} {conventions : Conventions} {start last : Cursor}
  {places : List Cursor} {limit : Nat}

theorem called_eq (grammar : Grammar) (conventions : Conventions) (start : Cursor) :
    grammar.called conventions start =
      ⟨[grammar.callAt conventions start], grammar.parse conventions start⟩ := by
  have reply := grammar.reply_run conventions start
  simp only [called, calledAs, reply, callAt]

theorem passes_of_matched (consumes : grammar.matcher.ConsumesText) {token : Token}
    (matched : (grammar.parse conventions start).outcome = .matched token) :
    start.Passes token.text.toList (grammar.parse conventions start).cursor :=
  consumes conventions start token matched

/-- A match after which a repetition does not go on has left the cursor where it was. -/
theorem isAt_of_stops (stops : ¬grammar.MovesAt conventions start) {token : Token}
    (matched : (grammar.parse conventions start).outcome = .matched token) :
    (grammar.parse conventions start).cursor.isAt start.save = true := by
  cases still : (grammar.parse conventions start).cursor.isAt start.save with
  | true => rfl
  | false => exact absurd ⟨⟨token, matched⟩, still⟩ stops

/-! ## The calls of a repetition -/

/-- Each call that moves the cursor leaves less text, so there are not more of them than characters,
and one call that does not. -/
theorem exists_repeats (consumes : grammar.matcher.ConsumesText) (conventions : Conventions)
    (start : Cursor) :
    ∃ places last, grammar.Repeats conventions start places last ∧
      places.length ≤ start.after.length + 1 := by
  induction size : start.after.length using Nat.strongRecOn generalizing start with
  | ind size ih =>
      by_cases moves : grammar.MovesAt conventions start
      · obtain ⟨token, matched⟩ := moves.1
        have reached : start.Reaches (grammar.parse conventions start).cursor :=
          ⟨_, passes_of_matched consumes matched⟩
        have less := reached.length_after_lt moves.2
        obtain ⟨places, last, later, bound⟩ := ih _ (size ▸ less) _ rfl
        refine ⟨start :: places, last, .again moves later, ?_⟩
        rw [List.length_cons]
        omega
      · exact ⟨[start], start, .stop moves, by simp⟩

/-- The calls that a repetition makes are allowed. -/
theorem length_le_callLimit (bound : places.length ≤ start.after.length + 1) :
    places.length ≤ Matcher.callLimit start :=
  Nat.le_trans bound (Matcher.length_after_lt_callLimit start)

/-- If more calls are allowed than are needed, a repetition makes just those that are needed. -/
theorem Repeats.calls_iterate (repeats : grammar.Repeats conventions start places last)
    (enough : places.length ≤ limit) :
    (grammar.called.iterate conventions limit start).calls =
      places.map (grammar.callAt conventions) := by
  induction repeats generalizing limit with
  | @stop start stops =>
      cases limit with
      | zero => cases enough
      | succ limit =>
          rw [Matcher.iterate, Answers.orElse_run, Answers.andThen_run, Answers.still_run,
            Run.calls_orElse_still, called_eq]
          cases outcome : (grammar.parse conventions start).outcome with
          | matched token =>
              rw [Run.andThen_of_matched outcome, if_pos (isAt_of_stops stops outcome)]
              rfl
          | noMatch =>
              rw [Run.andThen_of_noMatch outcome]
              rfl
          | failed error =>
              rw [Run.andThen_of_failed outcome]
              rfl
  | @again start last places moves later ih =>
      cases limit with
      | zero => cases enough
      | succ limit =>
          obtain ⟨⟨token, matched⟩, moved⟩ := moves
          have others := ih (Nat.le_of_succ_le_succ enough)
          simp only [Matcher.iterate, Answers.orElse_run, Answers.andThen_run, Answers.still_run]
          rw [Run.calls_orElse_still, called_eq, Run.andThen_of_matched matched, moved,
            if_neg Bool.false_ne_true, Run.calls_andThen_still, others]
          rfl

/-- Whatever number of matches is asked for, the calls are the same. -/
theorem Repeats.calls_repeated (repeats : grammar.Repeats conventions start places last)
    (enough : places.length ≤ start.after.length + 1) (minimum : Nat) :
    ((repeated minimum grammar).run conventions start).calls =
      places.map (grammar.callAt conventions) := by
  rw [← repeats.calls_iterate (length_le_callLimit enough)]
  exact Run.calls_andThen_still _ _

/-! ## The tokens of a repetition -/

/-- A token that is matched where a repetition does not go on has no text. -/
theorem matches_of_stops (consumes : grammar.matcher.ConsumesText)
    (stops : ¬grammar.MovesAt conventions start) {token : Token}
    (matched : (grammar.parse conventions start).outcome = .matched token) :
    (grammar.parse conventions start).Matches token start ∧ token.text = "" := by
  have passage := passes_of_matched consumes matched
  obtain ⟨nothing, back⟩ := passage.eq_of_isAt (isAt_of_stops stops matched)
  exact ⟨⟨matched, back⟩, String.toList_eq_nil_iff.1 nothing⟩

/-- A token that is matched where a repetition goes on has text. -/
theorem text_ne_of_movesAt (consumes : grammar.matcher.ConsumesText)
    (moves : grammar.MovesAt conventions start) {token : Token}
    (matched : (grammar.parse conventions start).outcome = .matched token) : token.text ≠ "" := by
  intro empty
  have offset := (passes_of_matched consumes matched).offset_eq
  have still : (grammar.parse conventions start).cursor.isAt start.save = true := by
    simp [Cursor.isAt, Cursor.save, offset, empty]
  rw [moves.2] at still
  cases still

/-- Without an error a repetition collects the tokens that were matched at its places, and ends at
the last of them. -/
theorem Repeats.matches_iterate (repeats : grammar.Repeats conventions start places last)
    (consumes : grammar.matcher.ConsumesText)
    (unfailed : ∀ place ∈ places, ∀ error,
      (grammar.parse conventions place).outcome ≠ .failed error)
    (enough : places.length ≤ limit) :
    (Matcher.iterate grammar.matcher conventions limit start).Matches
      (places.filterMap (grammar.tokenAt? conventions)) last := by
  induction repeats generalizing limit with
  | @stop start stops =>
      cases limit with
      | zero => cases enough
      | succ limit =>
          rw [Matcher.matches_iterate_succ_iff]
          cases outcome : (grammar.parse conventions start).outcome with
          | matched token =>
              have ends := matches_of_stops consumes stops outcome
              refine .inl ⟨token, start, ends.1, ?_⟩
              rw [if_pos (by simp [Cursor.isAt, Cursor.save])]
              simp [tokenAt?, outcome, Outcome.value?]
          | noMatch =>
              refine .inr ⟨outcome, ?_, rfl⟩
              simp [tokenAt?, outcome, Outcome.value?]
          | failed error => exact absurd outcome (unfailed start (by simp) error)
  | @again start last places moves later ih =>
      cases limit with
      | zero => cases enough
      | succ limit =>
          have others := ih (fun place member => unfailed place (List.mem_cons_of_mem _ member))
            (Nat.le_of_succ_le_succ enough)
          obtain ⟨⟨token, matched⟩, moved⟩ := moves
          have first : (grammar.matcher conventions start).Matches token
              (grammar.parse conventions start).cursor := ⟨matched, rfl⟩
          refine Matcher.matches_iterate_succ_iff.2 (.inl ⟨token, _, first, ?_⟩)
          rw [moved, if_neg Bool.false_ne_true]
          exact ⟨_, others, by simp [tokenAt?, matched, Outcome.value?]⟩

/-- Of the tokens that a repetition collects all have text, but for a last one that may have none;
and what it has passed over is their text. If the last has text, there is no further match behind
it. -/
theorem Repeats.exists_moved (repeats : grammar.Repeats conventions start places last)
    (consumes : grammar.matcher.ConsumesText)
    (unfailed : ∀ place ∈ places, ∀ error,
      (grammar.parse conventions place).outcome ≠ .failed error) :
    ∃ moved, start.Passes (Token.joinTexts moved).toList last ∧ (∀ token ∈ moved, token.text ≠ "") ∧
      ((grammar.parse conventions last).outcome = .noMatch ∧
          places.filterMap (grammar.tokenAt? conventions) = moved ∨
        ∃ still, (grammar.parse conventions last).Matches still last ∧ still.text = "" ∧
          places.filterMap (grammar.tokenAt? conventions) = moved ++ [still]) := by
  induction repeats with
  | @stop start stops =>
      refine ⟨[], .refl start, by simp, ?_⟩
      cases outcome : (grammar.parse conventions start).outcome with
      | matched token =>
          have ends := matches_of_stops consumes stops outcome
          exact .inr ⟨token, ends.1, ends.2, by simp [tokenAt?, outcome, Outcome.value?]⟩
      | noMatch => exact .inl ⟨rfl, by simp [tokenAt?, outcome, Outcome.value?]⟩
      | failed error => exact absurd outcome (unfailed start (by simp) error)
  | @again start last places moves later ih =>
      obtain ⟨moved, passage, texts, ends⟩ :=
        ih fun place member => unfailed place (List.mem_cons_of_mem _ member)
      obtain ⟨token, matched⟩ := moves.1
      have found : (start :: places).filterMap (grammar.tokenAt? conventions) =
          token :: places.filterMap (grammar.tokenAt? conventions) := by
        simp [tokenAt?, matched, Outcome.value?]
      refine ⟨token :: moved, ?_, ?_, ?_⟩
      · have first := passes_of_matched consumes matched
        simpa using first.trans passage
      · exact List.forall_mem_cons.2 ⟨text_ne_of_movesAt consumes moves matched, texts⟩
      · rw [found]
        rcases ends with ⟨missing, tokens⟩ | ⟨still, here, empty, tokens⟩
        · exact .inl ⟨missing, by rw [tokens]⟩
        · exact .inr ⟨still, here, empty, by rw [tokens, List.cons_append]⟩

/-! ## The reply of a repetition -/

/-- Without an error a repetition matches if it has collected enough tokens, and does not match
otherwise. -/
theorem Repeats.parse_repeated (repeats : grammar.Repeats conventions start places last)
    (bound : places.length ≤ start.after.length + 1) (consumes : grammar.matcher.ConsumesText)
    (unfailed : ∀ place ∈ places, ∀ error,
      (grammar.parse conventions place).outcome ≠ .failed error) (minimum : Nat) :
    let tokens := places.filterMap (grammar.tokenAt? conventions)
    let reply := (repeated minimum grammar).parse conventions start
    (minimum ≤ tokens.length →
      reply.Matches (.parent .repeated tokens (Token.joinTexts tokens)) last) ∧
    (tokens.length < minimum → reply.outcome = .noMatch ∧ reply.cursor = start) := by
  intro tokens reply
  have collected := repeats.matches_iterate consumes unfailed (length_le_callLimit bound)
  obtain ⟨moved, passage, -, ends⟩ := repeats.exists_moved consumes unfailed
  have texts : Token.joinTexts tokens = Token.joinTexts moved := by
    rcases ends with ⟨-, same⟩ | ⟨still, -, empty, same⟩
    · exact congrArg Token.joinTexts same
    · rw [show tokens = moved ++ [still] from same]
      simp [Token.joinTexts, empty]
  have between : last.textBetween start.save = Token.joinTexts tokens := by
    rw [passage.textBetween_eq, String.ofList_toList, texts]
  exact Matcher.repeated_of_matches_iterate collected between _ minimum

/-- An error of a call is the reply of a repetition. -/
theorem failed_repeated_of_mem {minimum : Nat}
    (calls : ((repeated minimum grammar).run conventions start).calls =
      places.map (grammar.callAt conventions))
    {place : Cursor} (member : place ∈ places) {error : ParseError}
    (failed : (grammar.parse conventions place).outcome = .failed error) :
    ((repeated minimum grammar).parse conventions start).outcome = .failed error ∧
      ((repeated minimum grammar).parse conventions start).cursor =
        (grammar.parse conventions place).cursor := by
  have event : Event.replied grammar place (grammar.parse conventions place) ∈
      eventsOfCalls ((repeated minimum grammar).run conventions start).calls := by
    obtain ⟨earlier, later, rfl⟩ := List.append_of_mem member
    simp [calls, eventsOfCalls, callAt, Call.events]
  have ends := (repeated minimum grammar).endsWithErrors_run conventions start
  have handedOn := ends.reply _ event error _ ⟨failed, rfl⟩
  rwa [reply_run] at handedOn

/-- A repetition comes to an end. Of a grammar whose matches consume the text of their tokens it
makes at most one call more than there are characters left, those that it would make if it were
never stopped. An error of a call is its reply. Otherwise it has collected the tokens of its calls:
all of them have moved the cursor but perhaps the last, and it has ended either where there was no
match or with a match that has not moved the cursor, which is collected once. Whatever number of
tokens is asked for, it matches just if it has collected as many, and then always the same token up
to the same place; and if it has not, the cursor is where it was. -/
theorem repetition_ends (grammar : Grammar) (consumes : grammar.matcher.ConsumesText)
    (conventions : Conventions) (start : Cursor) :
    ∃ places last, grammar.Repeats conventions start places last ∧
      places.length ≤ start.after.length + 1 ∧
      (∀ minimum, ((repeated minimum grammar).run conventions start).calls =
        places.map (grammar.callAt conventions)) ∧
      (∀ place ∈ places, ∀ error, (grammar.parse conventions place).outcome = .failed error →
        ∀ minimum, ((repeated minimum grammar).parse conventions start).outcome = .failed error ∧
          ((repeated minimum grammar).parse conventions start).cursor =
            (grammar.parse conventions place).cursor) ∧
      ((∀ place ∈ places, ∀ error, (grammar.parse conventions place).outcome ≠ .failed error) →
        let tokens := places.filterMap (grammar.tokenAt? conventions)
        (∃ moved, (∀ token ∈ moved, token.text ≠ "") ∧
          ((grammar.parse conventions last).outcome = .noMatch ∧ tokens = moved ∨
            ∃ still, (grammar.parse conventions last).Matches still last ∧ still.text = "" ∧
              tokens = moved ++ [still])) ∧
        ∀ minimum,
          let reply := (repeated minimum grammar).parse conventions start
          ((∃ token, reply.outcome = .matched token) ↔ minimum ≤ tokens.length) ∧
          (minimum ≤ tokens.length →
            reply.Matches (.parent .repeated tokens (Token.joinTexts tokens)) last) ∧
          (tokens.length < minimum → reply.outcome = .noMatch ∧ reply.cursor = start)) := by
  obtain ⟨places, last, repeats, bound⟩ := exists_repeats consumes conventions start
  have calls := repeats.calls_repeated bound
  refine ⟨places, last, repeats, bound, calls, ?_, ?_⟩
  · intro place member error failed minimum
    exact failed_repeated_of_mem (calls minimum) member failed
  · intro unfailed tokens
    obtain ⟨moved, -, texts, ends⟩ := repeats.exists_moved consumes unfailed
    refine ⟨⟨moved, texts, ends⟩, ?_⟩
    intro minimum reply
    obtain ⟨found, missing⟩ := repeats.parse_repeated bound consumes unfailed minimum
    refine ⟨⟨?_, fun enough => ⟨_, (found enough).outcome_eq⟩⟩, found, missing⟩
    rintro ⟨token, matched⟩
    refine Nat.le_of_not_lt fun tooFew => ?_
    rw [(missing tooFew).1] at matched
    cases matched

/-- A mark that leaves its cursor two characters further on where it does not match. -/
def strayMark : Grammar :=
  .external "mark" fun conventions start =>
    ((Leaf.symbol "é").matcher conventions start).orElse fun _ => Matcher.eat 2 conventions start

theorem consumesText_strayMark : strayMark.matcher.ConsumesText := by
  intro conventions start token matched
  have found : (((Leaf.symbol "é").matcher conventions start).orElse fun _ =>
      Matcher.eat 2 conventions start).Matches token (strayMark.matcher conventions start).cursor :=
    ⟨matched, rfl⟩
  rcases Reply.matches_orElse_iff.1 found with ⟨outcome, cursor⟩ | ⟨-, eaten⟩
  · have reads := (Leaf.symbol "é").reads_matcher (fun _ _ => True) conventions start
    obtain ⟨passed, passage, -, rfl⟩ := reads.finds token outcome
    rwa [cursor] at passage
  · exact absurd eaten Reply.not_matches_noMatch

/-- Two marks, and what is read of them. -/
def twoMarks : Token :=
  .parent .repeated [.leaf (.symbol "é") "é", .leaf (.symbol "é") "é"] "éé"

set_option maxRecDepth 4000 in
theorem repetition_ends_strayMark :
    let start := Cursor.ofText "ééxy"
    strayMark.matcher.ConsumesText ∧
      ((repeated 2 strayMark).parse (.english 2000) start).outcome = .matched twoMarks ∧
      ((repeated 3 strayMark).parse (.english 2000) start).outcome = .noMatch ∧
      ∃ places last, strayMark.Repeats (.english 2000) start places last ∧ places.length ≤ 5 ∧
        ∀ minimum, ((repeated minimum strayMark).run (.english 2000) start).calls =
          places.map (strayMark.callAt (.english 2000)) := by
  obtain ⟨places, last, repeats, bound, calls, -⟩ :=
    repetition_ends strayMark consumesText_strayMark (.english 2000) (Cursor.ofText "ééxy")
  exact ⟨consumesText_strayMark, rfl, rfl, places, last, repeats, bound, calls⟩

end Grammar

end TextGrammar
