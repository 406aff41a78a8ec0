import TextGrammar.Proofs.Grammar.Run
import TextGrammar.Proofs.Matcher.Rewinds

/-!
# Calls in step

The calls that a grammar makes are in step: each is made behind the last match, and a call that does
not match leaves no trace, wherever it has left its cursor. If a combination matches, its cursor is
where the last call lets the reading go on. Nothing is assumed of the grammars that are called.
-/

namespace TextGrammar

/-- Calls follow each other in step from one cursor to another: each is made where the one before it
lets the reading go on. -/
def InStep : Cursor → List Call → Cursor → Prop
  | start, [], last => last = start
  | start, call :: calls, last => call.place = start ∧ InStep call.resume calls last

theorem InStep.append {start middle last : Cursor} {front back : List Call}
    (first : InStep start front middle) (second : InStep middle back last) :
    InStep start (front ++ back) last := by
  induction front generalizing start with
  | nil =>
      cases first
      exact second
  | cons call calls ih => exact ⟨first.1, ih first.2⟩

/-- A grammar is built of others. -/
def Grammar.IsCombination : Grammar → Prop
  | .leaf _ | .external _ _ => False
  | _ => True

/-- The calls of a run are in step from its start on, and a match ends where they do. -/
def Run.KeepsStep {α : Type} (start : Cursor) (run : Run α) : Prop :=
  ∃ last, InStep start run.calls last ∧
    ∀ value, run.reply.outcome = .matched value → run.reply.cursor = last

/-- Besides, without a match the calls lead back to the start, wherever the cursor is. -/
def Run.KeepsStart {α : Type} (start : Cursor) (run : Run α) : Prop :=
  ∃ last, InStep start run.calls last ∧
    (∀ value, run.reply.outcome = .matched value → run.reply.cursor = last) ∧
    (run.reply.outcome = .noMatch → last = start)

namespace Run.KeepsStep

variable {α β : Type} {start : Cursor}

theorem matched (value : α) (start : Cursor) : (Run.still (.matched value start)).KeepsStep start :=
  ⟨start, rfl, fun _ _ => rfl⟩

/-- A run without calls keeps step wherever it leaves the cursor if it does not match. -/
theorem unmatched {reply : Reply α} (missing : ∀ value, reply.outcome ≠ .matched value) :
    (Run.still reply).KeepsStep start :=
  ⟨start, rfl, fun value same => absurd same (missing value)⟩

theorem ofToken (token : Except TokenError Token) (start : Cursor) :
    (Run.still (.ofToken token start)).KeepsStep start := by
  cases token with
  | ok token => exact matched token start
  | error fault => exact unmatched (by simp [Reply.ofToken, Reply.failed])

theorem andThen {run : Run α} {next : α → Cursor → Run β} (steps : run.KeepsStep start)
    (goesOn : ∀ value cursor, (next value cursor).KeepsStep cursor) :
    (Answers.andThen run next).KeepsStep start := by
  rcases steps with ⟨middle, first, ends⟩
  rw [Answers.andThen_run]
  cases outcome : run.reply.outcome with
  | matched value =>
      rw [andThen_of_matched outcome, ends value outcome]
      rcases goesOn value middle with ⟨last, second, endsLater⟩
      exact ⟨last, first.append second, endsLater⟩
  | noMatch =>
      rw [andThen_of_noMatch outcome]
      exact ⟨middle, first, by simp⟩
  | failed error =>
      rw [andThen_of_failed outcome]
      exact ⟨middle, first, by simp⟩

/-- A run that is given up for a reply without a match keeps step. -/
theorem orElse_noMatch {run : Run α} (steps : run.KeepsStep start) (cursor : Cursor) :
    (Answers.orElse run fun _ => .still (.noMatch cursor)).KeepsStep start := by
  rw [Answers.orElse_run]
  by_cases outcome : run.reply.outcome = .noMatch
  · rcases steps with ⟨last, calls, ends⟩
    rw [orElse_of_noMatch outcome]
    exact ⟨last, calls.append rfl, by simp [Run.still, Reply.noMatch]⟩
  · rw [orElse_of_ne_noMatch outcome]
    exact steps

end Run.KeepsStep

namespace Run.KeepsStart

variable {α β : Type} {start : Cursor}

theorem keepsStep {run : Run α} (keeps : run.KeepsStart start) : run.KeepsStep start := by
  rcases keeps with ⟨last, calls, ends, -⟩
  exact ⟨last, calls, ends⟩

/-- A single call lets the reading go on where it was made if it does not match. -/
theorem called (grammar : Grammar) (conventions : Conventions) (start : Cursor) :
    (grammar.called conventions start).KeepsStart start := by
  refine ⟨_, ⟨rfl, rfl⟩, ?_, ?_⟩
  · intro token matched
    simp only [Grammar.called, Grammar.calledAs] at matched
    simp [Grammar.called, Grammar.calledAs, Call.resume, matched]
  · intro missing
    simp only [Grammar.called, Grammar.calledAs] at missing
    simp [Call.resume, missing]

/-- What follows a match does not spoil the way back if it always has an answer. -/
theorem andThen {run : Run α} {next : α → Cursor → Run β} (keeps : run.KeepsStart start)
    (goesOn : ∀ value cursor, (next value cursor).KeepsStep cursor)
    (never : ∀ value cursor, (next value cursor).reply.outcome ≠ .noMatch) :
    (Answers.andThen run next).KeepsStart start := by
  rcases keeps with ⟨middle, first, ends, back⟩
  rw [Answers.andThen_run]
  cases outcome : run.reply.outcome with
  | matched value =>
      rw [andThen_of_matched outcome, ends value outcome]
      rcases goesOn value middle with ⟨last, second, endsLater⟩
      exact ⟨last, first.append second, endsLater,
        fun missing => absurd missing (never value middle)⟩
  | noMatch =>
      rw [andThen_of_noMatch outcome]
      exact ⟨middle, first, by simp, fun _ => back outcome⟩
  | failed error =>
      rw [andThen_of_failed outcome]
      exact ⟨middle, first, by simp, by simp⟩

/-- What comes instead begins at the start. -/
theorem orElse {run : Run α} {next : Cursor → Run α} (keeps : run.KeepsStart start)
    (instead : ∀ cursor, (next cursor).KeepsStep start) :
    (Answers.orElse run next).KeepsStep start := by
  rw [Answers.orElse_run]
  by_cases outcome : run.reply.outcome = .noMatch
  · rcases keeps with ⟨middle, first, -, back⟩
    rw [back outcome] at first
    rcases instead run.reply.cursor with ⟨last, second, ends⟩
    rw [orElse_of_noMatch outcome]
    exact ⟨last, first.append second, ends⟩
  · rw [orElse_of_ne_noMatch outcome]
    exact keeps.keepsStep

end Run.KeepsStart

namespace Matcher

open Run

variable {matcher : Matcher Run} {conventions : Conventions}

theorem keepsStep_firstOf {matchers : List (Matcher Run)}
    (called : ∀ matcher ∈ matchers, ∀ start, (matcher conventions start).KeepsStart start)
    (start : Cursor) : (firstOf matchers conventions start).KeepsStep start := by
  induction matchers with
  | nil => exact .unmatched (by simp [Reply.noMatch])
  | cons matcher matchers ih =>
      rw [List.forall_mem_cons] at called
      exact (called.1 start).orElse fun _ => ih called.2

theorem keepsStep_optional (called : ∀ start, (matcher conventions start).KeepsStart start)
    (start : Cursor) : (matcher.optional conventions start).KeepsStep start := by
  apply KeepsStart.orElse
  · apply (called start).andThen
    · intro token finish
      exact .ofToken _ finish
    · intro token finish
      exact Reply.ofToken_ne_noMatch _ finish
  · intro cursor
    exact .ofToken _ start

theorem keepsStep_tokens {part : Part Run}
    (called : ∀ start, (part.matcher conventions start).KeepsStart start) (label : String)
    (start : Cursor) : (part.tokens label conventions start).KeepsStep start := by
  apply KeepsStart.orElse
  · apply (called start).andThen
    · intro token finish
      exact .matched [token] finish
    · intro token finish
      simp [Run.still, Reply.matched]
  · intro cursor
    split
    · exact .unmatched (by simp)
    · exact .matched [] start

theorem keepsStep_gather {parts : List (Part Run)}
    (called : ∀ part ∈ parts, ∀ start, (part.matcher conventions start).KeepsStart start)
    (label : String) (start : Cursor) : (gather label parts conventions start).KeepsStep start := by
  induction parts generalizing start with
  | nil => exact .matched [] start
  | cons part parts ih =>
      rw [List.forall_mem_cons] at called
      apply (keepsStep_tokens called.1 label start).andThen
      intro found next
      apply (ih called.2 next).andThen
      intro later finish
      exact .matched (found ++ later) finish

theorem keepsStep_sequence {parts : List (Part Run)}
    (called : ∀ part ∈ parts, ∀ start, (part.matcher conventions start).KeepsStart start)
    (label : String) (start : Cursor) :
    (sequence label parts conventions start).KeepsStep start := by
  apply KeepsStep.orElse_noMatch
  apply (keepsStep_gather called label start).andThen
  intro tokens finish
  exact .ofToken _ finish

/-- After a call that has matched and moved the cursor the repetition goes on, and such a rest always
matches or fails. -/
theorem keepsStep_iterate (called : ∀ start, (matcher conventions start).KeepsStart start)
    (calls : Nat) (start : Cursor) : (matcher.iterate conventions calls start).KeepsStep start := by
  induction calls generalizing start with
  | zero => exact .matched [] start
  | succ calls ih =>
      apply KeepsStart.orElse
      · apply (called start).andThen
        · intro token next
          split
          · exact .matched [token] next
          · apply (ih next).andThen
            intro later finish
            exact .matched (token :: later) finish
        · intro token next
          split
          · simp [Run.still, Reply.matched]
          · intro missing
            have rest := Reply.noMatch_of_andThen missing (by simp [Run.still, Reply.matched])
            rw [reply_iterate] at rest
            exact absurd rest.1 (Matcher.iterate_ne_noMatch _ _ _ _)
      · intro cursor
        exact .matched [] start

theorem keepsStep_repeated (called : ∀ start, (matcher conventions start).KeepsStart start)
    (label : String) (minimum : Nat) (start : Cursor) :
    (matcher.repeated label minimum conventions start).KeepsStep start := by
  apply (keepsStep_iterate called _ start).andThen
  intro tokens finish
  split
  · exact .unmatched (by simp)
  · exact .ofToken _ finish

theorem keepsStep_reply (reporter : Reporter) (cursor start : Cursor) (label : String) :
    (Run.still (reporter.reply cursor label : Reply Token)).KeepsStep start :=
  .unmatched (by simp [Reporter.reply])

theorem keepsStep_orReport (called : ∀ start, (matcher conventions start).KeepsStart start)
    (reporter : Reporter) (label : String) (start : Cursor) :
    (matcher.orReport reporter label conventions start).KeepsStep start := by
  apply (called start).orElse
  intro cursor
  exact keepsStep_reply reporter cursor start _

theorem keepsStep_orFailIfTextRemains
    (called : ∀ start, (matcher conventions start).KeepsStart start) (reporter : Reporter)
    (label : String) (start : Cursor) :
    (matcher.orFailIfTextRemains reporter label conventions start).KeepsStep start := by
  apply (called start).keepsStep.andThen
  intro token finish
  split
  · exact .matched token finish
  · exact keepsStep_reply reporter finish finish _

theorem keepsStep_andNothingRemains
    (called : ∀ start, (matcher conventions start).KeepsStart start) (start : Cursor) :
    (matcher.andNothingRemains conventions start).KeepsStep start := by
  apply KeepsStep.orElse_noMatch
  apply (called start).keepsStep.andThen
  intro token finish
  split
  · exact .matched token finish
  · exact .unmatched (by simp [Reply.noMatch])

theorem keepsStep_map (called : ∀ start, (matcher conventions start).KeepsStart start)
    (change : Token → Token) (start : Cursor) :
    (matcher.map change conventions start).KeepsStep start := by
  apply (called start).keepsStep.andThen
  intro token finish
  exact .matched (change token) finish

/-- A function on tokens does not move the cursor. -/
theorem keepsStep_transform (called : ∀ start, (matcher conventions start).KeepsStart start)
    (change : Token → Conventions → Except ParseError Token) (start : Cursor) :
    (matcher.transform change conventions start).KeepsStep start := by
  apply (called start).keepsStep.andThen
  intro token finish
  refine ⟨finish, ⟨rfl, rfl⟩, ?_⟩
  simp only [Answers.ofChange, Run.ofChange, Reply.ofChange]
  cases change token conventions with
  | ok changed => exact fun _ _ => rfl
  | error error => simp [Reply.failed]

end Matcher

/-- A grammar that is built of others makes its calls in step, and a match of it ends where the last
call lets the reading go on. -/
theorem Grammar.keepsStep_run (grammar : Grammar) (combination : grammar.IsCombination)
    (conventions : Conventions) (start : Cursor) :
    (grammar.run conventions start).KeepsStep start := by
  have called (grammar : Grammar) (start : Cursor) :
      (grammar.called conventions start).KeepsStart start :=
    Run.KeepsStart.called grammar conventions start
  cases grammar with
  | leaf leaf => exact False.elim combination
  | sequence components =>
      apply Matcher.keepsStep_sequence
      intro part member
      rw [watchedParts_eq_map] at member
      obtain ⟨component, -, rfl⟩ := List.mem_map.1 member
      rw [watchedPart_eq]
      exact called component.grammar
  | alternatives choices =>
      apply Matcher.keepsStep_firstOf
      intro matcher member
      rw [watchedChoices_eq_map] at member
      obtain ⟨choice, -, rfl⟩ := List.mem_map.1 member
      exact called choice
  | optional inner => exact Matcher.keepsStep_optional (called inner) start
  | repeated minimum inner => exact Matcher.keepsStep_repeated (called inner) _ minimum start
  | labelled label inner => exact (called inner start).keepsStep
  | orReport reporter inner => exact Matcher.keepsStep_orReport (called inner) reporter _ start
  | orFailIfTextRemains reporter inner =>
      exact Matcher.keepsStep_orFailIfTextRemains (called inner) reporter _ start
  | andNothingRemains inner => exact Matcher.keepsStep_andNothingRemains (called inner) start
  | map change inner => exact Matcher.keepsStep_map (called inner) change start
  | transform change inner => exact Matcher.keepsStep_transform (called inner) change start
  | external label matcher => exact False.elim combination

end TextGrammar
