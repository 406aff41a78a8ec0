import TextGrammar.Proofs.Matcher.Matches

/-!
# Replies that are alike

Two replies are alike if they are of one kind: both match, and what they match is related in a given
way; or neither matches; or both fail, with the same error. Behind a match and at an error the cursors
stand at the same place. Where there is no match they may differ, since those who call go back, and
what is logged may differ always. Steps that are alike after replies that are alike give such replies
again.
-/

namespace TextGrammar

variable {α β γ δ : Type} {related : α → β → Prop} {later : γ → δ → Prop}

/-- Two outcomes are of one kind: related values, no match, or the same error. -/
inductive Outcome.Alike (related : α → β → Prop) : Outcome α → Outcome β → Prop
  | matched {value : α} {image : β} (pair : related value image) :
      Alike related (.matched value) (.matched image)
  | noMatch : Alike related .noMatch .noMatch
  | failed (error : ParseError) : Alike related (.failed error) (.failed error)

namespace Outcome.Alike

variable {first : Outcome α} {second : Outcome β}

theorem exists_of_matched {value : α} (alike : first.Alike related second)
    (matched : first = .matched value) :
    ∃ image, second = .matched image ∧ related value image := by
  subst matched
  cases alike with
  | matched pair => exact ⟨_, rfl, pair⟩

theorem mono {weaker : α → β → Prop} (alike : first.Alike related second)
    (weaken : ∀ value image, related value image → weaker value image) :
    first.Alike weaker second := by
  cases alike with
  | matched pair => exact .matched (weaken _ _ pair)
  | noMatch => exact .noMatch
  | failed error => exact .failed error

theorem noMatch_of_noMatch (alike : first.Alike related second) (missing : first = .noMatch) :
    second = .noMatch := by
  subst missing
  cases alike
  rfl

end Outcome.Alike

/-- Two replies have outcomes of one kind, and leave the cursor at the same place unless there is no
match. -/
structure Reply.Alike (related : α → β → Prop) (first : Reply α) (second : Reply β) : Prop where
  outcomes : first.outcome.Alike related second.outcome
  cursors : first.outcome ≠ .noMatch → second.cursor = first.cursor

namespace Reply.Alike

variable {first : Reply α} {second : Reply β}

theorem matched {value : α} {image : β} (pair : related value image) (cursor : Cursor) :
    (Reply.matched value cursor).Alike related (Reply.matched image cursor) :=
  ⟨.matched pair, fun _ => rfl⟩

theorem noMatch (cursor cursor' : Cursor) (log log' : List LogRecord) :
    (⟨.noMatch, cursor, log⟩ : Reply α).Alike related (⟨.noMatch, cursor', log'⟩ : Reply β) :=
  ⟨.noMatch, fun found => absurd rfl found⟩

theorem failed (error : ParseError) (cursor : Cursor) (log log' : List LogRecord) :
    (⟨.failed error, cursor, log⟩ : Reply α).Alike related
      (⟨.failed error, cursor, log'⟩ : Reply β) :=
  ⟨.failed error, fun _ => rfl⟩

theorem refl (reply : Reply α) : reply.Alike Eq reply := by
  rcases reply with ⟨outcome, cursor, log⟩
  cases outcome with
  | matched value => exact ⟨.matched rfl, fun _ => rfl⟩
  | noMatch => exact .noMatch cursor cursor log log
  | failed error => exact .failed error cursor log log

theorem after (alike : first.Alike related second) (log log' : List LogRecord) :
    (first.after log).Alike related (second.after log') :=
  ⟨alike.outcomes, alike.cursors⟩

theorem mono {weaker : α → β → Prop} (alike : first.Alike related second)
    (weaken : ∀ value image, related value image → weaker value image) :
    first.Alike weaker second :=
  ⟨alike.outcomes.mono weaken, alike.cursors⟩

theorem symm (alike : first.Alike related second) :
    second.Alike (fun image value => related value image) first := by
  rcases first with ⟨outcome, cursor, log⟩
  rcases second with ⟨outcome', cursor', log'⟩
  rcases alike with ⟨outcomes, cursors⟩
  cases outcomes with
  | matched pair => exact ⟨.matched pair, fun _ => (cursors nofun).symm⟩
  | noMatch => exact .noMatch cursor' cursor log' log
  | failed error => exact ⟨.failed error, fun _ => (cursors nofun).symm⟩

theorem trans {third : Reply γ} {further : β → γ → Prop} (alike : first.Alike related second)
    (others : second.Alike further third) :
    first.Alike (fun value last => ∃ image, related value image ∧ further image last) third := by
  rcases first with ⟨outcome, cursor, log⟩
  rcases second with ⟨outcome', cursor', log'⟩
  rcases third with ⟨outcome'', cursor'', log''⟩
  rcases alike with ⟨outcomes, cursors⟩
  rcases others with ⟨outcomes', cursors'⟩
  cases outcomes with
  | matched pair =>
      cases outcomes' with
      | matched pair' =>
          exact ⟨.matched ⟨_, pair, pair'⟩, fun _ => (cursors' nofun).trans (cursors nofun)⟩
  | noMatch =>
      cases outcomes' with
      | noMatch => exact .noMatch cursor cursor'' log log''
  | failed error =>
      cases outcomes' with
      | failed _ => exact ⟨.failed error, fun _ => (cursors' nofun).trans (cursors nofun)⟩

/-- Steps after matches that are alike have to be so only for what was matched. -/
theorem andThen {next : α → Cursor → Reply γ} {next' : β → Cursor → Reply δ}
    (alike : first.Alike related second)
    (goesOn : ∀ value image cursor, first.Matches value cursor → related value image →
      (next value cursor).Alike later (next' image cursor)) :
    (Answers.andThen first next).Alike later (Answers.andThen second next') := by
  rcases first with ⟨outcome, cursor, log⟩
  rcases second with ⟨outcome', cursor', log'⟩
  rcases alike with ⟨outcomes, cursors⟩
  cases outcomes with
  | matched pair =>
      cases cursors nofun
      exact (goesOn _ _ cursor ⟨rfl, rfl⟩ pair).after log log'
  | noMatch => exact .noMatch cursor cursor' log log'
  | failed error =>
      cases cursors nofun
      exact .failed error cursor log log'

theorem orElse {next : Cursor → Reply α} {next' : Cursor → Reply β}
    (alike : first.Alike related second)
    (goesOn : ∀ cursor cursor', (next cursor).Alike related (next' cursor')) :
    (Answers.orElse first next).Alike related (Answers.orElse second next') := by
  rcases first with ⟨outcome, cursor, log⟩
  rcases second with ⟨outcome', cursor', log'⟩
  rcases alike with ⟨outcomes, cursors⟩
  cases outcomes with
  | matched pair => exact ⟨.matched pair, cursors⟩
  | noMatch => exact (goesOn cursor cursor').after log log'
  | failed error => exact ⟨.failed error, cursors⟩

/-- It makes no difference to go back where there is no match. -/
theorem orElse_noMatch {next : Cursor → Reply α} (alike : first.Alike related second)
    (goesBack : ∀ cursor, (next cursor).outcome = .noMatch) :
    (Answers.orElse first next).Alike related second := by
  rcases first with ⟨outcome, cursor, log⟩
  rcases second with ⟨outcome', cursor', log'⟩
  rcases alike with ⟨outcomes, cursors⟩
  cases outcomes with
  | matched pair => exact ⟨.matched pair, cursors⟩
  | noMatch =>
      have missing : ((⟨.noMatch, cursor, log⟩ : Reply α).orElse next).outcome = .noMatch :=
        goesBack cursor
      constructor
      · rw [Answers.orElse_reply, missing]
        exact .noMatch
      · exact fun found => absurd missing found
  | failed error => exact ⟨.failed error, cursors⟩

end Reply.Alike

/-- A step that only hands on what was matched is none. -/
theorem Reply.andThen_matched_right (reply : Reply α) : reply.andThen Reply.matched = reply := by
  rcases reply with ⟨outcome, cursor, log⟩
  cases outcome with
  | matched value => simp [Reply.andThen, Reply.matched, Reply.after]
  | noMatch => rfl
  | failed error => rfl

namespace Matcher

/-- The label of a sequence stands in the log only. -/
theorem alike_tokens (part : Part) (label label' : String) (conventions : Conventions)
    (start : Cursor) :
    (part.tokens label conventions start).Alike Eq (part.tokens label' conventions start) := by
  apply Reply.Alike.orElse (.refl _)
  intro cursor cursor'
  split
  · exact .noMatch start start _ _
  · exact .refl _

theorem alike_gather (parts : List Part) (label label' : String) (conventions : Conventions)
    (start : Cursor) :
    (gather label parts conventions start).Alike Eq (gather label' parts conventions start) := by
  induction parts generalizing start with
  | nil => exact .refl _
  | cons part parts ih =>
      apply (alike_tokens part label label' conventions start).andThen
      intro front front' next found same
      cases same
      apply (ih next).andThen
      intro back back' finish found same
      cases same
      exact .refl _

end Matcher

end TextGrammar
