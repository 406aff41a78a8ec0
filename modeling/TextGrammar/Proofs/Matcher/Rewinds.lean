import TextGrammar.Matcher.Combinators

/-!
# Matchers that go back

A matcher goes back if it leaves its cursor where it was whenever it does not match. Five combinations
do so whatever they are built of, and a matcher that has to match gives an error instead. The others
go back if the matcher inside does.
-/

namespace TextGrammar

/-- A matcher leaves the cursor where it was whenever it does not match. -/
def Matcher.Rewinds (matcher : Matcher) : Prop :=
  ∀ conventions start, (matcher conventions start).outcome = .noMatch →
    (matcher conventions start).cursor = start

namespace Reply

variable {α β : Type} {start : Cursor}

/-- Without a match in the end there was none at first, unless the step after it has none. -/
theorem noMatch_of_andThen {reply : Reply α} {next : α → Cursor → Reply β}
    (missing : (Answers.andThen reply next).outcome = .noMatch)
    (never : ∀ value cursor, (next value cursor).outcome ≠ .noMatch) :
    reply.outcome = .noMatch ∧ (Answers.andThen reply next).cursor = reply.cursor := by
  rw [Answers.andThen_reply] at missing ⊢
  cases outcome : reply.outcome with
  | matched value =>
      simp only [andThen, outcome, outcome_after] at missing
      exact absurd missing (never value reply.cursor)
  | noMatch => exact ⟨rfl, by simp [andThen, outcome]⟩
  | failed error => simp [andThen, outcome] at missing

/-- Without a match in the end it is the last resort that has left the cursor. -/
theorem cursor_orElse {reply : Reply α} {next : Cursor → Reply α}
    (missing : (Answers.orElse reply next).outcome = .noMatch)
    (back : ∀ cursor, (next cursor).outcome = .noMatch → (next cursor).cursor = start) :
    (Answers.orElse reply next).cursor = start := by
  rw [Answers.orElse_reply] at missing ⊢
  cases outcome : reply.outcome with
  | matched value => simp [orElse, outcome] at missing
  | noMatch =>
      simp only [orElse, outcome, outcome_after, cursor_after] at missing ⊢
      exact back reply.cursor missing
  | failed error => simp [orElse, outcome] at missing

theorem orElse_ne_noMatch {reply : Reply α} {next : Cursor → Reply α}
    (never : ∀ cursor, (next cursor).outcome ≠ .noMatch) :
    (Answers.orElse reply next).outcome ≠ .noMatch := by
  rw [Answers.orElse_reply]
  cases outcome : reply.outcome with
  | matched value => simp [orElse, outcome]
  | noMatch =>
      simp only [orElse, outcome, outcome_after]
      exact never reply.cursor
  | failed error => simp [orElse, outcome]

theorem ofToken_ne_noMatch (token : Except TokenError Token) (cursor : Cursor) :
    (ofToken token cursor).outcome ≠ .noMatch := by
  cases token <;> simp [ofToken, matched, failed]

end Reply

namespace Matcher

variable {matcher : Matcher}

/-- Alternatives go back before each choice, and after the last one. -/
theorem rewinds_firstOf (matchers : List Matcher) : (firstOf matchers).Rewinds := by
  intro conventions start missing
  induction matchers with
  | nil => rfl
  | cons matcher matchers ih => exact Reply.cursor_orElse missing fun _ missing => ih missing

theorem rewinds_optional (matcher : Matcher) : matcher.optional.Rewinds := by
  intro conventions start missing
  have never : (matcher.optional conventions start).outcome ≠ .noMatch :=
    Reply.orElse_ne_noMatch fun _ => Reply.ofToken_ne_noMatch _ _
  exact absurd missing never

theorem rewinds_sequence (label : String) (parts : List Part) : (sequence label parts).Rewinds := by
  intro conventions start missing
  exact Reply.cursor_orElse missing fun _ _ => rfl

/-- That a repetition matches no more is a match of the repetition. -/
theorem iterate_ne_noMatch (matcher : Matcher) (conventions : Conventions) (calls : Nat)
    (start : Cursor) : (iterate matcher conventions calls start).outcome ≠ .noMatch := by
  cases calls with
  | zero => simp [iterate, Reply.matched]
  | succ calls => exact Reply.orElse_ne_noMatch fun _ => by simp [Reply.matched]

theorem rewinds_repeated (label : String) (minimum : Nat) (matcher : Matcher) :
    (matcher.repeated label minimum).Rewinds := by
  intro conventions start missing
  cases outcome : (iterate matcher conventions (callLimit start) start).outcome with
  | matched tokens =>
      simp only [repeated, Answers.andThen_reply, Answers.still_reply, Reply.andThen, outcome,
        Reply.outcome_after, Reply.cursor_after] at missing ⊢
      split
      · rfl
      next enough =>
        rw [if_neg enough] at missing
        exact absurd missing (Reply.ofToken_ne_noMatch _ _)
  | noMatch => exact absurd outcome (iterate_ne_noMatch matcher conventions _ start)
  | failed error => simp [repeated, Reply.andThen, outcome] at missing

/-- A repetition that may be empty always matches. -/
theorem repeated_zero_ne_noMatch (label : String) (matcher : Matcher) (conventions : Conventions)
    (start : Cursor) : (matcher.repeated label 0 conventions start).outcome ≠ .noMatch := by
  intro missing
  have first := Reply.noMatch_of_andThen missing fun tokens cursor => by
    rw [if_neg (Nat.not_lt_zero _)]
    exact Reply.ofToken_ne_noMatch _ _
  exact iterate_ne_noMatch matcher conventions _ start first.1

theorem rewinds_andNothingRemains (matcher : Matcher) : matcher.andNothingRemains.Rewinds := by
  intro conventions start missing
  exact Reply.cursor_orElse missing fun _ _ => rfl

theorem reply_ne_noMatch (reporter : Reporter) (cursor : Cursor) (label : String) :
    (reporter.reply cursor label : Reply Token).outcome ≠ .noMatch := by
  simp [Reporter.reply]

/-- A matcher that has to match gives an error where there is no match. -/
theorem rewinds_orReport (reporter : Reporter) (label : String) (matcher : Matcher) :
    (matcher.orReport reporter label).Rewinds := by
  intro conventions start missing
  have never : (matcher.orReport reporter label conventions start).outcome ≠ .noMatch :=
    Reply.orElse_ne_noMatch fun _ => reply_ne_noMatch reporter _ label
  exact absurd missing never

/-- What follows a match keeps the law if it always has an answer. -/
theorem rewinds_andThen (rewinds : matcher.Rewinds)
    {next : Conventions → Token → Cursor → Reply Token}
    (never : ∀ conventions token cursor, (next conventions token cursor).outcome ≠ .noMatch) :
    Matcher.Rewinds fun conventions start =>
      Answers.andThen (matcher conventions start) (next conventions) := by
  intro conventions start missing
  have first := Reply.noMatch_of_andThen missing (never conventions)
  rw [first.2, rewinds conventions start first.1]

theorem rewinds_orFailIfTextRemains (rewinds : matcher.Rewinds) (reporter : Reporter)
    (label : String) : (matcher.orFailIfTextRemains reporter label).Rewinds := by
  apply rewinds_andThen rewinds
  intro conventions token cursor
  split
  · simp [Reply.matched]
  · exact reply_ne_noMatch reporter cursor label

/-- To have to match everything is no reason not to match. -/
theorem orFailIfTextRemains_ne_noMatch (reporter : Reporter) (label : String)
    {conventions : Conventions} {start : Cursor}
    (never : (matcher conventions start).outcome ≠ .noMatch) :
    (matcher.orFailIfTextRemains reporter label conventions start).outcome ≠ .noMatch := by
  intro missing
  have first := Reply.noMatch_of_andThen missing fun token cursor => by
    split
    · simp [Reply.matched]
    · exact reply_ne_noMatch reporter cursor label
  exact never first.1

theorem rewinds_map (rewinds : matcher.Rewinds) (change : Token → Token) :
    (matcher.map change).Rewinds := by
  apply rewinds_andThen rewinds
  intro conventions token cursor
  simp [Reply.matched]

theorem rewinds_transform (rewinds : matcher.Rewinds)
    (change : Token → Conventions → Except ParseError Token) :
    (matcher.transform change).Rewinds := by
  apply rewinds_andThen rewinds
  intro conventions token cursor
  simp only [Answers.ofChange, Reply.ofChange]
  cases change token conventions <;> simp [Reply.matched, Reply.failed]

end Matcher

end TextGrammar
