import TextGrammar.Matcher.Combinators
import TextGrammar.Proofs.Cursor.Passage

/-!
# Matchers that look forward only

A matcher looks forward only if it never goes back behind the place where it is called and does not
depend on the text before that place: with other text in front it replies the same, apart from the
places that errors name, and the cursor has moved by the size of that text. Every way of combining
matchers keeps this. Only the bound on the calls of a repetition depends on the whole text, and it is
never reached, since each call but the last leaves less text for those after it.
-/

namespace TextGrammar

/-- The error without the place that it names. -/
def ParseError.withoutPlace : ParseError → ParseError
  | .endOfText _ => .endOfText .start
  | .invalidCharacter character _ expected => .invalidCharacter character .start expected
  | .transform text reason => .transform text reason
  | .invalidToken error => .invalidToken error

/-- The outcome without the place that its error names. -/
def Outcome.withoutPlace {α : Type} : Outcome α → Outcome α
  | .matched value => .matched value
  | .noMatch => .noMatch
  | .failed error => .failed error.withoutPlace

/-- Without places, just the same values are matched. -/
theorem Outcome.matched_iff_of_withoutPlace_eq {α : Type} {first second : Outcome α}
    (same : first.withoutPlace = second.withoutPlace) (value : α) :
    first = .matched value ↔ second = .matched value := by
  have kept : ∀ outcome : Outcome α,
      outcome.withoutPlace = .matched value ↔ outcome = .matched value := by
    intro outcome
    cases outcome <;> simp [withoutPlace]
  rw [← kept first, same, kept second]

theorem Outcome.noMatch_iff_of_withoutPlace_eq {α : Type} {first second : Outcome α}
    (same : first.withoutPlace = second.withoutPlace) :
    first = .noMatch ↔ second = .noMatch := by
  have kept : ∀ outcome : Outcome α, outcome.withoutPlace = .noMatch ↔ outcome = .noMatch := by
    intro outcome
    cases outcome <;> simp [withoutPlace]
  rw [← kept first, same, kept second]

variable {α β : Type} {front : List Char} {start middle finish : Cursor}

/-- A reply is that of a call at a cursor, and another one, with more text in front, is the same: the
cursor has not gone back, and stands at the same place in both texts; and the outcomes are alike but
for places. -/
structure Reply.Carries (front : List Char) (start : Cursor) (moved reply : Reply α) : Prop where
  reaches : start.Reaches reply.cursor
  cursor_eq : moved.cursor = reply.cursor.withFront front
  outcome_eq : moved.outcome.withoutPlace = reply.outcome.withoutPlace

namespace Reply.Carries

theorem matched (value : α) (reached : start.Reaches finish) :
    (Reply.matched value (finish.withFront front)).Carries front start
      (Reply.matched value finish) :=
  ⟨reached, rfl, rfl⟩

/-- What is logged does not matter. -/
theorem noMatch (movedLog log : List LogRecord) (reached : start.Reaches finish) :
    (⟨.noMatch, finish.withFront front, movedLog⟩ : Reply α).Carries front start
      ⟨.noMatch, finish, log⟩ :=
  ⟨reached, rfl, rfl⟩

theorem failed {movedError error : ParseError} (movedLog log : List LogRecord)
    (reached : start.Reaches finish) (alike : movedError.withoutPlace = error.withoutPlace) :
    (⟨.failed movedError, finish.withFront front, movedLog⟩ : Reply α).Carries front start
      ⟨.failed error, finish, log⟩ :=
  ⟨reached, rfl, congrArg Outcome.failed alike⟩

theorem ofToken (token : Except TokenError Token) (reached : start.Reaches finish) :
    (Reply.ofToken token (finish.withFront front)).Carries front start
      (Reply.ofToken token finish) := by
  cases token with
  | ok token => exact .matched token reached
  | error error => exact .failed [] [] reached rfl

/-- A call further on is one of the first cursor too. -/
theorem from_start {moved reply : Reply α} (carries : moved.Carries front middle reply)
    (reached : start.Reaches middle) : moved.Carries front start reply :=
  ⟨reached.trans carries.reaches, carries.cursor_eq, carries.outcome_eq⟩

theorem after {moved reply : Reply α} (carries : moved.Carries front start reply)
    (movedLog log : List LogRecord) :
    (moved.after movedLog).Carries front start (reply.after log) :=
  ⟨carries.reaches, carries.cursor_eq, carries.outcome_eq⟩

theorem andThen {moved reply : Reply α} {movedNext next : α → Cursor → Reply β}
    (carries : moved.Carries front start reply)
    (goesOn : ∀ value finish, start.Reaches finish →
      (movedNext value (finish.withFront front)).Carries front start (next value finish)) :
    (Answers.andThen moved movedNext).Carries front start (Answers.andThen reply next) := by
  rcases moved with ⟨movedOutcome, movedCursor, movedLog⟩
  rcases reply with ⟨outcome, cursor, log⟩
  rcases carries with ⟨reached, cursors, outcomes⟩
  cases cursors
  cases outcome with
  | matched value =>
      cases (Outcome.matched_iff_of_withoutPlace_eq outcomes value).2 rfl
      exact (goesOn value cursor reached).after movedLog log
  | noMatch =>
      cases movedOutcome with
      | noMatch => exact .noMatch movedLog log reached
      | _ => cases outcomes
  | failed error =>
      cases movedOutcome with
      | failed movedError => exact .failed movedLog log reached (Outcome.failed.inj outcomes)
      | _ => cases outcomes

theorem orElse {moved reply : Reply α} {movedNext next : Cursor → Reply α}
    (carries : moved.Carries front start reply)
    (goesOn : ∀ finish, start.Reaches finish →
      (movedNext (finish.withFront front)).Carries front start (next finish)) :
    (Answers.orElse moved movedNext).Carries front start (Answers.orElse reply next) := by
  rcases moved with ⟨movedOutcome, movedCursor, movedLog⟩
  rcases reply with ⟨outcome, cursor, log⟩
  rcases carries with ⟨reached, cursors, outcomes⟩
  cases cursors
  cases outcome with
  | matched value =>
      cases (Outcome.matched_iff_of_withoutPlace_eq outcomes value).2 rfl
      exact ⟨reached, rfl, rfl⟩
  | noMatch =>
      cases movedOutcome with
      | noMatch => exact (goesOn cursor reached).after movedLog log
      | _ => cases outcomes
  | failed error =>
      cases movedOutcome with
      | failed movedError => exact .failed movedLog log reached (Outcome.failed.inj outcomes)
      | _ => cases outcomes

/-- The parent of what was found between two cursors is the same. -/
theorem parent (kind : ParentKind) (tokens : List Token) (reached : start.Reaches finish) :
    (Reply.ofToken (Token.makeParent kind tokens
        ((finish.withFront front).textBetween (start.withFront front).save))
      (finish.withFront front)).Carries front start
      (Reply.ofToken (Token.makeParent kind tokens (finish.textBetween start.save)) finish) := by
  rw [Cursor.textBetween_withFront front reached]
  exact ofToken _ reached

end Reply.Carries

/-- A reporter looks forward only: its error does not depend on the text before the cursor, apart from
the place that it names. -/
def Reporter.LooksForward (reporter : Reporter) : Prop :=
  ∀ front cursor expected, (reporter.report (cursor.withFront front) expected).1.withoutPlace =
    (reporter.report cursor expected).1.withoutPlace

theorem Reporter.looksForward_basic : Reporter.basic.LooksForward := by
  intro front cursor expected
  simp only [basic, errorAt, Cursor.at?_withFront]
  cases cursor.at? with
  | none => rfl
  | some c => rfl

theorem Reporter.LooksForward.reply {reporter : Reporter} (forward : reporter.LooksForward)
    (label : String) (reached : start.Reaches finish) :
    (reporter.reply (finish.withFront front) label : Reply α).Carries front start
      (reporter.reply finish label) :=
  .failed _ _ reached (forward front finish label)

/-- A matcher looks forward only, wherever it is called. -/
def Matcher.LooksForward (matcher : Matcher) : Prop :=
  ∀ front conventions start, (matcher conventions (start.withFront front)).Carries front start
    (matcher conventions start)

namespace Matcher.LooksForward

variable {matcher : Matcher} {reporter : Reporter}

theorem firstOf {matchers : List Matcher} (each : ∀ matcher ∈ matchers, matcher.LooksForward) :
    (Matcher.firstOf matchers).LooksForward := by
  intro front conventions start
  induction matchers with
  | nil => exact .noMatch [] [] (.refl start)
  | cons matcher matchers ih =>
      rw [List.forall_mem_cons] at each
      apply (each.1 front conventions start).orElse
      intro finish reached
      exact ih each.2

theorem optional (forward : matcher.LooksForward) : matcher.optional.LooksForward := by
  intro front conventions start
  apply Reply.Carries.orElse
  · apply (forward front conventions start).andThen
    intro token finish reached
    exact .parent .optional [token] reached
  · intro finish reached
    exact .ofToken _ (.refl start)

theorem tokens {part : Part} (forward : part.matcher.LooksForward) (label : String)
    (front : List Char) (conventions : Conventions) (start : Cursor) :
    (part.tokens label conventions (start.withFront front)).Carries front start
      (part.tokens label conventions start) := by
  apply Reply.Carries.orElse
  · apply (forward front conventions start).andThen
    intro token finish reached
    exact .matched [token] reached
  · intro finish reached
    split
    · exact .noMatch _ _ (.refl start)
    · exact .matched [] (.refl start)

theorem gather {parts : List Part} (each : ∀ part ∈ parts, part.matcher.LooksForward)
    (label : String) (front : List Char) (conventions : Conventions) (start : Cursor) :
    (Matcher.gather label parts conventions (start.withFront front)).Carries front start
      (Matcher.gather label parts conventions start) := by
  induction parts generalizing start with
  | nil => exact .matched [] (.refl start)
  | cons part parts ih =>
      rw [List.forall_mem_cons] at each
      apply (tokens each.1 label front conventions start).andThen
      intro found next reached
      apply ((ih each.2 next).from_start reached).andThen
      intro later finish reached
      exact .matched (found ++ later) reached

theorem sequence {parts : List Part} (each : ∀ part ∈ parts, part.matcher.LooksForward)
    (label : String) : (Matcher.sequence label parts).LooksForward := by
  intro front conventions start
  apply Reply.Carries.orElse
  · apply (gather each label front conventions start).andThen
    intro tokens finish reached
    exact .parent .sequence tokens reached
  · intro finish reached
    exact .noMatch [] [] (.refl start)

/-- How many calls are allowed does not matter if there are more than characters left: a call after
which the repetition goes on has passed over one of them at least. -/
theorem iterate (forward : matcher.LooksForward) (front : List Char) (conventions : Conventions)
    {movedCalls calls : Nat} {start : Cursor} (movedEnough : start.after.length < movedCalls)
    (enough : start.after.length < calls) :
    (Matcher.iterate matcher conventions movedCalls (start.withFront front)).Carries front start
      (Matcher.iterate matcher conventions calls start) := by
  induction calls generalizing movedCalls start with
  | zero => exact absurd enough (Nat.not_lt_zero _)
  | succ calls ih =>
      cases movedCalls with
      | zero => exact absurd movedEnough (Nat.not_lt_zero _)
      | succ movedCalls =>
          apply Reply.Carries.orElse
          · apply (forward front conventions start).andThen
            intro token next reached
            rw [Cursor.isAt_withFront]
            split
            next => exact .matched [token] reached
            next moved =>
              have less := reached.length_after_lt (Bool.not_eq_true _ ▸ moved)
              have movedLater : next.after.length < movedCalls := by omega
              have later := ih movedLater (by omega)
              apply (later.from_start reached).andThen
              intro tokens finish reached
              exact .matched (token :: tokens) reached
          · intro finish reached
            exact .matched [] (.refl start)

theorem length_after_lt_callLimit_withFront (front : List Char) (cursor : Cursor) :
    cursor.after.length < callLimit (cursor.withFront front) :=
  length_after_lt_callLimit (cursor.withFront front)

theorem repeated (forward : matcher.LooksForward) (label : String) (minimum : Nat) :
    (matcher.repeated label minimum).LooksForward := by
  intro front conventions start
  apply (forward.iterate front conventions (length_after_lt_callLimit_withFront front start)
    (length_after_lt_callLimit start)).andThen
  intro tokens finish reached
  split
  · exact .noMatch _ _ (.refl start)
  · exact .parent .repeated tokens reached

theorem orReport (forward : matcher.LooksForward) (reports : reporter.LooksForward)
    (label : String) : (matcher.orReport reporter label).LooksForward := by
  intro front conventions start
  apply (forward front conventions start).orElse
  intro finish reached
  exact reports.reply label reached

theorem orFailIfTextRemains (forward : matcher.LooksForward) (reports : reporter.LooksForward)
    (label : String) : (matcher.orFailIfTextRemains reporter label).LooksForward := by
  intro front conventions start
  apply (forward front conventions start).andThen
  intro token finish reached
  rw [Cursor.isEmpty_withFront]
  split
  · exact .matched token reached
  · exact reports.reply label reached

theorem andNothingRemains (forward : matcher.LooksForward) :
    matcher.andNothingRemains.LooksForward := by
  intro front conventions start
  apply Reply.Carries.orElse
  · apply (forward front conventions start).andThen
    intro token finish reached
    rw [Cursor.isEmpty_withFront]
    split
    · exact .matched token reached
    · exact .noMatch [] [] reached
  · intro finish reached
    exact .noMatch [] [] (.refl start)

theorem map (forward : matcher.LooksForward) (change : Token → Token) :
    (matcher.map change).LooksForward := by
  intro front conventions start
  apply (forward front conventions start).andThen
  intro token finish reached
  exact .matched (change token) reached

theorem transform (forward : matcher.LooksForward)
    (change : Token → Conventions → Except ParseError Token) :
    (matcher.transform change).LooksForward := by
  intro front conventions start
  apply (forward front conventions start).andThen
  intro token finish reached
  simp only [Answers.ofChange, Reply.ofChange]
  cases change token conventions with
  | ok changed => exact .matched changed reached
  | error error => exact .failed [] [] reached rfl

end Matcher.LooksForward

end TextGrammar
