import TextGrammar.Proofs.Matcher.Reads
import TextGrammar.Proofs.Matcher.Rewinds
import TextGrammar.Proofs.Token.Tree

/-!
# What a combination matches

A combination matches a token up to a place if its parts match their tokens on the way there. For each
way of combining matchers it is said what their matches are, so that both directions can be read off:
what parts a token has that was matched, and which parts suffice for a match. That a parent is made of
its parts is known from the front to the back; the other way it needs matchers that read faithfully.
-/

namespace TextGrammar

variable {α β : Type} {value : α} {start middle finish : Cursor} {token : Token}
  {tokens : List Token}

/-- A reply is a match of a value that leaves the cursor at a place. -/
structure Reply.Matches (reply : Reply α) (value : α) (finish : Cursor) : Prop where
  outcome_eq : reply.outcome = .matched value
  cursor_eq : reply.cursor = finish

namespace Reply

@[simp] theorem matches_matched_iff {other : α} :
    (matched other middle).Matches value finish ↔ value = other ∧ finish = middle := by
  constructor
  · rintro ⟨⟨⟩, ⟨⟩⟩
    exact ⟨rfl, rfl⟩
  · rintro ⟨rfl, rfl⟩
    exact ⟨rfl, rfl⟩

@[simp] theorem not_matches_noMatch {log : List LogRecord} :
    ¬(⟨.noMatch, middle, log⟩ : Reply α).Matches value finish := by
  rintro ⟨⟨⟩, -⟩

@[simp] theorem matches_after_iff {log : List LogRecord} {reply : Reply α} :
    (reply.after log).Matches value finish ↔ reply.Matches value finish :=
  ⟨fun ⟨outcome, cursor⟩ => ⟨outcome, cursor⟩, fun ⟨outcome, cursor⟩ => ⟨outcome, cursor⟩⟩

/-- What follows a match is matched from where that ends. -/
theorem matches_andThen_iff {reply : Reply β} {next : β → Cursor → Reply α} :
    (reply.andThen next).Matches value finish ↔
      ∃ first middle, reply.Matches first middle ∧ (next first middle).Matches value finish := by
  rcases reply with ⟨outcome, cursor, log⟩
  constructor
  · intro found
    cases outcome with
    | matched first => exact ⟨first, cursor, ⟨rfl, rfl⟩, matches_after_iff.1 found⟩
    | noMatch => cases found.outcome_eq
    | failed error => cases found.outcome_eq
  · rintro ⟨first, middle, ⟨⟨⟩, ⟨⟩⟩, found⟩
    exact matches_after_iff.2 found

/-- What follows if there was no match is matched only then. -/
theorem matches_orElse_iff {reply : Reply α} {next : Cursor → Reply α} :
    (reply.orElse next).Matches value finish ↔
      reply.Matches value finish ∨
        reply.outcome = .noMatch ∧ (next reply.cursor).Matches value finish := by
  rcases reply with ⟨outcome, cursor, log⟩
  cases outcome with
  | matched first => simp [orElse]
  | noMatch => simp [orElse]
  | failed error => simp [orElse]

/-- If what follows a match always has an outcome of its own, the last resort is for those cases where
there was no match at first. -/
theorem matches_andThen_orElse_iff {reply : Reply β} {next : β → Cursor → Reply α}
    {last : Cursor → Reply α} (never : ∀ first middle, (next first middle).outcome ≠ .noMatch) :
    ((reply.andThen next).orElse last).Matches value finish ↔
      (∃ first middle, reply.Matches first middle ∧ (next first middle).Matches value finish) ∨
        reply.outcome = .noMatch ∧ (last reply.cursor).Matches value finish := by
  rw [matches_orElse_iff, matches_andThen_iff]
  constructor
  · rintro (found | ⟨missing, found⟩)
    · exact .inl found
    · obtain ⟨first, cursor⟩ := noMatch_of_andThen missing never
      exact .inr ⟨first, cursor ▸ found⟩
  · rintro (found | ⟨missing, found⟩)
    · exact .inl found
    · refine .inr ⟨?_, ?_⟩
      · simp [andThen, missing]
      · simpa [andThen, missing] using found

@[simp] theorem matches_ofToken_iff {made : Except TokenError Token} :
    (ofToken made middle).Matches token finish ↔ made = .ok token ∧ finish = middle := by
  cases made with
  | ok other => simp [ofToken, eq_comm]
  | error error =>
      constructor
      · rintro ⟨⟨⟩, -⟩
      · rintro ⟨⟨⟩, -⟩

@[simp] theorem not_matches_reporter {reporter : Reporter} {label : String} :
    ¬(reporter.reply middle label).Matches value finish := by
  rintro ⟨⟨⟩, -⟩

/-- The parent of tokens that were read faithfully can be made. -/
theorem Reads.makeParent_eq_ok {blames : ParseError → Cursor → Prop} {reply : Reply (List Token)}
    (reads : reply.Reads Token.SpellAll blames start) (found : reply.Matches tokens finish)
    (kind : ParentKind) :
    Token.makeParent kind tokens (finish.textBetween start.save) =
      .ok (.parent kind tokens (Token.joinTexts tokens)) := by
  obtain ⟨passed, passage, spelled⟩ := reads.finds tokens found.outcome_eq
  rw [found.cursor_eq] at passage
  rw [passage.textBetween_eq, ← spelled.2, String.ofList_toList]
  exact Token.makeParent_eq_ok_iff.2 ⟨rfl, rfl⟩

end Reply

namespace Matcher

variable {matcher : Matcher} {conventions : Conventions} {label : String}

theorem matches_orReport_iff {reporter : Reporter} :
    (matcher.orReport reporter label conventions start).Matches token finish ↔
      (matcher conventions start).Matches token finish := by
  simp [orReport, Reply.matches_orElse_iff]

/-- A matcher that has to match everything has done so. -/
theorem matches_orFailIfTextRemains_iff {reporter : Reporter} :
    (matcher.orFailIfTextRemains reporter label conventions start).Matches token finish ↔
      (matcher conventions start).Matches token finish ∧ finish.after = [] := by
  simp only [orFailIfTextRemains, Answers.andThen_reply, Answers.still_reply,
    Reply.matches_andThen_iff]
  constructor
  · rintro ⟨first, middle, found, last⟩
    split at last
    next empty =>
      obtain ⟨rfl, rfl⟩ := Reply.matches_matched_iff.1 last
      exact ⟨found, List.isEmpty_iff.1 empty⟩
    next => exact absurd last Reply.not_matches_reporter
  · rintro ⟨found, empty⟩
    refine ⟨token, finish, found, ?_⟩
    simp [Cursor.isEmpty, empty]

/-! ## Sequences -/

/-- The tokens of a part are that of its matcher, or none if it does not match and is not required. -/
theorem matches_tokens_iff {part : Part} :
    (part.tokens label conventions start).Matches tokens finish ↔
      (∃ token, (part.matcher conventions start).Matches token finish ∧ tokens = [token]) ∨
      part.required = false ∧ (part.matcher conventions start).outcome = .noMatch ∧ tokens = [] ∧
        finish = start := by
  have never (token : Token) (cursor : Cursor) :
      (Reply.matched [token] cursor).outcome ≠ .noMatch := by
    simp [Reply.matched]
  simp only [Part.tokens, Answers.orElse_reply, Answers.andThen_reply, Answers.still_reply,
    Reply.matches_andThen_orElse_iff never]
  apply or_congr
  · constructor
    · intro found
      rcases found with ⟨token, middle, first, last⟩
      rcases Reply.matches_matched_iff.1 last with ⟨rfl, rfl⟩
      exact ⟨token, first, rfl⟩
    · intro found
      rcases found with ⟨token, first, rfl⟩
      exact ⟨token, finish, first, Reply.matches_matched_iff.2 ⟨rfl, rfl⟩⟩
  · cases part.required with
    | true => simp
    | false => simp

@[simp] theorem matches_gather_nil_iff :
    Reply.Matches (gather label [] conventions start) tokens finish ↔ tokens = [] ∧ finish = start :=
  Reply.matches_matched_iff

/-- The tokens of the first part stand before those of the others. -/
theorem matches_gather_cons_iff {part : Part} {parts : List Part} :
    (gather label (part :: parts) conventions start).Matches tokens finish ↔
      ∃ found middle later, (part.tokens label conventions start).Matches found middle ∧
        (gather label parts conventions middle).Matches later finish ∧ tokens = found ++ later := by
  simp only [gather, Answers.andThen_reply, Answers.still_reply, Reply.matches_andThen_iff,
    Reply.matches_matched_iff]
  constructor
  · intro collected
    rcases collected with ⟨found, middle, first, later, last, others, rfl, rfl⟩
    exact ⟨found, middle, later, first, others, rfl⟩
  · intro collected
    rcases collected with ⟨found, middle, later, first, others, rfl⟩
    exact ⟨found, middle, first, later, finish, others, rfl, rfl⟩

/-- A part that is required gives one token. -/
theorem matches_gather_required_iff {partLabel : String} {parts : List Part} :
    (gather label (⟨true, partLabel, matcher⟩ :: parts) conventions start).Matches tokens finish ↔
      ∃ token middle later, (matcher conventions start).Matches token middle ∧
        (gather label parts conventions middle).Matches later finish ∧ tokens = token :: later := by
  simp only [matches_gather_cons_iff, matches_tokens_iff]
  constructor
  · intro collected
    rcases collected with ⟨_, middle, later, ⟨token, found, rfl⟩ | ⟨⟨⟩, -⟩, others, rfl⟩
    exact ⟨token, middle, later, found, others, rfl⟩
  · intro collected
    rcases collected with ⟨token, middle, later, found, others, rfl⟩
    exact ⟨[token], middle, later, .inl ⟨token, found, rfl⟩, others, rfl⟩

/-- A part that is not required gives one token, or none if it does not match. -/
theorem matches_gather_optional_iff {partLabel : String} {parts : List Part} :
    (gather label (⟨false, partLabel, matcher⟩ :: parts) conventions start).Matches tokens finish ↔
      (∃ token middle later, (matcher conventions start).Matches token middle ∧
        (gather label parts conventions middle).Matches later finish ∧ tokens = token :: later) ∨
      (matcher conventions start).outcome = .noMatch ∧
        (gather label parts conventions start).Matches tokens finish := by
  simp only [matches_gather_cons_iff, matches_tokens_iff]
  constructor
  · intro collected
    rcases collected with
      ⟨_, middle, later, ⟨token, found, rfl⟩ | ⟨-, missing, rfl, rfl⟩, others, rfl⟩
    · exact .inl ⟨token, middle, later, found, others, rfl⟩
    · exact .inr ⟨missing, others⟩
  · intro collected
    rcases collected with ⟨token, middle, later, found, others, rfl⟩ | ⟨missing, others⟩
    · exact ⟨[token], middle, later, .inl ⟨token, found, rfl⟩, others, rfl⟩
    · exact ⟨[], start, tokens, .inr ⟨trivial, missing, rfl, rfl⟩, others, rfl⟩

/-- A sequence matches the parent of the tokens of its parts. -/
theorem matches_sequence_iff {blames : ParseError → Cursor → Prop} {parts : List Part}
    (each : ∀ part ∈ parts, part.matcher.Reads blames) :
    (sequence label parts conventions start).Matches token finish ↔
      ∃ tokens, (gather label parts conventions start).Matches tokens finish ∧
        token = .parent .sequence tokens (Token.joinTexts tokens) := by
  simp only [sequence, Answers.orElse_reply, Answers.andThen_reply, Answers.still_reply,
    Reply.matches_orElse_iff, Reply.matches_andThen_iff, Reply.matches_ofToken_iff,
    Reply.not_matches_noMatch, and_false, or_false, Reply.noMatch]
  constructor
  · rintro ⟨tokens, middle, found, made, rfl⟩
    obtain ⟨joined, rfl⟩ := Token.makeParent_eq_ok_iff.1 made
    exact ⟨tokens, found, by rw [joined]⟩
  · rintro ⟨tokens, found, rfl⟩
    have reads := Reads.gather each label conventions start
    exact ⟨tokens, finish, found, reads.makeParent_eq_ok found .sequence, rfl⟩

/-! ## Repetitions -/

@[simp] theorem matches_iterate_zero_iff :
    (iterate matcher conventions 0 start).Matches tokens finish ↔ tokens = [] ∧ finish = start :=
  Reply.matches_matched_iff

/-- A repetition goes on after a match that has moved the cursor, and ends where there is none. -/
theorem matches_iterate_succ_iff {calls : Nat} :
    (iterate matcher conventions (calls + 1) start).Matches tokens finish ↔
      (∃ token middle, (matcher conventions start).Matches token middle ∧
        if middle.isAt start.save then tokens = [token] ∧ finish = middle
        else ∃ later, (iterate matcher conventions calls middle).Matches later finish ∧
          tokens = token :: later) ∨
      (matcher conventions start).outcome = .noMatch ∧ tokens = [] ∧ finish = start := by
  have never (token : Token) (middle : Cursor) :
      (if middle.isAt start.save then Reply.matched [token] middle
        else (iterate matcher conventions calls middle).andThen fun later finish =>
          .matched (token :: later) finish).outcome ≠ .noMatch := by
    split
    · simp [Reply.matched]
    · intro missing
      have first := Reply.noMatch_of_andThen missing (by simp [Reply.matched])
      exact iterate_ne_noMatch matcher conventions calls middle first.1
  simp only [iterate, Answers.orElse_reply, Answers.andThen_reply, Answers.still_reply]
  rw [Reply.matches_andThen_orElse_iff never, Reply.matches_matched_iff]
  refine or_congr (exists₂_congr fun token middle => and_congr_right fun _ => ?_) Iff.rfl
  split
  · exact Reply.matches_matched_iff
  · rw [Reply.matches_andThen_iff]
    constructor
    · rintro ⟨later, last, found, more⟩
      obtain ⟨rfl, rfl⟩ := Reply.matches_matched_iff.1 more
      exact ⟨later, found, rfl⟩
    · rintro ⟨later, found, rfl⟩
      exact ⟨later, finish, found, Reply.matches_matched_iff.2 ⟨rfl, rfl⟩⟩

/-- A match that has passed over something is the first of a repetition if the others follow it. -/
theorem matches_iterate_cons {calls : Nat} {passed : List Char}
    (first : (matcher conventions start).Matches token middle)
    (passage : start.Passes passed middle) (nonempty : passed ≠ [])
    (others : (iterate matcher conventions calls middle).Matches tokens finish) :
    (iterate matcher conventions (calls + 1) start).Matches (token :: tokens) finish := by
  refine matches_iterate_succ_iff.2 (.inl ⟨token, middle, first, ?_⟩)
  rw [passage.isAt_eq_false nonempty]
  exact ⟨tokens, others, rfl⟩

/-- Each token of a repetition was matched at some place. -/
theorem exists_matches_of_mem_iterate {calls : Nat}
    (found : (iterate matcher conventions calls start).Matches tokens finish) :
    ∀ token ∈ tokens, ∃ before after, (matcher conventions before).Matches token after := by
  induction calls generalizing start tokens with
  | zero => simp [(matches_iterate_zero_iff.1 found).1]
  | succ calls ih =>
      rcases matches_iterate_succ_iff.1 found with ⟨token, middle, first, more⟩ | ⟨-, rfl, -⟩
      · split at more
        next =>
          obtain ⟨rfl, -⟩ := more
          simpa using ⟨start, middle, first⟩
        next =>
          obtain ⟨later, foundLater, rfl⟩ := more
          exact List.forall_mem_cons.2 ⟨⟨start, middle, first⟩, ih foundLater⟩
      · simp

/-- A repetition matches the parent of the tokens of its calls. -/
theorem matches_repeated_iff {blames : ParseError → Cursor → Prop} {minimum : Nat}
    (reads : matcher.Reads blames) :
    (matcher.repeated label minimum conventions start).Matches token finish ↔
      ∃ tokens, (iterate matcher conventions (callLimit start) start).Matches tokens finish ∧
        minimum ≤ tokens.length ∧ token = .parent .repeated tokens (Token.joinTexts tokens) := by
  simp only [repeated, Answers.andThen_reply, Answers.still_reply, Reply.matches_andThen_iff]
  constructor
  · rintro ⟨tokens, middle, found, made⟩
    split at made
    next => exact absurd made Reply.not_matches_noMatch
    next enough =>
      obtain ⟨made, rfl⟩ := Reply.matches_ofToken_iff.1 made
      obtain ⟨joined, rfl⟩ := Token.makeParent_eq_ok_iff.1 made
      exact ⟨tokens, found, Nat.le_of_not_lt enough, by rw [joined]⟩
  · rintro ⟨tokens, found, enough, rfl⟩
    have reads := reads.iterate conventions (callLimit start) start
    refine ⟨tokens, finish, found, ?_⟩
    rw [if_neg (Nat.not_lt.2 enough), Reply.matches_ofToken_iff]
    exact ⟨reads.makeParent_eq_ok found .repeated, rfl⟩

end Matcher

end TextGrammar
