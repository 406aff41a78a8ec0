import TextGrammar.Check
import TextGrammar.Proofs.Grammar.Backtracking
import TextGrammar.Proofs.Grammar.Consumption
import TextGrammar.Proofs.Token.Tree

/-!
# What checks accept

A matcher keeps the contract if a match consumes just the text of its token, and if the cursor stays
where it is without a match. Of such a matcher a check can only find what it is asked for: whether
there is a match, whether its token has the expected dump, and whether the expected text remains. The
other rules that are checked on the way are never broken, neither those on the cursor nor any of those
on the token.
-/

namespace TextGrammar

/-- The reply to a call at a cursor keeps the contract: a token that is matched was made, and its text
is what was consumed; without a match the cursor has not moved. -/
structure Reply.KeepsContract (start : Cursor) (reply : Reply Token) : Prop where
  consumes : ∀ token, reply.outcome = .matched token →
    token.Made ∧ start.Passes token.text.toList reply.cursor
  rewinds : reply.outcome = .noMatch → reply.cursor = start

/-- A matcher keeps the contract wherever it is called. -/
def Matcher.KeepsContract (matcher : Matcher) : Prop :=
  ∀ conventions start, (matcher conventions start).KeepsContract start

/-- Just the tokens that can be made are as they should be. -/
theorem checkToken_eq_ok_iff {token : Token} : checkToken token = .ok () ↔ token.Made := by
  rw [Token.made_iff_wellFormed, ← Token.inspect_eq_ok_iff, checkToken]
  cases token.inspect with
  | ok value => exact ⟨fun _ => rfl, fun _ => rfl⟩
  | error defect =>
      constructor
      · rintro ⟨⟩
      · rintro ⟨⟩

/-- A check has found that a rule is broken which a matcher has to keep, whatever was expected of it:
the cursor is not where it should be, or the token is not as it should be. -/
def CheckFailure.BlamesMatcher : CheckFailure → Prop
  | .otherConsumed _ _ _ | .moved _ _ _ | .defect _ => True
  | _ => False

namespace Grammar

/-- A grammar whose functions hand on the text keeps the contract. -/
theorem keepsContract (grammar : Grammar) (handsOn : ∀ part ∈ grammar.parts, part.HandsOnText) :
    grammar.matcher.KeepsContract := by
  intro conventions start
  have reads := grammar.reads_matcher (fun part member => (handsOn part member).admits)
    conventions start
  have ownParts : ∀ part ∈ grammar.parts, ¬part.IsExternal := by
    intro part member
    have handsOnPart := handsOn part member
    cases part <;> simp_all [HandsOnText, IsExternal]
  refine ⟨?_, ?_⟩
  · intro token matched
    rcases reads.finds token matched with ⟨passed, passage, wellFormed, rfl⟩
    exact ⟨wellFormed.made, passage⟩
  · apply grammar.rewinds_matcher
    rw [grammar.exposed_eq_nil ownParts]
    simp

section

variable {text : String} {reply : Reply Token}
  (contract : reply.KeepsContract (.ofText text)) (grammar : Grammar)

include contract

/-- What a check of a match finds, if the reply keeps the contract. -/
theorem checkMatch_eq (expected : Token) (remaining : String) :
    grammar.checkMatch text reply expected remaining =
      match reply.outcome with
      | .noMatch => .error (.didNotMatch grammar.label text)
      | .failed error => .error (.failedOn grammar.label text error)
      | .matched token =>
          if token.dump ≠ expected.dump then .error (.tokensDiffer token.dump expected.dump)
          else if reply.cursor.remaining ≠ remaining then
            .error (.otherRemaining grammar.label reply.cursor.remaining remaining)
          else .ok token := by
  unfold checkMatch
  cases outcome : reply.outcome with
  | noMatch => rfl
  | failed error => rfl
  | matched token =>
      obtain ⟨made, passage⟩ := contract.consumes token outcome
      have consumed : reply.cursor.consumed = token.text := by
        simp [Cursor.consumed, passage.before_eq, Cursor.ofText]
      have accepted := checkToken_eq_ok_iff.2 made
      by_cases dumps : token.dump = expected.dump <;>
        by_cases rest : reply.cursor.remaining = remaining <;>
        simp [checkEquals, dumps, rest, consumed, accepted, bind, Except.bind, pure, Except.pure,
          throw, throwThe, MonadExceptOf.throw]

/-- What a check that there is no match finds, if the reply keeps the contract. -/
theorem checkNoMatch_eq :
    grammar.checkNoMatch text reply =
      match reply.outcome with
      | .matched token => .error (.matchedIn grammar.label token.text text)
      | .failed error => .error (.failedOn grammar.label text error)
      | .noMatch => .ok () := by
  unfold checkNoMatch
  cases outcome : reply.outcome with
  | noMatch => simp [contract.rewinds outcome, pure, Except.pure]
  | failed error => rfl
  | matched token => rfl

/-- A check of a match succeeds just if there is a match, its token has the expected dump and the
expected text remains. -/
theorem checkMatch_eq_ok_iff {expected token : Token} {remaining : String} :
    grammar.checkMatch text reply expected remaining = .ok token ↔
      reply.outcome = .matched token ∧ token.dump = expected.dump ∧
        reply.cursor.remaining = remaining := by
  rw [checkMatch_eq contract]
  cases reply.outcome with
  | noMatch => simp
  | failed error => simp
  | matched found =>
      constructor
      · intro accepted
        by_cases dumps : found.dump = expected.dump <;>
          by_cases rest : reply.cursor.remaining = remaining <;> simp [dumps, rest] at accepted
        cases accepted
        exact ⟨rfl, dumps, rest⟩
      · rintro ⟨⟨⟩, dumps, rest⟩
        simp [dumps, rest]

/-- A check that there is no match succeeds just if there is none. -/
theorem checkNoMatch_eq_ok_iff :
    grammar.checkNoMatch text reply = .ok () ↔ reply.outcome = .noMatch := by
  rw [checkNoMatch_eq contract]
  cases reply.outcome <;> simp

/-- What a check of a match finds is never the fault of the matcher. -/
theorem not_blamesMatcher_of_checkMatch {expected : Token} {remaining : String}
    {failure : CheckFailure}
    (found : grammar.checkMatch text reply expected remaining = .error failure) :
    ¬failure.BlamesMatcher := by
  rw [checkMatch_eq contract] at found
  repeat' split at found
  all_goals cases found
  all_goals exact id

/-- What a check that there is no match finds is never the fault of the matcher. -/
theorem not_blamesMatcher_of_checkNoMatch {failure : CheckFailure}
    (found : grammar.checkNoMatch text reply = .error failure) : ¬failure.BlamesMatcher := by
  rw [checkNoMatch_eq contract] at found
  split at found
  all_goals cases found
  all_goals exact id

end

/-- Of a grammar that keeps the contract, checks accept just what they say: a match whose token has
the dump that is expected, with the given text behind it; or that there is no match. They never find
that a rule is broken which the matcher has to keep. And of tokens just those are accepted, at any depth,
that can be made. -/
theorem checks_accept_what_they_say (grammar : Grammar) (contract : grammar.matcher.KeepsContract)
    (conventions : Conventions) (text : String) :
    let reply := grammar.parseText conventions text
    (∀ expected remaining token,
      grammar.checkMatch text reply expected remaining = .ok token ↔
        reply.outcome = .matched token ∧ token.dump = expected.dump ∧
          reply.cursor.remaining = remaining) ∧
      (grammar.checkNoMatch text reply = .ok () ↔ reply.outcome = .noMatch) ∧
      (∀ expected remaining failure,
        grammar.checkMatch text reply expected remaining = .error failure →
          ¬failure.BlamesMatcher) ∧
      (∀ failure, grammar.checkNoMatch text reply = .error failure → ¬failure.BlamesMatcher) ∧
      ∀ token : Token, checkToken token = .ok () ↔ token.Made := by
  intro reply
  have kept : reply.KeepsContract (.ofText text) := contract conventions (.ofText text)
  exact ⟨fun _ _ _ => checkMatch_eq_ok_iff kept grammar, checkNoMatch_eq_ok_iff kept grammar,
    fun _ _ _ => not_blamesMatcher_of_checkMatch kept grammar,
    fun _ => not_blamesMatcher_of_checkNoMatch kept grammar, fun _ => checkToken_eq_ok_iff⟩

set_option maxRecDepth 8000 in
theorem checks_accept_what_they_say_markedInteger :
    let reply := markedInteger.parseText (.english 2000) "-0X1féé "
    let other := markedInteger.parseText (.english 2000) "--"
    markedInteger.matcher.KeepsContract ∧
      markedInteger.checkMatch "-0X1féé " reply markedIntegerToken " " = .ok markedIntegerToken ∧
      markedInteger.checkNoMatch "--" other = .ok () ∧
      checkToken markedIntegerToken = .ok () := by
  have contract := markedInteger.keepsContract handsOnText_markedInteger
  have ofMatch := checks_accept_what_they_say markedInteger contract (.english 2000) "-0X1féé "
  have ofNoMatch := checks_accept_what_they_say markedInteger contract (.english 2000) "--"
  have kept := contract (.english 2000) (.ofText "-0X1féé ")
  exact ⟨contract, (ofMatch.1 markedIntegerToken " " markedIntegerToken).2 ⟨rfl, rfl, rfl⟩,
    ofNoMatch.2.1.2 rfl, (ofMatch.2.2.2.2 markedIntegerToken).2 (kept.consumes _ rfl).1⟩

end Grammar

end TextGrammar
