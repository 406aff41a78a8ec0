import TextGrammar.Conventions
import TextGrammar.Diagnostics

/-!
# Replies

A matcher is given conventions and a cursor. It replies whether it has matched and what, or that it
has not, or that reading must end; where the cursor is then; and what it has logged. A matcher that
does not match may leave the cursor anywhere: it is for those who call it to go back.
-/

namespace TextGrammar

/-- Whether something was matched. -/
inductive Outcome (α : Type) where
  | matched (value : α)
  | noMatch
  | failed (error : ParseError)
  deriving DecidableEq, Repr

/-- What a matcher replies. -/
structure Reply (α : Type) where
  outcome : Outcome α
  /-- The cursor as the matcher leaves it. -/
  cursor : Cursor
  /-- What was logged, in order. -/
  log : List LogRecord

/-- A way of reading tokens, which answers with a reply, or with more than that. -/
abbrev Matcher (Answer : Type → Type := Reply) := Conventions → Cursor → Answer Token

namespace Reply

variable {α β : Type}

/-- A match that ends at a cursor. -/
def matched (value : α) (cursor : Cursor) : Reply α :=
  ⟨.matched value, cursor, []⟩

/-- No match, with the cursor left somewhere. -/
def noMatch (cursor : Cursor) : Reply α :=
  ⟨.noMatch, cursor, []⟩

/-- An error at a cursor. -/
def failed (error : ParseError) (cursor : Cursor) : Reply α :=
  ⟨.failed error, cursor, []⟩

/-- A reply to which something was logged before. -/
def after (log : List LogRecord) (reply : Reply α) : Reply α :=
  { reply with log := log ++ reply.log }

/-- What follows a match. Without a match, and after an error, nothing follows. -/
def andThen (reply : Reply α) (next : α → Cursor → Reply β) : Reply β :=
  match reply.outcome with
  | .matched value => (next value reply.cursor).after reply.log
  | .noMatch => ⟨.noMatch, reply.cursor, reply.log⟩
  | .failed error => ⟨.failed error, reply.cursor, reply.log⟩

/-- What follows if there was no match. -/
def orElse (reply : Reply α) (next : Cursor → Reply α) : Reply α :=
  match reply.outcome with
  | .noMatch => (next reply.cursor).after reply.log
  | _ => reply

/-- A token that ends at a cursor, or the error that it cannot be made. -/
def ofToken (token : Except TokenError Token) (cursor : Cursor) : Reply Token :=
  match token with
  | .ok token => matched token cursor
  | .error error => failed (.invalidToken error) cursor

@[simp] theorem after_nil (reply : Reply α) : reply.after [] = reply := rfl

@[simp] theorem outcome_after (log : List LogRecord) (reply : Reply α) :
    (reply.after log).outcome = reply.outcome := rfl

@[simp] theorem cursor_after (log : List LogRecord) (reply : Reply α) :
    (reply.after log).cursor = reply.cursor := rfl

@[simp] theorem log_after (log : List LogRecord) (reply : Reply α) :
    (reply.after log).log = log ++ reply.log := rfl

@[simp] theorem andThen_matched (value : α) (cursor : Cursor) (next : α → Cursor → Reply β) :
    (matched value cursor).andThen next = next value cursor := rfl

@[simp] theorem andThen_noMatch (cursor : Cursor) (next : α → Cursor → Reply β) :
    (noMatch cursor).andThen next = noMatch cursor := rfl

@[simp] theorem andThen_failed (error : ParseError) (cursor : Cursor)
    (next : α → Cursor → Reply β) :
    (failed error cursor).andThen next = failed error cursor := rfl

@[simp] theorem orElse_matched (value : α) (cursor : Cursor) (next : Cursor → Reply α) :
    (matched value cursor).orElse next = matched value cursor := rfl

@[simp] theorem orElse_noMatch (cursor : Cursor) (next : Cursor → Reply α) :
    (noMatch cursor).orElse next = next cursor := rfl

@[simp] theorem orElse_failed (error : ParseError) (cursor : Cursor) (next : Cursor → Reply α) :
    (failed error cursor).orElse next = failed error cursor := rfl

theorem orElse_of_noMatch {reply : Reply α} {next : Cursor → Reply α}
    (outcome : reply.outcome = .noMatch) :
    reply.orElse next = (next reply.cursor).after reply.log := by
  rw [orElse, outcome]

/-- A match and an error stay as they are. -/
theorem orElse_of_ne_noMatch {reply : Reply α} {next : Cursor → Reply α}
    (outcome : reply.outcome ≠ .noMatch) : reply.orElse next = reply := by
  obtain ⟨found, cursor, log⟩ := reply
  cases found with
  | noMatch => exact absurd rfl outcome
  | matched value => rfl
  | failed error => rfl

/-- What was logged before a step comes before all that follows it. -/
theorem andThen_after (log : List LogRecord) (reply : Reply α) (next : α → Cursor → Reply β) :
    (reply.after log).andThen next = (reply.andThen next).after log := by
  obtain ⟨outcome, cursor, inner⟩ := reply
  cases outcome <;> simp [andThen, after]

/-- What was logged before a reply comes before all that is tried in its place. -/
theorem orElse_after (log : List LogRecord) (reply : Reply α) (next : Cursor → Reply α) :
    (reply.after log).orElse next = (reply.orElse next).after log := by
  obtain ⟨outcome, cursor, inner⟩ := reply
  cases outcome <;> simp [orElse, after]

/-- Steps that follow each other may be grouped in any way. -/
theorem andThen_assoc {γ : Type} (reply : Reply α) (next : α → Cursor → Reply β)
    (last : β → Cursor → Reply γ) :
    (reply.andThen next).andThen last =
      reply.andThen fun value cursor => (next value cursor).andThen last := by
  obtain ⟨outcome, cursor, log⟩ := reply
  cases outcome with
  | matched value => exact andThen_after log (next value cursor) last
  | noMatch => rfl
  | failed error => rfl

/-- What is tried in the place of a reply may be grouped in any way. -/
theorem orElse_assoc (reply : Reply α) (next last : Cursor → Reply α) :
    (reply.orElse next).orElse last = reply.orElse fun cursor => (next cursor).orElse last := by
  obtain ⟨outcome, cursor, log⟩ := reply
  cases outcome with
  | matched value => rfl
  | noMatch => exact orElse_after log (next cursor) last
  | failed error => rfl

end Reply

/-! ## Reporters

Where something has to match and does not, a reporter decides which error ends the reading, from the
cursor and the name of what was expected. -/

/-- A way of choosing errors. -/
structure Reporter where
  /-- The error for a cursor at which something was expected, and what is logged of it. -/
  report : Cursor → String → ParseError × List LogRecord

namespace Reporter

/-- The error that names the next character, or the end of the text. -/
def errorAt (cursor : Cursor) (expected : String) : ParseError :=
  match cursor.at? with
  | none => .endOfText cursor.position
  | some c => .invalidCharacter c cursor.position expected

/-- The reporter of the next character and the end of the text, which logs every report. -/
def basic : Reporter where
  report cursor expected :=
    let error := errorAt cursor expected
    (error, [.reported error])

/-- The reply of a matcher that has to end the reading. -/
def reply {α : Type} (reporter : Reporter) (cursor : Cursor) (expected : String) : Reply α :=
  let (error, log) := reporter.report cursor expected
  ⟨.failed error, cursor, log⟩

end Reporter

end TextGrammar
