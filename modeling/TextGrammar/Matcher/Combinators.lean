import TextGrammar.Matcher.Reply

/-!
# Combining matchers

Matchers are combined without regard to what they are. Going back is done here: whenever a part does
not match, the reading goes on from the place where that part was tried, wherever the part has left
the cursor. Errors end every combination at once, with the cursor where the error arose.

Each combination is made of a few steps, and says nothing of what they answer besides a reply. So a
combination of matchers is at once one of matchers that are watched while they read.
-/

namespace TextGrammar

/-- The steps that combinations of matchers are made of. -/
class Answers (M : Type → Type) where
  /-- The answer of a reply for which nothing was called. -/
  still {α : Type} : Reply α → M α
  /-- What follows a match. -/
  andThen {α β : Type} : M α → (α → Cursor → M β) → M β
  /-- What follows if there was no match. -/
  orElse {α : Type} : M α → (Cursor → M α) → M α
  /-- The answer of a function that is called for a token which ends at a cursor. -/
  ofChange : (Token → Conventions → Except ParseError Token) → Conventions → Token → Cursor → M Token

/-- The reply of a function that is called for a token which ends at a cursor. -/
def Reply.ofChange (change : Token → Conventions → Except ParseError Token)
    (conventions : Conventions) (token : Token) (finish : Cursor) : Reply Token :=
  match change token conventions with
  | .ok changed => .matched changed finish
  | .error error => .failed error finish

instance : Answers Reply where
  still reply := reply
  andThen := Reply.andThen
  orElse := Reply.orElse
  ofChange := Reply.ofChange

namespace Answers

variable {α β : Type}

@[simp] theorem still_reply (reply : Reply α) : still (M := Reply) reply = reply := rfl

@[simp] theorem andThen_reply (reply : Reply α) (next : α → Cursor → Reply β) :
    andThen reply next = reply.andThen next := rfl

@[simp] theorem orElse_reply (reply : Reply α) (next : Cursor → Reply α) :
    orElse reply next = reply.orElse next := rfl

end Answers

namespace Matcher

open Answers

variable {M : Type → Type} [Answers M]

/-- The first of several matchers that matches at a place. -/
def firstOf : List (Matcher M) → Matcher M
  | [], _, start => still (.noMatch start)
  | matcher :: matchers, conventions, start =>
      orElse (matcher conventions start) fun _ => firstOf matchers conventions start

/-- A matcher that always matches: it holds the token of another one, if there is one. -/
def optional (matcher : Matcher M) : Matcher M := fun conventions start =>
  orElse
    (andThen (matcher conventions start) fun token finish =>
      still (.ofToken (Token.makeParent .optional [token] (finish.textBetween start.save)) finish))
    fun _ => still (.ofToken (Token.makeParent .optional [] "") start)

/-- A part of a sequence, which may be required or not. -/
structure Part (M : Type → Type := Reply) where
  required : Bool
  /-- What the matcher is called. -/
  label : String
  matcher : Matcher M

/-- The token of a part of a sequence at a place, or none if the part does not match there and is not
required. -/
def Part.tokens (sequenceLabel : String) (part : Part M) (conventions : Conventions)
    (start : Cursor) : M (List Token) :=
  orElse
    (andThen (part.matcher conventions start) fun token finish => still (.matched [token] finish))
    fun _ => still <|
      if part.required then
        ⟨.noMatch, start, [.missing sequenceLabel part.label start.offset]⟩
      else .matched [] start

/-- The tokens of the parts of a sequence from a place on, in order. -/
def gather (sequenceLabel : String) :
    List (Part M) → Conventions → Cursor → M (List Token)
  | [], _, start => still (.matched [] start)
  | part :: parts, conventions, start =>
      andThen (part.tokens sequenceLabel conventions start) fun found next =>
        andThen (gather sequenceLabel parts conventions next) fun later finish =>
          still (.matched (found ++ later) finish)

/-- Several parts, one after the other. If a required one is not there, nothing is read. -/
def sequence (label : String) (parts : List (Part M)) : Matcher M := fun conventions start =>
  orElse
    (andThen (gather label parts conventions start) fun tokens finish =>
      still (.ofToken (Token.makeParent .sequence tokens (finish.textBetween start.save)) finish))
    fun _ => still (.noMatch start)

/-- The tokens of a matcher that is called again and again, until it does not match or has matched
without moving the cursor, or until it was called the given number of times. -/
def iterate (matcher : Matcher M) (conventions : Conventions) :
    Nat → Cursor → M (List Token)
  | 0, start => still (.matched [] start)
  | calls + 1, start =>
      orElse
        (andThen (matcher conventions start) fun token next =>
          if next.isAt start.save then still (.matched [token] next)
          else andThen (iterate matcher conventions calls next) fun later finish =>
            still (.matched (token :: later) finish))
        fun _ => still (.matched [] start)

/-- The greatest number of calls after which a matcher that keeps to a text must have come to a place
for the second time. -/
def callLimit (start : Cursor) : Nat :=
  start.chars.length + 1

theorem length_after_lt_callLimit (cursor : Cursor) :
    cursor.after.length < callLimit cursor := by
  rw [callLimit, Cursor.chars, List.length_append]
  omega

/-- A matcher as often as it matches in a row, if that is often enough.

Where each match moves the cursor forward or leaves it where it is, the bound on the calls is never
reached. A matcher from elsewhere may move the cursor back and forth: then there is no end to its
repetition, and the bound gives an answer where there is none. -/
def repeated (label : String) (minimum : Nat) (matcher : Matcher M) : Matcher M :=
  fun conventions start =>
    andThen (iterate matcher conventions (callLimit start) start) fun tokens finish =>
      still <|
        if tokens.length < minimum then
          ⟨.noMatch, start, [.tooFew label tokens.length minimum]⟩
        else .ofToken (Token.makeParent .repeated tokens (finish.textBetween start.save)) finish

/-- A matcher that has to match. -/
def orReport (reporter : Reporter) (label : String) (matcher : Matcher M) : Matcher M :=
  fun conventions start =>
    orElse (matcher conventions start) fun finish => still (reporter.reply finish label)

/-- A matcher that has to match everything if it matches at all. -/
def orFailIfTextRemains (reporter : Reporter) (label : String) (matcher : Matcher M) : Matcher M :=
  fun conventions start =>
    andThen (matcher conventions start) fun token finish =>
      still (if finish.isEmpty then .matched token finish else reporter.reply finish label)

/-- A matcher that does not match unless it matches everything. -/
def andNothingRemains (matcher : Matcher M) : Matcher M := fun conventions start =>
  orElse
    (andThen (matcher conventions start) fun token finish =>
      still (if finish.isEmpty then .matched token finish else .noMatch finish))
    fun _ => still (.noMatch start)

/-- A matcher whose tokens are changed. -/
def map (change : Token → Token) (matcher : Matcher M) : Matcher M := fun conventions start =>
  andThen (matcher conventions start) fun token finish => still (.matched (change token) finish)

/-- A matcher whose tokens are changed in a way that may fail. -/
def transform (change : Token → Conventions → Except ParseError Token) (matcher : Matcher M) :
    Matcher M := fun conventions start =>
  andThen (matcher conventions start) (ofChange change conventions)

/-- A matcher that passes over some characters and does not match. -/
def eat (count : Nat) : Matcher := fun _ start =>
  .noMatch (start.skip count)

end Matcher

end TextGrammar
