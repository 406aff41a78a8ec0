import TextGrammar.Cursor
import TextGrammar.Token.Basic

/-!
# Errors and log records

That a text does not match is no error. An error ends the reading of a text: where something had to
be and was not, where a token could not be changed as it should, or where a token could not be made.
-/

namespace TextGrammar

open Text

/-- Why the reading of a text ended. -/
inductive ParseError where
  /-- Something had to follow and the text was at its end. -/
  | endOfText (position : Position)
  /-- Something had to follow and there was another character. -/
  | invalidCharacter (character : Char) (position : Position) (expected : String)
  /-- A token could not be changed. -/
  | transform (text reason : String)
  /-- A token could not be made. -/
  | invalidToken (error : TokenError)
  deriving DecidableEq, Repr

/-- The message for people. -/
def ParseError.message : ParseError → String
  | .endOfText position => "End of text at " ++ position.display
  | .invalidCharacter character position expected =>
      "Invalid character " ++ quoteChar character ++ " at " ++ position.display ++
        " expected " ++ expected
  | .transform text reason => "Unable to transform " ++ quoteText text ++ ": " ++ reason
  | .invalidToken error => error.message

/-! ## Log records

What may be of interest to someone who asks why a text does not match: which format refused it and
where, what was missing, how often a repetition matched, and which error was reported. -/

/-- A note on the reading of a text. Places are offsets in bytes. -/
inductive LogRecord where
  /-- A format found nothing. -/
  | rejected (format : String) (offset : Nat)
  /-- A number left its range. -/
  | overflowed (number : String) (offset : Nat)
  /-- A part of a sequence that is required was not there. -/
  | missing (sequence part : String) (offset : Nat)
  /-- A repetition matched too few times. -/
  | tooFew (repetition : String) (count minimum : Nat)
  /-- An error was reported. -/
  | reported (error : ParseError)
  deriving DecidableEq, Repr

/-- How much a log record matters. -/
inductive LogLevel where
  | trace
  | debug
  deriving DecidableEq, Repr

/-- The name of a level. -/
def LogLevel.name : LogLevel → String
  | .trace => "TRACE"
  | .debug => "DEBUG"

namespace LogRecord

/-- The level of a record: errors matter more than texts that do not match. -/
def level : LogRecord → LogLevel
  | .reported _ => .debug
  | _ => .trace

/-- The message for people. -/
def message : LogRecord → String
  | .rejected format offset => format ++ " rejected text at offset " ++ toString offset
  | .overflowed number offset => number ++ " overflowed at offset " ++ toString offset
  | .missing sequence part offset =>
      sequence ++ " missing required " ++ part ++ " at offset " ++ toString offset
  | .tooFew repetition count minimum =>
      repetition ++ " matched " ++ toString count ++ " times, needed at least " ++
        toString minimum
  | .reported error => "reporting " ++ error.message

/-- The record as a line of a log. -/
def display (record : LogRecord) : String :=
  record.level.name ++ " " ++ record.message

end LogRecord

end TextGrammar
