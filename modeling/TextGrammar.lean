import TextGrammar.Text.Property
import TextGrammar.Text.Escaped
import TextGrammar.Text.LowerCase
import TextGrammar.Text.Bytes
import TextGrammar.Text.Digit
import TextGrammar.Cursor
import TextGrammar.Calendar.Date
import TextGrammar.Calendar.Time
import TextGrammar.Calendar.DateTime
import TextGrammar.Calendar.Pattern
import TextGrammar.Calendar.Fields
import TextGrammar.Calendar.Reading
import TextGrammar.Calendar.Resolution
import TextGrammar.Conventions
import TextGrammar.Decimal
import TextGrammar.CharClass
import TextGrammar.Diagnostics
import TextGrammar.Token.Inspection
import TextGrammar.Token.Visitor
import TextGrammar.Integer
import TextGrammar.Format
import TextGrammar.Leaf
import TextGrammar.Token.Change
import TextGrammar.Check
import TextGrammar.Meetings
import TextGrammar.Main
import TextGrammar.Proofs.Cursor.Passage
import TextGrammar.Proofs.Leaf.UsedText
import TextGrammar.Proofs.Grammar.Parts
import TextGrammar.Proofs.Matcher.Reads
import TextGrammar.Proofs.Token.Tree
import TextGrammar.Proofs.Grammar.Consumption
import TextGrammar.Proofs.Grammar.Backtracking
import TextGrammar.Proofs.Grammar.Steps
import TextGrammar.Proofs.Grammar.ErrorPlace
import TextGrammar.Proofs.Grammar.Invariant
import TextGrammar.Proofs.Grammar.Events
import TextGrammar.Proofs.Grammar.Failure
import TextGrammar.Proofs.Matcher.Forward
import TextGrammar.Proofs.Grammar.Forward
import TextGrammar.Proofs.Token.Visits
import TextGrammar.Proofs.Token.Nesting
import TextGrammar.Proofs.Token.Protocol
import TextGrammar.Proofs.Text.Delimited
import TextGrammar.Proofs.Text.Escaped
import TextGrammar.Proofs.Calendar.Written
import TextGrammar.Proofs.Decimal.Written
import TextGrammar.Proofs.Token.Line
import TextGrammar.Proofs.Token.Dump
import TextGrammar.Proofs.Cursor.Stored
import TextGrammar.Proofs.Token.Rebuilding
import TextGrammar.Proofs.Grammar.Checks
import TextGrammar.Proofs.Matcher.Conventions
import TextGrammar.Proofs.Grammar.Conventions
import TextGrammar.Proofs.Matcher.Matches
import TextGrammar.Proofs.Calendar.ReadBack
import TextGrammar.Proofs.Leaf.Matches
import TextGrammar.Proofs.Meetings.Lines
import TextGrammar.Proofs.Meetings.ReadBack
import TextGrammar.Proofs.Grammar.Repetition
import TextGrammar.Proofs.Text.Number
import TextGrammar.Proofs.Number.Sign
import TextGrammar.Proofs.Integer.Range
import TextGrammar.Proofs.Leaf.Long
import TextGrammar.Proofs.Leaf.Quoted
import TextGrammar.Proofs.Decimal.Front
import TextGrammar.Proofs.Decimal.Reading
import TextGrammar.Proofs.Cursor.Position
import TextGrammar.Proofs.Leaf.Formatted
import TextGrammar.Proofs.Number.Agreement
import TextGrammar.Proofs.Matcher.Alike
import TextGrammar.Proofs.Grammar.Sequence
import TextGrammar.Proofs.Grammar.Regrouping
import TextGrammar.Proofs.Grammar.OptionalParts
import TextGrammar.Proofs.Grammar.Choices
import TextGrammar.Proofs.Calendar.LeadingBlanks
import TextGrammar.Proofs.Calendar.KnownYear
import TextGrammar.Proofs.Calendar.DefaultYear
import TextGrammar.Proofs.Integer.Numeral
import TextGrammar.Proofs.Token.PrefixedNumber
import TextGrammar.Proofs.Leaf.Comment
import TextGrammar.Proofs.Leaf.Run
import TextGrammar.Proofs.Leaf.Literal
import TextGrammar.Proofs.Leaf.Rereading
import TextGrammar.Proofs.Matcher.Labels
import TextGrammar.Proofs.Grammar.Labels
