import Mathlib.Data.List.Forall2
import TextGrammar.Meetings
import TextGrammar.Proofs.Grammar.Consumption
import TextGrammar.Proofs.Leaf.Matches

/-!
# The lines of a list of meetings

Each child of the token of a list is the line of one meeting. It holds a name and, behind it, a time,
so a visitor that goes through the lines in order takes each time together with the name of the same
line. This is so whatever white space there is, and whether or not the end of a line is written.
-/

namespace TextGrammar.Meeting

open Text Calendar

/-! ## Lines as tokens -/

/-- The token of a meeting, with the white space and the time as they were written. -/
def token (meeting : Meeting) (blanks timeText : String) : Token :=
  let children : List Token :=
    [.leaf (.string meeting.name) meeting.name, .leaf (.whitespace blanks) blanks,
      .leaf (.offsetTime meeting.time) timeText]
  .parent .sequence children (Token.joinTexts children)

/-- The token of a line: that of a meeting, and perhaps one for the end of the line. -/
def lineToken (meetingToken : Token) (ending : List Token) : Token :=
  .parent .sequence (meetingToken :: ending) (Token.joinTexts (meetingToken :: ending))

/-- The token for the end of a line. -/
def newline : Token :=
  .leaf (.symbol "\n") "\n"

/-- A token is the line of a meeting. -/
def IsLine (meeting : Meeting) (line : Token) : Prop :=
  ∃ blanks timeText ending, (ending = [] ∨ ending = [newline]) ∧
    line = lineToken (meeting.token blanks timeText) ending

/-- If each of several tokens is the line of some meeting, there are meetings whose lines they are. -/
theorem exists_meetings_of_isLine {lines : List Token}
    (each : ∀ line ∈ lines, ∃ meeting : Meeting, meeting.IsLine line) :
    ∃ meetings, List.Forall₂ IsLine meetings lines := by
  induction lines with
  | nil => exact ⟨[], .nil⟩
  | cons line lines ih =>
      obtain ⟨⟨meeting, here⟩, later⟩ := List.forall_mem_cons.1 each
      obtain ⟨meetings, others⟩ := ih later
      exact ⟨meeting :: meetings, .cons here others⟩

/-! ## Meetings collected from lines -/

/-- From the line of a meeting just that meeting is collected, and no name is left over. -/
theorem accept_collector_of_isLine {meeting : Meeting} {line : Token} (isLine : meeting.IsLine line)
    (collected : List Meeting) :
    line.accept collector ⟨none, collected⟩ = ⟨none, collected ++ [meeting]⟩ := by
  rcases isLine with ⟨blanks, timeText, ending, rfl | rfl, rfl⟩
  · rfl
  · rfl

theorem acceptAll_collector_of_isLine {meetings : List Meeting} {lines : List Token}
    (each : List.Forall₂ IsLine meetings lines) (collected : List Meeting) :
    Token.acceptAll collector lines ⟨none, collected⟩ = ⟨none, collected ++ meetings⟩ := by
  induction each generalizing collected with
  | nil => simp [Token.acceptAll]
  | cons isLine _ ih =>
      rw [Token.acceptAll, accept_collector_of_isLine isLine, ih, List.append_assoc]
      rfl

/-- The meetings of a list are those of its lines, in order. -/
theorem ofToken_eq_of_isLine {meetings : List Meeting} {lines : List Token}
    (each : List.Forall₂ IsLine meetings lines) (text : String) :
    ofToken (.parent .repeated lines text) = meetings :=
  congrArg Collection.meetings (acceptAll_collector_of_isLine each [])

/-! ## Lines that are matched -/

/-- The grammar of a line. -/
def lineGrammar : Grammar :=
  .sequence [.required grammar, .optional (.leaf (.symbol "\n"))]

theorem listGrammar_eq :
    listGrammar = .orFailIfTextRemains .basic (.repeated 0 lineGrammar) := rfl

theorem handsOnText_lineGrammar : ∀ part ∈ lineGrammar.parts, part.HandsOnText := by
  simp [lineGrammar, grammar, Grammar.parts, Component.parts, partsOfComponents,
    Grammar.HandsOnText]

theorem reads_lineGrammar : lineGrammar.matcher.Reads fun _ _ => True :=
  lineGrammar.reads_matcher fun part member => (handsOnText_lineGrammar part member).admits

theorem reads_grammar : grammar.matcher.Reads fun _ _ => True :=
  grammar.reads_matcher fun part member =>
    (handsOnText_lineGrammar part
      (Grammar.parts_subset_sequence List.mem_cons_self member)).admits

variable {conventions : Conventions} {start finish : Cursor} {found : Token}

/-- A meeting is matched part by part. -/
theorem matches_grammar_iff :
    (grammar.matcher conventions start).Matches found finish ↔
      ∃ name second blanks third time,
        ((Leaf.run .letter 1 none).matcher conventions start).Matches name second ∧
        (Leaf.whitespace.matcher conventions second).Matches blanks third ∧
        ((Leaf.dateTime .offsetTime (.fixed "%H:%M:%S%:z")).matcher conventions third).Matches
          time finish ∧
        found = .parent .sequence [name, blanks, time] (Token.joinTexts [name, blanks, time]) := by
  have each : ∀ part ∈ componentParts [
      .required (.leaf (.run .letter 1 none)),
      .required (.orReport .basic (.leaf .whitespace)),
      .required (.orReport .basic (.leaf (.dateTime .offsetTime (.fixed "%H:%M:%S%:z"))))],
      part.matcher.Reads fun _ _ => True := by
    have reads (leaf : Leaf) := leaf.reads_matcher fun _ _ => True
    simp only [componentParts, Component.part, Grammar.matcher, List.forall_mem_cons]
    exact ⟨reads _, (reads _).orReport fun _ => trivial, (reads _).orReport fun _ => trivial,
      by simp⟩
  rw [grammar, Grammar.matcher, Matcher.matches_sequence_iff each]
  simp only [componentParts, Component.part, Matcher.matches_gather_required_iff,
    Matcher.matches_gather_nil_iff, Grammar.matcher, Matcher.matches_orReport_iff]
  constructor
  · rintro ⟨_, ⟨name, second, _, first, ⟨blanks, third, _, next, ⟨time, _, _, last, ⟨rfl, rfl⟩, rfl⟩,
      rfl⟩, rfl⟩, rfl⟩
    exact ⟨name, second, blanks, third, time, first, next, last, rfl⟩
  · rintro ⟨name, second, blanks, third, time, first, next, last, rfl⟩
    exact ⟨_, ⟨name, second, _, first, ⟨blanks, third, _, next, ⟨time, finish, [], last, ⟨rfl, rfl⟩,
      rfl⟩, rfl⟩, rfl⟩, rfl⟩

/-- A line is matched as a meeting and an end of line, or as a meeting alone if no line ends
there. -/
theorem matches_lineGrammar_iff :
    (lineGrammar.matcher conventions start).Matches found finish ↔
      ∃ meeting middle, (grammar.matcher conventions start).Matches meeting middle ∧
        ((∃ ending, ((Leaf.symbol "\n").matcher conventions middle).Matches ending finish ∧
            found = lineToken meeting [ending]) ∨
          ((Leaf.symbol "\n").matcher conventions middle).outcome = .noMatch ∧
            finish = middle ∧ found = lineToken meeting []) := by
  have each : ∀ part ∈ componentParts [.required grammar, .optional (.leaf (.symbol "\n"))],
      part.matcher.Reads fun _ _ => True := by
    simp only [componentParts, List.forall_mem_cons]
    exact ⟨reads_grammar, Leaf.reads_matcher _ (.symbol "\n"), by simp⟩
  rw [lineGrammar, Grammar.matcher, Matcher.matches_sequence_iff each]
  simp only [componentParts, Component.part, Matcher.matches_gather_required_iff,
    Matcher.matches_gather_optional_iff, Matcher.matches_gather_nil_iff]
  constructor
  · rintro ⟨_, ⟨meeting, middle, _, first, ⟨ending, _, _, last, ⟨rfl, rfl⟩, rfl⟩ |
      ⟨missing, rfl, rfl⟩, rfl⟩, rfl⟩
    · exact ⟨meeting, middle, first, .inl ⟨ending, last, rfl⟩⟩
    · exact ⟨meeting, _, first, .inr ⟨missing, rfl, rfl⟩⟩
  · rintro ⟨meeting, middle, first, ⟨ending, last, rfl⟩ | ⟨missing, rfl, rfl⟩⟩
    · exact ⟨_, ⟨meeting, middle, _, first, .inl ⟨ending, finish, [], last, ⟨rfl, rfl⟩, rfl⟩, rfl⟩,
        rfl⟩
    · exact ⟨_, ⟨meeting, _, _, first, .inr ⟨missing, rfl, rfl⟩, rfl⟩, rfl⟩

/-- What is matched as a line is the line of a meeting. -/
theorem exists_isLine_of_matches
    (matched : (lineGrammar.matcher conventions start).Matches found finish) :
    ∃ meeting : Meeting, meeting.IsLine found := by
  obtain ⟨meetingToken, middle, ofMeeting, ending⟩ := matches_lineGrammar_iff.1 matched
  have isMeeting : ∃ (meeting : Meeting) (blanks timeText : String),
      meetingToken = meeting.token blanks timeText := by
    obtain ⟨_, _, _, _, _, name, blanks, time, rfl⟩ := matches_grammar_iff.1 ofMeeting
    obtain ⟨_, nameUsed, nameRead, rfl, -⟩ := Leaf.matches_matcher_iff.1 name
    obtain ⟨_, blanksUsed, blanksRead, rfl, -⟩ := Leaf.matches_matcher_iff.1 blanks
    obtain ⟨_, timeUsed, timeRead, rfl, -⟩ := Leaf.matches_matcher_iff.1 time
    obtain ⟨-, rfl⟩ := Leaf.found_sameValueAndText_iff.1 nameRead
    obtain ⟨-, rfl⟩ := Leaf.found_sameValueAndText_iff.1 blanksRead
    obtain ⟨value, rfl⟩ := Leaf.exists_offsetTime_of_read timeRead
    exact ⟨⟨String.ofList nameUsed, value⟩, _, _, rfl⟩
  obtain ⟨meeting, blanks, timeText, rfl⟩ := isMeeting
  refine ⟨meeting, blanks, timeText, ?_⟩
  rcases ending with ⟨_, newlineMatched, rfl⟩ | ⟨-, -, rfl⟩
  · obtain ⟨_, used, read, rfl, -⟩ := Leaf.matches_matcher_iff.1 newlineMatched
    obtain ⟨-, rfl, rfl, -⟩ := Leaf.read_symbol_eq_found_iff.1 read
    exact ⟨[newline], .inr rfl, rfl⟩
  · exact ⟨[], .inl rfl, rfl⟩

/-- A list is matched line by line up to the end of the text. -/
theorem matches_listGrammar_iff :
    (listGrammar.matcher conventions start).Matches found finish ↔
      ∃ lines, (Matcher.iterate lineGrammar.matcher conventions (Matcher.callLimit start)
          start).Matches lines finish ∧
        finish.after = [] ∧ found = .parent .repeated lines (Token.joinTexts lines) := by
  rw [listGrammar_eq, Grammar.matcher, Matcher.matches_orFailIfTextRemains_iff, Grammar.matcher,
    Matcher.matches_repeated_iff reads_lineGrammar]
  constructor
  · rintro ⟨⟨lines, each, -, rfl⟩, atEnd⟩
    exact ⟨lines, each, atEnd, rfl⟩
  · rintro ⟨lines, each, atEnd, rfl⟩
    exact ⟨⟨lines, each, Nat.zero_le _, rfl⟩, atEnd⟩

/-- The children of the token of a list are the lines of meetings. -/
theorem exists_lines_of_matches
    (matched : (listGrammar.matcher conventions start).Matches found finish) :
    ∃ meetings lines, List.Forall₂ IsLine meetings lines ∧
      found = .parent .repeated lines (Token.joinTexts lines) := by
  obtain ⟨lines, each, -, rfl⟩ := matches_listGrammar_iff.1 matched
  have isLine : ∀ line ∈ lines, ∃ meeting : Meeting, meeting.IsLine line := by
    intro line member
    obtain ⟨before, after, ofLine⟩ := Matcher.exists_matches_of_mem_iterate each line member
    exact exists_isLine_of_matches ofLine
  obtain ⟨meetings, together⟩ := exists_meetings_of_isLine isLine
  exact ⟨meetings, lines, together, rfl⟩

end TextGrammar.Meeting
