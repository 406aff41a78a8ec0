import TextGrammar.Proofs.Grammar.ErrorPlace
import TextGrammar.Proofs.Matcher.Forward
import TextGrammar.Proofs.Meetings.Lines

/-!
# Lists of meetings that are read back

A list of meetings is accepted just if its grammar matches the whole text, and then it has the meetings
of its lines. A list that is written with one line for each meeting is read back as it was: a name of
letters ends at the space behind it, and a time at the end of its line.
-/

namespace TextGrammar.Meeting

open Text Calendar

/-- A meeting as a line of text: the name, a space and the time. -/
def text (meeting : Meeting) : String :=
  meeting.name ++ " " ++ String.ofList meeting.time.display

/-- A list of meetings as a text: a line for each. -/
def listText (meetings : List Meeting) : String :=
  "\n".intercalate (meetings.map text)

/-- A meeting can be read back: its name is a word of letters, and its time is given in whole seconds
with an offset in whole minutes. -/
structure IsPlain (meeting : Meeting) : Prop where
  named : meeting.name ≠ ""
  letters : meeting.name.toList.all isLetter = true
  whole : meeting.time.IsWhole

instance (meeting : Meeting) : Decidable meeting.IsPlain :=
  decidable_of_iff
    (meeting.name ≠ "" ∧ meeting.name.toList.all isLetter = true ∧ meeting.time.IsWhole)
    ⟨fun ⟨named, letters, whole⟩ => ⟨named, letters, whole⟩,
      fun ⟨named, letters, whole⟩ => ⟨named, letters, whole⟩⟩

theorem toList_text (meeting : Meeting) :
    meeting.text.toList = meeting.name.toList ++ ' ' :: meeting.time.display := by
  simp [text]

theorem toList_text_ne_nil (meeting : Meeting) : meeting.text.toList ≠ [] := by
  simp [toList_text]

theorem toList_listText_nil : (listText []).toList = [] := rfl

theorem toList_listText_singleton (meeting : Meeting) :
    (listText [meeting]).toList = meeting.text.toList := by
  simp [listText]

theorem toList_listText_cons_cons (first second : Meeting) (others : List Meeting) :
    (listText (first :: second :: others)).toList =
      first.text.toList ++ '\n' :: (listText (second :: others)).toList := by
  simp [listText, String.toList_intercalate]

variable {meeting : Meeting}

/-! ## Lines that are written -/

/-- The token of a meeting that was written with a space. -/
def writtenToken (meeting : Meeting) : Token :=
  meeting.token " " (String.ofList meeting.time.display)

/-- A meeting is matched where it is written. -/
theorem matches_grammar_text (conventions : Conventions) (plain : meeting.IsPlain)
    (before rest : List Char) :
    (grammar.matcher conventions ⟨before, meeting.text.toList ++ rest⟩).Matches
      meeting.writtenToken ⟨meeting.text.toList.reverse ++ before, rest⟩ := by
  have nonempty : meeting.name.toList ≠ [] := fun empty =>
    plain.named (String.toList_eq_nil_iff.1 empty)
  have letters : ∀ c ∈ meeting.name.toList, CharClass.letter.test c = true :=
    List.all_eq_true.1 plain.letters
  have space : GoesOnWith (CharClass.letter.test · = false)
      ([' '] ++ (meeting.time.display ++ rest)) := by
    simp only [List.cons_append, goesOnWith_cons]
    decide
  have blank : ∀ c ∈ [' '], isBlank c = true := List.forall_mem_singleton.2 (by decide)
  have text : meeting.text.toList ++ rest =
      meeting.name.toList ++ ([' '] ++ (meeting.time.display ++ rest)) := by
    simp [toList_text]
  have passed : meeting.text.toList.reverse ++ before =
      meeting.time.display.reverse ++ ([' '].reverse ++ (meeting.name.toList.reverse ++ before)) := by
    simp [toList_text]
  rw [text, passed]
  have name := Leaf.matches_matcher_of_read
    (Leaf.read_run_append conventions letters nonempty space) before
  have blanks := Leaf.matches_matcher_of_read
    (Leaf.read_whitespace_append conventions blank (by simp) (startsBlank_display meeting.time rest))
    (meeting.name.toList.reverse ++ before)
  have time := Leaf.matches_matcher_of_read
    (Leaf.read_offsetTime_append conventions plain.whole rest)
    ([' '].reverse ++ (meeting.name.toList.reverse ++ before))
  refine matches_grammar_iff.2 ⟨_, _, _, _, _, name, blanks, time, ?_⟩
  simp [writtenToken, token]

/-- A line is matched with its end where another one follows. -/
theorem matches_lineGrammar_newline (conventions : Conventions) (plain : meeting.IsPlain)
    (before rest : List Char) :
    (lineGrammar.matcher conventions ⟨before, meeting.text.toList ++ '\n' :: rest⟩).Matches
      (lineToken meeting.writtenToken [newline])
      ⟨(meeting.text.toList ++ ['\n']).reverse ++ before, rest⟩ := by
  have ending : (Leaf.symbol "\n").read conventions (['\n'] ++ rest) =
      .found (.symbol "\n") ['\n'] :=
    Leaf.read_symbol_eq_found_iff.2 ⟨by decide, rfl, rfl, rest, rfl⟩
  refine matches_lineGrammar_iff.2
    ⟨_, _, matches_grammar_text conventions plain before ('\n' :: rest), .inl ⟨newline, ?_, rfl⟩⟩
  have matched := Leaf.matches_matcher_of_read ending (meeting.text.toList.reverse ++ before)
  simpa [newline] using matched

/-- A line is matched without an end at the end of the text. -/
theorem matches_lineGrammar_atEnd (conventions : Conventions) (plain : meeting.IsPlain)
    (before : List Char) :
    (lineGrammar.matcher conventions ⟨before, meeting.text.toList⟩).Matches
      (lineToken meeting.writtenToken []) ⟨meeting.text.toList.reverse ++ before, []⟩ := by
  have matched := matches_grammar_text conventions plain before []
  rw [List.append_nil] at matched
  exact matches_lineGrammar_iff.2 ⟨_, _, matched, .inr ⟨rfl, rfl, rfl⟩⟩

/-- At the end of the text there is no more line. -/
theorem noMatch_lineGrammar_atEnd (conventions : Conventions) (before : List Char) :
    (lineGrammar.matcher conventions ⟨before, []⟩).outcome = .noMatch := rfl

theorem isLine_written (meeting : Meeting) {ending : List Token}
    (ends : ending = [] ∨ ending = [newline]) :
    meeting.IsLine (lineToken meeting.writtenToken ending) :=
  ⟨" ", String.ofList meeting.time.display, ending, ends, rfl⟩

/-- The first line of a list is matched, and the other lines are left. -/
theorem exists_matches_lineGrammar_listText (conventions : Conventions) (plain : meeting.IsPlain)
    (others : List Meeting) (before : List Char) :
    ∃ line passed, passed ≠ [] ∧
      (listText (meeting :: others)).toList = passed ++ (listText others).toList ∧
      (lineGrammar.matcher conventions ⟨before, (listText (meeting :: others)).toList⟩).Matches
        line ⟨passed.reverse ++ before, (listText others).toList⟩ ∧
      meeting.IsLine line := by
  cases others with
  | nil =>
      rw [toList_listText_singleton, toList_listText_nil]
      exact ⟨lineToken meeting.writtenToken [], meeting.text.toList, meeting.toList_text_ne_nil,
        (List.append_nil _).symm, matches_lineGrammar_atEnd conventions plain before,
        meeting.isLine_written (.inl rfl)⟩
  | cons second others =>
      rw [toList_listText_cons_cons]
      exact ⟨lineToken meeting.writtenToken [newline], meeting.text.toList ++ ['\n'], by simp,
        by simp, matches_lineGrammar_newline conventions plain before _,
        meeting.isLine_written (.inr rfl)⟩

/-- All lines that are written are matched, one after the other, if calls enough are allowed: each
line takes some of the text, so there is one for each character. -/
theorem exists_matches_iterate_listText (conventions : Conventions) {meetings : List Meeting}
    (plain : ∀ meeting ∈ meetings, meeting.IsPlain) {calls : Nat}
    (enough : (listText meetings).toList.length < calls) (before : List Char) :
    ∃ lines finish, (Matcher.iterate lineGrammar.matcher conventions calls
        ⟨before, (listText meetings).toList⟩).Matches lines finish ∧
      finish.after = [] ∧ List.Forall₂ IsLine meetings lines := by
  induction meetings generalizing calls before with
  | nil =>
      cases calls with
      | zero => exact absurd enough (Nat.not_lt_zero _)
      | succ calls =>
          have atEnd := noMatch_lineGrammar_atEnd conventions before
          exact ⟨[], ⟨before, []⟩, Matcher.matches_iterate_succ_iff.2 (.inr ⟨atEnd, rfl, rfl⟩), rfl,
            .nil⟩
  | cons meeting meetings ih =>
      obtain ⟨here, later⟩ := List.forall_mem_cons.1 plain
      obtain ⟨line, passed, nonempty, text, first, isLine⟩ :=
        exists_matches_lineGrammar_listText conventions here meetings before
      cases calls with
      | zero => exact absurd enough (Nat.not_lt_zero _)
      | succ calls =>
          have shorter : (listText meetings).toList.length < calls := by
            have some := List.length_pos_iff.2 nonempty
            rw [text, List.length_append] at enough
            omega
          obtain ⟨lines, finish, others, atEnd, each⟩ :=
            ih later shorter (passed.reverse ++ before)
          exact ⟨line :: lines, finish,
            Matcher.matches_iterate_cons first ⟨rfl, text⟩ nonempty others, atEnd,
            .cons isLine each⟩

/-! ## Lists of meetings -/

theorem parseList_eq (text : String) :
    parseList text = listGrammar.matcher (.english 2000) (.ofText text) := rfl

/-- A list of meetings is collected from the token that is matched. -/
theorem readList_of_matched {text : String} {found : Token}
    (matched : (parseList text).outcome = .matched found) : readList text = .ok (ofToken found) := by
  delta readList
  rw [matched]

/-- The error of a list is that of its grammar. -/
theorem readList_of_failed {text : String} {error : ParseError}
    (failed : (parseList text).outcome = .failed error) :
    readList text = .error (.unreadable error) := by
  delta readList
  rw [failed]

/-- A repetition matches however often, so that there is a match or an error of a list. -/
theorem outcome_parseList_ne_noMatch (text : String) : (parseList text).outcome ≠ .noMatch := by
  rw [parseList_eq, listGrammar_eq, Grammar.matcher, Grammar.matcher]
  exact Matcher.orFailIfTextRemains_ne_noMatch _ _ (Matcher.repeated_zero_ne_noMatch _ _ _ _)

theorem onlyReports_listGrammar : ∀ part ∈ listGrammar.parts, part.OnlyReports := by
  simp [listGrammar, grammar, Grammar.parts, Component.parts, partsOfComponents,
    Grammar.OnlyReports]

/-- Lists are read faithfully, and their errors are reported. -/
theorem reads_parseList (text : String) :
    (parseList text).Reads Token.Spells listGrammar.Blames (.ofText text) :=
  listGrammar.reads_matcher (fun part inside => (onlyReports_listGrammar part inside).admits inside)
    (.english 2000) (.ofText text)

/-- An error of a list is the basic one at the place where the list cannot go on. -/
theorem exists_errorAt_of_failed {text : String} {error : ParseError}
    (failed : (parseList text).outcome = .failed error) :
    ∃ cursor expected, error = Reporter.errorAt cursor expected := by
  obtain ⟨inner, -, same⟩ := (reads_parseList text).blamed error failed
  exact ⟨_, inner.label, same⟩

/-- The basic error does not say that there are no meetings. -/
theorem message_errorAt_ne (cursor : Cursor) (expected : String) :
    (Reporter.errorAt cursor expected).message ≠ MeetingError.noMeetings.message := by
  have ofEnd (place : String) : "End of text at " ++ place ≠ "no meetings" := by
    intro same
    have letters := congrArg String.toList same
    rw [String.toList_append] at letters
    cases letters
  have ofCharacter (shown place label : String) :
      "Invalid character " ++ shown ++ " at " ++ place ++ " expected " ++ label ≠
        "no meetings" := by
    intro same
    have letters := congrArg String.toList same
    simp only [String.toList_append, List.append_assoc] at letters
    cases letters
  unfold Reporter.errorAt
  split
  · exact ofEnd _
  · exact ofCharacter _ _ _

/-- A list that is matched takes the whole text, and its children are the lines of meetings. -/
theorem exists_lines_of_matched {text : String} {found : Token}
    (matched : (parseList text).outcome = .matched found) :
    (parseList text).cursor.after = [] ∧ ∃ meetings lines,
      found = .parent .repeated lines text ∧ List.Forall₂ IsLine meetings lines := by
  have replied : (parseList text).Matches found (parseList text).cursor := ⟨matched, rfl⟩
  rw [parseList_eq] at replied ⊢
  obtain ⟨-, -, atEnd, -⟩ := matches_listGrammar_iff.1 replied
  obtain ⟨meetings, lines, areLines, rfl⟩ := exists_lines_of_matches replied
  obtain ⟨passed, passage, -, spelled⟩ := (reads_parseList text).finds _ matched
  have whole : text.toList = passed ++ (parseList text).cursor.after := passage.after_eq
  rw [parseList_eq, atEnd, List.append_nil] at whole
  have joined : Token.joinTexts lines = text := String.toList_injective (spelled.trans whole.symm)
  exact ⟨atEnd, meetings, lines, by rw [joined], areLines⟩

theorem describeList_of_ok {text : String} {meetings : List Meeting}
    (read : readList text = .ok meetings) : describeList text = .ok (meetings.map display) := by
  delta describeList
  rw [read]

theorem describeList_of_error {text : String} {error : MeetingError}
    (read : readList text = .error error) : describeList text = .error error.message := by
  delta describeList
  rw [read]

/-- A list that is written is read back. -/
theorem readList_listText {meetings : List Meeting} (plain : ∀ meeting ∈ meetings, meeting.IsPlain) :
    readList (listText meetings) = .ok meetings := by
  obtain ⟨lines, finish, each, atEnd, areLines⟩ :=
    exists_matches_iterate_listText (.english 2000) plain
      (Matcher.length_after_lt_callLimit (.ofText (listText meetings))) []
  have matched := matches_listGrammar_iff.2 ⟨lines, each, atEnd, rfl⟩
  rw [readList_of_matched matched.outcome_eq, ofToken_eq_of_isLine areLines]

/-- Of a text that is matched, the list is that of the lines of its token. -/
theorem exists_meetings_of_matched {text : String} {found : Token}
    (matched : (parseList text).outcome = .matched found) :
    ∃ meetings lines, found = .parent .repeated lines text ∧
      List.Forall₂ IsLine meetings lines ∧ readList text = .ok meetings ∧
      describeList text = .ok (meetings.map display) := by
  obtain ⟨-, meetings, lines, rfl, areLines⟩ := exists_lines_of_matched matched
  have read := readList_of_matched matched
  rw [ofToken_eq_of_isLine areLines] at read
  exact ⟨meetings, lines, rfl, areLines, read, describeList_of_ok read⟩

/-- A list is either matched, or its error names a place where it cannot go on. -/
theorem matched_or_failed (text : String) :
    (∃ found, (parseList text).outcome = .matched found) ∨
      ∃ cursor expected,
        readList text = .error (.unreadable (Reporter.errorAt cursor expected)) := by
  cases outcome : (parseList text).outcome with
  | matched found => exact .inl ⟨found, rfl⟩
  | noMatch => exact absurd outcome (outcome_parseList_ne_noMatch text)
  | failed error =>
      obtain ⟨cursor, expected, rfl⟩ := exists_errorAt_of_failed outcome
      exact .inr ⟨cursor, expected, readList_of_failed outcome⟩

/-- A text is accepted just if the grammar of lists matches the whole of it. -/
theorem describeList_ok_iff (text : String) :
    (∃ described, describeList text = .ok described) ↔
      ∃ found, (parseList text).outcome = .matched found ∧ found.text = text ∧
        (parseList text).cursor.isEmpty := by
  constructor
  · rintro ⟨described, accepted⟩
    rcases matched_or_failed text with ⟨found, matched⟩ | ⟨cursor, expected, failed⟩
    · obtain ⟨atEnd, -, lines, rfl, -⟩ := exists_lines_of_matched matched
      exact ⟨_, matched, rfl, List.isEmpty_iff.2 atEnd⟩
    · rw [describeList_of_error failed] at accepted
      cases accepted
  · rintro ⟨found, matched, -, -⟩
    obtain ⟨meetings, -, -, -, -, described⟩ := exists_meetings_of_matched matched
    exact ⟨_, described⟩

/-- It is never said that there are no meetings. -/
theorem readList_ne_noMeetings (text : String) :
    readList text ≠ .error .noMeetings ∧ describeList text ≠ .error "no meetings" := by
  rcases matched_or_failed text with ⟨found, matched⟩ | ⟨cursor, expected, failed⟩
  · obtain ⟨meetings, -, -, -, read, described⟩ := exists_meetings_of_matched matched
    simp [read, described]
  · rw [failed, describeList_of_error failed]
    constructor
    · simp
    · intro same
      exact message_errorAt_ne cursor expected (Except.error.inj same)

/-- Lists of meetings are read faithfully. A text is accepted just if the grammar of lists matches the
whole of it; then its list has one meeting for each child of the token, in order, with the name and
the time that stand in this child; and that there are no meetings is never the answer. And the other
way round, a list of plain meetings that is written with a line for each is read back just as it
was. -/
theorem lists_are_read_faithfully :
    (∀ text,
      ((∃ described, describeList text = .ok described) ↔
        ∃ found, (parseList text).outcome = .matched found ∧ found.text = text ∧
          (parseList text).cursor.isEmpty) ∧
      (∀ found, (parseList text).outcome = .matched found →
        ∃ meetings lines, found = .parent .repeated lines text ∧
          List.Forall₂ IsLine meetings lines ∧ readList text = .ok meetings ∧
          describeList text = .ok (meetings.map display)) ∧
      readList text ≠ .error .noMeetings ∧ describeList text ≠ .error "no meetings") ∧
    ∀ meetings : List Meeting, (∀ meeting ∈ meetings, meeting.IsPlain) →
      readList (listText meetings) = .ok meetings ∧
        describeList (listText meetings) = .ok (meetings.map display) := by
  constructor
  · intro text
    exact ⟨describeList_ok_iff text, fun found => exists_meetings_of_matched,
      readList_ne_noMeetings text⟩
  · intro meetings plain
    have read := readList_listText plain
    exact ⟨read, describeList_of_ok read⟩

/-- A meeting in the morning to the east, and one at the end of the day to the west, with a letter
that is not of ASCII in its name. -/
def twoMeetings : List Meeting :=
  [⟨"standup", ⟨⟨9, 30, 0, 0, by decide⟩, ⟨36000, by decide⟩⟩⟩,
    ⟨"café", ⟨⟨23, 59, 59, 0, by decide⟩, ⟨-86340, by decide⟩⟩⟩]

theorem lists_are_read_faithfully_twoMeetings :
    (∀ meeting ∈ twoMeetings, meeting.IsPlain) ∧
      listText twoMeetings = "standup 09:30:00+10:00\ncafé 23:59:59-23:59" ∧
      readList (listText twoMeetings) = .ok twoMeetings ∧
      describeList (listText twoMeetings) =
        .ok [("standup", "09:30:00+10:00"), ("café", "23:59:59-23:59")] := by
  have plain : ∀ meeting ∈ twoMeetings, meeting.IsPlain :=
    List.forall_mem_cons.2 ⟨by decide, List.forall_mem_singleton.2 (by decide)⟩
  have readBack := lists_are_read_faithfully.2 twoMeetings plain
  have shown : twoMeetings.map display =
      [("standup", "09:30:00+10:00"), ("café", "23:59:59-23:59")] := rfl
  rw [← shown]
  exact ⟨plain, rfl, readBack⟩

end TextGrammar.Meeting
