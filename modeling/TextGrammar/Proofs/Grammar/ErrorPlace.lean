import TextGrammar.Proofs.Grammar.Consumption

/-!
# Where errors come from

If all reporters are basic ones and the functions on tokens neither change a text nor fail, then every
error of a grammar comes from a grammar in it that has to match: it names what the cursor then points
at, by its character and its place, and what was expected there. The tokens of the combinations can
always be made, since a grammar consumes exactly the text of its token.
-/

namespace TextGrammar

/-- An error names what a cursor points at: that the text ends there, or the next character together
with what was expected instead. -/
def ParseError.NamesCursor (error : ParseError) (cursor : Cursor) (expected : String) : Prop :=
  (cursor.isEmpty ∧ error = .endOfText cursor.position) ∨
    ∃ character, cursor.at? = some character ∧
      error = .invalidCharacter character cursor.position expected

/-- A token that cannot be made has no place in a text. -/
theorem ParseError.not_namesCursor_invalidToken (fault : TokenError) (cursor : Cursor)
    (expected : String) : ¬(invalidToken fault).NamesCursor cursor expected := by
  rintro (⟨-, same⟩ | ⟨character, -, same⟩)
  · cases same
  · cases same

theorem Reporter.namesCursor_errorAt (cursor : Cursor) (expected : String) :
    (errorAt cursor expected).NamesCursor cursor expected := by
  rcases cursor with ⟨before, after⟩
  cases after with
  | nil => exact .inl ⟨rfl, rfl⟩
  | cons character rest => exact .inr ⟨character, rfl, rfl⟩

namespace Grammar

/-- A part of a grammar has no errors of its own: its reporter is the basic one, and its functions
hand on the text and do not fail. -/
def OnlyReports : Grammar → Prop
  | .orReport reporter _ => reporter = .basic
  | .orFailIfTextRemains reporter _ => reporter = .basic
  | .map change _ => Token.KeepsText change
  | .transform change _ => Token.AlwaysKeepsText change
  | .external _ _ => False
  | _ => True

/-- A grammar has to match, or has to match everything. -/
def IsDemand : Grammar → Prop
  | .orReport _ _ | .orFailIfTextRemains _ _ => True
  | _ => False

/-- A grammar that is part of another has to match there, or has to match everything. -/
def IsDemandedIn (inner whole : Grammar) : Prop :=
  ∃ reporter, .orReport reporter inner ∈ whole.parts ∨
    .orFailIfTextRemains reporter inner ∈ whole.parts

theorem IsDemandedIn.mem_parts {inner whole : Grammar} (demanded : inner.IsDemandedIn whole) :
    ∃ part ∈ whole.parts, part.IsDemand := by
  rcases demanded with ⟨reporter, inside | inside⟩
  · exact ⟨_, inside, trivial⟩
  · exact ⟨_, inside, trivial⟩

/-- An error that a grammar may end with at a cursor: the basic one, for a grammar that has to match
there. -/
def Blames (whole : Grammar) (error : ParseError) (cursor : Cursor) : Prop :=
  ∃ inner : Grammar, inner.IsDemandedIn whole ∧ error = Reporter.errorAt cursor inner.label

theorem OnlyReports.admits {whole part : Grammar} (reports : part.OnlyReports)
    (inside : part ∈ whole.parts) : part.Admits whole.Blames := by
  cases part with
  | orReport reporter inner =>
      cases reports
      intro cursor
      exact ⟨inner, ⟨.basic, .inl inside⟩, rfl⟩
  | orFailIfTextRemains reporter inner =>
      cases reports
      intro cursor
      exact ⟨inner, ⟨.basic, .inr inside⟩, rfl⟩
  | map change inner => exact reports
  | transform change inner =>
      refine ⟨reports.keepsTextIfAny, ?_⟩
      intro token conventions error cursor wellFormed failed
      exact absurd failed (reports.ne_error wellFormed conventions error)
  | external label matcher => exact False.elim reports
  | _ => trivial

/-- An error of a grammar comes from a grammar in it that has to match, and names what the cursor
points at where it was left. No other error arises, in particular none where a token cannot be made,
and none at all if nothing has to match. The cursor never goes back behind the start. -/
theorem errors_name_cursor (grammar : Grammar)
    (reports : ∀ part ∈ grammar.parts, part.OnlyReports) (conventions : Conventions)
    (start : Cursor) :
    let reply := grammar.parse conventions start
    (∀ error, reply.outcome = .failed error → ∃ inner : Grammar,
        inner.IsDemandedIn grammar ∧ error.NamesCursor reply.cursor inner.label) ∧
      (∀ fault, reply.outcome ≠ .failed (.invalidToken fault)) ∧
      ((∀ part ∈ grammar.parts, ¬part.IsDemand) → ∀ error, reply.outcome ≠ .failed error) ∧
      start.Reaches reply.cursor ∧ start.offset ≤ reply.cursor.offset := by
  intro reply
  have reads : reply.Reads Token.Spells grammar.Blames start :=
    grammar.reads_matcher (fun part inside => (reports part inside).admits inside)
      conventions start
  have named : ∀ error, reply.outcome = .failed error → ∃ inner : Grammar,
      inner.IsDemandedIn grammar ∧ error.NamesCursor reply.cursor inner.label := by
    intro error failed
    rcases reads.blamed error failed with ⟨inner, demanded, rfl⟩
    exact ⟨inner, demanded, Reporter.namesCursor_errorAt reply.cursor inner.label⟩
  refine ⟨named, ?_, ?_, reads.reaches, reads.reaches.offset_le⟩
  · intro fault failed
    rcases named _ failed with ⟨inner, -, names⟩
    exact ParseError.not_namesCursor_invalidToken fault reply.cursor inner.label names
  · intro undemanding error failed
    rcases named error failed with ⟨inner, demanded, -⟩
    rcases demanded.mem_parts with ⟨part, inside, demand⟩
    exact undemanding part inside demand

/-- A letter that is followed by a mark, either by a cross or by an accent and a mark that has to be
there. -/
def accentedLetter : Grammar :=
  .alternatives [
    .sequence [.required (.leaf (.symbol "a")), .required (.leaf (.symbol "+"))],
    .sequence [
      .required (.map Token.asSymbol (.leaf (.symbol "a"))),
      .required (.transform (fun token _ => .ok token.wrap) (.leaf (.symbol "é"))),
      .required (.orReport .basic (.labelled "closing mark" (.leaf (.symbol "!"))))]]

theorem onlyReports_accentedLetter : ∀ part ∈ accentedLetter.parts, part.OnlyReports := by
  have wraps : Token.AlwaysKeepsText fun token _ => .ok token.wrap := by
    intro token conventions wellFormed
    exact ⟨token.wrap, rfl, Token.keepsText_wrap token wellFormed⟩
  simp [accentedLetter, parts, Component.parts, partsOfComponents, partsOfGrammars, OnlyReports,
    Token.keepsText_asSymbol, wraps]

/-- A cursor in the second row of a text, before the letter and its accent. -/
def accentedStart (mark : String) : Cursor :=
  (Cursor.ofText ("é\naé" ++ mark)).skip 2

set_option maxRecDepth 4000 in
theorem failed_accentedLetter :
    (accentedLetter.parse (.english 2000) (accentedStart "?")).outcome =
      .failed (.invalidCharacter '?' ⟨3, 2⟩ "closing mark") := rfl

set_option maxRecDepth 4000 in
theorem failed_accentedLetter_atEnd :
    (accentedLetter.parse (.english 2000) (accentedStart "")).outcome =
      .failed (.endOfText ⟨3, 2⟩) := rfl

theorem errors_name_cursor_accentedLetter :
    (∀ part ∈ accentedLetter.parts, part.OnlyReports) ∧
      (∃ inner : Grammar, inner.IsDemandedIn accentedLetter ∧
        (ParseError.invalidCharacter '?' ⟨3, 2⟩ "closing mark").NamesCursor
          (accentedLetter.parse (.english 2000) (accentedStart "?")).cursor inner.label) ∧
      (∃ inner : Grammar, inner.IsDemandedIn accentedLetter ∧
        (ParseError.endOfText ⟨3, 2⟩).NamesCursor
          (accentedLetter.parse (.english 2000) (accentedStart "")).cursor inner.label) := by
  have reports := onlyReports_accentedLetter
  have early := errors_name_cursor accentedLetter reports (.english 2000) (accentedStart "?")
  have late := errors_name_cursor accentedLetter reports (.english 2000) (accentedStart "")
  exact ⟨reports, early.1 _ failed_accentedLetter, late.1 _ failed_accentedLetter_atEnd⟩

end Grammar

end TextGrammar
