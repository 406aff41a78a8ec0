import TextGrammar.Matcher.Combinators
import TextGrammar.Proofs.Cursor.Passage

/-!
# Matchers that read faithfully

A matcher reads faithfully if it only moves forward, if what it matches spells exactly the characters
it has passed over, and if its errors are those that may arise where the cursor then stands. Every
way of combining matchers keeps this, so that the tokens of a combination can always be made: their
texts, one after the other, are the text between the two cursors.
-/

namespace TextGrammar

namespace Token

/-- A well formed token has the given characters as its text. -/
def Spells (token : Token) (passed : List Char) : Prop :=
  token.WellFormed ∧ token.text.toList = passed

/-- Well formed tokens have the given characters as their texts, one after the other. -/
def SpellAll (tokens : List Token) (passed : List Char) : Prop :=
  (∀ token ∈ tokens, token.WellFormed) ∧ (joinTexts tokens).toList = passed

theorem spellAll_nil : SpellAll [] [] :=
  ⟨by simp, rfl⟩

theorem Spells.singleton {token : Token} {passed : List Char} (spelled : token.Spells passed) :
    SpellAll [token] passed :=
  ⟨by simpa using spelled.1, by simpa using spelled.2⟩

theorem SpellAll.append {front back : List Token} {first second : List Char}
    (spelledFront : SpellAll front first) (spelledBack : SpellAll back second) :
    SpellAll (front ++ back) (first ++ second) := by
  constructor
  · intro token member
    rcases List.mem_append.1 member with inFront | inBack
    · exact spelledFront.1 token inFront
    · exact spelledBack.1 token inBack
  · rw [← spelledFront.2, ← spelledBack.2]
    simp

/-- A parent can be made of children and their text. -/
theorem makeParent_of_spellAll {kind : ParentKind} {children : List Token} {passed : List Char}
    (spelled : SpellAll children passed) :
    ∃ token, makeParent kind children (String.ofList passed) = .ok token ∧
      token.Spells passed := by
  have joined : String.ofList passed = joinTexts children := by
    rw [← spelled.2, String.ofList_toList]
  refine ⟨.parent kind children (String.ofList passed), ?_, ?_⟩
  · rw [makeParent, if_pos joined]
  · exact ⟨.parent joined spelled.1, by simp [text]⟩

end Token

variable {α β : Type} {found : α → List Char → Prop} {later : β → List Char → Prop}
variable {blames : ParseError → Cursor → Prop} {start middle finish : Cursor}

/-- The reply to a call at a cursor is faithful: the cursor has not gone back, what was matched was
found in the characters passed, and an error may arise where the cursor stands. -/
structure Reply.Reads (found : α → List Char → Prop) (blames : ParseError → Cursor → Prop)
    (start : Cursor) (reply : Reply α) : Prop where
  reaches : start.Reaches reply.cursor
  finds : ∀ value, reply.outcome = .matched value →
    ∃ passed, start.Passes passed reply.cursor ∧ found value passed
  blamed : ∀ error, reply.outcome = .failed error → blames error reply.cursor

namespace Reply.Reads

theorem matched {value : α} {passed : List Char} (passage : start.Passes passed finish)
    (finds : found value passed) : (Reply.matched value finish).Reads found blames start where
  reaches := ⟨passed, passage⟩
  finds := by
    intro other same
    cases same
    exact ⟨passed, passage, finds⟩
  blamed := by
    intro error impossible
    simp [Reply.matched] at impossible

theorem noMatch {log : List LogRecord} (reached : start.Reaches finish) :
    (⟨.noMatch, finish, log⟩ : Reply α).Reads found blames start where
  reaches := reached
  finds := by simp
  blamed := by simp

theorem failed {error : ParseError} {log : List LogRecord} (reached : start.Reaches finish)
    (blamed : blames error finish) :
    (⟨.failed error, finish, log⟩ : Reply α).Reads found blames start where
  reaches := reached
  finds := by simp
  blamed := by
    intro other same
    cases same
    exact blamed

theorem after {reply : Reply α} (reads : reply.Reads found blames start) (log : List LogRecord) :
    (reply.after log).Reads found blames start :=
  ⟨reads.reaches, reads.finds, reads.blamed⟩

/-- A step after a match has to read from the first cursor on, given what was found up to it. -/
theorem andThen {reply : Reply α} {next : α → Cursor → Reply β}
    (reads : reply.Reads found blames start)
    (goesOn : ∀ value passed finish, start.Passes passed finish → found value passed →
      (next value finish).Reads later blames start) :
    (Answers.andThen reply next).Reads later blames start := by
  rcases reply with ⟨outcome, cursor, log⟩
  cases outcome with
  | matched value =>
      rcases reads.finds value rfl with ⟨passed, passage, finds⟩
      exact (goesOn value passed cursor passage finds).after log
  | noMatch => exact .noMatch reads.reaches
  | failed error => exact .failed reads.reaches (reads.blamed error rfl)

/-- A step after there was no match has to read from the first cursor on. -/
theorem orElse {reply : Reply α} {next : Cursor → Reply α}
    (reads : reply.Reads found blames start)
    (goesOn : ∀ finish, start.Reaches finish → (next finish).Reads found blames start) :
    (Answers.orElse reply next).Reads found blames start := by
  rcases reply with ⟨outcome, cursor, log⟩
  cases outcome with
  | matched value => exact reads
  | noMatch => exact (goesOn cursor reads.reaches).after log
  | failed error => exact reads

/-- Tokens that are found behind others are found together with them from the first cursor on. -/
theorem followedBy {front : List Token} {passed : List Char} {reply : Reply (List Token)}
    (passage : start.Passes passed middle) (spelled : Token.SpellAll front passed)
    (reads : reply.Reads Token.SpellAll blames middle) :
    (Answers.andThen reply fun back finish => .matched (front ++ back) finish).Reads
      Token.SpellAll blames start := by
  rcases reply with ⟨outcome, cursor, log⟩
  rcases reads.reaches with ⟨rest, further⟩
  have reached : start.Reaches cursor := ⟨passed ++ rest, passage.trans further⟩
  cases outcome with
  | matched back =>
      rcases reads.finds back rfl with ⟨rest, further, spelledBack⟩
      exact (matched (passage.trans further) (spelled.append spelledBack)).after log
  | noMatch => exact .noMatch reached
  | failed error => exact .failed reached (reads.blamed error rfl)

/-- The parent of what was found between two cursors can be made. -/
theorem parent {kind : ParentKind} {tokens : List Token} {passed : List Char}
    (passage : start.Passes passed finish) (spelled : Token.SpellAll tokens passed) :
    (Reply.ofToken (Token.makeParent kind tokens (finish.textBetween start.save)) finish).Reads
      Token.Spells blames start := by
  rcases Token.makeParent_of_spellAll spelled with ⟨token, made, spells⟩
  rw [passage.textBetween_eq, made]
  exact .matched passage spells

end Reply.Reads

/-- A matcher reads faithfully wherever it is called. -/
def Matcher.Reads (blames : ParseError → Cursor → Prop) (matcher : Matcher) : Prop :=
  ∀ conventions start, (matcher conventions start).Reads Token.Spells blames start

namespace Matcher.Reads

/-! ## Combinations -/

theorem firstOf {matchers : List Matcher} (each : ∀ matcher ∈ matchers, matcher.Reads blames) :
    (Matcher.firstOf matchers).Reads blames := by
  intro conventions start
  induction matchers with
  | nil => exact .noMatch ⟨[], .refl start⟩
  | cons matcher matchers ih =>
      rw [List.forall_mem_cons] at each
      apply (each.1 conventions start).orElse
      intro finish reached
      exact ih each.2

theorem optional {matcher : Matcher} (reads : matcher.Reads blames) :
    matcher.optional.Reads blames := by
  intro conventions start
  apply Reply.Reads.orElse
  · apply (reads conventions start).andThen
    intro token passed finish passage spelled
    exact .parent passage spelled.singleton
  · intro finish reached
    exact .matched (.refl start) ⟨.parent rfl (by simp), rfl⟩

theorem tokens {part : Part} (reads : part.matcher.Reads blames) (sequenceLabel : String)
    (conventions : Conventions) (start : Cursor) :
    (part.tokens sequenceLabel conventions start).Reads Token.SpellAll blames start := by
  apply Reply.Reads.orElse
  · apply (reads conventions start).andThen
    intro token passed finish passage spelled
    exact .matched passage spelled.singleton
  · intro finish reached
    split
    · exact .noMatch ⟨[], .refl start⟩
    · exact .matched (.refl start) Token.spellAll_nil

/-- The tokens of the parts together spell all that was passed: each part goes on where the tokens
before it end. -/
theorem gather {parts : List Part} (each : ∀ part ∈ parts, part.matcher.Reads blames)
    (sequenceLabel : String) (conventions : Conventions) (start : Cursor) :
    (Matcher.gather sequenceLabel parts conventions start).Reads Token.SpellAll blames start := by
  induction parts generalizing start with
  | nil => exact .matched (.refl start) Token.spellAll_nil
  | cons part parts ih =>
      rw [List.forall_mem_cons] at each
      apply (tokens each.1 sequenceLabel conventions start).andThen
      intro front passed next passage spelledFront
      exact .followedBy passage spelledFront (ih each.2 next)

theorem sequence {parts : List Part} (each : ∀ part ∈ parts, part.matcher.Reads blames)
    (label : String) : (Matcher.sequence label parts).Reads blames := by
  intro conventions start
  apply Reply.Reads.orElse
  · apply (gather each label conventions start).andThen
    intro tokens passed finish passage spelled
    exact .parent passage spelled
  · intro finish reached
    exact .noMatch ⟨[], .refl start⟩

/-- The tokens of all calls together spell all that was passed. -/
theorem iterate {matcher : Matcher} (reads : matcher.Reads blames) (conventions : Conventions)
    (calls : Nat) (start : Cursor) :
    (Matcher.iterate matcher conventions calls start).Reads Token.SpellAll blames start := by
  induction calls generalizing start with
  | zero => exact .matched (.refl start) Token.spellAll_nil
  | succ calls ih =>
      apply Reply.Reads.orElse
      · apply (reads conventions start).andThen
        intro token passed next passage spelled
        split
        · exact .matched passage spelled.singleton
        · exact .followedBy passage spelled.singleton (ih next)
      · intro finish reached
        exact .matched (.refl start) Token.spellAll_nil

theorem repeated {matcher : Matcher} (reads : matcher.Reads blames) (label : String)
    (minimum : Nat) : (matcher.repeated label minimum).Reads blames := by
  intro conventions start
  apply (iterate reads conventions (callLimit start) start).andThen
  intro tokens passed finish passage spelled
  split
  · exact .noMatch ⟨[], .refl start⟩
  · exact .parent passage spelled

/-- An error of the reporter may arise at the cursor that it is given. -/
theorem reply {reporter : Reporter} {label : String}
    (blamed : ∀ cursor, blames (reporter.report cursor label).1 cursor)
    (reached : start.Reaches finish) :
    (reporter.reply finish label).Reads found blames start :=
  .failed reached (blamed finish)

theorem orReport {matcher : Matcher} (reads : matcher.Reads blames) {reporter : Reporter}
    {label : String} (blamed : ∀ cursor, blames (reporter.report cursor label).1 cursor) :
    (matcher.orReport reporter label).Reads blames := by
  intro conventions start
  apply (reads conventions start).orElse
  intro finish reached
  exact reply blamed reached

theorem orFailIfTextRemains {matcher : Matcher} (reads : matcher.Reads blames)
    {reporter : Reporter} {label : String}
    (blamed : ∀ cursor, blames (reporter.report cursor label).1 cursor) :
    (matcher.orFailIfTextRemains reporter label).Reads blames := by
  intro conventions start
  apply (reads conventions start).andThen
  intro token passed finish passage spelled
  split
  · exact .matched passage spelled
  · exact reply blamed ⟨passed, passage⟩

theorem andNothingRemains {matcher : Matcher} (reads : matcher.Reads blames) :
    matcher.andNothingRemains.Reads blames := by
  intro conventions start
  apply Reply.Reads.orElse
  · apply (reads conventions start).andThen
    intro token passed finish passage spelled
    split
    · exact .matched passage spelled
    · exact .noMatch ⟨passed, passage⟩
  · intro finish reached
    exact .noMatch ⟨[], .refl start⟩

theorem map {matcher : Matcher} (reads : matcher.Reads blames) {change : Token → Token}
    (keeps : ∀ token passed, token.Spells passed → (change token).Spells passed) :
    (matcher.map change).Reads blames := by
  intro conventions start
  apply (reads conventions start).andThen
  intro token passed finish passage spelled
  exact .matched passage (keeps token passed spelled)

theorem transform {matcher : Matcher} (reads : matcher.Reads blames)
    {change : Token → Conventions → Except ParseError Token}
    (keeps : ∀ token conventions passed changed, token.Spells passed →
      change token conventions = .ok changed → changed.Spells passed)
    (blamed : ∀ token conventions error cursor, token.WellFormed →
      change token conventions = .error error → blames error cursor) :
    (matcher.transform change).Reads blames := by
  intro conventions start
  apply (reads conventions start).andThen
  intro token passed finish passage spelled
  simp only [Answers.ofChange, Reply.ofChange]
  split
  next changed same => exact .matched passage (keeps token conventions passed changed spelled same)
  next error same =>
    exact .failed ⟨passed, passage⟩ (blamed token conventions error finish spelled.1 same)

end Matcher.Reads

end TextGrammar
