import Mathlib.Data.Prod.Lex
import TextGrammar.Matcher.Reply
import TextGrammar.Proofs.Cursor.Passage
import TextGrammar.Proofs.Text.Utf8

/-!
# Lines and columns are exact

The line and column of a cursor are found by looking back from it for line feeds. They are the same as
if the text were walked through from its start, one step for each character. Since each step leads
further down or to the right, places are passed in the order in which people read them, and no two
places of a text have the same line and column.
-/

namespace TextGrammar

open Text

namespace Position

/-- The order in which places are read: row by row, and within a row column by column. -/
def readingOrder (position : Position) : ℕ ×ₗ ℕ :=
  toLex (position.row, position.column)

theorem readingOrder_lt_iff {first second : Position} :
    first.readingOrder < second.readingOrder ↔
      first.row < second.row ∨ first.row = second.row ∧ first.column < second.column :=
  Prod.Lex.toLex_lt_toLex

variable {passed : List Char}

/-- The place behind a character comes later than the one before it. -/
theorem readingOrder_lt_step (position : Position) (c : Char) :
    position.readingOrder < (position.step c).readingOrder := by
  rw [readingOrder_lt_iff]
  by_cases newline : c = '\n'
  · left
    simp [step, newline]
  · right
    simp [step, newline]

theorem readingOrder_le_foldl_step (position : Position) (passed : List Char) :
    position.readingOrder ≤ (passed.foldl step position).readingOrder := by
  induction passed generalizing position with
  | nil => exact le_refl _
  | cons c passed ih => exact le_trans (le_of_lt (position.readingOrder_lt_step c)) (ih _)

/-- The place behind some characters comes later than the one before them. -/
theorem readingOrder_lt_foldl_step (position : Position) (nonempty : passed ≠ []) :
    position.readingOrder < (passed.foldl step position).readingOrder := by
  cases passed with
  | nil => exact absurd rfl nonempty
  | cons c passed =>
      calc position.readingOrder < (position.step c).readingOrder := position.readingOrder_lt_step c
        _ ≤ (passed.foldl step (position.step c)).readingOrder :=
          readingOrder_le_foldl_step _ passed

end Position

namespace Cursor

variable {start finish first second : Cursor} {passed : List Char}

/-! ## Stepping through a text -/

/-- The place of a cursor is the one that is reached from the start of its text by a step for each
character before it. -/
theorem position_eq_foldl (cursor : Cursor) :
    cursor.position = cursor.before.reverse.foldl Position.step .start := by
  rcases cursor with ⟨before, after⟩
  rw [List.foldl_reverse]
  induction before with
  | nil => rfl
  | cons c before ih =>
      rw [List.foldr_cons, ← ih]
      by_cases newline : c = '\n'
      · simp [position, Position.step, newline]
      · simp [position, Position.step, newline]

/-- Passing over characters takes the place of a cursor a step further for each of them. -/
theorem Passes.position_eq (passage : start.Passes passed finish) :
    finish.position = passed.foldl Position.step start.position := by
  rw [position_eq_foldl, position_eq_foldl, passage.before_eq, List.reverse_append,
    List.reverse_reverse, List.foldl_append]

theorem Passes.readingOrder_le (passage : start.Passes passed finish) :
    start.position.readingOrder ≤ finish.position.readingOrder := by
  rw [passage.position_eq]
  exact Position.readingOrder_le_foldl_step _ passed

/-! ## The order of places -/

/-- Of two cursors in a text the one with the smaller offset leads to the other. -/
theorem exists_passes_of_chars_eq (same : first.chars = second.chars)
    (ordered : first.offset ≤ second.offset) : ∃ passed, first.Passes passed second := by
  rcases List.append_eq_append_iff.1 same with ⟨passed, before, after⟩ | ⟨passed, before, after⟩
  · refine ⟨passed, ?_, after⟩
    rw [← List.reverse_reverse second.before, before, List.reverse_append, List.reverse_reverse]
  · -- the first one is not behind the second one, so that nothing is between them
    have empty : passed = [] := by
      have size := congrArg byteSize before
      rw [byteSize_append, byteSize_reverse, byteSize_reverse] at size
      refine byteSize_eq_zero.1 ?_
      simp only [offset] at ordered
      omega
    subst empty
    refine ⟨[], ?_, after.symm⟩
    rw [List.append_nil] at before
    exact List.reverse_inj.1 before.symm

/-- Cursors in a text are ordered by their offsets as they are by their places. -/
theorem offset_lt_iff_readingOrder_lt (same : first.chars = second.chars) :
    first.offset < second.offset ↔
      first.position.readingOrder < second.position.readingOrder := by
  constructor
  · intro less
    obtain ⟨passed, passage⟩ := exists_passes_of_chars_eq same (Nat.le_of_lt less)
    rw [passage.position_eq]
    refine Position.readingOrder_lt_foldl_step _ ?_
    rintro rfl
    rw [passage.offset_eq, byteSize_nil] at less
    exact absurd less (Nat.lt_irrefl _)
  · intro less
    by_contra behind
    obtain ⟨passed, passage⟩ := exists_passes_of_chars_eq same.symm (Nat.le_of_not_lt behind)
    exact absurd less (not_lt_of_ge passage.readingOrder_le)

/-- Cursors at the same place of a text have the same offset. -/
theorem offset_eq_of_position_eq (same : first.chars = second.chars)
    (placed : first.position = second.position) : first.offset = second.offset := by
  rcases Nat.lt_trichotomy first.offset second.offset with less | equal | greater
  · have earlier := (offset_lt_iff_readingOrder_lt same).1 less
    rw [placed] at earlier
    exact absurd earlier (lt_irrefl _)
  · exact equal
  · have later := (offset_lt_iff_readingOrder_lt same.symm).1 greater
    rw [placed] at later
    exact absurd later (lt_irrefl _)

/-! ## The row in the stored text -/

/-- The number of bytes before the row of a cursor: all up to the last line feed before it. -/
def rowStart (cursor : Cursor) : Nat :=
  byteSize (cursor.before.dropWhile (· ≠ '\n'))

/-- What the row of a cursor has before it. -/
def rowText (cursor : Cursor) : List Char :=
  (cursor.before.takeWhile (· ≠ '\n')).reverse

/-- The stored text may be cut at the start of the row and at the cursor, and between them is what the
row has before the cursor. -/
theorem isSlice_rowText (cursor : Cursor) :
    IsSlice cursor.text cursor.rowStart cursor.offset (String.ofList cursor.rowText) := by
  have slice := isSlice_ofList (cursor.before.dropWhile (· ≠ '\n')).reverse cursor.rowText
    cursor.after
  rwa [rowText, ← List.reverse_append, List.takeWhile_append_dropWhile, byteSize_reverse,
    byteSize_reverse] at slice

theorem position_eq_rowText (cursor : Cursor) :
    cursor.position = ⟨cursor.rowText.length + 1, cursor.consumed.toList.count '\n' + 1⟩ := by
  simp [position, rowText, consumed]

end Cursor

/-! ## Errors -/

/-- The place that an error names, if it names one. -/
def ParseError.position? : ParseError → Option Position
  | .endOfText position => some position
  | .invalidCharacter _ position _ => some position
  | .transform _ _ => none
  | .invalidToken _ => none

theorem Reporter.position?_errorAt (cursor : Cursor) (expected : String) :
    (errorAt cursor expected).position? = some cursor.position := by
  rw [errorAt]
  cases cursor.at? with
  | none => rfl
  | some c => rfl

/-- **Lines and columns are exact.** The place of each cursor in a text is the one that is reached from
the start by a step for each character before it. It is found by cutting the stored text behind the
last line feed, where the row starts, and counting the characters up to the cursor. Of two cursors the
one with the smaller offset is at the place that is read earlier, and errors that name the same place
were reported at the same offset. -/
theorem Cursor.position_is_exact {text : String} {first second : Cursor}
    (inText : first.text = text) (inTextToo : second.text = text) :
    first.position = first.consumed.toList.foldl Position.step .start ∧
    (∃ row : String, IsSlice text first.rowStart first.offset row ∧
      first.position = ⟨row.toList.length + 1, first.consumed.toList.count '\n' + 1⟩) ∧
    (first.offset < second.offset ↔
      first.position.readingOrder < second.position.readingOrder) ∧
    ∀ expected expected' : String,
      (Reporter.errorAt first expected).position? = (Reporter.errorAt second expected').position? →
        first.offset = second.offset := by
  have same : first.chars = second.chars := String.ofList_injective (inText.trans inTextToo.symm)
  refine ⟨?_, ⟨String.ofList first.rowText, ?_, ?_⟩, offset_lt_iff_readingOrder_lt same, ?_⟩
  · rw [consumed, String.toList_ofList]
    exact first.position_eq_foldl
  · rw [← inText]
    exact first.isSlice_rowText
  · rw [String.toList_ofList]
    exact first.position_eq_rowText
  · intro expected expected' samePlace
    rw [Reporter.position?_errorAt, Reporter.position?_errorAt] at samePlace
    exact offset_eq_of_position_eq same (Option.some.inj samePlace)

/-- The start of an empty row, and the end of the row below it. -/
theorem Cursor.position_is_exact_emptyRow :
    let first : Cursor := ⟨['\n', 'é'], ['\n', 'ü']⟩
    let second : Cursor := ⟨['ü', '\n', '\n', 'é'], []⟩
    first.text = "é\n\nü" ∧ second.text = "é\n\nü" ∧
    first.position = ⟨1, 2⟩ ∧ second.position = ⟨2, 3⟩ ∧
    (∃ row : String, IsSlice "é\n\nü" 3 3 row ∧ first.position = ⟨row.toList.length + 1, 2⟩) ∧
    (3 < 6 ↔ first.position.readingOrder < second.position.readingOrder) ∧
    ((Reporter.errorAt first "end").position? = (Reporter.errorAt second "letter").position? →
      first.offset = second.offset) := by
  intro first second
  have inText : first.text = "é\n\nü" := rfl
  have inTextToo : second.text = "é\n\nü" := rfl
  have passed : first.consumed.toList = ['é', '\n'] := String.toList_ofList
  have passedToo : second.consumed.toList = ['é', '\n', '\n', 'ü'] := String.toList_ofList
  obtain ⟨stepped, row, ordered, named⟩ := position_is_exact inText inTextToo
  obtain ⟨steppedToo, -⟩ := position_is_exact inTextToo inText
  rw [passed] at stepped row
  rw [passedToo] at steppedToo
  exact ⟨inText, inTextToo, stepped, steppedToo, row, ordered, named "end" "letter"⟩

end TextGrammar
