import TextGrammar.Proofs.Cursor.Index

/-!
# Cursors as offsets into a stored text

A cursor may be kept as the whole text, as it is stored, and the number of bytes before the place. Then
it moves by adding to that number, looks whether a byte begins a character before it advances, and cuts
the stored bytes to get a text. A place to go back to is taken on trust. Still all numbers that come up
are boundaries of the text, so there is always something to cut, and such cursors give the answers of
those that keep the characters before and behind a place, whatever is done with them.
-/

namespace TextGrammar

open Text

/-- The part of a stored text between two places, if it can be cut out there. -/
def Text.slice? (text : String) (first last : Nat) : Option String :=
  if cut : (String.Pos.Raw.mk first).IsValid text ∧ (String.Pos.Raw.mk last).IsValid text ∧
      first ≤ last then
    some (String.extract (text.pos ⟨first⟩ cut.1) (text.pos ⟨last⟩ cut.2.1))
  else none

/-- What is cut out of a text is its slice, and every slice can be cut out. -/
theorem Text.slice?_eq_some_iff {text part : String} {first last : Nat} :
    slice? text first last = some part ↔ IsSlice text first last part := by
  by_cases cut : (String.Pos.Raw.mk first).IsValid text ∧ (String.Pos.Raw.mk last).IsValid text ∧
      first ≤ last
  · have bytes : (String.extract (text.pos ⟨first⟩ cut.1) (text.pos ⟨last⟩ cut.2.1)).toByteArray =
        text.toByteArray.extract first last := String.toByteArray_extract
    rw [slice?, dif_pos cut, Option.some_inj, ← String.toByteArray_inj, bytes]
    constructor
    · intro same
      exact ⟨cut.1, cut.2.1, cut.2.2, same.symm⟩
    · intro slice
      exact slice.bytes_eq.symm
  · rw [slice?, dif_neg cut]
    constructor
    · intro found
      cases found
    · intro slice
      exact absurd ⟨slice.first_isBoundary, slice.last_isBoundary, slice.first_le_last⟩ cut

/-- A stored text and the number of bytes before a place in it. -/
structure StoredCursor where
  text : String
  offset : Nat
  deriving DecidableEq, Repr

namespace StoredCursor

/-- A cursor at the start of a text. -/
def ofText (text : String) : StoredCursor :=
  ⟨text, 0⟩

/-- The text before the cursor. -/
def consumed (cursor : StoredCursor) : String :=
  (slice? cursor.text 0 cursor.offset).getD ""

/-- The text behind the cursor. -/
def remaining (cursor : StoredCursor) : String :=
  (slice? cursor.text cursor.offset cursor.text.utf8ByteSize).getD ""

/-- Whether no text is left. -/
def isEmpty (cursor : StoredCursor) : Bool :=
  cursor.offset == cursor.text.utf8ByteSize

/-- The character behind the cursor. -/
def at? (cursor : StoredCursor) : Option Char :=
  cursor.remaining.toList.head?

/-- The character behind the cursor together with the cursor as many bytes further on as it has. -/
def next? (cursor : StoredCursor) : Option (Char × StoredCursor) :=
  cursor.at?.map fun c => (c, { cursor with offset := cursor.offset + c.utf8Size })

/-- The cursor at the end of its text. -/
def toEnd (cursor : StoredCursor) : StoredCursor :=
  { cursor with offset := cursor.text.utf8ByteSize }

/-- The cursor a number of bytes further on, unless the text is shorter or the byte there does not begin
a character. -/
def advance? (bytes : Nat) (cursor : StoredCursor) : Option StoredCursor :=
  let target := cursor.offset + bytes
  if target > cursor.text.utf8ByteSize || !String.Pos.Raw.isValid cursor.text ⟨target⟩ then none
  else some { cursor with offset := target }

/-- The place of the cursor. -/
def save (cursor : StoredCursor) : SavePoint :=
  ⟨cursor.offset⟩

/-- The cursor moved to a place, which is taken on trust. -/
def restore (place : SavePoint) (cursor : StoredCursor) : StoredCursor :=
  { cursor with offset := place.offset }

/-- Whether the cursor stands at a place. -/
def isAt (place : SavePoint) (cursor : StoredCursor) : Bool :=
  cursor.offset == place.offset

/-- The text between a place and the cursor, whichever comes first. -/
def textBetween (place : SavePoint) (cursor : StoredCursor) : String :=
  (slice? cursor.text (min place.offset cursor.offset) (max place.offset cursor.offset)).getD ""

end StoredCursor

/-- Cursors over a stored text. -/
def Navigator.stored : Navigator StoredCursor SavePoint where
  next? := StoredCursor.next?
  at? := StoredCursor.at?
  toEnd := StoredCursor.toEnd
  advance? := StoredCursor.advance?
  save := StoredCursor.save
  restore := StoredCursor.restore
  isAt := StoredCursor.isAt
  textBetween := StoredCursor.textBetween
  compare mark other := Ord.compare mark.offset other.offset

namespace Cursor

/-- The text of a cursor as it is stored, with the offset of the cursor. -/
def stored (cursor : Cursor) : StoredCursor :=
  ⟨cursor.text, cursor.offset⟩

/-! ## One operation -/

/-- The offset is the size of the text just where no character is left. -/
theorem isEmpty_stored (cursor : Cursor) : cursor.stored.isEmpty = cursor.isEmpty := by
  rw [Bool.eq_iff_iff]
  simp [StoredCursor.isEmpty, stored, isEmpty, text, chars, offset, utf8ByteSize_ofList]

/-! At a boundary there is something to cut, and a move leads to another one. -/

namespace IsOver

variable {text : String} {cursor : Cursor}

theorem consumed_stored (isOver : cursor.IsOver text) :
    cursor.stored.consumed = cursor.consumed := by
  have found := slice?_eq_some_iff.2 isOver.isSlice_consumed
  rw [← isOver.text_eq] at found
  rw [StoredCursor.consumed, stored, found, Option.getD_some]

theorem remaining_stored (isOver : cursor.IsOver text) :
    cursor.stored.remaining = cursor.remaining := by
  have found := slice?_eq_some_iff.2 isOver.isSlice_remaining
  rw [← isOver.text_eq] at found
  rw [StoredCursor.remaining, stored, found, Option.getD_some]

theorem at?_stored (isOver : cursor.IsOver text) : cursor.stored.at? = cursor.at? := by
  rw [StoredCursor.at?, isOver.remaining_stored, isOver.at?_eq]

/-- The offset moves by the size of the character that is shown. -/
theorem next?_stored (isOver : cursor.IsOver text) :
    cursor.stored.next? = cursor.next?.map fun found => (found.1, found.2.stored) := by
  have shown : cursor.at? = cursor.next?.map Prod.fst := by
    rw [at?, next?]
    cases cursor.after <;> rfl
  rw [StoredCursor.next?, isOver.at?_stored, shown]
  cases next : cursor.next? with
  | none => rfl
  | some found =>
      have offset := isOver.offset_of_next? found.1 found.2 next
      have same : found.2.text = cursor.text := congrArg String.ofList (chars_of_next? next)
      simp only [Option.map_some, stored, offset, same]

theorem toEnd_stored (isOver : cursor.IsOver text) : cursor.stored.toEnd = cursor.toEnd.stored := by
  have same : cursor.toEnd.text = cursor.text := congrArg String.ofList (chars_toEnd cursor)
  simp only [StoredCursor.toEnd, stored, same, isOver.offset_toEnd, isOver.text_eq]

/-- Both tests together say whether the target is a boundary. -/
theorem advance?_stored (isOver : cursor.IsOver text) (bytes : Nat) :
    cursor.stored.advance? bytes = (cursor.advance? bytes).map stored := by
  have possible := isOver.isSome_advance?_iff bytes
  rw [← isOver.text_eq] at possible
  rw [StoredCursor.advance?]
  cases advanced : cursor.advance? bytes with
  | none =>
      rw [advanced] at possible
      have stuck : String.Pos.Raw.isValid cursor.text ⟨cursor.offset + bytes⟩ = false := by
        rw [← Bool.not_eq_true, String.Pos.Raw.isValid_eq_true_iff]
        exact fun boundary => absurd (possible.2 boundary) Bool.false_ne_true
      simp [stored, stuck]
  | some later =>
      rw [advanced] at possible
      have boundary := possible.1 rfl
      have inside := boundary.le_utf8ByteSize
      have offset := isOver.offset_of_advance? bytes later advanced
      have same : later.text = cursor.text := congrArg String.ofList (chars_of_advance? advanced)
      rw [IsBoundary, ← String.Pos.Raw.isValid_eq_true_iff] at boundary
      simp [stored, boundary, inside, offset, same]

end IsOver

theorem restore_stored (mark cursor : Cursor) (same : mark.text = cursor.text) :
    cursor.stored.restore mark.save = mark.stored := by
  rw [StoredCursor.restore, stored, stored, same, save]

theorem textBetween_stored_atIndex {chars : List Char} (mark index : Fin (chars.length + 1)) :
    (atIndex chars index).stored.textBetween (atIndex chars mark).save =
      (atIndex chars index).textBetween (atIndex chars mark).save := by
  have slice := isSlice_textBetween_atIndex mark index
  rw [← (isOver_atIndex index).text_eq] at slice
  rw [StoredCursor.textBetween, stored, slice?_eq_some_iff.2 slice, Option.getD_some]

/-! ## Runs -/

/-- Cursors over a stored text are images of indices, as others are. -/
theorem isImage_stored_atIndex (chars : List Char) :
    Navigator.stored.IsImage (Navigator.byIndex chars) (fun index => (atIndex chars index).stored)
      fun index => (atIndex chars index).save where
  next?_eq index := by
    simp only [Navigator.stored, (isOver_atIndex index).next?_stored, next?_atIndex, Option.map_map,
      Function.comp_def]
  at?_eq index := by
    simp only [Navigator.stored, (isOver_atIndex index).at?_stored, at?_atIndex, Navigator.byIndex]
  toEnd_eq index := by
    simp only [Navigator.stored, (isOver_atIndex index).toEnd_stored, toEnd_atIndex,
      Navigator.byIndex]
  advance?_eq bytes index := by
    simp only [Navigator.stored, (isOver_atIndex index).advance?_stored, advance?_atIndex,
      Option.map_map, Function.comp_def]
  save_eq index := rfl
  restore_eq mark index := restore_stored _ _ (by rw [text, text, chars_atIndex, chars_atIndex])
  isAt_eq := isAt_atIndex
  textBetween_eq mark index := by
    simp only [Navigator.stored, textBetween_stored_atIndex, textBetween_atIndex, Navigator.byIndex]
  compare_eq := (isImage_atIndex chars).compare_eq

/-- A run on a stored text from its start on, as a run of indices. -/
theorem run_stored_eq_map (text : String) (actions : List CursorAction) :
    let run := (Navigator.byIndex text.toList).run ⟨[0], []⟩ actions
    Navigator.stored.run ⟨[.ofText text], []⟩ actions =
      (run.1, run.2.map (fun index => (atIndex text.toList index).stored)
        fun index => (atIndex text.toList index).save) := by
  intro run
  have start : (atIndex text.toList 0).stored = .ofText text := by
    simp [stored, StoredCursor.ofText, Cursor.text]
  rw [← start]
  exact (isImage_stored_atIndex text.toList).run_map ⟨[0], []⟩ actions

/-- Whatever is done with cursors over a stored text, the answers and the marks are those of cursors
between characters, and so are the text and the offset of every cursor. -/
theorem run_stored (text : String) (actions : List CursorAction) :
    let run := Navigator.byBytes.run ⟨[ofText text], []⟩ actions
    Navigator.stored.run ⟨[.ofText text], []⟩ actions = (run.1, run.2.map stored id) := by
  intro run
  have byBytes : run = _ := (isImage_atIndex text.toList).run_map ⟨[0], []⟩ actions
  rw [run_stored_eq_map, byBytes]
  simp only [Session.map, List.map_map, Function.comp_def, id_eq]

/-- In a run on a stored text no cut is ever refused: neither those before a cursor and behind it nor
those between cursors and marks. -/
theorem isSlice_of_run_stored (text : String) (actions : List CursorAction) :
    let session := (Navigator.stored.run ⟨[.ofText text], []⟩ actions).2
    ∀ cursor ∈ session.cursors, cursor.text = text ∧
      IsSlice text 0 cursor.offset cursor.consumed ∧
      IsSlice text cursor.offset text.utf8ByteSize cursor.remaining ∧
      ∀ mark ∈ session.marks, IsSlice text (min mark.offset cursor.offset)
        (max mark.offset cursor.offset) (cursor.textBetween mark) := by
  intro session cursor member
  have image := congrArg Prod.snd (run_stored_eq_map text actions)
  simp only [session, image, Session.map, List.mem_map] at member ⊢
  rcases member with ⟨index, -, rfl⟩
  have isOver := isOver_atIndex index
  rw [String.ofList_toList] at isOver
  refine ⟨isOver.text_eq, ?_, ?_, ?_⟩
  · rw [isOver.consumed_stored]
    exact isOver.isSlice_consumed
  · rw [isOver.remaining_stored]
    exact isOver.isSlice_remaining
  · intro mark saved
    rcases saved with ⟨place, -, rfl⟩
    rw [textBetween_stored_atIndex]
    have slice := isSlice_textBetween_atIndex place index
    rwa [String.ofList_toList] at slice

end Cursor

end TextGrammar
