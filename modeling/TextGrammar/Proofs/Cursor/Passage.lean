import TextGrammar.Cursor

/-!
# Passages

A cursor that moves forward passes over the characters between its old and its new place. Passages
over one text compose, and everything that a cursor answers about its two places follows from the
characters it has passed: the text between them and the distance in bytes.
-/

namespace TextGrammar.Cursor

open Text

/-- A cursor has come from another one by passing over the given characters. -/
structure Passes (start : Cursor) (passed : List Char) (finish : Cursor) : Prop where
  before_eq : finish.before = passed.reverse ++ start.before
  after_eq : start.after = passed ++ finish.after

namespace Passes

variable {start middle finish : Cursor} {front back passed : List Char}

theorem refl (cursor : Cursor) : cursor.Passes [] cursor :=
  ⟨rfl, rfl⟩

theorem trans (first : start.Passes front middle) (second : middle.Passes back finish) :
    start.Passes (front ++ back) finish := by
  constructor
  · rw [second.before_eq, first.before_eq, List.reverse_append, List.append_assoc]
  · rw [first.after_eq, second.after_eq, List.append_assoc]

theorem offset_eq (passage : start.Passes passed finish) :
    finish.offset = start.offset + byteSize passed := by
  simp [offset, passage.before_eq, Nat.add_comm]

theorem offset_le (passage : start.Passes passed finish) : start.offset ≤ finish.offset := by
  rw [passage.offset_eq]
  exact Nat.le_add_right _ _

/-- The text between the two places is what was passed over. -/
theorem textBetween_eq (passage : start.Passes passed finish) :
    finish.textBetween start.save = String.ofList passed :=
  textBetween_of_before_eq passage.before_eq

/-- The cursor behind is found by counting what is passed over. -/
theorem eq_skip (passage : start.Passes passed finish) : finish = start.skip passed.length := by
  obtain ⟨before, after⟩ := finish
  obtain ⟨rfl, text_eq⟩ := passage
  simp [skip, text_eq]

/-- A cursor can advance by the bytes of what is passed over. -/
theorem advance?_byteSize (passage : start.Passes passed finish) :
    start.advance? (byteSize passed) = some finish := by
  rw [advance?, passage.after_eq, splitAtByte?_append, Option.map_some, ← passage.before_eq]

/-- A cursor that has passed over something does not stand where it was. -/
theorem isAt_eq_false (passage : start.Passes passed finish) (nonempty : passed ≠ []) :
    finish.isAt start.save = false := by
  have size : byteSize passed ≠ 0 := fun empty => nonempty (byteSize_eq_zero.1 empty)
  simp only [isAt, save, passage.offset_eq, beq_eq_false_iff_ne]
  omega

end Passes

/-- A cursor can be reached from another one by moving forward. -/
def Reaches (start finish : Cursor) : Prop :=
  ∃ passed, start.Passes passed finish

namespace Reaches

variable {start middle finish : Cursor}

theorem offset_le (reached : start.Reaches finish) : start.offset ≤ finish.offset := by
  rcases reached with ⟨passed, passage⟩
  exact passage.offset_le

theorem refl (cursor : Cursor) : cursor.Reaches cursor :=
  ⟨[], .refl cursor⟩

theorem trans (first : start.Reaches middle) (second : middle.Reaches finish) :
    start.Reaches finish := by
  rcases first with ⟨front, passage⟩
  rcases second with ⟨back, further⟩
  exact ⟨front ++ back, passage.trans further⟩

theorem length_after_le (reached : start.Reaches finish) :
    finish.after.length ≤ start.after.length := by
  rcases reached with ⟨passed, passage⟩
  rw [passage.after_eq, List.length_append]
  exact Nat.le_add_left _ _

/-- A cursor that has moved on has less text left. -/
theorem length_after_lt (reached : start.Reaches finish)
    (moved : finish.isAt start.save = false) : finish.after.length < start.after.length := by
  rcases reached with ⟨passed, passage⟩
  rw [passage.after_eq, List.length_append]
  cases passed with
  | nil => simp [isAt, save, passage.offset_eq] at moved
  | cons c rest => simp

theorem chars_eq (reached : start.Reaches finish) : finish.chars = start.chars := by
  rcases reached with ⟨passed, passage⟩
  simp [chars, passage.before_eq, passage.after_eq]

/-- However far a cursor has moved on, it can go back to where it was. -/
theorem restore_save (reached : start.Reaches finish) : finish.restore start.save = start := by
  have split := splitAtByte?_append start.before.reverse start.after
  rw [byteSize_reverse] at split
  rw [restore, save, offset, reached.chars_eq, chars, split]
  simp

end Reaches

theorem reaches_next (before : List Char) (c : Char) (rest : List Char) :
    Reaches ⟨before, c :: rest⟩ ⟨c :: before, rest⟩ :=
  ⟨[c], rfl, rfl⟩

theorem reaches_skip (count : Nat) (cursor : Cursor) : cursor.Reaches (cursor.skip count) :=
  ⟨cursor.after.take count, rfl, (List.take_append_drop count cursor.after).symm⟩

/-- Skipping the first characters of the remaining text passes over them. -/
theorem passes_skip {cursor : Cursor} {passed rest : List Char}
    (after : cursor.after = passed ++ rest) :
    cursor.Passes passed (cursor.skip passed.length) := by
  constructor
  · simp [skip, after]
  · simp [skip, after]

/-! ## Text in front

More text may be put in front of the text of a cursor, with the cursor left at its place. The offset
grows by the size of the new text; everything else that a cursor answers, of itself and of places
that have moved along with it, stays the same. -/

/-- The cursor with more text in front of its own. -/
def withFront (front : List Char) (cursor : Cursor) : Cursor :=
  ⟨cursor.before ++ front.reverse, cursor.after⟩

variable (front : List Char)

@[simp] theorem after_withFront (cursor : Cursor) : (cursor.withFront front).after = cursor.after :=
  rfl

@[simp] theorem at?_withFront (cursor : Cursor) : (cursor.withFront front).at? = cursor.at? := rfl

@[simp] theorem isEmpty_withFront (cursor : Cursor) :
    (cursor.withFront front).isEmpty = cursor.isEmpty := rfl

@[simp] theorem offset_withFront (cursor : Cursor) :
    (cursor.withFront front).offset = byteSize front + cursor.offset := by
  simp [offset, withFront, Nat.add_comm]

@[simp] theorem isAt_withFront (start cursor : Cursor) :
    (cursor.withFront front).isAt (start.withFront front).save = cursor.isAt start.save := by
  rw [Bool.eq_iff_iff]
  simp [isAt, save]

@[simp] theorem skip_withFront (count : Nat) (cursor : Cursor) :
    (cursor.withFront front).skip count = (cursor.skip count).withFront front := by
  simp [skip, withFront]

/-- The text between two places does not depend on what is before both of them. -/
theorem textBetween_withFront {start cursor : Cursor} (reached : start.Reaches cursor) :
    (cursor.withFront front).textBetween (start.withFront front).save =
      cursor.textBetween start.save := by
  rcases reached with ⟨passed, passage⟩
  rw [passage.textBetween_eq]
  apply textBetween_of_before_eq
  simp [withFront, passage.before_eq]

/-- Behind a text that is followed by another, a cursor stands at the start of the other one, with the
text in front. -/
theorem advance?_ofText_append (frontText text : String) :
    (ofText (frontText ++ text)).advance? (byteSize frontText.toList) =
      some ((ofText text).withFront frontText.toList) := by
  simp [advance?, withFront, ofText, splitAtByte?_append]

end TextGrammar.Cursor
