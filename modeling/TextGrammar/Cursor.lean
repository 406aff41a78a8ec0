import TextGrammar.Text.Bytes

/-!
# Cursors

A cursor is a place in a text: the characters before it, nearest first, and the characters after it.
So a cursor always stands between two characters, and moving it never changes the text. Places are
named by their offset in bytes, and a save point is such an offset, to which any cursor over the
same text can return.
-/

namespace TextGrammar

open Text

/-- A place in a text. -/
structure Cursor where
  /-- The characters already passed, the nearest first. -/
  before : List Char
  /-- The characters still to come. -/
  after : List Char
  deriving DecidableEq, Repr

/-- A place that a cursor can return to, by its offset in bytes. -/
structure SavePoint where
  offset : Nat
  deriving DecidableEq, Repr

namespace Cursor

/-- A cursor at the start of a text. -/
def ofText (text : String) : Cursor :=
  ⟨[], text.toList⟩

/-- The whole text, as characters. -/
def chars (cursor : Cursor) : List Char :=
  cursor.before.reverse ++ cursor.after

/-- The whole text. -/
def text (cursor : Cursor) : String :=
  String.ofList cursor.chars

/-- The text before the cursor. -/
def consumed (cursor : Cursor) : String :=
  String.ofList cursor.before.reverse

/-- The text after the cursor. -/
def remaining (cursor : Cursor) : String :=
  String.ofList cursor.after

/-- The number of bytes before the cursor. -/
def offset (cursor : Cursor) : Nat :=
  byteSize cursor.before

/-- The character after the cursor. -/
def at? (cursor : Cursor) : Option Char :=
  cursor.after.head?

/-- Whether no text is left. -/
def isEmpty (cursor : Cursor) : Bool :=
  cursor.after.isEmpty

/-- The character after the cursor together with the cursor behind it. -/
def next? (cursor : Cursor) : Option (Char × Cursor) :=
  match cursor.after with
  | [] => none
  | c :: rest => some (c, ⟨c :: cursor.before, rest⟩)

/-- The cursor behind the next character. At the end of the text it stays where it is. -/
def forward (cursor : Cursor) : Cursor :=
  match cursor.next? with
  | some (_, later) => later
  | none => cursor

/-- The cursor after as many characters as given, or at the end if there are fewer. -/
def skip (count : Nat) (cursor : Cursor) : Cursor :=
  ⟨(cursor.after.take count).reverse ++ cursor.before, cursor.after.drop count⟩

/-- The cursor at the end of its text. -/
def toEnd (cursor : Cursor) : Cursor :=
  ⟨cursor.after.reverse ++ cursor.before, []⟩

/-- The cursor a number of bytes further on, if there is a boundary of the text. -/
def advance? (bytes : Nat) (cursor : Cursor) : Option Cursor :=
  (splitAtByte? bytes cursor.after).map fun parts =>
    ⟨parts.1.reverse ++ cursor.before, parts.2⟩

/-- The place of the cursor. -/
def save (cursor : Cursor) : SavePoint :=
  ⟨cursor.offset⟩

/-- The cursor moved to a place of its text. A place that is no boundary of the text leaves it where
it is. -/
def restore (place : SavePoint) (cursor : Cursor) : Cursor :=
  match splitAtByte? place.offset cursor.chars with
  | some (front, back) => ⟨front.reverse, back⟩
  | none => cursor

/-- Whether the cursor stands at a place. -/
def isAt (place : SavePoint) (cursor : Cursor) : Bool :=
  cursor.offset == place.offset

/-- The text between a place and the cursor, whichever comes first. -/
def textBetween (place : SavePoint) (cursor : Cursor) : String :=
  if place.offset ≤ cursor.offset then
    String.ofList (takeBytes (cursor.offset - place.offset) cursor.before).reverse
  else
    String.ofList (takeBytes (place.offset - cursor.offset) cursor.after)

@[simp] theorem chars_toEnd (cursor : Cursor) : cursor.toEnd.chars = cursor.chars := by
  simp [chars, toEnd]

theorem chars_of_next? {cursor later : Cursor} {c : Char}
    (next : cursor.next? = some (c, later)) : later.chars = cursor.chars := by
  obtain ⟨before, after⟩ := cursor
  cases after with
  | nil => simp [next?] at next
  | cons head rest =>
      simp only [next?, Option.some.injEq, Prod.mk.injEq] at next
      obtain ⟨rfl, rfl⟩ := next
      simp [chars]

theorem chars_of_advance? {bytes : Nat} {cursor later : Cursor}
    (advanced : cursor.advance? bytes = some later) : later.chars = cursor.chars := by
  obtain ⟨⟨front, back⟩, split, rfl⟩ := Option.map_eq_some_iff.1 advanced
  obtain ⟨after, -⟩ := splitAtByte?_eq_some_iff.1 split
  simp [chars, after]

@[simp] theorem offset_ofText (text : String) : (ofText text).offset = 0 := rfl

/-- The text between a cursor and a later one of the same text is what was passed over. -/
theorem textBetween_of_before_eq {start finish : Cursor} {passed : List Char}
    (before : finish.before = passed.reverse ++ start.before) :
    finish.textBetween start.save = String.ofList passed := by
  have size : finish.offset = byteSize passed + start.offset := by
    simp [offset, before]
  have distance : finish.offset - start.save.offset = byteSize passed.reverse := by
    simp [save, size]
  have order : start.save.offset ≤ finish.offset := by
    simp [save, size]
  simp only [textBetween, order, if_true, distance, before, takeBytes_append,
    List.reverse_reverse]

@[simp] theorem restore_save (cursor : Cursor) : cursor.restore cursor.save = cursor := by
  have split := splitAtByte?_append cursor.before.reverse cursor.after
  rw [byteSize_reverse] at split
  simp [restore, save, offset, chars, split]

end Cursor

/-! ## Lines and columns

People are told places by column and row, both counted from one. A row ends with a line feed; the
column counts the characters since the last one. -/

/-- A place in a text by column and row. -/
structure Position where
  column : Nat
  row : Nat
  deriving DecidableEq, Repr

namespace Position

/-- The start of a text. -/
def start : Position := ⟨1, 1⟩

/-- The place behind a character. -/
def step (position : Position) (c : Char) : Position :=
  if c = '\n' then ⟨1, position.row + 1⟩ else ⟨position.column + 1, position.row⟩

/-- The place as messages write it. -/
def display (position : Position) : String :=
  "(" ++ toString position.column ++ "," ++ toString position.row ++ ")"

end Position

/-- The column and row of a cursor: the row counts the line feeds before it, the column the
characters since the last of them. -/
def Cursor.position (cursor : Cursor) : Position where
  column := (cursor.before.takeWhile (· ≠ '\n')).length + 1
  row := cursor.before.count '\n' + 1

end TextGrammar
