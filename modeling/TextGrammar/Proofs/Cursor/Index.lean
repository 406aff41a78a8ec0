import TextGrammar.Proofs.Cursor.Session
import TextGrammar.Proofs.Text.Utf8

/-!
# Cursors as indices

A cursor counts bytes, but all that can be learned from it is what a plain index into the list of
characters tells. Where the index moves by one, the offset moves by the size of a character; where the
index searches the list for a place that is so many bytes further on, the cursor splits its text. So a
run on any number of cursors and marks gives the answers that indices give, and every offset that comes
up in it is a boundary of the text, at which the stored bytes may be cut.
-/

namespace TextGrammar

open Text

/-- The characters between two indices, of which the first is not greater. -/
def charsBetween (chars : List Char) (first last : Nat) : List Char :=
  (chars.take last).drop first

namespace Navigator

/-- Cursors over a text, with marks by their offset in bytes. -/
def byBytes : Navigator Cursor SavePoint where
  next? := Cursor.next?
  at? := Cursor.at?
  toEnd := Cursor.toEnd
  advance? := Cursor.advance?
  save := Cursor.save
  restore := Cursor.restore
  isAt := Cursor.isAt
  textBetween := Cursor.textBetween
  compare mark other := Ord.compare mark.offset other.offset

/-- Indices into a list of characters, up to its length. -/
def byIndex (chars : List Char) : Navigator (Fin (chars.length + 1)) (Fin (chars.length + 1)) where
  next? index :=
    if inside : index < chars.length then
      some (chars[index.val], ⟨index + 1, Nat.succ_lt_succ inside⟩)
    else none
  at? index := chars[index.val]?
  toEnd _ := Fin.last chars.length
  -- The one place that has so many bytes more before it, if there is one.
  advance? bytes index := (List.finRange (chars.length + 1)).find? fun target =>
    byteSize (chars.take target) == byteSize (chars.take index) + bytes
  save index := index
  restore mark _ := mark
  isAt mark index := index == mark
  textBetween mark index :=
    String.ofList (charsBetween chars (min mark.val index) (max mark.val index))
  compare mark other := Ord.compare mark.val other.val

end Navigator

/-! ## Sizes of starts -/

theorem take_eq_append_charsBetween (chars : List Char) {first last : Nat}
    (ordered : first ≤ last) :
    chars.take last = chars.take first ++ charsBetween chars first last := by
  have split := List.take_append_drop first (chars.take last)
  rw [List.take_take, Nat.min_eq_left ordered] at split
  exact split.symm

theorem drop_eq_charsBetween_append {chars : List Char} {first last : Nat}
    (ordered : first ≤ last) (inside : last ≤ chars.length) :
    chars.drop first = charsBetween chars first last ++ chars.drop last := by
  have length : first ≤ (chars.take last).length := by
    rw [List.length_take]
    omega
  rw [charsBetween, ← List.drop_append_of_le_length length, List.take_append_drop]

namespace Text

/-- A longer start of a list of characters has more bytes. -/
theorem byteSize_take_lt {chars : List Char} {first last : Nat} (less : first < last)
    (inside : last ≤ chars.length) : byteSize (chars.take first) < byteSize (chars.take last) := by
  obtain ⟨count, rfl⟩ := Nat.exists_eq_add_of_lt less
  rw [Nat.add_assoc, List.take_add, byteSize_append]
  have present : chars.drop first ≠ [] := by
    rw [Ne, List.drop_eq_nil_iff]
    omega
  obtain ⟨c, rest, after⟩ := List.exists_cons_of_ne_nil present
  have := c.utf8Size_pos
  rw [after, List.take_succ_cons, byteSize_cons]
  omega

variable {chars : List Char} (first last : Fin (chars.length + 1))

theorem compare_byteSize_take :
    compare (byteSize (chars.take first)) (byteSize (chars.take last)) =
      compare first.val last.val := by
  rcases Nat.lt_trichotomy first last with less | same | greater
  · rw [Nat.compare_eq_lt.2 less, Nat.compare_eq_lt.2 (byteSize_take_lt less (by omega))]
  · rw [same]
    simp
  · rw [Nat.compare_eq_gt.2 greater, Nat.compare_eq_gt.2 (byteSize_take_lt greater (by omega))]

theorem byteSize_take_le_iff :
    byteSize (chars.take first) ≤ byteSize (chars.take last) ↔ first.val ≤ last.val := by
  rw [← Nat.isLE_compare, compare_byteSize_take, Nat.isLE_compare]

theorem byteSize_take_eq_iff :
    byteSize (chars.take first) = byteSize (chars.take last) ↔ first = last := by
  rw [← Nat.compare_eq_eq, compare_byteSize_take, Nat.compare_eq_eq, Fin.ext_iff]

end Text

namespace Cursor

/-! ## The cursor at an index -/

/-- The cursor with so many characters before it. -/
def atIndex (chars : List Char) (index : Fin (chars.length + 1)) : Cursor :=
  ⟨(chars.take index).reverse, chars.drop index⟩

variable {chars : List Char} (mark index : Fin (chars.length + 1))

@[simp] theorem chars_atIndex : (atIndex chars index).chars = chars := by
  simp [atIndex, Cursor.chars]

@[simp] theorem offset_atIndex : (atIndex chars index).offset = byteSize (chars.take index) := by
  simp [atIndex, offset]

theorem next?_atIndex :
    (atIndex chars index).next? =
      ((Navigator.byIndex chars).next? index).map fun found =>
        (found.1, atIndex chars found.2) := by
  by_cases inside : index < chars.length
  · have found : (Navigator.byIndex chars).next? index =
        some (chars[index.val], ⟨index + 1, Nat.succ_lt_succ inside⟩) := dif_pos inside
    have after := List.drop_eq_getElem_cons inside
    have before := List.take_succ_eq_append_getElem inside
    rw [found, next?, atIndex, after]
    simp only [atIndex, before, Option.map_some, List.reverse_append, List.reverse_singleton,
      List.singleton_append]
  · have found : (Navigator.byIndex chars).next? index = none := dif_neg inside
    have after : chars.drop index = [] := List.drop_eq_nil_iff.2 (Nat.le_of_not_lt inside)
    rw [found, next?, atIndex, after]
    rfl

theorem at?_atIndex : (atIndex chars index).at? = chars[index.val]? := by
  simp [at?, atIndex]

theorem toEnd_atIndex : (atIndex chars index).toEnd = atIndex chars (Fin.last chars.length) := by
  simp [toEnd, atIndex, ← List.reverse_append]

/-- A cursor can advance just to where an index has so many bytes more before it. -/
theorem advance?_atIndex_eq_some_iff {bytes : Nat} {later : Cursor} :
    (atIndex chars index).advance? bytes = some later ↔
      ∃ target : Fin (chars.length + 1), atIndex chars target = later ∧
        byteSize (chars.take target) = byteSize (chars.take index) + bytes := by
  simp only [advance?, Option.map_eq_some_iff, Prod.exists, splitAtByte?_eq_some_iff]
  constructor
  · rintro ⟨front, back, ⟨after, size⟩, rfl⟩
    have after : chars.drop index = front ++ back := after
    have length := congrArg List.length after
    rw [List.length_drop, List.length_append] at length
    have taken : chars.take (index + front.length) = chars.take index ++ front := by
      rw [List.take_add, after, List.take_left]
    have dropped : chars.drop (index + front.length) = back := by
      rw [← List.drop_drop, after, List.drop_left]
    refine ⟨⟨index + front.length, by omega⟩, ?_, ?_⟩
    · simp [atIndex, taken, dropped]
    · rw [taken, byteSize_append, size]
  · rintro ⟨target, rfl, size⟩
    have ordered : index.val ≤ target := (byteSize_take_le_iff index target).1 (by omega)
    have taken := take_eq_append_charsBetween chars ordered
    refine ⟨charsBetween chars index target, chars.drop target, ⟨?_, ?_⟩, ?_⟩
    · exact drop_eq_charsBetween_append ordered (by omega)
    · rw [taken, byteSize_append] at size
      omega
    · simp [atIndex, taken]

/-- An index is found just where it has so many bytes more before it, since there is no other. -/
theorem byIndex_advance?_eq_some_iff {bytes : Nat} {target : Fin (chars.length + 1)} :
    (Navigator.byIndex chars).advance? bytes index = some target ↔
      byteSize (chars.take target) = byteSize (chars.take index) + bytes := by
  have size_of_found {target : Fin (chars.length + 1)}
      (found : (Navigator.byIndex chars).advance? bytes index = some target) :
      byteSize (chars.take target) = byteSize (chars.take index) + bytes := by
    simpa using List.find?_some (show List.find? _ _ = some target from found)
  constructor
  · exact size_of_found
  · intro size
    cases found : (Navigator.byIndex chars).advance? bytes index with
    | none =>
        have absent := List.find?_eq_none.1 found target (List.mem_finRange target)
        exact absurd (beq_iff_eq.2 size) absent
    | some other =>
        rw [(byteSize_take_eq_iff other target).1 ((size_of_found found).trans size.symm)]

theorem advance?_atIndex (bytes : Nat) :
    (atIndex chars index).advance? bytes =
      ((Navigator.byIndex chars).advance? bytes index).map (atIndex chars) := by
  refine Option.ext fun later => ?_
  simp only [Option.map_eq_some_iff, byIndex_advance?_eq_some_iff, advance?_atIndex_eq_some_iff,
    and_comm]

theorem restore_atIndex : (atIndex chars index).restore (atIndex chars mark).save =
    atIndex chars mark := by
  have split : splitAtByte? (byteSize (chars.take mark)) chars =
      some (chars.take mark, chars.drop mark) :=
    splitAtByte?_eq_some_iff.2 ⟨(List.take_append_drop _ _).symm, rfl⟩
  rw [restore, chars_atIndex, save, offset_atIndex, split]
  rfl

theorem isAt_atIndex : (atIndex chars index).isAt (atIndex chars mark).save = (index == mark) := by
  rw [Bool.eq_iff_iff]
  simp [isAt, save, byteSize_take_eq_iff]

theorem textBetween_atIndex : (atIndex chars index).textBetween (atIndex chars mark).save =
    String.ofList (charsBetween chars (min mark.val index) (max mark.val index)) := by
  rcases Nat.lt_or_ge index mark with ahead | behind
  · rw [Nat.min_eq_right (Nat.le_of_lt ahead), Nat.max_eq_left (Nat.le_of_lt ahead)]
    have taken := take_eq_append_charsBetween chars (Nat.le_of_lt ahead)
    have dropped := drop_eq_charsBetween_append (Nat.le_of_lt ahead) (by omega : mark.val ≤ chars.length)
    have distance : byteSize (chars.take mark) - byteSize (chars.take index) =
        byteSize (charsBetween chars index mark) := by
      rw [taken, byteSize_append, Nat.add_sub_cancel_left]
    have order : ¬byteSize (chars.take mark) ≤ byteSize (chars.take index) :=
      Nat.not_le_of_lt (byteSize_take_lt ahead (by omega))
    rw [textBetween, save, offset_atIndex, offset_atIndex, if_neg order, distance]
    simp only [atIndex, dropped, takeBytes_append]
  · rw [Nat.min_eq_left behind, Nat.max_eq_right behind]
    apply textBetween_of_before_eq
    simp only [atIndex]
    rw [take_eq_append_charsBetween chars behind, List.reverse_append]

/-- Cursors are images of indices. -/
theorem isImage_atIndex (chars : List Char) :
    Navigator.byBytes.IsImage (Navigator.byIndex chars) (atIndex chars)
      fun index => (atIndex chars index).save where
  next?_eq := next?_atIndex
  at?_eq := at?_atIndex
  toEnd_eq := toEnd_atIndex
  advance?_eq bytes index := advance?_atIndex index bytes
  save_eq _ := rfl
  restore_eq := restore_atIndex
  isAt_eq := isAt_atIndex
  textBetween_eq := textBetween_atIndex
  compare_eq mark other := by
    simp [Navigator.byBytes, Navigator.byIndex, save, compare_byteSize_take]

/-! ## Offsets in the stored text -/

/-- A cursor over a stored text. Its offset is a boundary of the text, so the text can be cut there into
what is consumed and what remains, of which it shows the first character. It moves by the size of that
character, to the size of the text, or by as many bytes as lead to another boundary. -/
structure IsOver (text : String) (cursor : Cursor) : Prop where
  text_eq : cursor.text = text
  offset_le : cursor.offset ≤ text.utf8ByteSize
  isBoundary : IsBoundary text cursor.offset
  isSlice_consumed : IsSlice text 0 cursor.offset cursor.consumed
  isSlice_remaining : IsSlice text cursor.offset text.utf8ByteSize cursor.remaining
  consumed_append_remaining : cursor.consumed ++ cursor.remaining = text
  at?_eq : cursor.at? = cursor.remaining.toList.head?
  offset_of_next? : ∀ c later, cursor.next? = some (c, later) →
    later.offset = cursor.offset + c.utf8Size
  offset_toEnd : cursor.toEnd.offset = text.utf8ByteSize
  isSome_advance?_iff : ∀ bytes,
    (cursor.advance? bytes).isSome = true ↔ IsBoundary text (cursor.offset + bytes)
  offset_of_advance? : ∀ bytes later, cursor.advance? bytes = some later →
    later.offset = cursor.offset + bytes

/-- The boundaries of a stored text are the sizes before its indices. -/
theorem isBoundary_ofList_iff_index {offset : Nat} :
    IsBoundary (String.ofList chars) offset ↔
      ∃ index : Fin (chars.length + 1), byteSize (chars.take index) = offset := by
  rw [isBoundary_ofList_iff]
  constructor
  · rintro ⟨front, back, rfl, size⟩
    exact ⟨⟨front.length, by rw [List.length_append]; omega⟩, by rw [List.take_left, size]⟩
  · rintro ⟨index, size⟩
    exact ⟨_, _, (List.take_append_drop index chars).symm, size⟩

theorem isOver_atIndex : IsOver (String.ofList chars) (atIndex chars index) := by
  have boundary := isSlice_ofList (chars.take index) [] (chars.drop index)
  have front := isSlice_ofList [] (chars.take index) (chars.drop index)
  have back := isSlice_ofList (chars.take index) (chars.drop index) []
  simp only [List.nil_append, List.append_nil, List.take_append_drop, byteSize_nil] at boundary front back
  have before : (atIndex chars index).consumed = String.ofList (chars.take index) := by
    simp [consumed, atIndex]
  constructor
  case text_eq => rw [text, chars_atIndex]
  case offset_le =>
    rw [offset_atIndex]
    exact boundary.first_isBoundary.le_utf8ByteSize
  case isBoundary =>
    rw [offset_atIndex]
    exact boundary.first_isBoundary
  case isSlice_consumed =>
    rw [offset_atIndex, before]
    exact front
  case isSlice_remaining =>
    rw [offset_atIndex, utf8ByteSize_ofList]
    exact back
  case consumed_append_remaining =>
    rw [before, remaining, ← String.ofList_append]
    exact congrArg String.ofList (List.take_append_drop _ _)
  case at?_eq => rw [at?, remaining, String.toList_ofList]
  case offset_of_next? =>
    intro c later next
    rw [next?] at next
    split at next
    · cases next
    · cases next
      rw [offset, offset, byteSize_cons, Nat.add_comm]
  case offset_toEnd => rw [toEnd_atIndex, offset_atIndex, utf8ByteSize_ofList, Fin.val_last,
    List.take_length]
  case isSome_advance?_iff =>
    intro bytes
    rw [Option.isSome_iff_exists, isBoundary_ofList_iff_index, offset_atIndex]
    simp only [advance?_atIndex_eq_some_iff]
    constructor
    · rintro ⟨later, target, -, size⟩
      exact ⟨target, size⟩
    · rintro ⟨target, size⟩
      exact ⟨_, target, rfl, size⟩
  case offset_of_advance? =>
    intro bytes later advanced
    obtain ⟨target, rfl, size⟩ := (advance?_atIndex_eq_some_iff index).1 advanced
    rw [offset_atIndex, offset_atIndex, size]

theorem isSlice_charsBetween {first last : Nat} (ordered : first ≤ last) :
    IsSlice (String.ofList chars) (byteSize (chars.take first)) (byteSize (chars.take last))
      (String.ofList (charsBetween chars first last)) := by
  have taken := take_eq_append_charsBetween chars ordered
  have slice := isSlice_ofList (chars.take first) (charsBetween chars first last) (chars.drop last)
  rwa [← taken, List.take_append_drop] at slice

/-- The text between a mark and a cursor is what is stored between their offsets. -/
theorem isSlice_textBetween_atIndex :
    IsSlice (String.ofList chars)
      (min (atIndex chars mark).save.offset (atIndex chars index).offset)
      (max (atIndex chars mark).save.offset (atIndex chars index).offset)
      ((atIndex chars index).textBetween (atIndex chars mark).save) := by
  rw [textBetween_atIndex, save, offset_atIndex, offset_atIndex]
  rcases Nat.le_total mark index with behind | ahead
  · have sizes := (byteSize_take_le_iff mark index).2 behind
    rw [Nat.min_eq_left behind, Nat.max_eq_right behind, Nat.min_eq_left sizes,
      Nat.max_eq_right sizes]
    exact isSlice_charsBetween behind
  · have sizes := (byteSize_take_le_iff index mark).2 ahead
    rw [Nat.min_eq_right ahead, Nat.max_eq_left ahead, Nat.min_eq_right sizes,
      Nat.max_eq_left sizes]
    exact isSlice_charsBetween ahead

/-! ## Runs -/

/-- Whatever is done with cursors over a text, the answers are those of indices into its characters, and
the cursors are where the indices are. Each of them stands at a boundary of the stored text and goes
to others; it can go back to the offset of each mark, and the text between them can be cut out. -/
theorem runs_as_indices (text : String) (actions : List CursorAction) :
    let byBytes := Navigator.byBytes.run ⟨[ofText text], []⟩ actions
    let byIndex := (Navigator.byIndex text.toList).run ⟨[0], []⟩ actions
    byBytes.1 = byIndex.1 ∧
    byBytes.2.cursors = byIndex.2.cursors.map (atIndex text.toList) ∧
    ∀ cursor ∈ byBytes.2.cursors, cursor.IsOver text ∧
      ∀ mark ∈ byBytes.2.marks, (cursor.restore mark).offset = mark.offset ∧
        IsSlice text (min mark.offset cursor.offset) (max mark.offset cursor.offset)
          (cursor.textBetween mark) := by
  intro byBytes byIndex
  have run : byBytes = (byIndex.1, byIndex.2.map (atIndex text.toList)
      fun index => (atIndex text.toList index).save) :=
    (isImage_atIndex text.toList).run_map ⟨[0], []⟩ actions
  rw [run]
  refine ⟨rfl, rfl, fun cursor member => ?_⟩
  obtain ⟨index, -, rfl⟩ := List.mem_map.1 member
  have isOver := isOver_atIndex index
  rw [String.ofList_toList] at isOver
  refine ⟨isOver, fun mark member => ?_⟩
  obtain ⟨saved, -, rfl⟩ := List.mem_map.1 member
  have slice := isSlice_textBetween_atIndex saved index
  rw [String.ofList_toList] at slice
  exact ⟨congrArg offset (restore_atIndex saved index), slice⟩

/-- A mark at the start, a cursor that cannot advance into a character, and another one that goes on. -/
def accentedWalk : List CursorAction :=
  [.save 0, .advance 1 0, .advance 2 0, .clone 0, .next 1, .textBetween 0 1, .restore 0 0,
    .isAt 0 0, .save 1, .compare 0 1]

theorem runs_as_indices_accentedWalk :
    let walk := Navigator.byBytes.run ⟨[ofText "é!"], []⟩ accentedWalk
    walk.1 = [.done, .truth false, .truth true, .done, .character (some '!'), .text "é!", .done,
      .truth true, .done, .order .lt] ∧
    ∃ cursor ∈ walk.2.cursors, ∃ mark ∈ walk.2.marks, cursor.offset = 3 ∧ mark.offset = 0 ∧
      cursor.IsOver "é!" ∧ IsSlice "é!" 0 3 (cursor.textBetween mark) := by
  intro walk
  obtain ⟨answers, -, standing⟩ := runs_as_indices "é!" accentedWalk
  have cursorMember : (⟨['!', 'é'], []⟩ : Cursor) ∈ walk.2.cursors :=
    List.mem_of_getElem? (rfl : walk.2.cursors[1]? = some _)
  have markMember : (⟨0⟩ : SavePoint) ∈ walk.2.marks :=
    List.mem_of_getElem? (rfl : walk.2.marks[0]? = some _)
  exact ⟨answers.trans rfl, _, cursorMember, _, markMember, rfl, rfl, (standing _ cursorMember).1,
    ((standing _ cursorMember).2 _ markMember).2⟩

end Cursor

end TextGrammar
