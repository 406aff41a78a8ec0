import TextGrammar.Text.Bytes

/-!
# Texts as bytes

A text is stored as the bytes of its UTF-8 form. Counting the bytes of its characters gives the size
of that form; the places where a list of characters splits are the boundaries of the stored text; and
a part of a text that lies between two such places has just the bytes that are stored between them.
-/

namespace TextGrammar.Text

theorem utf8ByteSize_ofList (text : List Char) :
    (String.ofList text).utf8ByteSize = byteSize text := by
  induction text with
  | nil => rfl
  | cons c rest ih =>
      rw [String.ofList_cons, String.utf8ByteSize_append, String.utf8ByteSize_singleton, ih,
        byteSize_cons]

theorem utf8ByteSize_eq_byteSize (text : String) : text.utf8ByteSize = byteSize text.toList := by
  rw [← utf8ByteSize_ofList, String.ofList_toList]

theorem byteSize_eq_size_utf8Encode (text : List Char) :
    byteSize text = text.utf8Encode.size := by
  rw [← utf8ByteSize_ofList, ← String.size_toByteArray, String.toByteArray_ofList]

theorem endsWith_iff {text ending : List Char} :
    endsWith text ending = true ↔ ∃ front : ByteArray, text.utf8Encode = front ++ ending.utf8Encode := by
  rw [endsWith, List.isSuffixOf_iff_suffix]
  constructor
  · rintro ⟨front, bytes⟩
    refine ⟨⟨front.toArray⟩, ByteArray.ext ?_⟩
    simp [List.utf8Encode, ← bytes]
  · rintro ⟨front, bytes⟩
    refine ⟨front.data.toList, ?_⟩
    have stored := congrArg (fun array => array.data.toList) bytes
    simpa [List.utf8Encode] using stored.symm

/-- Where two texts of one size are stored as the ends of the same bytes, they are the same. -/
theorem eq_of_utf8Encode_append_eq {front : ByteArray} {used back rest : List Char}
    (bytes : (used ++ back).utf8Encode = front ++ rest.utf8Encode)
    (size : byteSize back = byteSize rest) : back = rest := by
  rw [List.utf8Encode_append] at bytes
  have whole := congrArg ByteArray.size bytes
  rw [ByteArray.size_append, ByteArray.size_append, ← byteSize_eq_size_utf8Encode back, size,
    ← byteSize_eq_size_utf8Encode rest] at whole
  obtain rfl := ByteArray.append_inj_left bytes (Nat.add_right_cancel whole)
  have stored := (ByteArray.append_right_inj _).1 bytes
  rw [← String.toByteArray_ofList, ← String.toByteArray_ofList] at stored
  exact String.ofList_injective (String.toByteArray_inj.1 stored)

/-- A place in bytes at which a stored text may be cut: between two characters or at an end. -/
def IsBoundary (text : String) (offset : Nat) : Prop :=
  (String.Pos.Raw.mk offset).IsValid text

theorem IsBoundary.le_utf8ByteSize {text : String} {offset : Nat}
    (boundary : IsBoundary text offset) : offset ≤ text.utf8ByteSize :=
  String.Pos.Raw.IsValid.le_utf8ByteSize boundary

/-- The boundaries are the sizes of the starts of the text. -/
theorem isBoundary_ofList_iff {text : List Char} {offset : Nat} :
    IsBoundary (String.ofList text) offset ↔
      ∃ front back, text = front ++ back ∧ byteSize front = offset := by
  rw [IsBoundary, String.Pos.Raw.isValid_ofList]
  simp only [utf8ByteSize_ofList]
  constructor
  · rintro ⟨index, size⟩
    exact ⟨text.take index, text.drop index, (List.take_append_drop index text).symm, size.symm⟩
  · rintro ⟨front, back, rfl, size⟩
    exact ⟨front.length, by rw [List.take_left, size]⟩

/-- A part of a stored text can be cut out between two places, and these are its bytes: both places
are boundaries, in this order. -/
structure IsSlice (text : String) (first last : Nat) (part : String) : Prop where
  first_isBoundary : IsBoundary text first
  last_isBoundary : IsBoundary text last
  first_le_last : first ≤ last
  bytes_eq : part.toByteArray = text.toByteArray.extract first last

/-- What stands between two parts of a text is the slice between their places. -/
theorem isSlice_ofList (front middle back : List Char) :
    IsSlice (String.ofList (front ++ middle ++ back)) (byteSize front)
      (byteSize (front ++ middle)) (String.ofList middle) where
  first_isBoundary := isBoundary_ofList_iff.2 ⟨front, middle ++ back, by simp, rfl⟩
  last_isBoundary := isBoundary_ofList_iff.2 ⟨front ++ middle, back, rfl, rfl⟩
  first_le_last := by
    rw [byteSize_append]
    exact Nat.le_add_right _ _
  bytes_eq := by
    have behind := ByteArray.extract_append_size_add' (a := front.utf8Encode)
      (b := middle.utf8Encode ++ back.utf8Encode) (i := 0) (j := byteSize middle)
      (byteSize_eq_size_utf8Encode front)
    rw [ByteArray.extract_append_eq_left (byteSize_eq_size_utf8Encode middle)] at behind
    simp only [String.toByteArray_ofList, List.utf8Encode_append, byteSize_append,
      ByteArray.append_assoc]
    exact behind.symm

end TextGrammar.Text
