/-!
# Positions in bytes

Positions in a text are counted in bytes of its UTF-8 form, although texts are handled as lists of
characters. A byte position is a boundary of a text when it lies between two of its characters or at
one of its ends, and only there can the text be split.
-/

namespace TextGrammar.Text

/-- The number of bytes of a list of characters in UTF-8. -/
def byteSize : List Char → Nat
  | [] => 0
  | c :: rest => c.utf8Size + byteSize rest

@[simp] theorem byteSize_nil : byteSize [] = 0 := rfl

@[simp] theorem byteSize_cons (c : Char) (rest : List Char) :
    byteSize (c :: rest) = c.utf8Size + byteSize rest := rfl

@[simp] theorem byteSize_append (front back : List Char) :
    byteSize (front ++ back) = byteSize front + byteSize back := by
  induction front with
  | nil => simp
  | cons c rest ih => simp [ih, Nat.add_assoc]

@[simp] theorem byteSize_reverse (text : List Char) :
    byteSize text.reverse = byteSize text := by
  induction text with
  | nil => rfl
  | cons c rest ih => simp [ih, Nat.add_comm]

@[simp] theorem byteSize_eq_zero {text : List Char} : byteSize text = 0 ↔ text = [] := by
  cases text with
  | nil => simp
  | cons c rest => simp [Nat.ne_of_gt c.utf8Size_pos]

/-- Whether the bytes of a text end with those of another one. -/
def endsWith (text ending : List Char) : Bool :=
  (ending.flatMap String.utf8EncodeChar).isSuffixOf (text.flatMap String.utf8EncodeChar)

/-- The two parts of a text around a byte position, if the position is a boundary of the text. -/
def splitAtByte? : Nat → List Char → Option (List Char × List Char)
  | 0, text => some ([], text)
  | _ + 1, [] => none
  | bytes + 1, c :: rest =>
      if c.utf8Size ≤ bytes + 1 then
        (splitAtByte? (bytes + 1 - c.utf8Size) rest).map fun parts => (c :: parts.1, parts.2)
      else none
termination_by structural _ text => text

/-- The characters that begin in the first `bytes` bytes of a text. -/
def takeBytes : Nat → List Char → List Char
  | 0, _ => []
  | _ + 1, [] => []
  | bytes + 1, c :: rest => c :: takeBytes (bytes + 1 - c.utf8Size) rest
termination_by structural _ text => text

theorem splitAtByte?_append (front back : List Char) :
    splitAtByte? (byteSize front) (front ++ back) = some (front, back) := by
  induction front with
  | nil => simp [splitAtByte?]
  | cons c rest ih =>
      obtain ⟨size, sizeEq⟩ : ∃ size, byteSize (c :: rest) = size + 1 :=
        ⟨byteSize (c :: rest) - 1, by have := c.utf8Size_pos; simp; omega⟩
      have fits : c.utf8Size ≤ size + 1 := by
        have := byteSize_cons c rest
        omega
      have left : size + 1 - c.utf8Size = byteSize rest := by
        have := byteSize_cons c rest
        omega
      rw [sizeEq, List.cons_append, splitAtByte?, if_pos fits, left, ih]
      rfl

theorem eq_append_of_splitAtByte? {bytes : Nat} {text front back : List Char}
    (split : splitAtByte? bytes text = some (front, back)) :
    text = front ++ back ∧ byteSize front = bytes := by
  induction text generalizing bytes front with
  | nil =>
      cases bytes with
      | zero => simp_all [splitAtByte?]
      | succ bytes => simp [splitAtByte?] at split
  | cons c rest ih =>
      cases bytes with
      | zero => simp_all [splitAtByte?]
      | succ bytes =>
          rw [splitAtByte?] at split
          split at split
          next fits =>
            obtain ⟨⟨front', back'⟩, split', pair⟩ := Option.map_eq_some_iff.1 split
            obtain ⟨rfl, rfl⟩ := Prod.mk.inj pair
            obtain ⟨rfl, size⟩ := ih split'
            refine ⟨rfl, ?_⟩
            rw [byteSize_cons, size]
            omega
          next => simp at split

/-- A position is a boundary exactly where the text splits into two parts of which the first has
that many bytes. -/
theorem splitAtByte?_eq_some_iff {bytes : Nat} {text front back : List Char} :
    splitAtByte? bytes text = some (front, back) ↔
      text = front ++ back ∧ byteSize front = bytes := by
  constructor
  · exact eq_append_of_splitAtByte?
  · rintro ⟨rfl, rfl⟩
    exact splitAtByte?_append front back

theorem takeBytes_append (front back : List Char) :
    takeBytes (byteSize front) (front ++ back) = front := by
  induction front with
  | nil => simp [takeBytes]
  | cons c rest ih =>
      obtain ⟨size, sizeEq⟩ : ∃ size, byteSize (c :: rest) = size + 1 :=
        ⟨byteSize (c :: rest) - 1, by have := c.utf8Size_pos; simp; omega⟩
      have left : size + 1 - c.utf8Size = byteSize rest := by
        have := byteSize_cons c rest
        omega
      rw [sizeEq, List.cons_append, takeBytes, left, ih]

end TextGrammar.Text
