import TextGrammar.Proofs.Leaf.Formatted

/-!
# Comments are as short as can be

A comment ends with the first closing mark behind its opening mark, so of all bodies that the text has
between such marks it has the shortest one. The marks may be any texts: they may be the same, contain
each other or repeat themselves. The closing mark is looked for behind the opening one only, so they
never share a character.
-/

namespace TextGrammar

open Text

variable {word opening closing text body rest : List Char}

/-! ## The first occurrence of a word -/

theorem splitAtWord?_of_dropExact? (dropped : dropExact? word text = some rest) :
    splitAtWord? word text = some ([], rest) := by
  cases text with
  | nil => rw [splitAtWord?_nil, dropped, Option.map_some]
  | cons c text => rw [splitAtWord?_cons, dropped]

/-- The word that is found occurs nowhere before. -/
theorem length_le_of_splitAtWord? (found : splitAtWord? word text = some (body, rest))
    {front back : List Char} (occurs : text = front ++ word ++ back) :
    body.length ≤ front.length := by
  induction front generalizing text body with
  | nil =>
      have dropped : dropExact? word text = some back := dropExact?_eq_some_iff.2 occurs
      rw [splitAtWord?_of_dropExact? dropped] at found
      cases found
      exact Nat.le_refl 0
  | cons c front ih =>
      subst occurs
      rw [List.cons_append, List.cons_append, splitAtWord?_cons] at found
      split at found
      next tail dropped =>
        cases found
        exact Nat.zero_le _
      next =>
        obtain ⟨⟨before, tail⟩, foundLater, pair⟩ := Option.map_eq_some_iff.1 found
        cases pair
        exact Nat.succ_le_succ (ih foundLater rfl)

/-- A word that occurs in a text is found. -/
theorem exists_splitAtWord? (front word back : List Char) :
    ∃ body rest, splitAtWord? word (front ++ word ++ back) = some (body, rest) := by
  induction front with
  | nil => exact ⟨[], back, splitAtWord?_of_dropExact? (dropExact?_eq_some_iff.2 rfl)⟩
  | cons c front ih =>
      obtain ⟨body, rest, found⟩ := ih
      rw [List.cons_append, List.cons_append, splitAtWord?_cons, found]
      split
      next tail dropped => exact ⟨[], tail, rfl⟩
      next => exact ⟨c :: body, rest, rfl⟩

/-! ## Comments -/

/-- A text is an opening mark, a body, a closing mark and a rest. No mark is empty. -/
structure IsComment (opening closing text body rest : List Char) : Prop where
  opening_ne : opening ≠ []
  closing_ne : closing ≠ []
  text_eq : text = opening ++ body ++ closing ++ rest

/-- There is no shorter body between such marks. -/
structure IsShortestComment (opening closing text body rest : List Char) : Prop extends
    IsComment opening closing text body rest where
  shortest : ∀ body' rest', IsComment opening closing text body' rest' →
    body.length ≤ body'.length

namespace IsShortestComment

/-- Of the comments at the start of a text only one is shortest. -/
theorem unique {body' rest' : List Char}
    (comment : IsShortestComment opening closing text body rest)
    (comment' : IsShortestComment opening closing text body' rest') :
    body = body' ∧ rest = rest' := by
  have length : body.length = body'.length :=
    Nat.le_antisymm (comment.shortest _ _ comment'.toIsComment)
      (comment'.shortest _ _ comment.toIsComment)
  have same := comment.text_eq.symm.trans comment'.text_eq
  simp only [List.append_assoc] at same
  obtain ⟨rfl, tails⟩ := List.append_inj (List.append_cancel_left same) length
  exact ⟨rfl, List.append_cancel_left tails⟩

/-- Behind the opening mark the closing mark occurs nowhere earlier. -/
theorem eq_nil_of_occurs (comment : IsShortestComment opening closing text body rest)
    {front back : List Char} (occurs : body ++ closing = front ++ closing ++ back) : back = [] := by
  have earlier : IsComment opening closing text front (back ++ rest) :=
    { opening_ne := comment.opening_ne
      closing_ne := comment.closing_ne
      text_eq := by
        rw [comment.text_eq, List.append_assoc opening, occurs]
        simp only [List.append_assoc] }
  have shortest := comment.shortest front (back ++ rest) earlier
  have lengths := congrArg List.length occurs
  simp only [List.length_append] at lengths
  exact List.eq_nil_of_length_eq_zero (by omega)

end IsShortestComment

/-- The comment that is read is the shortest. -/
theorem exists_isShortest_of_readComment? (found : readComment? opening closing text = some body) :
    ∃ rest, IsShortestComment opening closing text body rest := by
  obtain ⟨opened, closed, inside, rest, rfl, split⟩ := readComment?_eq_some_iff.1 found
  refine ⟨rest, ⟨opened, closed, ?_⟩, ?_⟩
  · rw [eq_append_of_splitAtWord? split]
    simp only [List.append_assoc]
  · intro body' rest' other
    have same := other.text_eq
    simp only [List.append_assoc] at same
    have occurs : inside = body' ++ closing ++ rest' := by
      rw [List.append_assoc]
      exact List.append_cancel_left same
    exact length_le_of_splitAtWord? split occurs

/-- If a text starts with a comment, one is read. -/
theorem IsComment.exists_readComment? (comment : IsComment opening closing text body rest) :
    ∃ body', readComment? opening closing text = some body' := by
  obtain ⟨body', rest', split⟩ := exists_splitAtWord? body closing rest
  have starts : text = opening ++ (body ++ closing ++ rest) := by
    rw [comment.text_eq]
    simp only [List.append_assoc]
  exact ⟨body', readComment?_eq_some_iff.2
    ⟨comment.opening_ne, comment.closing_ne, _, rest', starts, split⟩⟩

/-- A text that starts with a comment starts with a shortest one. -/
theorem IsComment.exists_isShortest (comment : IsComment opening closing text body rest) :
    ∃ body' rest', IsShortestComment opening closing text body' rest' := by
  obtain ⟨body', found⟩ := comment.exists_readComment?
  exact ⟨body', exists_isShortest_of_readComment? found⟩

/-- The shortest comment is read. -/
theorem IsShortestComment.readComment?_eq
    (comment : IsShortestComment opening closing text body rest) :
    readComment? opening closing text = some body := by
  obtain ⟨body', found⟩ := comment.toIsComment.exists_readComment?
  obtain ⟨rest', other⟩ := exists_isShortest_of_readComment? found
  obtain ⟨rfl, -⟩ := comment.unique other
  exact found

/-- **Comments are as short as can be.** There is a match just if no mark is empty and the text starts
with an opening mark, a body and a closing mark. Of all bodies that it could have the comment has the
shortest, so behind the opening mark the closing mark occurs nowhere earlier. The body is the value,
and just the marks and the body are used: the cursor can advance by as many bytes, and stands at a
boundary of the text then. In every other case there is no match and the cursor has not moved. -/
theorem Leaf.comments_are_shortest (opening closing : String) (conventions : Conventions)
    (start : Cursor) :
    let comment := Leaf.comment opening closing
    let finish := (comment.matcher conventions start).cursor
    let IsCommentOf := IsComment opening.toList closing.toList start.after
    let IsShortestOf := IsShortestComment opening.toList closing.toList start.after
    ((∃ token, (comment.matcher conventions start).outcome = .matched token) ↔
        ∃ body rest, IsCommentOf body rest) ∧
      ((∃ body rest, IsCommentOf body rest) → ∃ body rest, IsShortestOf body rest) ∧
      (∀ body rest, IsShortestOf body rest →
        comment.Finds conventions start (.comment (String.ofList body))
          (opening.toList ++ body ++ closing.toList) rest ∧
        (∀ front back, body ++ closing.toList = front ++ closing.toList ++ back → back = []) ∧
        start.advance? (byteSize opening.toList + byteSize body + byteSize closing.toList) =
          some finish ∧
        IsBoundary start.text finish.offset) ∧
      ((¬∃ body rest, IsCommentOf body rest) → comment.Declines conventions start) := by
  intro comment finish IsCommentOf IsShortestOf
  have finds {body rest : List Char} (shortest : IsShortestOf body rest) :
      comment.Finds conventions start (.comment (String.ofList body))
        (opening.toList ++ body ++ closing.toList) rest := by
    apply finds_of_read shortest.text_eq
    simp only [comment, read, shortest.readComment?_eq, Option.map_some, Reading.ofOption]
  have declines (none : ¬∃ body rest, IsCommentOf body rest) :
      comment.Declines conventions start := by
    refine declines_of_not_found fun value used reading => none ?_
    obtain ⟨body, found, -⟩ := Option.map_eq_some_iff.1 (Reading.ofOption_eq_found_iff.1 reading)
    obtain ⟨rest, shortest⟩ := exists_isShortest_of_readComment? found
    exact ⟨body, rest, shortest.toIsComment⟩
  refine ⟨matched_iff ?_ declines, ?_, ?_, declines⟩
  · rintro ⟨body, rest, isComment⟩
    obtain ⟨body', rest', shortest⟩ := isComment.exists_isShortest
    exact ⟨_, _, _, finds shortest⟩
  · rintro ⟨body, rest, isComment⟩
    exact isComment.exists_isShortest
  · intro body rest shortest
    have passes := (finds shortest).passes
    refine ⟨finds shortest, fun front back => shortest.eq_nil_of_occurs, ?_, passes.isBoundary⟩
    rw [← byteSize_append, ← byteSize_append]
    exact passes.advance?_byteSize

/-- Marks that are the same or begin like each other do not overlap. -/
example : readComment? "/*".toList "*/".toList "/*/ */ */".toList = some "/ ".toList := by
  rfl

example : readComment? "aa".toList "aab".toList "aaaaabaab".toList = some "a".toList := by
  rfl

end TextGrammar
