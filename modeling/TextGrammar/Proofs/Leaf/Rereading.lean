import TextGrammar.Proofs.Leaf.Comment
import TextGrammar.Proofs.Leaf.Long
import TextGrammar.Proofs.Leaf.Quoted
import TextGrammar.Proofs.Leaf.Run
import TextGrammar.Proofs.Decimal.Reading

/-!
# Tokens are read again from their own text

A leaf looks at characters behind those that it uses: at the first one that is no digit, at a closing
mark, at a separator or an exponent that it then leaves unread. If the text ends with what was used, the
leaf sees the end of the text in their place, and that never makes it read anything else. So the text
of a token alone gives the same token, with nothing left. Cut anywhere else it might not: an exponent
that is out of range may be in range with fewer digits.
-/

namespace TextGrammar

open Text

variable {conventions : Conventions} {text used : List Char} {value : LeafValue}

/-! ## Characters, literals and runs -/

theorem readOne?_alone {charClass : CharClass} {c : Char}
    (found : readOne? charClass text = some c) : readOne? charClass [c] = some c := by
  obtain ⟨-, accepted⟩ := Option.filter_eq_some_iff.1 found
  exact Option.filter_eq_some_iff.2 ⟨rfl, accepted⟩

theorem readLiteral?_alone {rule : CaseRule} {literal : List Char}
    (found : readLiteral? rule literal text = some used) :
    readLiteral? rule literal used = some used := by
  simp only [readLiteral?, Option.ite_none_left_eq_some, CaseRule.spelling?_eq_some_iff] at found ⊢
  obtain ⟨nonempty, accepted, -⟩ := found
  exact ⟨nonempty, accepted, [], (List.append_nil used).symm⟩

/-- A bound allows what it has allowed. -/
theorem boundedLength_boundedLength (maximum : Option Nat) (length : Nat) :
    boundedLength maximum (boundedLength maximum length) = boundedLength maximum length := by
  cases maximum with
  | none => rfl
  | some most => simp [boundedLength]

theorem boundedLength_le (maximum : Option Nat) (length : Nat) :
    boundedLength maximum length ≤ length := by
  cases maximum with
  | none => exact Nat.le_refl length
  | some most => exact Nat.min_le_right most length

/-- A run that stopped at its upper bound, or at a character of another class, stops at the end of the
text as well. -/
theorem readRun?_alone {charClass : CharClass} {minimum : Nat} {maximum : Option Nat}
    (found : readRun? charClass minimum maximum text = some used) :
    readRun? charClass minimum maximum used = some used := by
  obtain ⟨run, rest, rfl, longest⟩ := exists_isLongestRun charClass.test text
  rw [readRun?_eq_of_isLongestRun longest, Option.ite_none_right_eq_some] at found
  obtain ⟨enough, taken⟩ := found
  obtain rfl := Option.some.inj taken
  have length : (run.take (boundedLength maximum run.length)).length =
      boundedLength maximum run.length := by
    rw [List.length_take, Nat.min_eq_left (boundedLength_le maximum run.length)]
  have alone : IsLongestRun charClass.test (run.take (boundedLength maximum run.length)) [] :=
    { all := fun c inside => longest.all c (List.mem_of_mem_take inside)
      stops := by simp [GoesOnWith] }
  have again := readRun?_eq_of_isLongestRun alone minimum maximum
  rw [List.append_nil, length, boundedLength_boundedLength, if_pos enough] at again
  rw [again, List.take_take, Nat.min_self]

/-! ## Comments and quoted texts -/

/-- The shortest comment of a text is the shortest one of its own text, in which there are no more
bodies than before. -/
theorem IsShortestComment.alone {opening closing body rest : List Char}
    (comment : IsShortestComment opening closing text body rest) :
    IsShortestComment opening closing (opening ++ body ++ closing) body [] where
  opening_ne := comment.opening_ne
  closing_ne := comment.closing_ne
  text_eq := (List.append_nil _).symm
  shortest := by
    intro body' rest' other
    apply comment.shortest body' (rest' ++ rest)
    refine ⟨comment.opening_ne, comment.closing_ne, ?_⟩
    rw [comment.text_eq, other.text_eq, List.append_assoc _ rest']

theorem readComment?_alone {opening closing body : List Char}
    (found : readComment? opening closing text = some body) :
    readComment? opening closing (opening ++ body ++ closing) = some body := by
  obtain ⟨rest, shortest⟩ := exists_isShortest_of_readComment? found
  exact shortest.alone.readComment?_eq

/-! ## Numbers -/

theorem readSign?_alone {conventions : NumberConventions} {sign : Sign} {c : Char}
    (found : readSign? conventions text = some (sign, c)) :
    readSign? conventions [c] = some (sign, c) := by
  obtain ⟨rest, rfl⟩ := List.head?_eq_some_iff.1 (head_eq_of_readSign? found)
  exact found

theorem readLong_alone {conventions : NumberConventions} {radix : Radix}
    (found : readLong radix conventions text = .found value used) :
    readLong radix conventions used = .found value used := by
  obtain ⟨front, unique⟩ := IntegerFront.exists_isOf_iff conventions radix.value text
  have splits := (unique front).2 rfl
  obtain ⟨fits, rfl, rfl⟩ := (readLong_eq_found_iff splits).1 found
  have alone := splits.alone
  rw [List.append_nil] at alone
  exact (readLong_eq_found_iff alone).2 ⟨fits, rfl, rfl⟩

namespace Leaf

/-- A leaf that reads in a way of its own, and neither dates and times nor a format from elsewhere. -/
def IsBasic : Leaf → Prop
  | .dateTime _ _ | .formatted _ => False
  | _ => True

/-- What a leaf has used is enough for it to find the same again. -/
theorem read_alone {leaf : Leaf} (basic : leaf.IsBasic)
    (found : leaf.read conventions text = .found value used) :
    leaf.read conventions used = .found value used := by
  cases leaf with
  | character charClass =>
      simp only [read, Reading.ofOption_eq_found_iff, Option.map_eq_some_iff, Prod.mk.injEq] at found ⊢
      obtain ⟨c, one, rfl, rfl⟩ := found
      exact ⟨c, readOne?_alone one, rfl, rfl⟩
  | literal rule wanted =>
      simp only [read, found_sameValueAndText_iff] at found ⊢
      exact ⟨readLiteral?_alone found.1, found.2⟩
  | symbol wanted =>
      simp only [read, found_sameValueAndText_iff] at found ⊢
      exact ⟨readLiteral?_alone found.1, found.2⟩
  | run charClass minimum maximum =>
      simp only [read, found_sameValueAndText_iff] at found ⊢
      exact ⟨readRun?_alone found.1, found.2⟩
  | whitespace =>
      simp only [read, found_sameValueAndText_iff] at found ⊢
      exact ⟨readRun?_alone found.1, found.2⟩
  | comment opening closing =>
      simp only [read, Reading.ofOption_eq_found_iff, Option.map_eq_some_iff, Prod.mk.injEq] at found ⊢
      obtain ⟨body, inside, rfl, rfl⟩ := found
      exact ⟨body, readComment?_alone inside, rfl, rfl⟩
  | quoted quote =>
      obtain ⟨units, rest, -, rfl, rfl⟩ := read_quoted_eq_found_iff.1 found
      exact read_quoted_eq_found_iff.2 ⟨units, [], (List.append_nil _).symm, rfl, rfl⟩
  | long radix => exact readLong_alone found
  | sign =>
      simp only [read, Reading.ofOption_eq_found_iff, Option.map_eq_some_iff, Prod.mk.injEq] at found ⊢
      obtain ⟨⟨sign, c⟩, first, rfl, rfl⟩ := found
      exact ⟨(sign, c), readSign?_alone first, rfl, rfl⟩
  | decimal =>
      simp only [read, found_ofFormat_iff, Format.decimal, Option.map_eq_some_iff, Prod.mk.injEq,
        Prod.exists] at found ⊢
      obtain ⟨rest, ⟨decimal, _, number, rfl, rfl⟩, nonempty, rfl⟩ := found
      exact ⟨[], ⟨decimal, [], Decimal.read?_alone number, rfl, rfl⟩, nonempty,
        (List.append_nil _).symm⟩
  | dateTime kind choice => exact basic.elim
  | formatted format => exact basic.elim

/-- **Tokens are read again from their own text.** Where a leaf matches that reads neither dates and
times nor a format from elsewhere, the text of its token is enough: from that alone, in the same
conventions, the leaf matches the same token, value and text, up to the end, and logs nothing. -/
theorem tokens_are_read_again {leaf : Leaf} (basic : leaf.IsBasic) {conventions : Conventions}
    {start : Cursor} {token : Token}
    (matched : (leaf.matcher conventions start).outcome = .matched token) :
    leaf.matcher conventions (.ofText token.text) =
      .matched token (Cursor.ofText token.text).toEnd := by
  obtain ⟨value, used, found, rfl, -⟩ := matches_matcher_iff.1 ⟨matched, rfl⟩
  have nonempty : String.ofList used ≠ "" := by
    rw [Ne, String.ofList_eq_empty_iff]
    exact (usedOf_of_read found).nonempty
  have made : Token.makeLeaf value (String.ofList used) = .ok (.leaf value (String.ofList used)) :=
    Token.makeLeaf_eq_ok_iff.2 ⟨nonempty, rfl⟩
  have text_eq : (Cursor.ofText (String.ofList used)).after = used := String.toList_ofList
  have alone := read_alone basic found
  rw [Leaf.matcher_eq, Token.text, text_eq, alone, Reading.reply, made]
  simp only [Reply.ofToken, Cursor.skip, Cursor.toEnd, text_eq, List.take_length, List.drop_length]

/-- A decimal that was written with an exponent and so has three digits after the comma. -/
def scaledDecimal : Decimal :=
  ⟨true, 150, 3, by decide, by decide⟩

theorem finds_scaledDecimal :
    decimal.Finds ⟨.english 2000, .german⟩ ⟨['é'], "-1,50e-1e9".toList⟩
      (.decimal scaledDecimal) "-1,50e-1".toList "e9".toList := by
  have read : Decimal.read? .german "-1,50e-1e9".toList = some (scaledDecimal, "e9".toList) := by
    decide +kernel
  apply finds_of_read rfl
  rw [Leaf.read, found_ofFormat_iff]
  refine ⟨"e9".toList, ?_, by decide, rfl⟩
  simp only [Format.decimal, Conventions.forNumbers_eq, read, Option.map_some]

theorem tokens_are_read_again_scaledDecimal :
    let conventions : Conventions := ⟨.english 2000, .german⟩
    let start : Cursor := ⟨['é'], "-1,50e-1e9".toList⟩
    let token := Token.leaf (.decimal scaledDecimal) "-1,50e-1"
    decimal.IsBasic ∧ (decimal.matcher conventions start).outcome = .matched token ∧
      decimal.matcher conventions (.ofText "-1,50e-1") =
        .matched token (Cursor.ofText "-1,50e-1").toEnd := by
  intro conventions start token
  have basic : decimal.IsBasic := trivial
  have matched : (decimal.matcher conventions start).outcome = .matched token := by
    rw [finds_scaledDecimal.outcome_eq, String.ofList_toList]
  have again := tokens_are_read_again basic matched
  exact ⟨basic, matched, again⟩

end Leaf

end TextGrammar
