import TextGrammar.Proofs.Integer.Numeral
import TextGrammar.Proofs.Token.Tree
import TextGrammar.Token.Change

/-!
# Numbers with their radix in front

A token of two children writes a number if the second one is an integer in the radix that the first
one names. The number may have 128 bits with its sign. Then the function for such numbers makes a big
integer of the token, with the same text; any other token it refuses with an error that has the text.
-/

namespace TextGrammar

open Text

/-- The radix that the last character of a mark stands for: letters stand for three of them, in either
case, and everything else for ten. -/
def radixOfLast (last : Option Char) : Nat :=
  if last = some 'x' ∨ last = some 'X' then 16
  else if last = some 'o' ∨ last = some 'O' then 8
  else if last = some 'b' ∨ last = some 'B' then 2
  else 10

/-- A mark is known by its last character. -/
theorem radixOfMark_eq (mark : String) : radixOfMark mark = radixOfLast mark.toList.getLast? := by
  cases last : mark.toList.getLast? with
  | none => simp [radixOfMark, last, radixOfLast]
  | some c =>
      have single : radixOfMark mark = radixOfMark (String.singleton c) := by
        simp [radixOfMark, last]
      rw [single]
      by_cases small : c.toNat < 128
      · exact forall_ascii (fun c => radixOfMark (String.singleton c) = radixOfLast (some c))
          (by decide +kernel) small
      · have large := Nat.le_of_not_lt small
        -- beyond ASCII there are no letters for a radix
        have other (letter : Char) (ascii : letter.toNat < 128) : c ≠ letter := by
          rintro rfl
          exact small ascii
        simp [radixOfMark, toLower_eq_self_of_large large, radixOfLast, other]

theorem radixOfLast_bounds (last : Option Char) : 0 < radixOfLast last ∧ radixOfLast last ≤ 36 := by
  unfold radixOfLast
  split
  · decide
  split
  · decide
  split <;> decide

namespace Token

/-- The token has two children, and the text of the second is an integer of 128 bits in the radix that
the text of the first ends with. -/
def WritesNumber (token : Token) (value : Int) : Prop :=
  ∃ mark digits, token.children = [mark, digits] ∧
    WritesInteger (radixOfLast mark.text.toList.getLast?) digits.text.toList value ∧
    -(Nat.pow 2 127 : Int) ≤ value ∧ value ≤ (Nat.pow 2 127 : Int) - 1

variable {token mark digits : Token} {value : Int}

/-- The text of the second child is read as an integer just if it writes one of 128 bits. -/
theorem ofNumeral_bigIntegerRange_eq_ok_iff :
    bigIntegerRange.ofNumeral (radixOfMark mark.text) digits.text.toList = .ok value ↔
      WritesInteger (radixOfLast mark.text.toList.getLast?) digits.text.toList value ∧
        -(Nat.pow 2 127 : Int) ≤ value ∧ value ≤ (Nat.pow 2 127 : Int) - 1 := by
  have bounds : bigIntegerRange = ⟨-(Nat.pow 2 127 : Int), (Nat.pow 2 127 : Int) - 1⟩ := rfl
  obtain ⟨positive, le⟩ := radixOfLast_bounds mark.text.toList.getLast?
  rw [radixOfMark_eq, IntRange.ofNumeral_eq_ok_iff (by decide) positive le, bounds]
  simp only [IntRange.contains, Bool.and_eq_true, decide_eq_true_eq]

/-- A token that writes a number becomes a big integer of the same text. That can be made, since a
number has digits. -/
theorem prefixedNumber_of_writesNumber (wellFormed : token.WellFormed)
    (writes : token.WritesNumber value) :
    token.prefixedNumber = .ok (.leaf (.bigInteger value) token.text) := by
  obtain ⟨mark, digits, children, written⟩ := writes
  cases wellFormed with
  | leaf => cases children
  | @parent kind all text joined eachChild =>
      obtain rfl : all = [mark, digits] := children
      have nonempty : text ≠ "" := by
        have digit : digits.text ≠ "" := fun empty => written.1.text_ne_nil (by simp [empty])
        simp [joined, joinTexts_cons, digit]
      have read := ofNumeral_bigIntegerRange_eq_ok_iff.2 written
      have made : makeLeaf (.bigInteger value) text = .ok (.leaf (.bigInteger value) text) :=
        makeLeaf_eq_ok_iff.2 ⟨nonempty, rfl⟩
      simp only [prefixedNumber, read, made]
      rfl

/-- A token that writes no number is refused, with its text. -/
theorem exists_prefixedNumber_eq_error (other : ¬∃ value, token.WritesNumber value) :
    ∃ reason, token.prefixedNumber = .error (.transform token.text reason) := by
  unfold prefixedNumber
  split
  next kind mark digits text =>
    split
    next value read =>
      have writes := ofNumeral_bigIntegerRange_eq_ok_iff.1 read
      exact absurd ⟨value, mark, digits, rfl, writes⟩ other
    next fault read => exact ⟨fault.message, rfl⟩
  next => exact ⟨_, rfl⟩

/-- **Prefixed numbers are exact.** A well formed token becomes a big integer just if it has two
children of which the second writes an integer of 128 bits with its sign, in the radix that the first
one ends with. The integer is the one that is written, and the text is that of the token. In every
other case the error says that the token with this text cannot be changed, and never that a token
cannot be made. -/
theorem prefixed_numbers_are_exact {token : Token} (wellFormed : token.WellFormed) :
    (∀ changed, token.prefixedNumber = .ok changed ↔
      ∃ value, token.WritesNumber value ∧ changed = .leaf (.bigInteger value) token.text) ∧
    ((¬∃ value, token.WritesNumber value) →
      ∃ reason, token.prefixedNumber = .error (.transform token.text reason)) ∧
    ∀ fault, token.prefixedNumber ≠ .error (.invalidToken fault) := by
  have found {value : Int} (writes : token.WritesNumber value) :=
    prefixedNumber_of_writesNumber wellFormed writes
  by_cases number : ∃ value, token.WritesNumber value
  · refine ⟨fun changed => ⟨?_, ?_⟩, fun other => absurd number other, ?_⟩
    · intro made
      obtain ⟨value, writes⟩ := number
      rw [found writes] at made
      exact ⟨value, writes, (Except.ok.inj made).symm⟩
    · rintro ⟨value, writes, rfl⟩
      exact found writes
    · intro fault failed
      obtain ⟨value, writes⟩ := number
      rw [found writes] at failed
      cases failed
  · obtain ⟨reason, refused⟩ := exists_prefixedNumber_eq_error number
    refine ⟨fun changed => ⟨?_, ?_⟩, fun _ => ⟨reason, refused⟩, ?_⟩
    · intro made
      rw [refused] at made
      cases made
    · rintro ⟨value, writes, -⟩
      exact absurd ⟨value, writes⟩ number
    · intro fault failed
      rw [refused] at failed
      cases failed

/-- The least number in hexadecimal digits, with the sign between its mark and the digits. -/
def leastNumber : Token :=
  .parent .sequence
    [.leaf (.string "0X") "0X",
      .leaf (.string "-80000000000000000000000000000000") "-80000000000000000000000000000000"]
    "0X-80000000000000000000000000000000"

theorem prefixed_numbers_are_exact_leastNumber :
    leastNumber.WellFormed ∧
      leastNumber.prefixedNumber =
        .ok (.leaf (.bigInteger (-(Nat.pow 2 127 : Int))) "0X-80000000000000000000000000000000") := by
  have wellFormed : leastNumber.WellFormed :=
    .parent rfl (by simp)
  have numeral : IsNumeral 16 "80000000000000000000000000000000".toList :=
    ⟨by decide, List.all_eq_true.1 (by decide)⟩
  have size : numberOf 16 "80000000000000000000000000000000".toList = Nat.pow 2 127 := by
    decide +kernel
  have spelled : "-80000000000000000000000000000000".toList =
      '-' :: "80000000000000000000000000000000".toList := by
    simp
  have written := WritesInteger.negative numeral
  rw [size, ← spelled] at written
  have writes : leastNumber.WritesNumber (-(Nat.pow 2 127 : Int)) :=
    ⟨_, _, rfl, written, by decide, by decide⟩
  exact ⟨wellFormed, ((prefixed_numbers_are_exact wellFormed).1 _).2 ⟨_, writes, rfl⟩⟩

/-- The positive integer of the same size is too large. -/
example : (Token.parent .sequence
      [.leaf (.string "0X") "0X",
        .leaf (.string "80000000000000000000000000000000") "80000000000000000000000000000000"]
      "0X80000000000000000000000000000000").prefixedNumber =
    .error (.transform "0X80000000000000000000000000000000"
      "number too large to fit in target type") := by
  rfl

end Token

end TextGrammar
