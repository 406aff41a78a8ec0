import TextGrammar.Proofs.Leaf.Matches

/-!
# Literals are exact

A literal is compared with the front of a text character by character, so it takes as many characters
as it has, in the spelling of the text. Without regard to case two characters are the same if their full
lower case forms are, which may have several characters each. That relation is symmetric, and every
character is in it with itself; so a literal that is there as it is written is there in some case, and
two texts that spell the same match each other either way.
-/

namespace TextGrammar

open Text

/-- Two words have as many characters as each other, and pairwise these are the same in lower case. -/
def SameInLowerCase (word word' : List Char) : Prop :=
  List.Forall₂ (fun c c' => lowerCase c = lowerCase c') word word'

namespace SameInLowerCase

variable {word word' : List Char}

theorem refl (word : List Char) : SameInLowerCase word word :=
  List.forall₂_same.2 fun _ _ => rfl

theorem symm (same : SameInLowerCase word word') : SameInLowerCase word' word :=
  (same.imp fun _ _ => Eq.symm).flip

theorem ne_nil (same : SameInLowerCase word word') (nonempty : word ≠ []) : word' ≠ [] := by
  rintro rfl
  exact nonempty (List.forall₂_nil_right_iff.1 same)

end SameInLowerCase

/-- Equal characters have equal lower case forms, so that the comparison with the character itself makes
no difference. -/
theorem CaseRule.accepts_ignoring_iff {wanted actual : Char} :
    CaseRule.ignoring.accepts wanted actual = true ↔ lowerCase wanted = lowerCase actual := by
  simp only [accepts, Bool.or_eq_true, beq_iff_eq]
  constructor
  · rintro (rfl | same)
    · rfl
    · exact same
  · exact .inr

namespace Leaf

variable {leaf : Leaf} {kind : String → LeafValue} {accepts : List Char → Prop}
  {conventions : Conventions} {start : Cursor} {rule : CaseRule} {literal : String}

/-- A leaf matches just those fronts of the text that are accepted, with what it has used as its value
and its text. If no front is accepted it does not match, and the cursor has not moved. -/
structure MatchesJust (leaf : Leaf) (kind : String → LeafValue) (accepts : List Char → Prop)
    (conventions : Conventions) (start : Cursor) : Prop where
  matched_iff : (∃ token, (leaf.matcher conventions start).outcome = .matched token) ↔
    ∃ used rest, start.after = used ++ rest ∧ accepts used
  finds : ∀ used rest, start.after = used ++ rest → accepts used →
    leaf.Finds conventions start (kind (String.ofList used)) used rest
  declines : (¬∃ used rest, start.after = used ++ rest ∧ accepts used) →
    leaf.Declines conventions start

/-- A leaf that matches all that is left of the text. -/
def TakesAll (leaf : Leaf) (conventions : Conventions) (start : Cursor) : Prop :=
  ∃ token finish, (leaf.matcher conventions start).Matches token finish ∧ finish.after = []

/-- A leaf that reads a literal matches just the spellings of that literal. -/
theorem matchesJust_of_readLiteral?
    (reading : leaf.read conventions start.after =
      .ofOption ((readLiteral? rule literal.toList start.after).map (sameValueAndText kind)))
    (accepts_iff : ∀ used, accepts used ↔ literal ≠ "" ∧
      List.Forall₂ (fun wanted actual => rule.accepts wanted actual = true) literal.toList used) :
    leaf.MatchesJust kind accepts conventions start := by
  have read_iff (value : LeafValue) (used : List Char) :
      leaf.read conventions start.after = .found value used ↔
        (accepts used ∧ ∃ rest, start.after = used ++ rest) ∧ value = kind (String.ofList used) := by
    simp only [reading, found_sameValueAndText_iff, readLiteral?, Option.ite_none_left_eq_some,
      CaseRule.spelling?_eq_some_iff, accepts_iff, Ne, String.toList_eq_nil_iff, and_assoc]
  have finds (used rest : List Char) (split : start.after = used ++ rest) (accepted : accepts used) :
      leaf.Finds conventions start (kind (String.ofList used)) used rest :=
    finds_of_read split ((read_iff _ _).2 ⟨⟨accepted, rest, split⟩, rfl⟩)
  have declines (none : ¬∃ used rest, start.after = used ++ rest ∧ accepts used) :
      leaf.Declines conventions start := by
    refine declines_of_not_found fun value used found => none ?_
    obtain ⟨⟨accepted, rest, split⟩, -⟩ := (read_iff value used).1 found
    exact ⟨used, rest, split, accepted⟩
  refine ⟨Leaf.matched_iff ?_ declines, finds, declines⟩
  rintro ⟨used, rest, split, accepted⟩
  exact ⟨_, used, rest, finds used rest split accepted⟩

/-- All that is left is matched just if it is accepted. -/
theorem MatchesJust.takesAll_iff (matchesJust : leaf.MatchesJust kind accepts conventions start) :
    leaf.TakesAll conventions start ↔ accepts start.after := by
  constructor
  · rintro ⟨token, finish, found, atEnd⟩
    obtain ⟨used, rest, split, accepted⟩ := matchesJust.matched_iff.1 ⟨token, found.outcome_eq⟩
    have left := (matchesJust.finds used rest split accepted).after_eq
    rw [found.cursor_eq, atEnd] at left
    rw [split, ← left, List.append_nil]
    exact accepted
  · intro accepted
    have finds := matchesJust.finds start.after [] (List.append_nil _).symm accepted
    exact ⟨_, _, ⟨finds.outcome_eq, rfl⟩, finds.after_eq⟩

/-- A literal that is compared exactly is matched where it is written. -/
theorem matchesJust_exact
    (reading : leaf.read conventions start.after =
      .ofOption ((readLiteral? .exact literal.toList start.after).map (sameValueAndText kind))) :
    leaf.MatchesJust kind (fun used => literal ≠ "" ∧ used = literal.toList) conventions start := by
  refine matchesJust_of_readLiteral? reading fun used => ?_
  simp only [CaseRule.accepts, beq_iff_eq, List.forall₂_eq_eq_eq, eq_comm (a := used)]

theorem matchesJust_ignoring (literal : String) (conventions : Conventions) (start : Cursor) :
    (Leaf.literal .ignoring literal).MatchesJust .string
      (fun used => literal ≠ "" ∧ SameInLowerCase literal.toList used) conventions start := by
  refine matchesJust_of_readLiteral? rfl fun used => ?_
  simp only [CaseRule.accepts_ignoring_iff, SameInLowerCase]

/-- **Literals are exact.** A literal that is compared exactly, as a string or as a symbol, is matched
just where it is not empty and the text goes on with it, and it is used. A literal that is compared
without regard to case is matched just where it is not empty and the text goes on with as many characters
that pairwise have the same full lower case forms. These are used then, however many bytes they have, and
value and text are spelled as in the text. In every other case there is no match and the cursor has not
moved. So what matches exactly matches without regard to case too, with the same characters; and if a
literal matches all that is left of a text, that matches all of the literal. -/
theorem literals_are_exact (literal : String) (conventions : Conventions) (start : Cursor) :
    let sensitive := Leaf.literal .exact literal
    let insensitive := Leaf.literal .ignoring literal
    let isWritten := fun used => literal ≠ "" ∧ used = literal.toList
    let isWrittenInSomeCase := fun used => literal ≠ "" ∧ SameInLowerCase literal.toList used
    sensitive.MatchesJust .string isWritten conventions start ∧
      (Leaf.symbol literal).MatchesJust .symbol isWritten conventions start ∧
      insensitive.MatchesJust .string isWrittenInSomeCase conventions start ∧
      (∀ value used rest, sensitive.Finds conventions start value used rest →
        insensitive.Finds conventions start value used rest) ∧
      ∀ other : Cursor, other.remaining = literal → insensitive.TakesAll conventions start →
        (Leaf.literal .ignoring start.remaining).TakesAll conventions other := by
  intro sensitive insensitive isWritten isWrittenInSomeCase
  have exactly : sensitive.MatchesJust .string isWritten conventions start :=
    matchesJust_exact rfl
  have ignoring := matchesJust_ignoring literal conventions start
  refine ⟨exactly, matchesJust_exact rfl, ignoring, ?_, ?_⟩
  · intro value used rest finds
    obtain ⟨written, rest', split, accepted⟩ := exactly.matched_iff.1 ⟨_, finds.outcome_eq⟩
    have found := exactly.finds written rest' split accepted
    obtain ⟨rfl, rfl⟩ : value = .string (String.ofList written) ∧ used = written := by
      simpa [finds.outcome_eq, String.ofList_inj] using found.outcome_eq
    obtain rfl : rest = rest' := finds.after_eq.symm.trans found.after_eq
    exact ignoring.finds used rest split ⟨accepted.1, accepted.2 ▸ .refl _⟩
  · intro other remaining all
    obtain ⟨nonempty, same⟩ := ignoring.takesAll_iff.1 all
    have after_eq : other.after = literal.toList := by
      rw [← remaining, Cursor.remaining, String.toList_ofList]
    have back := matchesJust_ignoring start.remaining conventions other
    rw [back.takesAll_iff, after_eq, Cursor.remaining, String.toList_ofList]
    refine ⟨?_, same.symm⟩
    rw [Ne, String.ofList_eq_empty_iff]
    exact same.ne_nil (mt String.toList_eq_nil_iff.1 nonempty)

/-- The sign of kelvins, which has three bytes, is the letter k in lower case. -/
example : readLiteral? .ignoring "1k".toList "1\u212A;".toList = some "1\u212A".toList := by
  rfl

end Leaf

end TextGrammar
