import Mathlib.Data.List.Forall2
import TextGrammar.Proofs.Leaf.Reading

/-!
# What leaves use

Whatever a leaf finds at the start of a text, the characters it has used for it are the first ones of
that text, and there is at least one. A leaf relies on nothing behind them and skips nothing before
them, so a cursor can move over exactly what was used.
-/

namespace TextGrammar

open Text

/-- Characters that a reader has used of a text: its first ones, and not none. -/
structure UsedOf (text used : List Char) : Prop where
  nonempty : used ≠ []
  starts : ∃ rest, text = used ++ rest

theorem Reading.ofOption_eq_found_iff {found : Option (LeafValue × List Char)} {value : LeafValue}
    {used : List Char} :
    Reading.ofOption found = .found value used ↔ found = some (value, used) := by
  cases found with
  | none => simp [Reading.ofOption]
  | some pair => simp [Reading.ofOption, Prod.ext_iff]

/-- A reading that is made of something found uses what that uses. -/
theorem Reading.usedOf_of_map {Found : Type} {found : Option Found}
    {image : Found → LeafValue × List Char} {text used : List Char} {value : LeafValue}
    (uses : ∀ item, found = some item → UsedOf text (image item).2)
    (reading : Reading.ofOption (found.map image) = .found value used) : UsedOf text used := by
  rcases Option.map_eq_some_iff.1 (Reading.ofOption_eq_found_iff.1 reading) with
    ⟨item, itemFound, pair⟩
  have itemUses := uses item itemFound
  rw [pair] at itemUses
  exact itemUses

/-! ## Characters and literals -/

theorem usedOf_of_readOne? {charClass : CharClass} {text : List Char} {c : Char}
    (found : readOne? charClass text = some c) : UsedOf text [c] := by
  cases text with
  | nil => simp [readOne?] at found
  | cons head rest =>
      simp only [readOne?, List.head?_cons, Option.filter_eq_some_iff, Option.some.injEq] at found
      cases found.1
      exact ⟨by simp, rest, rfl⟩

/-- A word is spelled by the first characters of a text, as many as it has, each of which is accepted
for its own. -/
theorem CaseRule.spelling?_eq_some_iff {rule : CaseRule} {word text used : List Char} :
    rule.spelling? word text = some used ↔
      List.Forall₂ (fun wanted actual => rule.accepts wanted actual = true) word used ∧
        ∃ rest, text = used ++ rest := by
  induction word generalizing text used with
  | nil =>
      rw [List.forall₂_nil_left_iff]
      constructor
      · rintro ⟨⟩
        exact ⟨rfl, text, rfl⟩
      · rintro ⟨rfl, -⟩
        rfl
  | cons wanted word ih =>
      cases text with
      | nil =>
          constructor
          · rintro ⟨⟩
          · rintro ⟨accepted, rest, same⟩
            obtain ⟨rfl, -⟩ := List.append_eq_nil_iff.1 same.symm
            cases accepted
      | cons actual text =>
          simp only [spelling?, Option.ite_none_right_eq_some, Option.map_eq_some_iff, ih,
            List.forall₂_cons_left_iff]
          constructor
          · rintro ⟨accepted, later, ⟨others, rest, rfl⟩, rfl⟩
            exact ⟨⟨actual, later, accepted, others, rfl⟩, rest, rfl⟩
          · rintro ⟨⟨first, later, accepted, others, rfl⟩, rest, same⟩
            obtain ⟨rfl, rfl⟩ := List.cons.inj same
            exact ⟨accepted, later, ⟨others, rest, rfl⟩, rfl⟩

theorem usedOf_of_readLiteral? {rule : CaseRule} {literal text used : List Char}
    (found : readLiteral? rule literal text = some used) : UsedOf text used := by
  unfold readLiteral? at found
  split at found
  · simp at found
  next nonempty =>
    rcases CaseRule.spelling?_eq_some_iff.1 found with ⟨accepted, starts⟩
    refine ⟨?_, starts⟩
    rintro rfl
    exact nonempty (List.forall₂_nil_right_iff.1 accepted)

theorem usedOf_of_readRun? {charClass : CharClass} {minimum : Nat} {maximum : Option Nat}
    {text used : List Char} (positive : 1 ≤ minimum)
    (found : readRun? charClass minimum maximum text = some used) : UsedOf text used := by
  -- the characters that the bound lets the run see
  have seen : ∃ window hidden, text = window ++ hidden ∧
      (if minimum ≤ (window.takeWhile charClass.test).length then
        some (window.takeWhile charClass.test) else none) = some used := by
    cases maximum with
    | none => exact ⟨text, [], by simp, found⟩
    | some count => exact ⟨text.take count, text.drop count, by simp, found⟩
  rcases seen with ⟨window, hidden, text_eq, found⟩
  split at found
  next long =>
    cases found
    constructor
    · intro empty
      rw [empty] at long
      exact absurd (Nat.le_trans positive long) (by simp)
    · refine ⟨window.dropWhile charClass.test ++ hidden, ?_⟩
      rw [← List.append_assoc, List.takeWhile_append_dropWhile, text_eq]
  next => simp at found

theorem one_le_runMinimum (minimum : Nat) : 1 ≤ runMinimum minimum :=
  Nat.le_max_right _ _

/-! ## Comments and quoted texts -/

/-- A text splits at a word into what comes before it, the word and what comes after it. -/
theorem eq_append_of_splitAtWord? {word text body rest : List Char}
    (found : splitAtWord? word text = some (body, rest)) : text = body ++ word ++ rest := by
  induction text generalizing body with
  | nil =>
      rw [splitAtWord?_nil] at found
      rcases Option.map_eq_some_iff.1 found with ⟨tail, dropped, pair⟩
      cases pair
      exact dropExact?_eq_some_iff.1 dropped
  | cons c text ih =>
      rw [splitAtWord?_cons] at found
      split at found
      next tail dropped =>
        cases found
        exact dropExact?_eq_some_iff.1 dropped
      next =>
        rcases Option.map_eq_some_iff.1 found with ⟨⟨before, tail⟩, foundLater, pair⟩
        cases pair
        rw [ih foundLater]
        rfl

/-- A comment is read just if the text starts with the opening mark and has the closing mark behind
it. -/
theorem readComment?_eq_some_iff {opening closing text body : List Char} :
    readComment? opening closing text = some body ↔
      opening ≠ [] ∧ closing ≠ [] ∧ ∃ inside rest,
        text = opening ++ inside ∧ splitAtWord? closing inside = some (body, rest) := by
  unfold readComment?
  split
  next empty =>
    constructor
    · intro found
      cases found
    · rintro ⟨opened, closed, -⟩
      exact absurd empty (not_or.2 ⟨opened, closed⟩)
  next marks =>
    rcases not_or.1 marks with ⟨opened, closed⟩
    simp only [Option.bind_eq_bind, Option.bind_eq_some_iff, dropExact?_eq_some_iff,
      Option.some.injEq, Prod.exists]
    constructor
    · rintro ⟨inside, starts, _, rest, split, rfl⟩
      exact ⟨opened, closed, inside, rest, starts, split⟩
    · rintro ⟨-, -, inside, rest, starts, split⟩
      exact ⟨inside, starts, body, rest, split, rfl⟩

theorem usedOf_of_readComment? {opening closing text body : List Char}
    (found : readComment? opening closing text = some body) :
    UsedOf text (opening ++ body ++ closing) := by
  rcases readComment?_eq_some_iff.1 found with ⟨opened, -, inside, rest, starts, split⟩
  refine ⟨by simp [opened], rest, ?_⟩
  rw [starts, eq_append_of_splitAtWord? split]
  simp only [List.append_assoc]

/-- What is left behind a quoted text is an end of it, before which the last mark at least was
read. -/
theorem eq_append_of_unquote? {quote : Quote} {text values rest : List Char}
    (found : unquote? quote text = some (values, rest)) : ∃ used, used ≠ [] ∧ text = used ++ rest := by
  fun_induction unquote? quote text generalizing values with
  | case1 => simp at found
  | case2 a b c d text ih =>
      rcases Option.bind_eq_some_iff.1 found with ⟨value, -, found⟩
      rcases Option.bind_eq_some_iff.1 found with ⟨⟨later, tail⟩, foundLater, same⟩
      cases same
      rcases ih foundLater with ⟨used, -, rfl⟩
      exact ⟨'\\' :: 'u' :: a :: b :: c :: d :: used, by simp, rfl⟩
  | case3 => simp at found
  | case4 c text notCode notU ih =>
      rcases Option.bind_eq_some_iff.1 found with ⟨⟨later, tail⟩, foundLater, same⟩
      cases same
      rcases ih foundLater with ⟨used, -, rfl⟩
      exact ⟨'\\' :: c :: used, by simp, rfl⟩
  | case5 text =>
      cases found
      exact ⟨[quote.mark], by simp, rfl⟩
  | case6 => simp at found
  | case7 c text notMark notBackslash _ _ ih =>
      rcases Option.map_eq_some_iff.1 found with ⟨⟨later, tail⟩, foundLater, same⟩
      cases same
      rcases ih foundLater with ⟨used, -, rfl⟩
      exact ⟨c :: used, by simp, rfl⟩

theorem usedOf_of_readQuotedValue? {quote : Quote} {text used : List Char} {value : LeafValue}
    (found : readQuotedValue? quote text = some (value, used)) : UsedOf text used := by
  rcases Option.map_eq_some_iff.1 found with ⟨⟨inner, rest⟩, quoted, same⟩
  cases same
  have split : ∃ passed, passed ≠ [] ∧ text = passed ++ rest := by
    cases text with
    | nil => simp [readQuoted?] at quoted
    | cons c text =>
        rw [readQuoted?] at quoted
        split at quoted
        next mark =>
          rcases eq_append_of_unquote? quoted with ⟨passed, -, rfl⟩
          exact ⟨c :: passed, by simp, rfl⟩
        next => simp at quoted
  rcases split with ⟨passed, nonempty, rfl⟩
  have length : (passed ++ rest).length - rest.length = passed.length := by simp
  rw [length, List.take_left]
  exact ⟨nonempty, rest, rfl⟩

/-! ## Numbers and formats -/

theorem head_eq_of_readSign? {conventions : NumberConventions} {text : List Char} {sign : Sign}
    {c : Char} (found : readSign? conventions text = some (sign, c)) : text.head? = some c := by
  cases text with
  | nil => simp [readSign?] at found
  | cons head rest =>
      rw [readSign?] at found
      split at found
      · cases found
        rfl
      · split at found
        · cases found
          rfl
        · simp at found

/-- The sign as it is spelled, if there is one, is the start of the text. -/
theorem eq_append_of_readSign? (conventions : NumberConventions) (text : List Char) :
    let spelled := (readSign? conventions text).toList.map Prod.snd
    text = spelled ++ text.drop spelled.length := by
  cases found : readSign? conventions text with
  | none => simp
  | some pair =>
      rcases pair with ⟨sign, c⟩
      rcases List.head?_eq_some_iff.1 (head_eq_of_readSign? found) with ⟨rest, rfl⟩
      simp

theorem usedOf_of_readLong {radix : Radix} {conventions : NumberConventions}
    {text used : List Char} {value : LeafValue}
    (found : readLong radix conventions text = .found value used) : UsedOf text used := by
  have signed := eq_append_of_readSign? conventions text
  simp only [readLong] at found
  generalize (readSign? conventions text).toList.map Prod.snd = spelled at signed found
  split at found
  · simp at found
  next digits =>
    split at found
    next number accumulated =>
      cases found
      constructor
      · exact List.append_ne_nil_of_right_ne_nil spelled digits
      · refine ⟨(text.drop spelled.length).dropWhile (isDigitOf radix.value), ?_⟩
        rw [List.append_assoc, List.takeWhile_append_dropWhile]
        exact signed
    next => simp at found

theorem usedOf_of_ofFormat {format : Format LeafValue} {conventions : Conventions}
    {text used : List Char} {value : LeafValue}
    (found : Reading.ofFormat format conventions text = .found value used) : UsedOf text used := by
  rw [Reading.ofFormat] at found
  split at found
  · simp at found
  next read rest =>
    apply Reading.usedOf_of_map _ found
    intro part partFound
    rcases usedText?_eq_some_iff.1 partFound with ⟨nonempty, text_eq⟩
    exact ⟨nonempty, _, text_eq⟩

/-- Every leaf uses the first characters of the text it is given, and at least one of them. -/
theorem Leaf.usedOf_of_read {leaf : Leaf} {conventions : Conventions} {text used : List Char}
    {value : LeafValue} (found : leaf.read conventions text = .found value used) :
    UsedOf text used := by
  cases leaf with
  | character charClass => exact Reading.usedOf_of_map (fun _ => usedOf_of_readOne?) found
  | literal caseRule wanted => exact Reading.usedOf_of_map (fun _ => usedOf_of_readLiteral?) found
  | symbol wanted => exact Reading.usedOf_of_map (fun _ => usedOf_of_readLiteral?) found
  | run charClass minimum maximum =>
      apply Reading.usedOf_of_map _ found
      intro run greedy
      exact usedOf_of_readRun? (one_le_runMinimum minimum) greedy
  | whitespace =>
      apply Reading.usedOf_of_map _ found
      intro run greedy
      exact usedOf_of_readRun? (Nat.le_refl 1) greedy
  | comment opening closing =>
      exact Reading.usedOf_of_map (fun _ => usedOf_of_readComment?) found
  | quoted quote => exact usedOf_of_readQuotedValue? (Reading.ofOption_eq_found_iff.1 found)
  | long radix => exact usedOf_of_readLong found
  | sign =>
      apply Reading.usedOf_of_map _ found
      intro pair signFound
      rcases List.head?_eq_some_iff.1 (head_eq_of_readSign? signFound) with ⟨rest, text_eq⟩
      exact ⟨by simp, rest, text_eq⟩
  | decimal => exact usedOf_of_ofFormat found
  | dateTime kind choice => exact usedOf_of_ofFormat found
  | formatted format => exact usedOf_of_ofFormat found

end TextGrammar
