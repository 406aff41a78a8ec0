import TextGrammar.Proofs.Grammar.Parts
import TextGrammar.Proofs.Leaf.Scanning
import TextGrammar.Proofs.Matcher.Reads
import TextGrammar.Proofs.Token.Tree

/-!
# What a grammar consumes

A grammar that matches has moved its cursor over exactly the text of the token it has matched, and
that text is in the leaves of the token, in order, with nothing lost, repeated or moved. This holds
for every grammar of leaves and combinations whose functions on tokens hand on the text. It is proved
once for all faithful readers, so that what is known of errors comes out of the same induction.
-/

namespace TextGrammar

/-- A leaf reads faithfully, and never fails. -/
theorem Leaf.reads_matcher (blames : ParseError → Cursor → Prop) (leaf : Leaf) :
    leaf.matcher.Reads blames := by
  intro conventions start
  rw [Leaf.matcher_eq]
  cases found : leaf.read conventions start.after with
  | found value used =>
    have usedOf := Leaf.usedOf_of_read found
    rcases usedOf.starts with ⟨rest, after_eq⟩
    have nonempty : String.ofList used ≠ "" := by
      intro empty
      exact usedOf.nonempty (String.ofList_eq_empty_iff.1 empty)
    rw [Reading.reply, Token.makeLeaf, if_neg nonempty]
    exact .matched (Cursor.passes_skip after_eq) ⟨.leaf nonempty, by simp [Token.text]⟩
  | nothing => exact .noMatch ⟨[], .refl start⟩
  | outOfRange accepted => exact .noMatch ⟨[], .refl start⟩
  | refused => exact .noMatch ⟨[], .refl start⟩

namespace Grammar

/-- What a grammar has to keep to by itself in order to read faithfully, apart from the grammars
inside of it: its functions on tokens hand on the text, and its errors may arise where they do. -/
def Admits (blames : ParseError → Cursor → Prop) : Grammar → Prop
  | .orReport reporter inner => ∀ cursor, blames (reporter.report cursor inner.label).1 cursor
  | .orFailIfTextRemains reporter inner =>
      ∀ cursor, blames (reporter.report cursor inner.label).1 cursor
  | .map change _ => Token.KeepsText change
  | .transform change _ => Token.KeepsTextIfAny change ∧
      ∀ token conventions error cursor, token.WellFormed →
        change token conventions = .error error → blames error cursor
  | .external _ matcher => matcher.Reads blames
  | _ => True

/-- A grammar reads faithfully if each of its parts keeps to its own side. -/
theorem reads_matcher {blames : ParseError → Cursor → Prop} (grammar : Grammar)
    (admitted : ∀ part ∈ grammar.parts, part.Admits blames) : grammar.matcher.Reads blames := by
  induction grammar with
  | leaf leaf => exact leaf.reads_matcher blames
  | sequence components ih =>
      rw [matcher, componentParts_eq_map]
      apply Matcher.Reads.sequence
      intro part member
      rcases List.mem_map.1 member with ⟨component, inside, rfl⟩
      have reads := ih component inside fun part below =>
        admitted part (parts_subset_sequence inside below)
      cases component with
      | required grammar => exact reads
      | optional grammar => exact reads
  | alternatives choices ih =>
      rw [matcher, grammarMatchers_eq_map]
      apply Matcher.Reads.firstOf
      intro matcher member
      rcases List.mem_map.1 member with ⟨choice, inside, rfl⟩
      exact ih choice inside fun part below =>
        admitted part (parts_subset_alternatives inside below)
  | optional inner ih =>
      rw [parts, List.forall_mem_cons] at admitted
      exact (ih admitted.2).optional
  | repeated minimum inner ih =>
      rw [parts, List.forall_mem_cons] at admitted
      exact (ih admitted.2).repeated _ minimum
  | labelled label inner ih =>
      rw [parts, List.forall_mem_cons] at admitted
      exact ih admitted.2
  | orReport reporter inner ih =>
      rw [parts, List.forall_mem_cons] at admitted
      exact (ih admitted.2).orReport admitted.1
  | orFailIfTextRemains reporter inner ih =>
      rw [parts, List.forall_mem_cons] at admitted
      exact (ih admitted.2).orFailIfTextRemains admitted.1
  | andNothingRemains inner ih =>
      rw [parts, List.forall_mem_cons] at admitted
      exact (ih admitted.2).andNothingRemains
  | map change inner ih =>
      rw [parts, List.forall_mem_cons] at admitted
      apply (ih admitted.2).map
      intro token passed spelled
      have kept := admitted.1 token spelled.1
      exact ⟨kept.1, by rw [kept.2, spelled.2]⟩
  | transform change inner ih =>
      rw [parts, List.forall_mem_cons] at admitted
      apply (ih admitted.2).transform
      · intro token conventions passed changed spelled same
        have kept := admitted.1.1 token conventions changed spelled.1 same
        exact ⟨kept.1, by rw [kept.2, spelled.2]⟩
      · exact admitted.1.2
  | external label matcher => exact admitted _ (self_mem_parts _)

/-- A part of a grammar is a leaf or a combination, and if it changes tokens it hands on their
text. -/
def HandsOnText : Grammar → Prop
  | .map change _ => Token.KeepsText change
  | .transform change _ => Token.KeepsTextIfAny change
  | .external _ _ => False
  | _ => True

/-- Without a demand on errors, a part that hands on texts keeps to its side. -/
theorem HandsOnText.admits {part : Grammar} (handsOn : part.HandsOnText) :
    part.Admits fun _ _ => True := by
  cases part with
  | orReport reporter inner => exact fun _ => trivial
  | orFailIfTextRemains reporter inner => exact fun _ => trivial
  | map change inner => exact handsOn
  | transform change inner => exact ⟨handsOn, fun _ _ _ _ _ _ => trivial⟩
  | external label matcher => exact False.elim handsOn
  | _ => trivial

/-- A match consumes exactly the text of its token: the cursor has passed over the characters of the
text, so that the text between the two places is that of the token. The token is well formed at every
depth, and its leaves in order are what was consumed. -/
theorem matched_consumes_text (grammar : Grammar)
    (handsOn : ∀ part ∈ grammar.parts, part.HandsOnText) (conventions : Conventions)
    (start : Cursor) (token : Token)
    (matched : (grammar.parse conventions start).outcome = .matched token) :
    let finish := (grammar.parse conventions start).cursor
    start.Passes token.text.toList finish ∧ finish.textBetween start.save = token.text ∧
      token.WellFormed ∧ Token.joinTexts token.leaves = finish.textBetween start.save := by
  have reads := grammar.reads_matcher (fun part member => (handsOn part member).admits)
    conventions start
  rcases reads.finds token matched with ⟨passed, passage, wellFormed, rfl⟩
  have between := passage.textBetween_eq
  rw [String.ofList_toList] at between
  refine ⟨passage, between, wellFormed, ?_⟩
  rw [wellFormed.joinTexts_leaves]
  exact between.symm

/-- An integer with its sign, its radix and marks behind it. The first mark is tried together with
one that is missing, and the text is changed into four kinds of tokens. -/
def markedInteger : Grammar :=
  .sequence [
    .required (.transform (fun token conventions => token.asSign conventions.number)
      (.leaf .sign)),
    .required (.transform (fun token _ => token.prefixedNumber)
      (.sequence [
        .required (.leaf (.literal .ignoring "0x")),
        .required (.leaf (.run (.anyOf "0123456789abcdef") 1 none))])),
    .optional (.sequence [
      .required (.leaf (.symbol "é")),
      .required (.leaf (.symbol "!"))]),
    .required (.repeated 0 (.map Token.wrap (.map Token.asSymbol
      (.leaf (.character (.single 'é'))))))]

/-- The token of a negative integer in hexadecimal digits with two marks behind it. -/
def markedIntegerToken : Token :=
  .parent .sequence [
    .leaf (.sign .negative) "-",
    .leaf (.bigInteger 31) "0X1f",
    .parent .repeated [
      .parent .sequence [.leaf (.symbol "é") "é"] "é",
      .parent .sequence [.leaf (.symbol "é") "é"] "é"] "éé"] "-0X1féé"

theorem handsOnText_markedInteger : ∀ part ∈ markedInteger.parts, part.HandsOnText := by
  simp [markedInteger, parts, Component.parts, partsOfComponents, HandsOnText,
    Token.keepsTextIfAny_asSign, Token.keepsTextIfAny_prefixedNumber, Token.keepsText_wrap,
    Token.keepsText_asSymbol]

set_option maxRecDepth 4000 in
theorem matched_consumes_text_markedInteger :
    let start := (Cursor.ofText "é-0X1féé ").skip 1
    let finish := (markedInteger.parse (.english 2000) start).cursor
    (∀ part ∈ markedInteger.parts, part.HandsOnText) ∧
      (markedInteger.parse (.english 2000) start).outcome = .matched markedIntegerToken ∧
      start.Passes "-0X1féé".toList finish ∧ finish.textBetween start.save = "-0X1féé" ∧
      markedIntegerToken.WellFormed ∧
      Token.joinTexts markedIntegerToken.leaves = finish.textBetween start.save :=
  ⟨handsOnText_markedInteger, rfl,
    matched_consumes_text markedInteger handsOnText_markedInteger (.english 2000)
      ((Cursor.ofText "é-0X1féé ").skip 1) markedIntegerToken rfl⟩

end Grammar

end TextGrammar
