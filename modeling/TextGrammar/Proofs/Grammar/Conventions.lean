import TextGrammar.Proofs.Grammar.Parts
import TextGrammar.Proofs.Leaf.Scanning
import TextGrammar.Proofs.Matcher.Conventions
import TextGrammar.Token.Change

/-!
# What a grammar asks of the conventions

Under two conventions a grammar replies the same if they give the same answers to what its leaves ask.
Each leaf asks little: a long and a sign ask for the two signs, a decimal for all conventions of
numbers, a date or time for the default year and its pattern. No leaf asks for the locale. So what a
grammar does not need has no influence on its replies.
-/

namespace TextGrammar

/-- What a leaf asks of the conventions has the same answers under both. -/
def Leaf.FindsAgreement (first second : Conventions) : Leaf → Prop
  | .long _ | .sign =>
      first.number.negativeSign = second.number.negativeSign ∧
        first.number.positiveSign = second.number.positiveSign
  | .decimal => first.number = second.number
  | .dateTime _ choice =>
      first.dateTime.defaultYear = second.dateTime.defaultYear ∧
        choice.resolve first.dateTime = choice.resolve second.dateTime
  | .formatted format => ∀ text, format.read? first text = format.read? second text
  | _ => True

/-- A leaf reads numbers as they are written at the place. -/
def Leaf.IsNumber : Leaf → Prop
  | .long _ | .sign | .decimal => True
  | _ => False

/-- A leaf reads dates or times. -/
def Leaf.IsDateTime : Leaf → Prop
  | .dateTime _ _ => True
  | _ => False

/-- A leaf reads dates or times by a pattern of the place. -/
def Leaf.IsByPlacePattern : Leaf → Prop
  | .dateTime _ (.fixed _) => False
  | .dateTime _ _ => True
  | _ => False

theorem readSign?_eq {first second : NumberConventions}
    (negative : first.negativeSign = second.negativeSign)
    (positive : first.positiveSign = second.positiveSign) (text : List Char) :
    readSign? first text = readSign? second text := by
  simp only [readSign?, negative, positive]

/-- A leaf finds the same if the answers to its questions are the same. -/
theorem Leaf.read_eq {first second : Conventions} {leaf : Leaf}
    (agreement : leaf.FindsAgreement first second) (text : List Char) :
    leaf.read first text = leaf.read second text := by
  cases leaf with
  | long radix => simp only [read, readLong, readSign?_eq agreement.1 agreement.2]
  | sign => simp only [read, readSign?_eq agreement.1 agreement.2]
  | decimal =>
      have same : first.number = second.number := agreement
      simp only [read, Reading.ofFormat, Format.decimal, Conventions.forNumbers_eq, same]
  | dateTime kind choice =>
      have year : first.defaultYear = second.defaultYear := agreement.1
      have pattern : choice.resolve first.forDates = choice.resolve second.forDates := agreement.2
      simp only [read, Reading.ofFormat, Format.dateTime, year, pattern]
  | formatted format =>
      have same : format.read? first text = format.read? second text := agreement text
      simp only [read, Reading.ofFormat, same]
  | _ => rfl

namespace Grammar

/-- What a part of a grammar asks of the conventions by itself has the same answers under both. -/
def FindsAgreement (first second : Conventions) : Grammar → Prop
  | .leaf single => single.FindsAgreement first second
  | .transform change _ => ∀ token, change token first = change token second
  | .external _ matcher => matcher.RepliesAlike first second
  | _ => True

/-- A grammar replies the same under two conventions if its parts find them in agreement. -/
theorem repliesAlike_matcher {first second : Conventions} (grammar : Grammar)
    (agreement : ∀ part ∈ grammar.parts, part.FindsAgreement first second) :
    grammar.matcher.RepliesAlike first second := by
  induction grammar with
  | leaf leaf =>
      intro start
      have ofLeaf : leaf.FindsAgreement first second := agreement _ (self_mem_parts _)
      rw [matcher, Leaf.matcher_eq, Leaf.matcher_eq, Leaf.read_eq ofLeaf]
  | sequence components ih =>
      rw [matcher, componentParts_eq_map]
      apply Matcher.RepliesAlike.sequence
      intro part member
      rcases List.mem_map.1 member with ⟨component, inside, rfl⟩
      have alike := ih component inside fun part below =>
        agreement part (parts_subset_sequence inside below)
      cases component with
      | required grammar => exact alike
      | optional grammar => exact alike
  | alternatives choices ih =>
      rw [matcher, grammarMatchers_eq_map]
      apply Matcher.RepliesAlike.firstOf
      intro matcher member
      rcases List.mem_map.1 member with ⟨choice, inside, rfl⟩
      exact ih choice inside fun part below =>
        agreement part (parts_subset_alternatives inside below)
  | optional inner ih =>
      rw [parts, List.forall_mem_cons] at agreement
      exact (ih agreement.2).optional
  | repeated minimum inner ih =>
      rw [parts, List.forall_mem_cons] at agreement
      exact (ih agreement.2).repeated _ minimum
  | labelled label inner ih =>
      rw [parts, List.forall_mem_cons] at agreement
      exact ih agreement.2
  | orReport reporter inner ih =>
      rw [parts, List.forall_mem_cons] at agreement
      exact (ih agreement.2).orReport reporter _
  | orFailIfTextRemains reporter inner ih =>
      rw [parts, List.forall_mem_cons] at agreement
      exact (ih agreement.2).orFailIfTextRemains reporter _
  | andNothingRemains inner ih =>
      rw [parts, List.forall_mem_cons] at agreement
      exact (ih agreement.2).andNothingRemains
  | map change inner ih =>
      rw [parts, List.forall_mem_cons] at agreement
      exact (ih agreement.2).map change
  | transform change inner ih =>
      rw [parts, List.forall_mem_cons] at agreement
      exact (ih agreement.2).transform agreement.1
  | external label matcher => exact agreement _ (self_mem_parts _)

/-- What a part of a grammar was given to work with does not read the conventions: neither a format
nor a function on tokens nor a matcher from elsewhere. -/
def IgnoresConventions : Grammar → Prop
  | .leaf (.formatted format) =>
      ∀ first second text, format.read? first text = format.read? second text
  | .transform change _ => ∀ token first second, change token first = change token second
  | .external _ matcher => ∀ first second, matcher.RepliesAlike first second
  | _ => True

/-- There is a leaf of some kind in a grammar. -/
def HasLeaf (kind : Leaf → Prop) (grammar : Grammar) : Prop :=
  ∃ single, .leaf single ∈ grammar.parts ∧ kind single

/-- A grammar replies the same if all conventions that its leaves may need are the same: those on
numbers, the default year, and the patterns of the place. -/
theorem parse_eq_of_needed {grammar : Grammar}
    (ignores : ∀ part ∈ grammar.parts, part.IgnoresConventions) {first second : Conventions}
    (numbers : grammar.HasLeaf Leaf.IsNumber → first.number = second.number)
    (years : grammar.HasLeaf Leaf.IsDateTime →
      first.dateTime.defaultYear = second.dateTime.defaultYear)
    (patterns : grammar.HasLeaf Leaf.IsByPlacePattern →
      first.dateTime.shortDatePattern = second.dateTime.shortDatePattern ∧
        first.dateTime.timePattern = second.dateTime.timePattern)
    (start : Cursor) : grammar.parse first start = grammar.parse second start := by
  apply repliesAlike_matcher
  intro part member
  have given := ignores part member
  cases part with
  | leaf single =>
      cases single with
      | long radix =>
          have same := numbers ⟨.long radix, member, trivial⟩
          exact ⟨congrArg _ same, congrArg _ same⟩
      | sign =>
          have same := numbers ⟨.sign, member, trivial⟩
          exact ⟨congrArg _ same, congrArg _ same⟩
      | decimal => exact numbers ⟨.decimal, member, trivial⟩
      | dateTime kind choice =>
          refine ⟨years ⟨.dateTime kind choice, member, trivial⟩, ?_⟩
          cases choice with
          | fixed pattern => rfl
          | shortDate => exact (patterns ⟨.dateTime kind .shortDate, member, trivial⟩).1
          | time => exact (patterns ⟨.dateTime kind .time, member, trivial⟩).2
          | shortDateTime =>
              have same := patterns ⟨.dateTime kind .shortDateTime, member, trivial⟩
              simp only [PatternChoice.resolve, same.1, same.2]
      | formatted format => exact given first second
      | _ => trivial
  | transform change inner => exact fun token => given token first second
  | external label matcher => exact given first second
  | _ => trivial

/-- A grammar depends on nothing in the conventions beyond what it needs, provided that what it was
given to work with does not read them. At every place of every text it replies the same whatever the
locale is; without dates and times, whatever the conventions on these are; without numbers, whatever
those on numbers are; and if dates and times have fixed patterns, whatever the patterns of the place
are. -/
theorem needs_no_other_conventions (grammar : Grammar)
    (ignores : ∀ part ∈ grammar.parts, part.IgnoresConventions) (conventions : Conventions)
    (start : Cursor) :
    (∀ locale, grammar.parse { conventions with dateTime.locale := locale } start =
      grammar.parse conventions start) ∧
      (¬grammar.HasLeaf Leaf.IsDateTime → ∀ dateTime,
        grammar.parse { conventions with dateTime := dateTime } start =
          grammar.parse conventions start) ∧
      (¬grammar.HasLeaf Leaf.IsNumber → ∀ number,
        grammar.parse { conventions with number := number } start =
          grammar.parse conventions start) ∧
      (¬grammar.HasLeaf Leaf.IsByPlacePattern → ∀ shortDatePattern timePattern,
        grammar.parse { conventions with
          dateTime.shortDatePattern := shortDatePattern
          dateTime.timePattern := timePattern } start = grammar.parse conventions start) := by
  refine ⟨?_, ?_, ?_, ?_⟩
  · intro locale
    apply parse_eq_of_needed ignores
    · exact fun _ => rfl
    · exact fun _ => rfl
    · exact fun _ => ⟨rfl, rfl⟩
  · intro without dateTime
    apply parse_eq_of_needed ignores
    · exact fun _ => rfl
    · exact fun found => absurd found without
    · rintro ⟨single, member, byPlace⟩
      cases single with
      | dateTime kind choice => exact absurd ⟨.dateTime kind choice, member, trivial⟩ without
      | _ => exact byPlace.elim
  · intro without number
    apply parse_eq_of_needed ignores
    · exact fun found => absurd found without
    · exact fun _ => rfl
    · exact fun _ => ⟨rfl, rfl⟩
  · intro without shortDatePattern timePattern
    apply parse_eq_of_needed ignores
    · exact fun _ => rfl
    · exact fun _ => rfl
    · exact fun found => absurd found without

/-- A day and a month by a fixed pattern, and a word. The year is that of the place. -/
def datedWord : Grammar :=
  .sequence [
    .required (.leaf (.dateTime .localDate (.fixed "%d/%m"))),
    .required (.leaf .whitespace),
    .optional (.map Token.asSymbol (.leaf (.run .letter 1 none)))]

/-- A decimal behind a sign that is read by itself, or else an integer. -/
def signedAmount : Grammar :=
  .alternatives [
    .sequence [.required (.leaf .sign), .required (.leaf .decimal)],
    .leaf (.long .ten)]

set_option maxRecDepth 4000 in
theorem needs_no_other_conventions_datedWord :
    let start := (Cursor.ofText "é29/02 x").skip 1
    let amountStart := Cursor.ofText "-1,5;"
    let german : Conventions := ⟨.english 2000, .german⟩
    (∀ part ∈ datedWord.parts, part.IgnoresConventions) ∧
      (∀ part ∈ signedAmount.parts, part.IgnoresConventions) ∧
      ¬signedAmount.HasLeaf Leaf.IsDateTime ∧ ¬datedWord.HasLeaf Leaf.IsNumber ∧
      ¬datedWord.HasLeaf Leaf.IsByPlacePattern ∧
      datedWord.parse ⟨⟨"fr", 2000, "%d/%m/%Y", "%H:%M:%S"⟩, .german⟩ start =
        datedWord.parse german start ∧
      signedAmount.parse ⟨.american 1999, .german⟩ amountStart =
        signedAmount.parse german amountStart ∧
      datedWord.parse (.english 2000) start = datedWord.parse german start ∧
      datedWord.parse ⟨⟨"en", 2000, "%Y", "%p"⟩, .german⟩ start = datedWord.parse german start ∧
      (datedWord.parse german start).cursor.remaining = "" ∧
      (signedAmount.parse german amountStart).cursor.remaining = ";" := by
  have ignores : ∀ part ∈ datedWord.parts, part.IgnoresConventions := by
    simp [datedWord, parts, Component.parts, partsOfComponents, IgnoresConventions]
  have ignoresAmount : ∀ part ∈ signedAmount.parts, part.IgnoresConventions := by
    simp [signedAmount, parts, Component.parts, partsOfComponents, partsOfGrammars,
      IgnoresConventions]
  have noDateTime : ¬signedAmount.HasLeaf Leaf.IsDateTime := by
    simp [signedAmount, parts, Component.parts, partsOfComponents, partsOfGrammars, HasLeaf,
      Leaf.IsDateTime, or_and_right, exists_or]
  have noNumber : ¬datedWord.HasLeaf Leaf.IsNumber := by
    simp [datedWord, parts, Component.parts, partsOfComponents, HasLeaf, Leaf.IsNumber,
      or_and_right, exists_or]
  have noPattern : ¬datedWord.HasLeaf Leaf.IsByPlacePattern := by
    simp [datedWord, parts, Component.parts, partsOfComponents, HasLeaf, Leaf.IsByPlacePattern,
      or_and_right, exists_or]
  have ofWord := needs_no_other_conventions datedWord ignores ⟨.english 2000, .german⟩
    ((Cursor.ofText "é29/02 x").skip 1)
  have ofAmount := needs_no_other_conventions signedAmount ignoresAmount ⟨.english 2000, .german⟩
    (.ofText "-1,5;")
  exact ⟨ignores, ignoresAmount, noDateTime, noNumber, noPattern, ofWord.1 "fr",
    ofAmount.2.1 noDateTime (.american 1999), ofWord.2.2.1 noNumber .american,
    ofWord.2.2.2 noPattern "%Y" "%p", rfl, rfl⟩

end Grammar

end TextGrammar
