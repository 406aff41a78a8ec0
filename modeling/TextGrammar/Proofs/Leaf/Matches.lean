import TextGrammar.Grammar
import TextGrammar.Proofs.Calendar.ReadBack
import TextGrammar.Proofs.Leaf.Scanning
import TextGrammar.Proofs.Matcher.Matches

/-!
# What leaves match

A leaf matches just what it finds at the cursor, and moves the cursor behind what it has used. Of
some leaves it is said in both directions what they find: a run of characters ends where a character
of another kind comes, and a time with an offset is found where one is written by the pattern for
it.
-/

namespace TextGrammar

open Text Calendar

namespace Leaf

variable {conventions : Conventions} {used rest text : List Char} {value : LeafValue}

theorem matches_matcher_iff {leaf : Leaf} {start finish : Cursor} {token : Token} :
    (leaf.matcher conventions start).Matches token finish ↔
      ∃ value used, leaf.read conventions start.after = .found value used ∧
        token = .leaf value (String.ofList used) ∧ finish = start.skip used.length := by
  rw [Leaf.matcher_eq]
  cases reading : leaf.read conventions start.after with
  | found value used =>
      have nonempty : String.ofList used ≠ "" := by
        intro empty
        exact (usedOf_of_read reading).nonempty (String.ofList_eq_empty_iff.1 empty)
      simp only [Reading.reply, Reply.matches_ofToken_iff, Token.makeLeaf_eq_ok_iff]
      constructor
      · rintro ⟨⟨-, rfl⟩, rfl⟩
        exact ⟨value, used, rfl, rfl, rfl⟩
      · rintro ⟨_, _, ⟨⟩, rfl, rfl⟩
        exact ⟨⟨nonempty, rfl⟩, rfl⟩
  | nothing => simp [Reading.reply, Reply.noMatch]
  | outOfRange accepted => simp [Reading.reply]
  | refused => simp [Reading.reply]

/-- A leaf matches a value at a cursor. It uses characters of the text for it and leaves the rest.
-/
structure Finds (leaf : Leaf) (conventions : Conventions) (start : Cursor) (value : LeafValue)
    (used rest : List Char) : Prop where
  outcome_eq :
    (leaf.matcher conventions start).outcome = .matched (.leaf value (String.ofList used))
  passes : start.Passes used (leaf.matcher conventions start).cursor
  after_eq : (leaf.matcher conventions start).cursor.after = rest

/-- A leaf does not match at a cursor, which it leaves where it is. -/
structure Declines (leaf : Leaf) (conventions : Conventions) (start : Cursor) : Prop where
  outcome_eq : (leaf.matcher conventions start).outcome = .noMatch
  cursor_eq : (leaf.matcher conventions start).cursor = start

theorem finds_of_read {leaf : Leaf} {start : Cursor} (text_eq : start.after = used ++ rest)
    (reading : leaf.read conventions start.after = .found value used) :
    leaf.Finds conventions start value used rest := by
  obtain ⟨outcome, cursor⟩ := matches_matcher_iff.2 ⟨value, used, reading, rfl, rfl⟩
  refine ⟨outcome, ?_, ?_⟩
  · rw [cursor]
    exact Cursor.passes_skip text_eq
  · simp [cursor, Cursor.skip, text_eq]

/-- A leaf that finds nothing does not match, for whatever reason. -/
theorem declines_of_not_found {leaf : Leaf} {start : Cursor}
    (missing : ∀ value used, leaf.read conventions start.after ≠ .found value used) :
    leaf.Declines conventions start := by
  constructor <;> rw [Leaf.matcher_eq] <;> cases reading : leaf.read conventions start.after with
  | found value used => exact absurd reading (missing value used)
  | nothing => rfl
  | outOfRange accepted => rfl
  | refused => rfl

/-- A leaf that declines unless a condition holds matches only then. -/
theorem matched_iff {leaf : Leaf} {start : Cursor} {condition : Prop}
    (found : condition → ∃ value used rest, leaf.Finds conventions start value used rest)
    (missing : ¬condition → leaf.Declines conventions start) :
    (∃ token, (leaf.matcher conventions start).outcome = .matched token) ↔ condition := by
  constructor
  · rintro ⟨token, matched⟩
    by_cases holds : condition
    · exact holds
    · rw [(missing holds).outcome_eq] at matched
      cases matched
  · intro holds
    obtain ⟨value, used, rest, finds⟩ := found holds
    exact ⟨_, finds.outcome_eq⟩

/-- What is found at the front of the text is matched, and the rest is left. -/
theorem matches_matcher_of_read {leaf : Leaf}
    (reading : leaf.read conventions (used ++ rest) = .found value used) (before : List Char) :
    (leaf.matcher conventions ⟨before, used ++ rest⟩).Matches (.leaf value (String.ofList used))
      ⟨used.reverse ++ before, rest⟩ := by
  refine matches_matcher_iff.2 ⟨value, used, reading, rfl, ?_⟩
  simp [Cursor.skip]

/-! ## Runs -/

theorem readRun?_append {charClass : CharClass} {minimum : Nat}
    (all : ∀ c ∈ used, charClass.test c = true) (enough : minimum ≤ used.length)
    (goesOn : GoesOnWith (charClass.test · = false) rest) :
    readRun? charClass minimum none (used ++ rest) = some used := by
  simp [readRun?, takeWhile_append_of_goesOnWith all goesOn, enough]

theorem read_run_append (conventions : Conventions) {charClass : CharClass}
    (all : ∀ c ∈ used, charClass.test c = true) (nonempty : used ≠ [])
    (goesOn : GoesOnWith (charClass.test · = false) rest) :
    (run charClass 1 none).read conventions (used ++ rest) =
      .found (.string (String.ofList used)) used := by
  have enough : runMinimum 1 ≤ used.length := List.length_pos_iff.2 nonempty
  simp [read, readRun?_append all enough goesOn, Reading.ofOption, sameValueAndText]

theorem read_whitespace_append (conventions : Conventions) (all : ∀ c ∈ used, isBlank c = true)
    (nonempty : used ≠ []) (noBlank : startsBlank rest = false) :
    whitespace.read conventions (used ++ rest) =
      .found (.whitespace (String.ofList used)) used := by
  have goesOn : GoesOnWith (isBlank · = false) rest := by
    cases rest with
    | nil => simp [GoesOnWith]
    | cons c rest => exact goesOnWith_cons.2 noBlank
  have found : readRun? .whitespace 1 none (used ++ rest) = some used :=
    readRun?_append all (List.length_pos_iff.2 nonempty) goesOn
  simp [read, found, Reading.ofOption, sameValueAndText]

/-- A leaf whose value is the text that it has used has that text as its value. -/
theorem found_sameValueAndText_iff {kind : String → LeafValue} {found : Option (List Char)} :
    Reading.ofOption (found.map (sameValueAndText kind)) = .found value used ↔
      found = some used ∧ value = kind (String.ofList used) := by
  cases found with
  | none => simp [Reading.ofOption]
  | some other =>
      simp only [Reading.ofOption, sameValueAndText, Option.map_some, Reading.found.injEq,
        Option.some.injEq]
      constructor
      · rintro ⟨rfl, rfl⟩
        exact ⟨rfl, rfl⟩
      · rintro ⟨rfl, rfl⟩
        exact ⟨rfl, rfl⟩

/-! ## Symbols -/

/-- Exactly a word is spelled in one way only. -/
theorem spelling?_exact_eq_some_iff {word : List Char} :
    CaseRule.exact.spelling? word text = some used ↔ used = word ∧ ∃ rest, text = word ++ rest := by
  have same : List.Forall₂ (fun wanted actual => CaseRule.exact.accepts wanted actual = true) word
      used ↔ word = used := by
    simp only [CaseRule.accepts, beq_iff_eq, List.forall₂_eq_eq_eq]
  rw [CaseRule.spelling?_eq_some_iff, same]
  constructor
  · rintro ⟨rfl, starts⟩
    exact ⟨rfl, starts⟩
  · rintro ⟨rfl, starts⟩
    exact ⟨rfl, starts⟩

/-- A symbol is found where it stands. -/
theorem read_symbol_eq_found_iff {wanted : String} :
    (symbol wanted).read conventions text = .found value used ↔
      wanted ≠ "" ∧ used = wanted.toList ∧ value = .symbol wanted ∧
        ∃ rest, text = wanted.toList ++ rest := by
  rw [read, found_sameValueAndText_iff, readLiteral?]
  split
  next empty => simp [String.toList_eq_nil_iff.1 empty]
  next nonempty =>
    rw [spelling?_exact_eq_some_iff]
    constructor
    · rintro ⟨⟨rfl, starts⟩, rfl⟩
      refine ⟨?_, rfl, by rw [String.ofList_toList], starts⟩
      rintro rfl
      exact nonempty rfl
    · rintro ⟨-, rfl, rfl, starts⟩
      exact ⟨⟨rfl, starts⟩, by rw [String.ofList_toList]⟩

/-! ## Times with offsets -/

/-- A format finds what it reads if something is used for it. -/
theorem found_ofFormat_iff {format : Format LeafValue} :
    Reading.ofFormat format conventions text = .found value used ↔
      ∃ rest, format.read? conventions text = some (value, rest) ∧ used ≠ [] ∧
        text = used ++ rest := by
  unfold Reading.ofFormat
  cases read : format.read? conventions text with
  | none => simp
  | some found =>
      rcases found with ⟨other, rest⟩
      simp only [Reading.ofOption_eq_found_iff, Option.map_eq_some_iff, usedText?_eq_some_iff]
      constructor
      · rintro ⟨_, ⟨nonempty, split⟩, ⟨⟩⟩
        exact ⟨rest, rfl, nonempty, split⟩
      · rintro ⟨_, ⟨⟩, nonempty, split⟩
        exact ⟨used, ⟨nonempty, split⟩, rfl⟩

/-- A text that does not start with a blank is read by the pattern. -/
theorem read?_dateTime_of_startsBlank {kind : DateTimeKind} {choice : PatternChoice}
    (front : startsBlank text = false) :
    (Format.dateTime kind choice).read? conventions text =
      kind.readPattern? conventions.dateTime.defaultYear (choice.resolve conventions.dateTime)
        text :=
  if_neg (by simp [front])

/-- A time with an offset is found where it is written in whole seconds and minutes. -/
theorem read_offsetTime_append (conventions : Conventions) {time : OffsetTime}
    (whole : time.IsWhole) (rest : List Char) :
    (dateTime .offsetTime (.fixed "%H:%M:%S%:z")).read conventions (time.display ++ rest) =
      .found (.offsetTime time) time.display := by
  have nonempty : time.display ≠ [] := by
    simp [OffsetTime.display, Offset.display]
  rw [read, found_ofFormat_iff, read?_dateTime_of_startsBlank (startsBlank_display time rest)]
  refine ⟨rest, ?_, nonempty, rfl⟩
  rw [PatternChoice.resolve, DateTimeKind.readPattern?, readItems?_display whole]
  simp [DateTimeKind.valueInYear?, DateTimeKind.value?, toOffsetTime_ofOffsetTime whole,
    Except.toOption]

/-- What is read as a time with an offset is one. -/
theorem exists_offsetTime_of_read {choice : PatternChoice}
    (reading : (dateTime .offsetTime choice).read conventions text = .found value used) :
    ∃ time, value = .offsetTime time := by
  have ofFields {fields : Fields} (found : DateTimeKind.offsetTime.value? fields = some value) :
      ∃ time, value = .offsetTime time := by
    obtain ⟨time, -, rfl⟩ := Option.map_eq_some_iff.1 found
    exact ⟨time, rfl⟩
  rw [read] at reading
  obtain ⟨rest, read, -⟩ := found_ofFormat_iff.1 reading
  simp only [Format.dateTime] at read
  split at read
  next => cases read
  next =>
    simp only [DateTimeKind.readPattern?, Option.bind_eq_bind, Option.bind_eq_some_iff,
      Option.some.injEq, Prod.mk.injEq] at read
    obtain ⟨progress, -, _, inYear, rfl, -⟩ := read
    unfold DateTimeKind.valueInYear? at inYear
    split at inYear
    next known =>
      cases inYear
      exact ofFields known
    next =>
      obtain ⟨withYear, -, known⟩ := Option.bind_eq_some_iff.1 inYear
      exact ofFields known

end Leaf

end TextGrammar
