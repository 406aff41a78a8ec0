import TextGrammar.Format

/-!
# Blanks before a date or time

Numbers may have blanks before them, so a text that starts with blanks is turned away unless the
pattern begins with white space. What a pattern begins with is seen from its first item: that is white
space if the pattern starts with a blank, and also if it starts with one of the two specifiers for white
space. Only the former are looked at when a text starts with a blank.
-/

namespace TextGrammar

open Text Calendar

namespace Calendar

theorem letterItems_ne_nil (letter : Char) : letterItems letter ≠ [] := by
  unfold letterItems
  split
  · exact List.cons_ne_nil _ _
  · split <;> exact List.cons_ne_nil _ _

/-- Two letters stand for white space. -/
theorem head?_letterItems_eq_blank_iff (letter : Char) :
    (letterItems letter).head? = some .blank ↔ letter = 't' ∨ letter = 'n' := by
  constructor
  · intro first
    unfold letterItems at first
    split at first
    next => cases first
    next =>
      split at first <;> simp_all [threeNumbers, clockItems, wholeMomentItems]
  · intro isLetter
    rcases isLetter with rfl | rfl <;> rfl

theorem specifier_ne_nil (text : List Char) : (specifier text).1 ≠ [] := by
  unfold specifier
  split <;> try exact List.cons_ne_nil _ _
  split
  · split <;> exact List.cons_ne_nil _ _
  · exact letterItems_ne_nil _

/-- A specifier begins with white space if it is one of those two letters. A mark that fills numbers
does not go with them. -/
theorem head?_specifier_eq_blank_iff (text : List Char) :
    (specifier text).1.head? = some .blank ↔ text.head? = some 't' ∨ text.head? = some 'n' := by
  cases text with
  | nil => simp [specifier]
  | cons letter rest =>
      simp only [List.head?_cons, Option.some.injEq]
      unfold specifier
      split <;> rename_i whole <;> cases whole
      -- None of the longer specifiers begins with one of the two letters.
      iterate 11 decide
      split
      next isMark =>
        rcases isMark with rfl | rfl | rfl
        all_goals
          split <;> simp
      next => exact head?_letterItems_eq_blank_iff letter

/-- Whether a pattern starts with a specifier for white space. -/
def startsWithBlankSpecifier (pattern : List Char) : Bool :=
  match pattern with
  | '%' :: letter :: _ => letter = 't' ∨ letter = 'n'
  | _ => false

theorem startsBlank_percent (rest : List Char) : startsBlank ('%' :: rest) = false := by
  rw [startsBlank]
  decide

theorem startsBlank_of_startsWithBlankSpecifier {pattern : List Char}
    (isSpecifier : startsWithBlankSpecifier pattern) : startsBlank pattern = false := by
  unfold startsWithBlankSpecifier at isSpecifier
  split at isSpecifier
  next => exact startsBlank_percent _
  next => cases isSpecifier

/-- The first item of a pattern is white space if the pattern starts with a blank or with a specifier
for white space. -/
theorem head?_patternItems_eq_blank_iff (pattern : String) :
    (patternItems pattern).head? = some .blank ↔
      startsBlank pattern.toList ∨ startsWithBlankSpecifier pattern.toList := by
  unfold patternItems
  cases pattern.toList with
  | nil => simp [itemsAfter, startsBlank, startsWithBlankSpecifier]
  | cons first rest =>
      by_cases isPercent : first = '%'
      · subst isPercent
        have isSpecifier : startsWithBlankSpecifier ('%' :: rest) ↔
            rest.head? = some 't' ∨ rest.head? = some 'n' := by
          cases rest <;> simp [startsWithBlankSpecifier]
        have notBlank : ¬ startsBlank ('%' :: rest) := by simp [startsBlank_percent]
        have items : (itemsAfter 0 ('%' :: rest)).head? = (specifier rest).1.head? := by
          rw [itemsAfter, if_pos rfl, List.head?_append,
            Option.or_of_isSome (List.isSome_head?.mpr (specifier_ne_nil rest))]
        rw [items, head?_specifier_eq_blank_iff, isSpecifier, or_iff_right notBlank]
      · have notSpecifier : ¬ startsWithBlankSpecifier (first :: rest) := by
          simp [startsWithBlankSpecifier, isPercent]
        rw [or_iff_left notSpecifier, itemsAfter, if_neg isPercent]
        cases blank : isBlank first <;> simp [startsBlank, blank]

end Calendar

namespace Format

/-- **What is done with the blanks before a date or time.** A text that does not start with a blank is
read as its pattern says. One that does is read so if the pattern asks for white space by starting with
a blank. It is turned away if the pattern does not ask for white space first, but also if it asks for
it by a specifier. -/
theorem leading_blanks_need_leading_blank (kind : DateTimeKind) (choice : PatternChoice)
    (conventions : Conventions) (text : List Char) :
    let pattern := choice.resolve conventions.dateTime
    let read := (dateTime kind choice).read? conventions text
    (startsBlank text = false ∨
        (patternItems pattern).head? = some .blank ∧ ¬ startsWithBlankSpecifier pattern.toList →
      read = kind.readPattern? conventions.dateTime.defaultYear pattern text) ∧
    (startsBlank text → (patternItems pattern).head? ≠ some .blank → read = none) ∧
    (startsBlank text → startsWithBlankSpecifier pattern.toList → read = none) := by
  intro pattern read
  have isRead : read = if startsBlank text && !startsBlank pattern.toList then none
      else kind.readPattern? conventions.dateTime.defaultYear pattern text := rfl
  have asks := head?_patternItems_eq_blank_iff pattern
  refine ⟨?_, ?_, ?_⟩
  · intro allowed
    rw [isRead, if_neg]
    rcases allowed with noBlank | ⟨first, notSpecifier⟩
    · simp [noBlank]
    · have startsPattern := (asks.1 first).resolve_right notSpecifier
      simp [startsPattern]
  · intro blank notFirst
    have notPattern : startsBlank pattern.toList = false :=
      eq_false_of_ne_true fun startsPattern => notFirst (asks.2 (.inl startsPattern))
    simp [isRead, blank, notPattern]
  · intro blank isSpecifier
    simp [isRead, blank, startsBlank_of_startsWithBlankSpecifier isSpecifier]

/-- A blank before a time is read by a pattern that starts with one, and turned away by a pattern that
starts with a number or with a specifier for white space. -/
theorem leading_blanks_need_leading_blank_time :
    let text := " 09:30".toList
    let read (pattern : String) := (dateTime .localTime (.fixed pattern)).read? (.english 2000) text
    read " %H:%M" = DateTimeKind.localTime.readPattern? 2000 " %H:%M" text ∧
    read "%H:%M" = none ∧ read "%t%H:%M" = none := by
  intro text read
  refine ⟨?_, ?_, ?_⟩
  · exact (leading_blanks_need_leading_blank .localTime (.fixed " %H:%M") (.english 2000) text).1
      (.inr (by decide))
  · exact (leading_blanks_need_leading_blank .localTime (.fixed "%H:%M") (.english 2000) text).2.1
      (by decide) (by decide)
  · exact (leading_blanks_need_leading_blank .localTime (.fixed "%t%H:%M") (.english 2000) text).2.2
      (by decide) (by decide)

/-- A pattern may ask for white space first, and match a text that starts with a blank, and still the
text is turned away. -/
theorem leading_blank_turned_away_of_specifier :
    let text := " 2001-07-08".toList
    (patternItems "%n%F").head? = some .blank ∧
    (DateTimeKind.localDate.readPattern? 2000 "%n%F" text).isSome ∧
    (dateTime .localDate (.fixed "%n%F")).read? (.english 2000) text = none := by
  decide +kernel

end Format

end TextGrammar
