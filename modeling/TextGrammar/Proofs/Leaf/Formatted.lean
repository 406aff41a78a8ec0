import TextGrammar.Proofs.Leaf.Matches
import TextGrammar.Proofs.Text.Utf8

/-!
# Formats are not trusted

A format says what it leaves of a text, and may say anything. So its answer is checked: how many bytes
it would have used, whether the stored text ends with what it leaves, and whether there is a boundary
where that starts. An answer passes these checks just if the text is some characters and then what is
left. Only then there is a match, of just these characters, and else the cursor stays where it is.
-/

namespace TextGrammar

open Text

namespace Cursor

variable {cursor start finish : Cursor} {used rest : List Char}

/-- A cursor that has passed over some characters has advanced by the bytes that are left less. -/
theorem Passes.advance?_eq (passage : start.Passes used finish) :
    start.advance? (byteSize start.after - byteSize finish.after) = some finish := by
  rw [byteSize_after_sub passage.after_eq]
  exact passage.advance?_byteSize

/-- A cursor that has passed over some characters stands at a boundary of the text. -/
theorem Passes.isBoundary (passage : start.Passes used finish) :
    IsBoundary start.text finish.offset := by
  refine isBoundary_ofList_iff.2 ⟨finish.before.reverse, finish.after, ?_, byteSize_reverse _⟩
  rw [chars, passage.after_eq, passage.before_eq, List.reverse_append, List.reverse_reverse,
    List.append_assoc]

end Cursor

namespace Leaf

variable {Value : Type} {format : Format Value} {conventions : Conventions} {start : Cursor}

/-- A leaf finds what its format answers if that passes the checks. -/
theorem read_formatted_eq_found_iff {factory : Value → LeafValue} {found : LeafValue}
    {used : List Char} {text : List Char} :
    (formatted (format.map factory)).read conventions text = .found found used ↔
      ∃ value rest, format.read? conventions text = some (value, rest) ∧ found = factory value ∧
        used ≠ [] ∧ text = used ++ rest := by
  rw [read, found_ofFormat_iff]
  simp only [Format.map, Option.map_eq_some_iff, Prod.exists, Prod.mk.injEq]
  constructor
  · rintro ⟨_, ⟨value, rest, answer, rfl, rfl⟩, nonempty, text_eq⟩
    exact ⟨value, rest, answer, rfl, nonempty, text_eq⟩
  · rintro ⟨value, rest, answer, rfl, nonempty, text_eq⟩
    exact ⟨rest, ⟨value, rest, answer, rfl, rfl⟩, nonempty, text_eq⟩

theorem finds_formatted {factory : Value → LeafValue} {value : Value} {used rest : List Char}
    (answer : format.read? conventions start.after = some (value, rest)) (nonempty : used ≠ [])
    (text_eq : start.after = used ++ rest) :
    (formatted (format.map factory)).Finds conventions start (factory value) used rest :=
  finds_of_read text_eq
    (read_formatted_eq_found_iff.2 ⟨value, rest, answer, rfl, nonempty, text_eq⟩)

theorem declines_formatted {factory : Value → LeafValue}
    (refused : ¬∃ value rest used, format.read? conventions start.after = some (value, rest) ∧
      used ≠ [] ∧ start.after = used ++ rest) :
    (formatted (format.map factory)).Declines conventions start := by
  refine declines_of_not_found fun found used reading => refused ?_
  obtain ⟨value, rest, answer, -, uses⟩ := read_formatted_eq_found_iff.1 reading
  exact ⟨value, rest, used, answer, uses⟩

/-- **Formats are not trusted.** Whatever a format answers, there is a match just if it answers a value
and what it leaves is the text behind some of its characters, which is what the checks find out. Then
the token has that value and just these characters as its text, and the cursor advances by their bytes
to a boundary. In every other case there is no match and the cursor has not moved; there is never an
error. -/
theorem formats_are_not_trusted (format : Format Value) (factory : Value → LeafValue)
    (conventions : Conventions) (start : Cursor) :
    let leaf := formatted (format.map factory)
    let reply := leaf.matcher conventions start
    ((∃ token, reply.outcome = .matched token) ↔
      ∃ value rest used, format.read? conventions start.after = some (value, rest) ∧ used ≠ [] ∧
        start.after = used ++ rest) ∧
    (∀ value rest, format.read? conventions start.after = some (value, rest) →
      (start.AdmitsRest rest ↔ ∃ used, used ≠ [] ∧ start.after = used ++ rest) ∧
      ∀ used, used ≠ [] → start.after = used ++ rest →
        leaf.Finds conventions start (factory value) used rest ∧
        start.advance? (byteSize start.after - byteSize rest) = some reply.cursor ∧
        reply.cursor.offset = start.offset + byteSize used ∧
        IsBoundary start.text reply.cursor.offset) ∧
    ((∃ token, reply.outcome = .matched token) ∨ leaf.Declines conventions start) := by
  intro leaf reply
  have matched : (∃ token, reply.outcome = .matched token) ↔ _ :=
    matched_iff
      (fun ⟨value, rest, used, answer, nonempty, text_eq⟩ =>
        ⟨_, _, _, finds_formatted answer nonempty text_eq⟩)
      declines_formatted
  refine ⟨matched, ?_, ?_⟩
  · intro value rest answer
    refine ⟨Cursor.admitsRest_iff, fun used nonempty text_eq => ?_⟩
    have finds : leaf.Finds conventions start (factory value) used rest :=
      finds_formatted answer nonempty text_eq
    have advanced := finds.passes.advance?_eq
    rw [finds.after_eq] at advanced
    exact ⟨finds, advanced, finds.passes.offset_eq, finds.passes.isBoundary⟩
  · rw [matched]
    exact (Classical.em _).imp_right declines_formatted

/-- What is left behind an accented letter is believed, and another text of the same size as that at the
cursor is not. -/
theorem formats_are_not_trusted_accentedLetter :
    let start : Cursor := ⟨['a'], ['é', '!']⟩
    let leaf (rest : List Char) := formatted ((Format.constant "seven" (some (7, rest))).map .long)
    (leaf ['!']).Finds (.english 2000) start (.long 7) ['é'] ['!'] ∧
    ((leaf ['!']).matcher (.english 2000) start).cursor.offset = 3 ∧
    (leaf ['ü', '!']).Declines (.english 2000) start := by
  intro start leaf
  obtain ⟨-, believed, -⟩ := formats_are_not_trusted
    (Format.constant "seven" (some (7, ['!']))) .long (.english 2000) start
  obtain ⟨matched, -, declines⟩ := formats_are_not_trusted
    (Format.constant "seven" (some (7, ['ü', '!']))) .long (.english 2000) start
  obtain ⟨finds, -, offset, -⟩ := (believed 7 ['!'] rfl).2 ['é'] (by simp) rfl
  refine ⟨finds, offset, declines.resolve_left fun found => ?_⟩
  obtain ⟨value, rest, used, answer, nonempty, text_eq⟩ := matched.1 found
  cases answer
  have length := congrArg List.length text_eq
  rw [List.length_append] at length
  exact nonempty (List.eq_nil_of_length_eq_zero (Nat.right_eq_add.1 length))

end Leaf

end TextGrammar
