/-!
# Words

Words at the start of a text and inside of it. A word is compared exactly, or without regard to case:
then capital and small ASCII letters count as the same and all other characters stand only for
themselves.
-/

namespace TextGrammar.Text

/-- The text after a word, if the text starts with the word in any case. -/
def dropIgnoringCase? : List Char → List Char → Option (List Char)
  | [], text => some text
  | _ :: _, [] => none
  | letter :: word, c :: text =>
      if c.toLower = letter.toLower then dropIgnoringCase? word text else none

/-- The text after a word, if the text starts with the word. -/
def dropExact? : List Char → List Char → Option (List Char)
  | [], text => some text
  | _ :: _, [] => none
  | letter :: word, c :: text => if c = letter then dropExact? word text else none

/-- What can be checked of all codes of ASCII holds of its characters. -/
theorem forall_ascii (holds : Char → Prop) (each : ∀ code < 128, holds (Char.ofNat code))
    {c : Char} (small : c.toNat < 128) : holds c := by
  have found := each c.toNat small
  rwa [Char.ofNat_toNat] at found

/-- Beyond ASCII a character is the same in either case. -/
theorem toLower_eq_self_of_large {c : Char} (large : 128 ≤ c.toNat) : c.toLower = c := by
  refine dif_neg ?_
  rintro ⟨-, atMost⟩
  have bound : c.toNat ≤ 90 := UInt32.le_iff_toNat_le.1 atMost
  omega

theorem dropExact?_eq_some_iff {word text rest : List Char} :
    dropExact? word text = some rest ↔ text = word ++ rest := by
  induction word generalizing text with
  | nil => simp [dropExact?]
  | cons letter word ih =>
      cases text with
      | nil => simp [dropExact?]
      | cons c text =>
          simp only [dropExact?, List.cons_append, List.cons.injEq]
          split
          next same => simp [same, ih]
          next other => simp [other]

/-- A word in any case is as long as what it is read from. -/
theorem eq_append_of_dropIgnoringCase? {word text rest : List Char}
    (dropped : dropIgnoringCase? word text = some rest) :
    ∃ spelled, text = spelled ++ rest ∧ spelled.map Char.toLower = word.map Char.toLower := by
  induction word generalizing text with
  | nil =>
      obtain rfl := Option.some.inj dropped
      exact ⟨[], rfl, rfl⟩
  | cons letter word ih =>
      cases text with
      | nil => simp [dropIgnoringCase?] at dropped
      | cons c text =>
          simp only [dropIgnoringCase?] at dropped
          split at dropped
          next same =>
            obtain ⟨spelled, rfl, cases⟩ := ih dropped
            exact ⟨c :: spelled, rfl, by simp [same, cases]⟩
          next => simp at dropped

/-- A word is dropped in whatever case it is spelled. -/
theorem dropIgnoringCase?_append {word spelled : List Char} (rest : List Char)
    (cases : spelled.map Char.toLower = word.map Char.toLower) :
    dropIgnoringCase? word (spelled ++ rest) = some rest := by
  induction word generalizing spelled with
  | nil =>
      obtain rfl := List.map_eq_nil_iff.1 cases
      rfl
  | cons letter word ih =>
      obtain ⟨c, spelled, rfl, same, others⟩ := List.map_eq_cons_iff.1 cases
      rw [List.cons_append, dropIgnoringCase?, if_pos same]
      exact ih others

/-- The text before the first occurrence of a word in a text, and the text after it. -/
def splitAtWord? (word : List Char) (text : List Char) : Option (List Char × List Char) :=
  match dropExact? word text, text with
  | some rest, _ => some ([], rest)
  | none, [] => none
  | none, c :: text => (splitAtWord? word text).map fun (body, rest) => (c :: body, rest)
termination_by structural text

theorem splitAtWord?_nil (word : List Char) :
    splitAtWord? word [] = (dropExact? word []).map fun rest => ([], rest) := by
  rw [splitAtWord?.eq_def]
  cases dropExact? word [] with
  | none => rfl
  | some rest => rfl

/-- A word is looked for at the front of a text and then behind its first character. -/
theorem splitAtWord?_cons (word : List Char) (c : Char) (text : List Char) :
    splitAtWord? word (c :: text) = match dropExact? word (c :: text) with
      | some rest => some ([], rest)
      | none => (splitAtWord? word text).map fun (body, rest) => (c :: body, rest) := by
  rw [splitAtWord?.eq_def]
  cases dropExact? word (c :: text) with
  | none => rfl
  | some rest => rfl

end TextGrammar.Text
