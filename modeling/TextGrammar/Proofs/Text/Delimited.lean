import Mathlib.Data.List.TakeWhile
import TextGrammar.Text.Digit

/-!
# Delimited writing

Values are written one after the other into one text. A way of writing them is delimited by some
characters if, before the end of the text or one of these characters, it can be seen where a value
ends and which value it is. The parts of a value are then read off one by one, each before the mark
that comes after it.
-/

namespace TextGrammar.Text

variable {α : Type}

/-- A text is at its end, or goes on with one of some characters. -/
def GoesOnWith (delimits : Char → Prop) (text : List Char) : Prop :=
  ∀ c ∈ text.head?, delimits c

/-- Of what is written and what follows, before a character that delimits, both are determined, the
former up to values that are alike. -/
def IsDelimitedUpTo (alike : α → α → Prop) (delimits : Char → Prop) (write : α → List Char) : Prop :=
  ∀ {left right : α} {rest rest' : List Char}, GoesOnWith delimits rest →
    GoesOnWith delimits rest' → write left ++ rest = write right ++ rest' →
      alike left right ∧ rest = rest'

/-- Of what is written and what follows, before a character that delimits, both are determined. -/
abbrev IsDelimited (delimits : Char → Prop) (write : α → List Char) : Prop :=
  IsDelimitedUpTo Eq delimits write

@[simp] theorem goesOnWith_cons {delimits : Char → Prop} {c : Char} {rest : List Char} :
    GoesOnWith delimits (c :: rest) ↔ delimits c := by
  simp [GoesOnWith]

theorem GoesOnWith.mono {delimits delimits' : Char → Prop} {text : List Char}
    (goesOn : GoesOnWith delimits text) (wider : ∀ c, delimits c → delimits' c) :
    GoesOnWith delimits' text :=
  fun c first => wider c (goesOn c first)

/-- If a text is cut somewhere, it goes on as before or is at its end. -/
theorem GoesOnWith.of_isPrefix {delimits : Char → Prop} {front text : List Char}
    (goesOn : GoesOnWith delimits text) (isFront : front <+: text) : GoesOnWith delimits front := by
  obtain ⟨rest, rfl⟩ := isFront
  cases front with
  | nil => simp [GoesOnWith]
  | cons c front => exact goesOnWith_cons.2 (goesOnWith_cons.1 goesOn)

/-- Of characters of a kind all are taken, up to one of another kind. -/
theorem takeWhile_append_of_goesOnWith {kind : Char → Bool} {front rest : List Char}
    (all : ∀ c ∈ front, kind c = true) (goesOn : GoesOnWith (kind · = false) rest) :
    (front ++ rest).takeWhile kind = front := by
  rw [List.takeWhile_append_of_pos all]
  cases rest with
  | nil => simp
  | cons c rest => simp [goesOnWith_cons.1 goesOn]

/-- Characters of a kind end where one of another kind comes. -/
theorem append_inj_of_all {kind : Char → Bool} {front front' rest rest' : List Char}
    (all : ∀ c ∈ front, kind c = true) (all' : ∀ c ∈ front', kind c = true)
    (goesOn : GoesOnWith (kind · = false) rest) (goesOn' : GoesOnWith (kind · = false) rest')
    (equal : front ++ rest = front' ++ rest') : front = front' ∧ rest = rest' := by
  have same : front = front' := by
    rw [← takeWhile_append_of_goesOnWith all goesOn, equal,
      takeWhile_append_of_goesOnWith all' goesOn']
  exact ⟨same, List.append_cancel_left (same ▸ equal)⟩

namespace IsDelimited

variable {delimits : Char → Prop} {write : α → List Char}

/-- Values that are written with characters of one kind, each in its own way, are delimited by all
others. -/
theorem of_all {kind : Char → Bool} (all : ∀ value, ∀ c ∈ write value, kind c = true)
    (injective : ∀ {left right}, write left = write right → left = right) :
    IsDelimited (kind · = false) write := by
  intro left right rest rest' goesOn goesOn' equal
  obtain ⟨same, following⟩ := append_inj_of_all (all left) (all right) goesOn goesOn' equal
  exact ⟨injective same, following⟩

end IsDelimited

/-- Texts are delimited as their characters are. -/
theorem IsDelimitedUpTo.ofList {alike : α → α → Prop} {delimits : Char → Prop}
    {write : α → List Char} (delimited : IsDelimitedUpTo alike delimits write) :
    IsDelimitedUpTo alike delimits fun value => (String.ofList (write value)).toList := by
  intro left right rest rest' goesOn goesOn' equal
  simp only [String.toList_ofList] at equal
  exact delimited goesOn goesOn' equal

/-! ## Parts that may be missing -/

/-- A part after a mark, or nothing if there is no such part. -/
def marked (mark : Char) (part : List Char) : List Char :=
  if part = [] then [] else mark :: part

@[simp] theorem marked_nil (mark : Char) : marked mark [] = [] := rfl

theorem marked_of_ne_nil (mark : Char) {part : List Char} (present : part ≠ []) :
    marked mark part = mark :: part :=
  if_neg present

/-- What may come after a part that may be missing: neither its mark nor more of the part. -/
def DelimitsMarked (kind : Char → Bool) (mark c : Char) : Prop :=
  kind c = false ∧ c ≠ mark

theorem goesOnWith_marked {kind : Char → Bool} {mark : Char} (otherKind : kind mark = false)
    (part : List Char) {rest : List Char} (goesOn : GoesOnWith (DelimitsMarked kind mark) rest) :
    GoesOnWith (kind · = false) (marked mark part ++ rest) := by
  by_cases absent : part = []
  · rw [absent, marked_nil]
    exact goesOn.mono fun _ delimits => delimits.1
  · rw [marked_of_ne_nil mark absent]
    exact goesOnWith_cons.2 otherKind

/-- A part that may be missing can be told from what comes after it. -/
theorem marked_append_inj {kind : Char → Bool} {mark : Char} {part part' rest rest' : List Char}
    (all : ∀ c ∈ part, kind c = true) (all' : ∀ c ∈ part', kind c = true)
    (goesOn : GoesOnWith (DelimitsMarked kind mark) rest)
    (goesOn' : GoesOnWith (DelimitsMarked kind mark) rest')
    (equal : marked mark part ++ rest = marked mark part' ++ rest') :
    part = part' ∧ rest = rest' := by
  by_cases absent : part = [] <;> by_cases absent' : part' = []
  · subst absent absent'
    exact ⟨rfl, equal⟩
  · rw [absent, marked_of_ne_nil mark absent', marked_nil, List.nil_append] at equal
    exact absurd rfl (goesOnWith_cons.1 (equal ▸ goesOn)).2
  · rw [absent', marked_of_ne_nil mark absent, marked_nil, List.nil_append] at equal
    exact absurd rfl (goesOnWith_cons.1 (equal ▸ goesOn')).2
  · rw [marked_of_ne_nil mark absent, marked_of_ne_nil mark absent'] at equal
    exact append_inj_of_all all all' (goesOn.mono fun _ delimits => delimits.1)
      (goesOn'.mono fun _ delimits => delimits.1) (List.cons.inj equal).2

/-! ## Digits -/

/-- A number in a radix is written by digits whose values are those of its positions. -/
theorem exists_toDigits_eq_map {radix : Nat} (atLeastTwo : 1 < radix) (number : Nat) :
    ∃ digits : List Nat, (∀ digit ∈ digits, digit < radix) ∧
      Nat.toDigits radix number = digits.map Nat.digitChar ∧ digitsValue radix digits = number := by
  induction number using Nat.strongRecOn with
  | ind number ih =>
      by_cases small : number < radix
      · exact ⟨[number], by simpa, Nat.toDigits_of_lt_base small, by simp [digitsValue]⟩
      · have less : number / radix < number := Nat.div_lt_self (by omega) atLeastTwo
        obtain ⟨digits, inRange, written, value⟩ := ih (number / radix) less
        have last : number % radix < radix := Nat.mod_lt number (by omega)
        refine ⟨digits ++ [number % radix], ?_, ?_, ?_⟩
        · simpa [or_imp, forall_and] using ⟨inRange, last⟩
        · rw [Nat.toDigits_of_base_le atLeastTwo (Nat.le_of_not_lt small), written]
          simp
        · rw [digitsValue, List.foldl_append, ← digitsValue, value]
          simp [Nat.div_add_mod']

/-- The digits of a radix up to sixteen have the values for which they are written. -/
theorem digitOf?_digitChar {radix digit : Nat} (atMostSixteen : radix ≤ 16)
    (inRange : digit < radix) : digitOf? radix (Nat.digitChar digit) = some digit := by
  have value : ∀ digit < 16, digitValue? (Nat.digitChar digit) = some digit := by decide
  simp [digitOf?, value digit (by omega), inRange]

theorem isDigitOf_of_mem_toDigits {radix number : Nat} {c : Char} (atLeastTwo : 1 < radix)
    (atMostSixteen : radix ≤ 16) (member : c ∈ Nat.toDigits radix number) :
    isDigitOf radix c = true := by
  obtain ⟨digits, inRange, written, -⟩ := exists_toDigits_eq_map atLeastTwo number
  rw [written, List.mem_map] at member
  obtain ⟨digit, member, rfl⟩ := member
  simp [isDigitOf, digitOf?_digitChar atMostSixteen (inRange digit member)]

theorem digitValues_map_digitChar {radix : Nat} (atMostSixteen : radix ≤ 16) {digits : List Nat}
    (inRange : ∀ digit ∈ digits, digit < radix) :
    digitValues radix (digits.map Nat.digitChar) = digits := by
  induction digits with
  | nil => rfl
  | cons digit digits ih =>
      obtain ⟨here, later⟩ := List.forall_mem_cons.1 inRange
      have others := ih later
      rw [digitValues] at others ⊢
      rw [List.map_cons, List.filterMap_cons_some (digitOf?_digitChar atMostSixteen here), others]

/-- A number can be read back from its digits. -/
theorem digitsValue_toDigits {radix : Nat} (atLeastTwo : 1 < radix) (atMostSixteen : radix ≤ 16)
    (number : Nat) :
    digitsValue radix (digitValues radix (Nat.toDigits radix number)) = number := by
  obtain ⟨digits, inRange, written, value⟩ := exists_toDigits_eq_map atLeastTwo number
  rw [written, digitValues_map_digitChar atMostSixteen inRange, value]

/-- Zeros in front of a number do not change it. -/
theorem decimalValue_padded (width number : Nat) : decimalValue (padded width number) = number := by
  have zeros (count : Nat) :
      digitsValue 10 (digitValues 10 (List.replicate count '0')) = 0 := by
    induction count with
    | zero => rfl
    | succ count ih => exact ih
  have value := digitsValue_toDigits (by omega : 1 < 10) (by omega) number
  simp only [digitsValue] at zeros value
  simp [decimalValue, digitsValue, digitValues, padded] at zeros value ⊢
  rw [zeros, value]

theorem isDigit_of_mem_padded {width number : Nat} {c : Char} (member : c ∈ padded width number) :
    isDigit c = true := by
  rcases List.mem_append.1 member with zero | digit
  · rw [List.eq_of_mem_replicate zero]
    rfl
  · exact isDigitOf_of_mem_toDigits (by omega) (by omega) digit

theorem le_length_padded (width number : Nat) : width ≤ (padded width number).length := by
  simp only [padded, List.length_append, List.length_replicate]
  omega

theorem length_padded {width number : Nat} (positive : 0 < width)
    (fits : number < powerOfTen width) : (padded width number).length = width := by
  have length := (Nat.length_toDigits_le_iff (by omega : 1 < 10) positive).2 fits
  simp only [padded, List.length_append, List.length_replicate]
  omega

/-- A number is written by at least one digit. -/
theorem goesOnWith_padded (width number : Nat) (rest : List Char) :
    GoesOnWith (isDigit · = true) (padded width number ++ rest) := by
  cases written : padded width number with
  | nil => simp [padded, Nat.toDigits_ne_nil] at written
  | cons c others => exact goesOnWith_cons.2 (isDigit_of_mem_padded (written ▸ List.mem_cons_self))

/-- Numbers with at least so many digits are delimited by all that is no digit. -/
theorem isDelimited_padded (width : Nat) : IsDelimited (isDigit · = false) (padded width) :=
  IsDelimited.of_all (fun _ _ => isDigit_of_mem_padded) fun {left right} equal => by
    rw [← decimalValue_padded width left, equal, decimalValue_padded]

/-! ## Lines -/

/-- A run is all of one kind, and what comes after it does not go on with that kind. -/
structure IsLongestRun (kind : Char → Bool) (run rest : List Char) : Prop where
  all : ∀ c ∈ run, kind c = true
  stops : GoesOnWith (kind · = false) rest

variable {kind : Char → Bool} {run run' rest rest' : List Char}

/-- A text does not go on with a kind just if none of its first characters are of it. -/
theorem takeWhile_eq_nil_iff {text : List Char} :
    text.takeWhile kind = [] ↔ GoesOnWith (kind · = false) text := by
  cases text with
  | nil => simp [GoesOnWith]
  | cons c text => simp [List.takeWhile_cons]

theorem isLongestRun_takeWhile (kind : Char → Bool) (text : List Char) :
    IsLongestRun kind (text.takeWhile kind) (text.dropWhile kind) where
  all := List.all_eq_true.1 List.all_takeWhile
  stops := by
    intro c first
    have stopped := List.head?_dropWhile_not kind text
    rw [Option.mem_def.1 first] at stopped
    simpa using stopped

/-- Every text starts with a longest run, which may be empty. -/
theorem exists_isLongestRun (kind : Char → Bool) (text : List Char) :
    ∃ run rest, text = run ++ rest ∧ IsLongestRun kind run rest :=
  ⟨_, _, List.takeWhile_append_dropWhile.symm, isLongestRun_takeWhile kind text⟩

namespace IsLongestRun

theorem takeWhile_eq (longest : IsLongestRun kind run rest) : (run ++ rest).takeWhile kind = run :=
  takeWhile_append_of_goesOnWith longest.all longest.stops

theorem dropWhile_eq (longest : IsLongestRun kind run rest) :
    (run ++ rest).dropWhile kind = rest := by
  have whole := List.takeWhile_append_dropWhile (p := kind) (l := run ++ rest)
  rw [longest.takeWhile_eq] at whole
  exact List.append_cancel_left whole

/-- A front of the text that is all of the kind is a front of the run. -/
theorem isPrefix_of_all {front : List Char} (longest : IsLongestRun kind run rest)
    (isFront : front <+: run ++ rest) (all : ∀ c ∈ front, kind c = true) : front <+: run := by
  have taken : (run ++ rest).take front.length = front :=
    (List.prefix_iff_eq_take.1 isFront).symm
  have same : run.take front.length = front := by
    rw [← longest.takeWhile_eq, List.take_takeWhile, taken, List.takeWhile_eq_self_iff.2 all]
  rw [← same]
  exact List.take_prefix front.length run

/-- A run that ends where the text is cut, or before that, is a longest run there too. -/
theorem of_isPrefix {front : List Char} (longest : IsLongestRun kind run rest)
    (isFront : front <+: rest) : IsLongestRun kind run front :=
  ⟨longest.all, longest.stops.of_isPrefix isFront⟩

theorem append_inj (longest : IsLongestRun kind run rest) (longest' : IsLongestRun kind run' rest')
    (same : run ++ rest = run' ++ rest') : run = run' ∧ rest = rest' :=
  append_inj_of_all longest.all longest'.all longest.stops longest'.stops same

end IsLongestRun

end TextGrammar.Text
