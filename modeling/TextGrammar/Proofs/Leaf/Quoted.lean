import TextGrammar.Proofs.Leaf.Matches
import TextGrammar.Proofs.Text.Number

/-!
# Quoted texts are exact

Between its marks a quoted text is a list of units: characters that stand for themselves, characters
after a backslash, and code points. What is read as a quoted text is just what is written with such
units, and its value is what they mean. No unit starts as another one goes on or as the closing mark
does, so that a text can be split into units in one way only. In particular every string can be
quoted, with a backslash before each mark and each backslash in it.
-/

namespace TextGrammar

open Text

/-- The controls that letters stand for after a backslash. -/
def namedControls : List (Char × Char) :=
  [('b', Char.ofNat 8), ('f', Char.ofNat 12), ('n', Char.ofNat 10), ('r', Char.ofNat 13),
    ('t', Char.ofNat 9), ('0', Char.ofNat 0)]

/-- Four hexadecimal digits that write the code point of a character, which no surrogate has. -/
structure HexCode where
  first : Char
  second : Char
  third : Char
  fourth : Char
  areDigits : ∀ c ∈ [first, second, third, fourth], isDigitBelow 16 c = true
  noSurrogate : ¬(0xD800 ≤ numberOf 16 [first, second, third, fourth] ∧
    numberOf 16 [first, second, third, fourth] ≤ 0xDFFF)

/-- The digits of a code point. -/
def HexCode.digits (code : HexCode) : List Char :=
  [code.first, code.second, code.third, code.fourth]

/-- What a quoted text is made of between its marks. -/
inductive QuotedUnit (quote : Quote) where
  /-- A character that stands for itself. -/
  | plain (c : Char) (notMark : c ≠ quote.mark) (notBackslash : c ≠ '\\')
  /-- A character after a backslash. -/
  | escaped (c : Char) (notCode : c ≠ 'u')
  /-- A code point. -/
  | code (hex : HexCode)

namespace QuotedUnit

variable {quote : Quote}

/-- How a unit is written. -/
def spelled : QuotedUnit quote → List Char
  | .plain c _ _ => [c]
  | .escaped c _ => ['\\', c]
  | .code hex => '\\' :: 'u' :: hex.digits

/-- The character that a unit stands for. -/
def meaning : QuotedUnit quote → Char
  | .plain c _ _ => c
  | .escaped c _ => (namedControls.lookup c).getD c
  | .code hex => Char.ofNat (numberOf 16 hex.digits)

end QuotedUnit

/-- Units between two marks. -/
def quotedText (quote : Quote) (units : List (QuotedUnit quote)) : List Char :=
  quote.mark :: (units.flatMap QuotedUnit.spelled ++ [quote.mark])

/-- A text with a backslash before each mark and each backslash. -/
def Quote.escape (quote : Quote) (text : List Char) : List Char :=
  text.flatMap fun c => if c = quote.mark ∨ c = '\\' then ['\\', c] else [c]

variable {quote : Quote} {text values rest used : List Char} {units : List (QuotedUnit quote)}

theorem Quote.mark_ne_backslash (quote : Quote) : quote.mark ≠ '\\' := by
  cases quote <;> decide

theorem Quote.mark_ne_u (quote : Quote) : quote.mark ≠ 'u' := by
  cases quote <;> decide

/-! ## The meaning of a unit -/

theorem unescape_eq (c : Char) : unescape c = (namedControls.lookup c).getD c := by
  unfold unescape
  split <;> try rfl
  next b f n r t zero =>
    simp [namedControls, List.lookup_cons, beq_false_of_ne b, beq_false_of_ne f, beq_false_of_ne n,
      beq_false_of_ne r, beq_false_of_ne t, beq_false_of_ne zero]

theorem unescape_of_isSpecial {c : Char} (special : c = quote.mark ∨ c = '\\') :
    unescape c = c := by
  rcases special with rfl | rfl
  · cases quote <;> rfl
  · rfl

/-- Four characters are read as a code point just if they write one. -/
theorem readCode?_eq_some_iff {a b c d value : Char} :
    readCode? [a, b, c, d] = some value ↔
      ∃ hex : HexCode, hex.digits = [a, b, c, d] ∧ value = Char.ofNat (numberOf 16 hex.digits) := by
  have allDigits : (digitValues 16 [a, b, c, d]).length = [a, b, c, d].length ↔
      ∀ x ∈ [a, b, c, d], isDigitBelow 16 x = true := by
    rw [← isDigitOf_eq (by decide)]
    exact List.filterMap_length_eq_length
  have number (areDigits : ∀ x ∈ [a, b, c, d], isDigitBelow 16 x = true) :
      digitsValue 16 (digitValues 16 [a, b, c, d]) = numberOf 16 [a, b, c, d] :=
    digitsValue_digitValues (by decide) areDigits
  have valid (areDigits : ∀ x ∈ [a, b, c, d], isDigitBelow 16 x = true) :
      (digitsValue 16 (digitValues 16 [a, b, c, d])).isValidChar ↔
        ¬(0xD800 ≤ numberOf 16 [a, b, c, d] ∧ numberOf 16 [a, b, c, d] ≤ 0xDFFF) := by
    have bound : numberOf 16 [a, b, c, d] < Nat.pow 16 4 := numberOf_lt_pow (by decide) areDigits
    have sixteenBits : Nat.pow 16 4 = 65536 := by decide
    rw [number areDigits]
    unfold Nat.isValidChar
    omega
  simp only [readCode?, allDigits, Option.ite_none_right_eq_some, Option.some.injEq]
  constructor
  · rintro ⟨⟨areDigits, isValid⟩, rfl⟩
    exact ⟨⟨a, b, c, d, areDigits, (valid areDigits).1 isValid⟩, rfl,
      congrArg Char.ofNat (number areDigits)⟩
  · rintro ⟨⟨first, second, third, fourth, areDigits, noSurrogate⟩, same, rfl⟩
    cases same
    exact ⟨⟨areDigits, (valid areDigits).2 noSurrogate⟩, congrArg Char.ofNat (number areDigits)⟩

/-! ## Reading units -/

/-- A unit is read as what it means, and then what follows it is read. -/
theorem unquote?_spelled_append (unit : QuotedUnit quote) (text : List Char) :
    unquote? quote (unit.spelled ++ text) =
      (unquote? quote text).map fun found => (unit.meaning :: found.1, found.2) := by
  cases unit with
  | plain c notMark notBackslash =>
      simp [QuotedUnit.spelled, QuotedUnit.meaning, unquote?, notMark, notBackslash]
  | escaped c notCode =>
      simp only [QuotedUnit.spelled, QuotedUnit.meaning, ← unescape_eq, Option.map_eq_bind]
      simp [unquote?, notCode]
  | code hex =>
      have read := readCode?_eq_some_iff.2 ⟨hex, rfl, rfl⟩
      simp only [QuotedUnit.spelled, QuotedUnit.meaning, HexCode.digits,
        Option.map_eq_bind] at read ⊢
      simp [unquote?, read]

theorem unquote?_mark (rest : List Char) :
    unquote? quote (quote.mark :: rest) = some ([], rest) := by
  simp [unquote?, quote.mark_ne_backslash]

/-- Units before a mark are read as what they mean, and what comes after the mark is left. -/
theorem unquote?_append (units : List (QuotedUnit quote)) (rest : List Char) :
    unquote? quote (units.flatMap QuotedUnit.spelled ++ quote.mark :: rest) =
      some (units.map QuotedUnit.meaning, rest) := by
  induction units with
  | nil => exact unquote?_mark rest
  | cons unit units ih =>
      rw [List.flatMap_cons, List.append_assoc, unquote?_spelled_append, ih]
      rfl

/-- Nothing is read but units before a mark. -/
theorem exists_units_of_unquote? (found : unquote? quote text = some (values, rest)) :
    ∃ units : List (QuotedUnit quote),
      text = units.flatMap QuotedUnit.spelled ++ quote.mark :: rest := by
  fun_induction unquote? quote text generalizing values with
  | case1 => cases found
  -- a code point
  | case2 a b c d text ih =>
      obtain ⟨value, read, found⟩ := Option.bind_eq_some_iff.1 found
      obtain ⟨⟨later, tail⟩, foundLater, same⟩ := Option.bind_eq_some_iff.1 found
      cases same
      obtain ⟨hex, digits, -⟩ := readCode?_eq_some_iff.1 read
      obtain ⟨units, rfl⟩ := ih foundLater
      refine ⟨.code hex :: units, ?_⟩
      simp [QuotedUnit.spelled, digits]
  | case3 => cases found
  -- another character after a backslash
  | case4 c text _ notCode ih =>
      obtain ⟨⟨later, tail⟩, foundLater, same⟩ := Option.bind_eq_some_iff.1 found
      cases same
      obtain ⟨units, rfl⟩ := ih foundLater
      exact ⟨.escaped c notCode :: units, rfl⟩
  -- the closing mark
  | case5 text =>
      cases found
      exact ⟨[], rfl⟩
  | case6 => cases found
  -- a character that stands for itself
  | case7 c text _ _ notMark notBackslash ih =>
      obtain ⟨⟨later, tail⟩, foundLater, same⟩ := Option.map_eq_some_iff.1 found
      cases same
      obtain ⟨units, rfl⟩ := ih foundLater
      exact ⟨.plain c notMark notBackslash :: units, rfl⟩

/-! ## One way of splitting -/

/-- Where a unit ends can be seen from the unit. -/
theorem QuotedUnit.spelled_append_inj {unit unit' : QuotedUnit quote} {rest' : List Char}
    (same : unit.spelled ++ rest = unit'.spelled ++ rest') : unit = unit' ∧ rest = rest' := by
  cases unit with
  | plain c notMark notBackslash =>
      cases unit' with
      | plain c' notMark' notBackslash' => simpa [spelled] using same
      | escaped c' notCode' => exact absurd (List.cons.inj same).1 notBackslash
      | code hex' => exact absurd (List.cons.inj same).1 notBackslash
  | escaped c notCode =>
      cases unit' with
      | plain c' notMark' notBackslash' => exact absurd (List.cons.inj same).1.symm notBackslash'
      | escaped c' notCode' => simpa [spelled] using same
      | code hex' => exact absurd (List.cons.inj (List.cons.inj same).2).1 notCode
  | code hex =>
      cases unit' with
      | plain c' notMark' notBackslash' => exact absurd (List.cons.inj same).1.symm notBackslash'
      | escaped c' notCode' => exact absurd (List.cons.inj (List.cons.inj same).2).1.symm notCode'
      | code hex' =>
          cases hex
          cases hex'
          simpa [spelled, HexCode.digits, and_assoc] using same

/-- No unit starts as the closing mark does. -/
theorem QuotedUnit.spelled_append_ne_mark (unit : QuotedUnit quote) (text rest : List Char) :
    unit.spelled ++ text ≠ quote.mark :: rest := by
  intro same
  cases unit with
  | plain c notMark notBackslash => exact notMark (List.cons.inj same).1
  | escaped c notCode => exact quote.mark_ne_backslash (List.cons.inj same).1.symm
  | code hex => exact quote.mark_ne_backslash (List.cons.inj same).1.symm

/-- Units before a mark can be seen from the text that they are written in. -/
theorem units_append_inj {units' : List (QuotedUnit quote)} {rest' : List Char}
    (same : units.flatMap QuotedUnit.spelled ++ quote.mark :: rest =
      units'.flatMap QuotedUnit.spelled ++ quote.mark :: rest') :
    units = units' ∧ rest = rest' := by
  induction units generalizing units' with
  | nil =>
      cases units' with
      | nil => exact ⟨rfl, (List.cons.inj same).2⟩
      | cons unit' units' =>
          rw [List.flatMap_cons, List.append_assoc] at same
          exact absurd same.symm (unit'.spelled_append_ne_mark _ _)
  | cons unit units ih =>
      cases units' with
      | nil =>
          rw [List.flatMap_cons, List.append_assoc] at same
          exact absurd same (unit.spelled_append_ne_mark _ _)
      | cons unit' units' =>
          simp only [List.flatMap_cons, List.append_assoc] at same
          obtain ⟨rfl, following⟩ := QuotedUnit.spelled_append_inj same
          obtain ⟨rfl, rfl⟩ := ih following
          exact ⟨rfl, rfl⟩

theorem quotedText_append (units : List (QuotedUnit quote)) (rest : List Char) :
    quotedText quote units ++ rest =
      quote.mark :: (units.flatMap QuotedUnit.spelled ++ quote.mark :: rest) := by
  simp [quotedText]

/-- A text starts with a quoted text in at most one way. -/
theorem quotedText_append_inj {units' : List (QuotedUnit quote)} {rest' : List Char}
    (same : quotedText quote units ++ rest = quotedText quote units' ++ rest') :
    units = units' ∧ rest = rest' := by
  rw [quotedText_append, quotedText_append] at same
  exact units_append_inj (List.cons.inj same).2

/-! ## Escaping -/

/-- The unit for a character in a quoted text in which only marks and backslashes are escaped. -/
def QuotedUnit.ofChar (quote : Quote) (c : Char) : QuotedUnit quote :=
  if special : c = quote.mark ∨ c = '\\' then
    .escaped c (by
      rintro rfl
      exact special.elim (Ne.symm quote.mark_ne_u) (by decide))
  else .plain c (fun mark => special (.inl mark)) (fun backslash => special (.inr backslash))

theorem QuotedUnit.meaning_ofChar (quote : Quote) (c : Char) : (ofChar quote c).meaning = c := by
  unfold ofChar
  split
  next special => exact (unescape_eq c).symm.trans (unescape_of_isSpecial special)
  next => rfl

theorem QuotedUnit.spelled_ofChar (quote : Quote) (c : Char) :
    (ofChar quote c).spelled = if c = quote.mark ∨ c = '\\' then ['\\', c] else [c] := by
  unfold ofChar
  split <;> rfl

/-- An escaped text is written with units that mean its characters. -/
theorem Quote.escape_eq (quote : Quote) (text : List Char) :
    quote.escape text = (text.map (QuotedUnit.ofChar quote)).flatMap QuotedUnit.spelled := by
  simp [escape, List.flatMap_map, QuotedUnit.spelled_ofChar]

/-! ## Quoted leaves -/

/-- A quoted text is read just where one is written, as what its units mean. -/
theorem readQuoted?_eq_some_iff :
    readQuoted? quote text = some (values, rest) ↔
      ∃ units : List (QuotedUnit quote),
        text = quotedText quote units ++ rest ∧ values = units.map QuotedUnit.meaning := by
  constructor
  · intro found
    cases text with
    | nil => cases found
    | cons c text =>
        rw [readQuoted?] at found
        split at found
        next mark =>
          subst mark
          obtain ⟨units, rfl⟩ := exists_units_of_unquote? found
          rw [unquote?_append] at found
          cases found
          exact ⟨units, (quotedText_append units rest).symm, rfl⟩
        next => cases found
  · rintro ⟨units, rfl, rfl⟩
    rw [quotedText_append, readQuoted?, if_pos rfl, unquote?_append]

theorem read_quoted_eq_found_iff {conventions : Conventions} {value : LeafValue} :
    (Leaf.quoted quote).read conventions text = .found value used ↔
      ∃ (units : List (QuotedUnit quote)) (rest : List Char),
        text = quotedText quote units ++ rest ∧
        value = quote.value (String.ofList (units.map QuotedUnit.meaning)) ∧
        used = quotedText quote units := by
  have used_eq (units : List (QuotedUnit quote)) (rest : List Char) :
      (quotedText quote units ++ rest).take
        ((quotedText quote units ++ rest).length - rest.length) = quotedText quote units := by
    simp
  simp only [Leaf.read, Reading.ofOption_eq_found_iff, readQuotedValue?, Option.map_eq_some_iff,
    Prod.exists, readQuoted?_eq_some_iff, Prod.mk.injEq]
  constructor
  · rintro ⟨_, rest, ⟨units, rfl, rfl⟩, rfl, rfl⟩
    exact ⟨units, rest, rfl, rfl, used_eq units rest⟩
  · rintro ⟨units, rest, rfl, rfl, rfl⟩
    exact ⟨_, rest, ⟨units, rfl, rfl⟩, rfl, used_eq units rest⟩

/-- A text starts with a quoted text. -/
def StartsQuoted (quote : Quote) (text : List Char) : Prop :=
  ∃ (units : List (QuotedUnit quote)) (rest : List Char), text = quotedText quote units ++ rest

/-- **Quoted texts are read exactly.** There is a match just if the text starts with a mark, units
and a mark. Then these are used, the rest is left, and the token is the text of what the units mean.
In every other case there is no match and the cursor has not moved. The units and the rest can be
seen from the text. In particular a string that was escaped and put between marks is read back,
whatever comes after it. -/
theorem Leaf.quoted_texts_are_exact (quote : Quote) (conventions : Conventions) (start : Cursor) :
    ((∃ token, ((Leaf.quoted quote).matcher conventions start).outcome = .matched token) ↔
        StartsQuoted quote start.after) ∧
      (∀ (units : List (QuotedUnit quote)) (rest : List Char),
        start.after = quotedText quote units ++ rest →
        (Leaf.quoted quote).Finds conventions start
          (quote.value (String.ofList (units.map QuotedUnit.meaning))) (quotedText quote units)
          rest) ∧
      (¬StartsQuoted quote start.after → (Leaf.quoted quote).Declines conventions start) ∧
      (∀ (units units' : List (QuotedUnit quote)) (rest rest' : List Char),
        quotedText quote units ++ rest = quotedText quote units' ++ rest' →
        units = units' ∧ rest = rest') ∧
      ∀ (value : String) (rest : List Char),
        start.after = (quote.mark :: (quote.escape value.toList ++ [quote.mark])) ++ rest →
        (Leaf.quoted quote).Finds conventions start (quote.value value)
          (quote.mark :: (quote.escape value.toList ++ [quote.mark])) rest := by
  have found (units : List (QuotedUnit quote)) (rest : List Char)
      (text : start.after = quotedText quote units ++ rest) :
      (Leaf.quoted quote).Finds conventions start
        (quote.value (String.ofList (units.map QuotedUnit.meaning))) (quotedText quote units)
        rest :=
    finds_of_read text (read_quoted_eq_found_iff.2 ⟨units, rest, text, rfl, rfl⟩)
  have missing (other : ¬StartsQuoted quote start.after) :
      (Leaf.quoted quote).Declines conventions start := by
    refine declines_of_not_found fun value used reading => other ?_
    obtain ⟨units, rest, text, -⟩ := read_quoted_eq_found_iff.1 reading
    exact ⟨units, rest, text⟩
  refine ⟨matched_iff ?_ missing, found, missing, fun _ _ _ _ => quotedText_append_inj, ?_⟩
  · rintro ⟨units, rest, text⟩
    exact ⟨_, _, _, found units rest text⟩
  · intro value rest text
    have meanings : (value.toList.map (QuotedUnit.ofChar quote)).map QuotedUnit.meaning =
        value.toList := by
      simp [Function.comp_def, QuotedUnit.meaning_ofChar]
    rw [quote.escape_eq] at text ⊢
    have finds := found _ _ text
    rw [meanings, String.ofList_toList] at finds
    exact finds

/-- Of backslashes before a mark it depends on their number whether the mark is the last one. -/
example : readQuoted? .double "\"a\\\\\" b".toList = some (['a', '\\'], [' ', 'b']) := by
  rfl

example : readQuoted? .double "\"a\\\" b".toList = none := by
  rfl

end TextGrammar
