import TextGrammar.Proofs.Cursor.Passage
import TextGrammar.Proofs.Leaf.UsedText
import TextGrammar.Proofs.Text.Utf8

/-!
# Leaves reply as they read

A leaf moves the cursor and may have to go back. Here its moves are compared with what it reads: each
reader stands behind the characters that are used for what it has found, or else anywhere further on in
the same text, from where the place that was saved can be restored. So the reply of a leaf is the one
that its reading stands for, and nothing of it depends on the text before the cursor.
-/

namespace TextGrammar

open Text

/-! ## Answers that are believed -/

/-- The checks of what a format leaves of the text at a cursor. -/
structure Cursor.AdmitsRest (cursor : Cursor) (rest : List Char) : Prop where
  /-- Less is left than there was. The difference is none if more is left. -/
  usesBytes : byteSize cursor.after - byteSize rest ≠ 0
  /-- The bytes of the text end with those that are left. -/
  endsWith : ∃ front : ByteArray, cursor.after.utf8Encode = front ++ rest.utf8Encode
  /-- The cursor can advance by as many bytes as were used. -/
  advances : (cursor.advance? (byteSize cursor.after - byteSize rest)).isSome = true

namespace Cursor

variable {cursor start finish : Cursor} {used rest : List Char}

theorem byteSize_after_sub (text_eq : cursor.after = used ++ rest) :
    byteSize cursor.after - byteSize rest = byteSize used := by
  rw [text_eq, byteSize_append, Nat.add_sub_cancel]

/-- The checks let through just what is left behind some characters of the text. -/
theorem admitsRest_iff :
    cursor.AdmitsRest rest ↔ ∃ used, used ≠ [] ∧ cursor.after = used ++ rest := by
  constructor
  · intro admits
    obtain ⟨later, advanced⟩ := Option.isSome_iff_exists.1 admits.advances
    obtain ⟨⟨used, back⟩, split, -⟩ := Option.map_eq_some_iff.1 advanced
    obtain ⟨text_eq, size⟩ := splitAtByte?_eq_some_iff.1 split
    obtain ⟨front, bytes⟩ := admits.endsWith
    have nonempty : used ≠ [] := by
      intro empty
      rw [empty, byteSize_nil] at size
      exact admits.usesBytes size.symm
    -- the bytes behind those that were used are as many as those that are left
    have backSize : byteSize back = byteSize rest := by
      have whole := congrArg byteSize text_eq
      have uses := admits.usesBytes
      rw [byteSize_append] at whole
      omega
    rw [text_eq] at bytes
    obtain rfl := eq_of_utf8Encode_append_eq bytes backSize
    exact ⟨used, nonempty, text_eq⟩
  · rintro ⟨used, nonempty, text_eq⟩
    have size := byteSize_after_sub text_eq
    constructor
    case usesBytes =>
      rw [size]
      exact fun empty => nonempty (byteSize_eq_zero.1 empty)
    case endsWith => exact ⟨used.utf8Encode, by rw [text_eq, List.utf8Encode_append]⟩
    case advances =>
      rw [size, advance?, text_eq, splitAtByte?_append]
      rfl

end Cursor

namespace Leaf

variable {α β : Type} {start middle finish : Cursor} {value : String → LeafValue}

/-- A leaf makes the checks, and advances where they hold. -/
theorem isSome_advanceTo?_iff {rest : List Char} :
    (advanceTo? rest start).isSome = true ↔ start.AdmitsRest rest := by
  simp only [advanceTo?]
  constructor
  · intro advances
    split at advances
    · cases advances
    next checked =>
      rw [Bool.or_eq_true, decide_eq_true_eq, Bool.not_eq_true', not_or,
        Bool.not_eq_false] at checked
      exact ⟨checked.1, endsWith_iff.1 checked.2, advances⟩
  · intro admits
    rw [if_neg (by simp [admits.usesBytes, endsWith_iff.2 admits.endsWith])]
    exact admits.advances

/-- The checks find out what was used: the text before what is left. -/
theorem advanceTo?_eq (rest : List Char) (start : Cursor) :
    advanceTo? rest start =
      (usedText? start.after rest).map fun used => start.skip used.length := by
  cases split : usedText? start.after rest with
  | none =>
      rw [Option.map_none, ← Option.not_isSome_iff_eq_none, isSome_advanceTo?_iff,
        Cursor.admitsRest_iff]
      rintro ⟨used, nonempty, text_eq⟩
      rw [usedText?_eq_some_iff.2 ⟨nonempty, text_eq⟩] at split
      cases split
  | some used =>
      obtain ⟨nonempty, text_eq⟩ := usedText?_eq_some_iff.1 split
      have admits := Cursor.admitsRest_iff.2 ⟨used, nonempty, text_eq⟩
      simp only [advanceTo?, Option.map_some]
      rw [if_neg (by simp [admits.usesBytes, endsWith_iff.2 admits.endsWith]),
        Cursor.byteSize_after_sub text_eq, (Cursor.passes_skip text_eq).advance?_byteSize]

/-! ## Readers -/

/-- A reader has replied as a reading says. Where that finds a value the reader stands before the rest
of the text, and else it has come to some other place. -/
inductive Scans (start : Cursor) : Option (α × List Char) → Reply α → Prop where
  | found {value : α} {finish : Cursor} (reached : start.Reaches finish) :
      Scans start (some (value, finish.after)) (.matched value finish)
  | missing {finish : Cursor} (reached : start.Reaches finish) : Scans start none (.noMatch finish)

namespace Scans

variable {found : Option (α × List Char)} {reply : Reply α}

/-- What was passed over before counts as read. -/
theorem behind (scans : Scans middle found reply) (reached : start.Reaches middle) :
    Scans start found reply := by
  cases scans with
  | found further => exact .found (reached.trans further)
  | missing further => exact .missing (reached.trans further)

/-- A reader may go on where another one has come to. -/
theorem andThen (scans : Scans start found reply) {next : α → Cursor → Reply β}
    (later : α → List Char → Option (β × List Char))
    (further : ∀ value finish, start.Reaches finish →
      Scans finish (later value finish.after) (next value finish)) :
    Scans start (found.bind fun pair => later pair.1 pair.2) (reply.andThen next) := by
  cases scans with
  | found reached => exact (further _ _ reached).behind reached
  | missing reached => exact .missing reached

end Scans

/-- A word is read in the spelling of the text. -/
theorem scans_readWord (rule : CaseRule) (word : List Char) (start : Cursor) :
    Scans start ((rule.spelling? word start.after).map fun spelled =>
      ((), start.after.drop spelled.length)) (readWord rule word start) := by
  induction word generalizing start with
  | nil => exact .found (.refl start)
  | cons wanted word ih =>
      obtain ⟨before, after⟩ := start
      cases after with
      | nil => exact .missing (.refl _)
      | cons actual rest =>
          have reached := Cursor.reaches_next before actual rest
          simp only [readWord, readNext, Cursor.next?, Reply.andThen_matched, CaseRule.spelling?]
          split
          next =>
            rw [Option.map_map]
            exact (ih ⟨actual :: before, rest⟩).behind reached
          next => exact .missing reached

/-- As many hexadecimal digits as wanted are read, if all of them are there. -/
theorem scans_readCode (digits code : Nat) (start : Cursor) :
    Scans start
      (if (digitValues 16 (start.after.take digits)).length = digits then
        some ((digitValues 16 (start.after.take digits)).foldl
          (fun value digit => value * 16 + digit) code, start.after.drop digits)
      else none) (readCode digits code start) := by
  induction digits generalizing code start with
  | zero => exact .found (.refl start)
  | succ digits ih =>
      obtain ⟨before, after⟩ := start
      cases after with
      | nil => exact .missing (.refl _)
      | cons c rest =>
          have reached := Cursor.reaches_next before c rest
          simp only [readCode, readNext, Cursor.next?, Reply.andThen_matched, digitValues,
            List.take_succ_cons, List.drop_succ_cons]
          cases value : digitOf? 16 c with
          | none =>
              have few : (List.filterMap (digitOf? 16) (rest.take digits)).length ≤ digits :=
                Nat.le_trans (List.length_filterMap_le _ _) (List.length_take_le _ _)
              rw [List.filterMap_cons_none value, if_neg (by omega)]
              exact .missing reached
          | some digit =>
              rw [List.filterMap_cons_some value]
              simp only [List.length_cons, Nat.add_right_cancel_iff, List.foldl_cons]
              exact (ih (code * 16 + digit) ⟨c :: before, rest⟩).behind reached

/-- What comes behind a backslash, and the text after it. -/
def readEscape? : List Char → Option (Char × List Char)
  | [] => none
  | c :: text =>
      if c = 'u' then
        if (text.take 4).length = 4 then
          (readCode? (text.take 4)).map fun value => (value, text.drop 4)
        else none
      else some (unescape c, text)

/-- Four characters are a code just if all of them are digits and write one. -/
theorem readFourDigits?_eq (text : List Char) :
    (if (text.take 4).length = 4 then
        (readCode? (text.take 4)).map fun value => (value, text.drop 4)
      else none) =
      (if (digitValues 16 (text.take 4)).length = 4 then
        some (digitsValue 16 (digitValues 16 (text.take 4)), text.drop 4)
      else none).bind fun found =>
        if found.1.isValidChar then some (Char.ofNat found.1, found.2) else none := by
  have few : (digitValues 16 (text.take 4)).length ≤ (text.take 4).length :=
    List.length_filterMap_le _ _
  have short : (text.take 4).length ≤ 4 := List.length_take_le _ _
  by_cases whole : (digitValues 16 (text.take 4)).length = 4
  · have size : (text.take 4).length = 4 := by omega
    simp only [whole, size, if_true, readCode?, true_and, Option.bind_some]
    split <;> rfl
  · rw [if_neg whole, Option.bind_none]
    split
    next size => simp [readCode?, size, whole]
    next => rfl

theorem scans_readEscape (start : Cursor) :
    Scans start (readEscape? start.after) (readEscape start) := by
  obtain ⟨before, after⟩ := start
  cases after with
  | nil => exact .missing (.refl _)
  | cons c rest =>
      have reached := Cursor.reaches_next before c rest
      simp only [readEscape, readEscape?, readNext, Cursor.next?, Reply.andThen_matched]
      split
      next =>
        rw [readFourDigits?_eq]
        refine ((scans_readCode 4 0 ⟨c :: before, rest⟩).andThen
          (fun code text => if code.isValidChar then some (Char.ofNat code, text) else none)
          fun code finish further => ?_).behind reached
        split
        next => exact .found (.refl finish)
        next => exact .missing (.refl finish)
      next => exact .found reached

/-- A quoted text goes on behind a backslash with the character that is written there. -/
theorem unquote?_backslash (quote : Quote) (text : List Char) :
    unquote? quote ('\\' :: text) = (readEscape? text).bind fun found =>
      (unquote? quote found.2).map fun later => (found.1 :: later.1, later.2) := by
  have notMark : '\\' ≠ quote.mark := by cases quote <;> decide
  cases text with
  | nil => simp [unquote?, readEscape?, notMark]
  | cons c text =>
      by_cases code : c = 'u'
      · subst code
        rcases text with _ | ⟨a, _ | ⟨b, _ | ⟨c, _ | ⟨d, text⟩⟩⟩⟩
        case cons.cons.cons.cons =>
          cases value : readCode? [a, b, c, d] <;>
            simp [unquote?, readEscape?, value, Option.map_eq_bind, Function.comp_def]
        all_goals simp [unquote?, readEscape?]
      · simp [unquote?, readEscape?, code, Option.map_eq_bind, Function.comp_def]

/-- What comes up to the closing mark is read behind what was read before. -/
theorem scans_readQuotedBody (quote : Quote) {turns : Nat} (value : List Char) (start : Cursor)
    (enough : start.after.length ≤ turns) :
    Scans start ((unquote? quote start.after).map fun found => (value ++ found.1, found.2))
      (readQuotedBody quote turns value start) := by
  induction turns generalizing value start with
  | zero =>
      rw [List.eq_nil_of_length_eq_zero (Nat.le_zero.1 enough)]
      exact .missing (.refl start)
  | succ turns ih =>
      obtain ⟨before, after⟩ := start
      cases after with
      | nil => exact .missing (.refl _)
      | cons c rest =>
          have reached := Cursor.reaches_next before c rest
          have fewer : rest.length ≤ turns := Nat.le_of_succ_le_succ enough
          simp only [readQuotedBody, readNext, Cursor.next?, Reply.andThen_matched]
          split
          next mark =>
            have found : unquote? quote (c :: rest) = some ([], rest) := by
              rw [mark]
              cases quote <;> rfl
            rw [found, Option.map_some, List.append_nil]
            exact .found reached
          next notMark =>
            split
            next backslash =>
              have found : (unquote? quote (c :: rest)).map
                  (fun found => (value ++ found.1, found.2)) =
                  (readEscape? rest).bind fun found => (unquote? quote found.2).map
                    fun later => (value ++ [found.1] ++ later.1, later.2) := by
                rw [backslash, unquote?_backslash, Option.map_bind]
                simp [Function.comp_def]
              rw [found]
              refine ((scans_readEscape ⟨c :: before, rest⟩).andThen
                (fun escaped text => (unquote? quote text).map
                  fun later => (value ++ [escaped] ++ later.1, later.2))
                fun escaped finish further => ih _ finish ?_).behind reached
              exact Nat.le_trans further.length_after_le fewer
            next notBackslash =>
              have found : (unquote? quote (c :: rest)).map
                  (fun found => (value ++ found.1, found.2)) =
                  (unquote? quote rest).map fun found => (value ++ [c] ++ found.1, found.2) := by
                simp [unquote?, notMark, notBackslash, Function.comp_def]
              rw [found]
              exact (ih _ ⟨c :: before, rest⟩ fewer).behind reached

theorem scans_readQuoted (quote : Quote) (start : Cursor) :
    Scans start (readQuoted? quote start.after) (readQuoted quote start) := by
  obtain ⟨before, after⟩ := start
  cases after with
  | nil => exact .missing (.refl _)
  | cons c rest =>
      have reached := Cursor.reaches_next before c rest
      simp only [readQuoted, readQuoted?, readNext, Cursor.next?, Reply.andThen_matched]
      split
      next =>
        have body := scans_readQuotedBody quote [] ⟨c :: before, rest⟩ (Nat.le_refl rest.length)
        simp only [List.nil_append, Option.map_id'] at body
        exact body.behind reached
      next => exact .missing reached

/-! ## Runs, signs and digits -/

theorem passes_run (charClass : CharClass) (limit : Nat) (start : Cursor) :
    let run := (start.after.take limit).takeWhile charClass.test
    start.Passes run (start.skip run.length) := by
  intro run
  obtain ⟨rest, text_eq⟩ :=
    (List.takeWhile_prefix charClass.test).trans (List.take_prefix limit start.after)
  exact Cursor.passes_skip text_eq.symm

/-- A run is passed as far as it goes and as the limit lets it. -/
theorem passRun_eq (charClass : CharClass) (limit : Nat) (start : Cursor) :
    let run := (start.after.take limit).takeWhile charClass.test
    passRun charClass limit start = (run.length, start.skip run.length) := by
  induction limit generalizing start with
  | zero => simp [passRun, Cursor.skip]
  | succ limit ih =>
      obtain ⟨before, after⟩ := start
      cases after with
      | nil => simp [passRun, Cursor.at?, Cursor.skip]
      | cons c rest =>
          cases member : charClass.test c <;>
            simp [passRun, Cursor.at?, Cursor.forward, Cursor.next?, Cursor.skip, member, ih]

theorem signAt?_eq (conventions : NumberConventions) (cursor : Cursor) :
    signAt? conventions cursor = (readSign? conventions cursor.after).map Prod.fst := by
  obtain ⟨before, after⟩ := cursor
  cases after with
  | nil => rfl
  | cons c rest =>
      simp only [signAt?, Cursor.at?, List.head?_cons, readSign?]
      split
      next => rfl
      next => split <;> rfl

/-- Digits are read up to the first character that is none, or the first digit that takes the number
out of its range. -/
theorem readDigits_eq (label : String) (radix : Radix) (negative : Bool) {turns : Nat} (value : Int)
    (count : Nat) (start : Cursor) (enough : start.after.length ≤ turns) :
    let digits := start.after.takeWhile (isDigitOf radix.value)
    readDigits label radix negative turns value count start =
      match longRange.appendDigits radix.value negative value (digitValues radix.value digits) with
      | .ok found => .matched (found, count + digits.length) (start.skip digits.length)
      | .error accepted =>
          ⟨.noMatch, start.skip accepted,
            [.overflowed label (start.offset + byteSize (digits.take accepted))]⟩ := by
  induction turns generalizing value count start with
  | zero =>
      obtain ⟨before, after⟩ := start
      obtain rfl := List.eq_nil_of_length_eq_zero (Nat.le_zero.1 enough)
      rfl
  | succ turns ih =>
      obtain ⟨before, after⟩ := start
      cases after with
      | nil => rfl
      | cons c rest =>
          have fewer : rest.length ≤ turns := Nat.le_of_succ_le_succ enough
          simp only [readDigits, Cursor.at?, List.head?_cons, Option.bind_some]
          cases isDigit : digitOf? radix.value c with
          | none =>
              have other : isDigitOf radix.value c = false := by simp [isDigitOf, isDigit]
              simp [other, digitValues, IntRange.appendDigits, Cursor.skip]
          | some digit =>
              have member : isDigitOf radix.value c = true := by simp [isDigitOf, isDigit]
              simp only [List.takeWhile_cons, member, if_true, digitValues,
                List.filterMap_cons_some isDigit, IntRange.appendDigits]
              cases fits : longRange.withDigit? radix.value negative value digit with
              | none => simp [Cursor.skip]
              | some next =>
                  simp only [Cursor.forward, Cursor.next?,
                    ih next (count + 1) ⟨c :: before, rest⟩ fewer, digitValues]
                  cases longRange.appendDigits radix.value negative next
                      ((rest.takeWhile (isDigitOf radix.value)).filterMap
                        (digitOf? radix.value)) with
                  | ok found => simp [Except.mapError, Cursor.skip, Nat.add_assoc, Nat.add_comm 1]
                  | error accepted =>
                      simp [Except.mapError, Cursor.skip, Cursor.offset, Nat.add_assoc,
                        Nat.add_left_comm]

/-! ## Leaves -/

/-- Between a place and the cursor stands what was passed over, which becomes the text of the token. -/
theorem tokenSince_eq {used : List Char} (passage : start.Passes used finish) :
    tokenSince start.save value finish =
      .ofToken (Token.makeLeaf (value (String.ofList used)) (String.ofList used))
        (start.skip used.length) := by
  rw [tokenSince, passage.textBetween_eq, ← passage.eq_skip]

/-- A token is there, or an error, and so nothing is tried in its place. -/
theorem orElse_tokenSince (place : SavePoint) (cursor : Cursor) (next : Cursor → Reply Token) :
    (tokenSince place value cursor).orElse next = tokenSince place value cursor := by
  simp only [tokenSince]
  cases Token.makeLeaf (value (cursor.textBetween place)) (cursor.textBetween place) with
  | ok token => rfl
  | error error => rfl

/-- A leaf whose reader replies as a reading says takes what was used for the text of its token, and
else goes back. -/
theorem Scans.reply_eq {found : Option (α × List Char)} {reply : Reply α}
    (scans : Scans start found reply) (label : String) (make : α → String → LeafValue) :
    (reply.andThen fun item finish => tokenSince start.save (make item) finish).orElse
        (goBack start.save) =
      (Reading.ofOption (found.map fun pair =>
        let used := start.after.take (start.after.length - pair.2.length)
        (make pair.1 (String.ofList used), used))).reply label start := by
  cases scans with
  | @found item finish reached =>
      obtain ⟨used, passage⟩ := reached
      have used_eq : start.after.take (start.after.length - finish.after.length) = used := by
        rw [passage.after_eq, List.length_append, Nat.add_sub_cancel, List.take_left]
      rw [Reply.andThen_matched, orElse_tokenSince, tokenSince_eq passage]
      simp only [Option.map_some, used_eq, Reading.ofOption, Reading.reply]
  | missing reached =>
      simp [goBack, reached.restore_save, Reading.ofOption, Reading.reply]

variable {label : String}

theorem matchCharacter_eq (charClass : CharClass) (start : Cursor) :
    matchCharacter charClass start =
      (Reading.ofOption ((readOne? charClass start.after).map fun c =>
        (.character c, [c]))).reply label start := by
  obtain ⟨before, after⟩ := start
  cases after with
  | nil => simp [matchCharacter, readNext, Cursor.next?, readOne?, goBack, Reading.ofOption,
      Reading.reply]
  | cons c rest =>
      have passage : Cursor.Passes ⟨before, c :: rest⟩ [c] ⟨c :: before, rest⟩ := ⟨rfl, rfl⟩
      simp only [matchCharacter, readNext, Cursor.next?, Reply.andThen_matched, readOne?,
        List.head?_cons]
      cases member : charClass.test c with
      | true =>
          rw [if_pos rfl, orElse_tokenSince, tokenSince_eq passage,
            Option.filter_some_pos member]
          rfl
      | false =>
          rw [if_neg Bool.false_ne_true, Option.filter_some_neg (by simp [member])]
          simp [goBack, (Cursor.reaches_next before c rest).restore_save, Reading.ofOption, Reading.reply]

theorem matchWord_eq (rule : CaseRule) (word : String) (value : String → LeafValue)
    (start : Cursor) :
    matchWord rule word value start =
      (Reading.ofOption ((readLiteral? rule word.toList start.after).map
        (sameValueAndText value))).reply label start := by
  unfold matchWord readLiteral?
  by_cases empty : word = ""
  · rw [if_pos empty, if_pos (by rw [empty]; rfl)]
    rfl
  · rw [if_neg empty, if_neg (by rwa [String.toList_eq_nil_iff]),
      (scans_readWord rule word.toList start).reply_eq label fun _ => value]
    cases spelling : rule.spelling? word.toList start.after with
    | none => rfl
    | some spelled =>
        obtain ⟨-, rest, text_eq⟩ := CaseRule.spelling?_eq_some_iff.1 spelling
        simp [text_eq, sameValueAndText]

/-- A run without a bound is bounded by the text. -/
theorem readRun?_eq (charClass : CharClass) (minimum : Nat) (maximum : Option Nat)
    (text : List Char) :
    let run := (text.take (maximum.getD text.length)).takeWhile charClass.test
    readRun? charClass minimum maximum text = if minimum ≤ run.length then some run else none := by
  cases maximum with
  | some count => rfl
  | none => simp [readRun?]

theorem matchRun_eq (charClass : CharClass) (minimum : Nat) (maximum : Option Nat)
    (start : Cursor) :
    matchRun charClass minimum maximum start =
      (Reading.ofOption ((readRun? charClass minimum maximum start.after).map
        (sameValueAndText .string))).reply label start := by
  have passage := passes_run charClass (maximum.getD start.after.length) start
  simp only [matchRun, passRun_eq, readRun?_eq]
  split
  next short =>
    rw [if_neg (Nat.not_le.2 short), goBack, Cursor.Reaches.restore_save ⟨_, passage⟩]
    rfl
  next enough =>
    rw [if_pos (Nat.le_of_not_lt enough), tokenSince_eq passage]
    rfl

theorem matchWhitespace_eq (start : Cursor) :
    matchWhitespace start =
      (Reading.ofOption ((readRun? .whitespace 1 none start.after).map
        (sameValueAndText .whitespace))).reply label start := by
  have passage := passes_run .whitespace start.after.length start
  simp only [matchWhitespace, passRun_eq, readRun?_eq, Option.getD_none]
  split
  next none =>
    rw [if_neg (by omega), none]
    rfl
  next some =>
    rw [if_pos (by omega), tokenSince_eq passage]
    rfl

theorem matchComment_eq (opening closing : String) (start : Cursor) :
    matchComment opening closing start =
      (Reading.ofOption ((readComment? opening.toList closing.toList start.after).map fun body =>
        (.comment (String.ofList body), opening.toList ++ body ++ closing.toList))).reply label
          start := by
  unfold matchComment readComment?
  simp only [← String.toList_eq_nil_iff, Option.bind_eq_bind]
  split
  next => rfl
  next =>
    cases starts : dropExact? opening.toList start.after with
    | none => rfl
    | some inside =>
        rw [Option.bind_some, Option.bind_some]
        cases split : splitAtWord? closing.toList inside with
        | none => rfl
        | some parts =>
            obtain ⟨body, rest⟩ := parts
            have text_eq : start.after = opening.toList ++ body ++ closing.toList ++ rest := by
              rw [dropExact?_eq_some_iff.1 starts, eq_append_of_splitAtWord? split]
              simp
            have passage := Cursor.passes_skip text_eq
            have advanced := passage.advance?_byteSize
            rw [byteSize_append, byteSize_append] at advanced
            simp only [advanced, tokenSince_eq passage]
            rfl

theorem matchQuoted_eq (quote : Quote) (start : Cursor) :
    matchQuoted quote start =
      (Reading.ofOption (readQuotedValue? quote start.after)).reply label start :=
  (scans_readQuoted quote start).reply_eq label fun value _ => quote.value (String.ofList value)

/-- The sign, if there is one, is passed before the digits. -/
theorem passes_sign (conventions : NumberConventions) (start : Cursor) :
    let spelled := (readSign? conventions start.after).toList.map Prod.snd
    start.Passes spelled
      (if (signAt? conventions start).isSome then start.forward else start) := by
  rw [signAt?_eq]
  cases found : readSign? conventions start.after with
  | none => exact .refl start
  | some pair =>
      obtain ⟨rest, text_eq⟩ := List.head?_eq_some_iff.1 (head_eq_of_readSign? found)
      obtain ⟨before, after⟩ := start
      obtain rfl := text_eq
      exact ⟨rfl, rfl⟩

theorem matchSign_eq (conventions : NumberConventions) (start : Cursor) :
    matchSign conventions start =
      (Reading.ofOption ((readSign? conventions start.after).map fun found =>
        (.sign found.1, [found.2]))).reply label start := by
  unfold matchSign
  rw [signAt?_eq]
  cases found : readSign? conventions start.after with
  | none => rfl
  | some pair =>
      obtain ⟨sign, c⟩ := pair
      have passage : start.Passes [c] start.forward := by
        simpa [signAt?_eq, found] using passes_sign conventions start
      simp only [Option.map_some, tokenSince_eq passage]
      rfl

theorem matchLong_eq (radix : Radix) (conventions : NumberConventions) (start : Cursor) :
    matchLong label radix conventions start =
      (readLong radix conventions start.after).reply label start := by
  have signed := passes_sign conventions start
  have negative : decide (signAt? conventions start = some .negative) =
      (readSign? conventions start.after).any fun found => found.1 = .negative := by
    rw [signAt?_eq]
    cases readSign? conventions start.after <;> simp
  simp only [matchLong, readLong, negative]
  generalize (readSign? conventions start.after).toList.map Prod.snd = spelled at signed ⊢
  generalize (if (signAt? conventions start).isSome then start.forward else start) = unsigned
    at signed ⊢
  have after_eq : start.after.drop spelled.length = unsigned.after := by
    rw [signed.after_eq, List.drop_left]
  obtain ⟨rest, digits_eq⟩ := List.takeWhile_prefix (isDigitOf radix.value) (l := unsigned.after)
  rw [readDigits_eq label radix _ 0 0 unsigned (Nat.le_refl _), after_eq]
  generalize unsigned.after.takeWhile (isDigitOf radix.value) = digits at digits_eq ⊢
  cases appended : longRange.appendDigits radix.value
      ((readSign? conventions start.after).any fun found => found.1 = .negative) 0
      (digitValues radix.value digits) with
  | ok found =>
      have passage := signed.trans (Cursor.passes_skip digits_eq.symm)
      by_cases empty : digits = []
      · subst empty
        have back : (unsigned.skip 0).restore start.save = start :=
          Cursor.Reaches.restore_save ⟨_, passage⟩
        simp [goBack, back, Reading.reply]
      · rw [if_neg empty, Reply.andThen_matched]
        dsimp only
        rw [if_neg (by simpa using empty), orElse_tokenSince, tokenSince_eq passage]
        rfl
  | error accepted =>
      have reached : start.Reaches (unsigned.skip accepted) :=
        .trans ⟨spelled, signed⟩ (Cursor.reaches_skip accepted unsigned)
      have nonempty : digits ≠ [] := by
        rintro rfl
        cases appended
      rw [if_neg nonempty]
      simp [Reply.andThen, Reply.orElse, Reply.after, Reply.noMatch, goBack, reached.restore_save,
        Reading.reply, signed.offset_eq, Nat.add_assoc]

theorem matchFormat_eq (format : Format LeafValue) (conventions : Conventions) (start : Cursor) :
    matchFormat format conventions start =
      (Reading.ofFormat format conventions start.after).reply format.label start := by
  unfold matchFormat Reading.ofFormat
  cases format.read? conventions start.after with
  | none => rfl
  | some answer =>
      obtain ⟨value, rest⟩ := answer
      simp only [advanceTo?_eq]
      cases uses : usedText? start.after rest with
      | none => rfl
      | some used =>
          have passage := Cursor.passes_skip (usedText?_eq_some_iff.1 uses).2
          simp only [Option.map_some, tokenSince_eq passage]
          rfl

/-- A leaf replies as its reading of the text behind the cursor says. -/
theorem matcher_eq (leaf : Leaf) (conventions : Conventions) (start : Cursor) :
    leaf.matcher conventions start =
      (leaf.read conventions start.after).reply leaf.label start := by
  cases leaf with
  | character charClass => exact matchCharacter_eq charClass start
  | literal caseRule text => exact matchWord_eq caseRule text .string start
  | symbol text => exact matchWord_eq .exact text .symbol start
  | run charClass minimum maximum => exact matchRun_eq charClass (runMinimum minimum) maximum start
  | whitespace => exact matchWhitespace_eq start
  | comment opening closing => exact matchComment_eq opening closing start
  | quoted quote => exact matchQuoted_eq quote start
  | long radix => exact matchLong_eq radix conventions.number start
  | sign => exact matchSign_eq conventions.number start
  | decimal => exact matchFormat_eq .decimal conventions start
  | dateTime kind choice => exact matchFormat_eq (.dateTime kind choice) conventions start
  | formatted format => exact matchFormat_eq format conventions start

end Leaf

end TextGrammar
