import TextGrammar.Proofs.Grammar.Run
import TextGrammar.Proofs.Leaf.Scanning

/-!
# Invariants of runs

All combinations are made of the same few steps: replies, what follows a match, what comes instead of
one, and calls. A property of runs that these steps keep holds of every run of a grammar, if it holds
of what the parts of the grammar do by themselves: of what the reporters reply, of the calls of
functions on tokens and of the matchers from elsewhere.
-/

namespace TextGrammar

/-- A property of runs is kept by the steps that all combinations are made of. -/
structure Run.Invariant (conventions : Conventions) (holds : {α : Type} → Run α → Prop) : Prop where
  matched : ∀ {α : Type} (value : α) (cursor : Cursor), holds (.still (.matched value cursor))
  noMatch : ∀ {α : Type} (cursor : Cursor) (log : List LogRecord),
    (∀ record ∈ log, record.level = .trace) → holds (.still (⟨.noMatch, cursor, log⟩ : Reply α))
  invalidToken : ∀ (fault : TokenError) (cursor : Cursor),
    holds (.still (.failed (.invalidToken fault) cursor : Reply Token))
  andThen : ∀ {α β : Type} {run : Run α} {next : α → Cursor → Run β}, holds run →
    (∀ value cursor, holds (next value cursor)) → holds (Answers.andThen run next)
  orElse : ∀ {α : Type} {run : Run α} {next : Cursor → Run α}, holds run →
    (∀ cursor, holds (next cursor)) → holds (Answers.orElse run next)
  call : ∀ {grammar : Grammar} {start : Cursor}, holds (grammar.run conventions start) →
    holds (grammar.called conventions start)

namespace Run.Invariant

variable {conventions : Conventions} {holds : {α : Type} → Run α → Prop}
  {matcher : Matcher Run}

theorem ofToken (invariant : Invariant conventions holds) (token : Except TokenError Token)
    (cursor : Cursor) : holds (.still (.ofToken token cursor)) := by
  cases token with
  | ok token => exact invariant.matched token cursor
  | error fault => exact invariant.invalidToken fault cursor

theorem leaf (invariant : Invariant conventions holds) (leaf : Leaf) (start : Cursor) :
    holds (.still (leaf.matcher conventions start)) := by
  rw [Leaf.matcher_eq]
  cases leaf.read conventions start.after with
  | found value used => exact invariant.ofToken _ _
  | nothing => exact invariant.noMatch start [] (by simp)
  | outOfRange accepted => exact invariant.noMatch start _ (by simp [LogRecord.level])
  | refused => exact invariant.noMatch start _ (by simp [LogRecord.level])

theorem firstOf (invariant : Invariant conventions holds) {matchers : List (Matcher Run)}
    (called : ∀ matcher ∈ matchers, ∀ start, holds (matcher conventions start))
    (start : Cursor) : holds (Matcher.firstOf matchers conventions start) := by
  induction matchers with
  | nil => exact invariant.noMatch start [] (by simp)
  | cons matcher matchers ih =>
      rw [List.forall_mem_cons] at called
      apply invariant.orElse (called.1 start)
      intro cursor
      exact ih called.2

theorem optional (invariant : Invariant conventions holds)
    (called : ∀ start, holds (matcher conventions start)) (start : Cursor) :
    holds (Matcher.optional matcher conventions start) := by
  apply invariant.orElse
  · apply invariant.andThen (called start)
    intro token finish
    exact invariant.ofToken _ finish
  · intro cursor
    exact invariant.ofToken _ start

theorem tokens (invariant : Invariant conventions holds) {part : Matcher.Part Run}
    (called : ∀ start, holds (part.matcher conventions start)) (label : String)
    (start : Cursor) : holds (part.tokens label conventions start) := by
  apply invariant.orElse
  · apply invariant.andThen (called start)
    intro token finish
    exact invariant.matched [token] finish
  · intro cursor
    split
    · exact invariant.noMatch start _ (by simp [LogRecord.level])
    · exact invariant.matched [] start

theorem gather (invariant : Invariant conventions holds) {parts : List (Matcher.Part Run)}
    (called : ∀ part ∈ parts, ∀ start, holds (part.matcher conventions start))
    (label : String) (start : Cursor) :
    holds (Matcher.gather label parts conventions start) := by
  induction parts generalizing start with
  | nil => exact invariant.matched [] start
  | cons part parts ih =>
      rw [List.forall_mem_cons] at called
      apply invariant.andThen (invariant.tokens called.1 label start)
      intro found next
      apply invariant.andThen (ih called.2 next)
      intro later finish
      exact invariant.matched (found ++ later) finish

theorem sequence (invariant : Invariant conventions holds) {parts : List (Matcher.Part Run)}
    (called : ∀ part ∈ parts, ∀ start, holds (part.matcher conventions start))
    (label : String) (start : Cursor) :
    holds (Matcher.sequence label parts conventions start) := by
  apply invariant.orElse
  · apply invariant.andThen (invariant.gather called label start)
    intro tokens finish
    exact invariant.ofToken _ finish
  · intro cursor
    exact invariant.noMatch start [] (by simp)

theorem iterate (invariant : Invariant conventions holds)
    (called : ∀ start, holds (matcher conventions start)) (calls : Nat) (start : Cursor) :
    holds (Matcher.iterate matcher conventions calls start) := by
  induction calls generalizing start with
  | zero => exact invariant.matched [] start
  | succ calls ih =>
      apply invariant.orElse
      · apply invariant.andThen (called start)
        intro token next
        split
        · exact invariant.matched [token] next
        · apply invariant.andThen (ih next)
          intro later finish
          exact invariant.matched (token :: later) finish
      · intro cursor
        exact invariant.matched [] start

theorem repeated (invariant : Invariant conventions holds)
    (called : ∀ start, holds (matcher conventions start)) (label : String) (minimum : Nat)
    (start : Cursor) : holds (Matcher.repeated label minimum matcher conventions start) := by
  apply invariant.andThen (invariant.iterate called _ start)
  intro tokens finish
  split
  · exact invariant.noMatch start _ (by simp [LogRecord.level])
  · exact invariant.ofToken _ finish

theorem orReport (invariant : Invariant conventions holds)
    (called : ∀ start, holds (matcher conventions start)) {reporter : Reporter}
    {label : String} (reports : ∀ cursor, holds (.still (reporter.reply cursor label : Reply Token)))
    (start : Cursor) : holds (Matcher.orReport reporter label matcher conventions start) :=
  invariant.orElse (called start) reports

theorem orFailIfTextRemains (invariant : Invariant conventions holds)
    (called : ∀ start, holds (matcher conventions start)) {reporter : Reporter}
    {label : String} (reports : ∀ cursor, holds (.still (reporter.reply cursor label : Reply Token)))
    (start : Cursor) :
    holds (Matcher.orFailIfTextRemains reporter label matcher conventions start) := by
  apply invariant.andThen (called start)
  intro token finish
  split
  · exact invariant.matched token finish
  · exact reports finish

theorem andNothingRemains (invariant : Invariant conventions holds)
    (called : ∀ start, holds (matcher conventions start)) (start : Cursor) :
    holds (Matcher.andNothingRemains matcher conventions start) := by
  apply invariant.orElse
  · apply invariant.andThen (called start)
    intro token finish
    split
    · exact invariant.matched token finish
    · exact invariant.noMatch finish [] (by simp)
  · intro cursor
    exact invariant.noMatch start [] (by simp)

theorem map (invariant : Invariant conventions holds)
    (called : ∀ start, holds (matcher conventions start)) (change : Token → Token)
    (start : Cursor) : holds (Matcher.map change matcher conventions start) := by
  apply invariant.andThen (called start)
  intro token finish
  exact invariant.matched (change token) finish

end Run.Invariant

namespace Grammar

/-- What a part of a grammar does by itself has a property of runs. -/
def DoesKeep (conventions : Conventions) (holds : {α : Type} → Run α → Prop) : Grammar → Prop
  | .orReport reporter inner =>
      ∀ cursor, holds (.still (reporter.reply cursor inner.label : Reply Token))
  | .orFailIfTextRemains reporter inner =>
      ∀ cursor, holds (.still (reporter.reply cursor inner.label : Reply Token))
  | .transform change _ => ∀ token finish, holds (.ofChange change conventions token finish)
  | .external _ matcher => ∀ start, holds (.still (matcher conventions start))
  | _ => True

/-- An invariant that all parts keep by themselves holds of every run. -/
theorem run_of_invariant {conventions : Conventions} {holds : {α : Type} → Run α → Prop}
    (invariant : Run.Invariant conventions holds) (grammar : Grammar)
    (keeps : ∀ part ∈ grammar.parts, part.DoesKeep conventions holds) :
    ∀ start, holds (grammar.run conventions start) := by
  induction grammar with
  | leaf leaf => exact invariant.leaf leaf
  | sequence components ih =>
      rw [run, watchedParts_eq_map]
      apply invariant.sequence
      intro part member start
      rcases List.mem_map.1 member with ⟨component, inside, rfl⟩
      rw [watchedPart_eq]
      apply invariant.call
      apply ih component inside
      intro part below
      exact keeps part (parts_subset_sequence inside below)
  | alternatives choices ih =>
      rw [run, watchedChoices_eq_map]
      apply invariant.firstOf
      intro matcher member start
      rcases List.mem_map.1 member with ⟨choice, inside, rfl⟩
      apply invariant.call
      apply ih choice inside
      intro part below
      exact keeps part (parts_subset_alternatives inside below)
  | optional inner ih =>
      rw [parts, List.forall_mem_cons] at keeps
      have called := fun start => invariant.call (ih keeps.2 start)
      exact invariant.optional called
  | repeated minimum inner ih =>
      rw [parts, List.forall_mem_cons] at keeps
      have called := fun start => invariant.call (ih keeps.2 start)
      exact invariant.repeated called _ minimum
  | labelled label inner ih =>
      rw [parts, List.forall_mem_cons] at keeps
      intro start
      exact invariant.call (ih keeps.2 start)
  | orReport reporter inner ih =>
      rw [parts, List.forall_mem_cons] at keeps
      have called := fun start => invariant.call (ih keeps.2 start)
      exact invariant.orReport called keeps.1
  | orFailIfTextRemains reporter inner ih =>
      rw [parts, List.forall_mem_cons] at keeps
      have called := fun start => invariant.call (ih keeps.2 start)
      exact invariant.orFailIfTextRemains called keeps.1
  | andNothingRemains inner ih =>
      rw [parts, List.forall_mem_cons] at keeps
      have called := fun start => invariant.call (ih keeps.2 start)
      exact invariant.andNothingRemains called
  | map change inner ih =>
      rw [parts, List.forall_mem_cons] at keeps
      have called := fun start => invariant.call (ih keeps.2 start)
      exact invariant.map called change
  | transform change inner ih =>
      rw [parts, List.forall_mem_cons] at keeps
      intro start
      exact invariant.andThen (invariant.call (ih keeps.2 start)) keeps.1
  | external label matcher => exact keeps _ (self_mem_parts _)

/-- An invariant that asks nothing of replies holds of every run, whatever the parts do. -/
theorem run_of_invariant_of_still {conventions : Conventions} {holds : {α : Type} → Run α → Prop}
    (invariant : Run.Invariant conventions holds)
    (still : ∀ reply : Reply Token, holds (.still reply))
    (ofChange : ∀ change token finish, holds (.ofChange change conventions token finish))
    (grammar : Grammar) (start : Cursor) : holds (grammar.run conventions start) := by
  apply grammar.run_of_invariant invariant
  intro part inside
  cases part with
  | orReport reporter inner => exact fun _ => still _
  | orFailIfTextRemains reporter inner => exact fun _ => still _
  | transform change inner => exact ofChange change
  | external label matcher => exact fun _ => still _
  | _ => trivial

end Grammar

end TextGrammar
