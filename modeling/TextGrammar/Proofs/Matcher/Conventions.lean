import TextGrammar.Matcher.Combinators

/-!
# Matchers under two conventions

A matcher may reply the same under two conventions although they differ. Every way of combining
matchers keeps this, since a combination hands on the conventions to its parts and asks nothing of
them itself. The replies are equal as a whole, with the place of the cursor and with what is logged.
-/

namespace TextGrammar

/-- Wherever a matcher is called, it replies the same under both conventions. -/
def Matcher.RepliesAlike (first second : Conventions) (matcher : Matcher) : Prop :=
  ∀ start, matcher first start = matcher second start

namespace Matcher.RepliesAlike

variable {first second : Conventions} {matcher : Matcher}

theorem firstOf {matchers : List Matcher}
    (each : ∀ matcher ∈ matchers, matcher.RepliesAlike first second) :
    (Matcher.firstOf matchers).RepliesAlike first second := by
  intro start
  induction matchers with
  | nil => rfl
  | cons matcher matchers ih =>
      rw [List.forall_mem_cons] at each
      simp only [Matcher.firstOf, each.1 start, ih each.2]

theorem optional (alike : matcher.RepliesAlike first second) :
    matcher.optional.RepliesAlike first second := by
  intro start
  simp only [Matcher.optional, alike start]

theorem tokens {part : Part} (alike : part.matcher.RepliesAlike first second) (label : String)
    (start : Cursor) : part.tokens label first start = part.tokens label second start := by
  simp only [Part.tokens, alike start]

theorem gather {parts : List Part} (each : ∀ part ∈ parts, part.matcher.RepliesAlike first second)
    (label : String) (start : Cursor) :
    Matcher.gather label parts first start = Matcher.gather label parts second start := by
  induction parts generalizing start with
  | nil => rfl
  | cons part parts ih =>
      rw [List.forall_mem_cons] at each
      simp only [Matcher.gather, tokens each.1, ih each.2]

theorem sequence {parts : List Part}
    (each : ∀ part ∈ parts, part.matcher.RepliesAlike first second) (label : String) :
    (Matcher.sequence label parts).RepliesAlike first second := by
  intro start
  simp only [Matcher.sequence, gather each label start]

/-- The number of calls that are allowed is the same, and each of them replies the same. -/
theorem iterate (alike : matcher.RepliesAlike first second) (calls : Nat) (start : Cursor) :
    Matcher.iterate matcher first calls start = Matcher.iterate matcher second calls start := by
  induction calls generalizing start with
  | zero => rfl
  | succ calls ih => simp only [Matcher.iterate, alike start, ih]

theorem repeated (alike : matcher.RepliesAlike first second) (label : String) (minimum : Nat) :
    (matcher.repeated label minimum).RepliesAlike first second := by
  intro start
  simp only [Matcher.repeated, alike.iterate]

theorem orReport (alike : matcher.RepliesAlike first second) (reporter : Reporter)
    (label : String) : (matcher.orReport reporter label).RepliesAlike first second := by
  intro start
  simp only [Matcher.orReport, alike start]

theorem orFailIfTextRemains (alike : matcher.RepliesAlike first second) (reporter : Reporter)
    (label : String) : (matcher.orFailIfTextRemains reporter label).RepliesAlike first second := by
  intro start
  simp only [Matcher.orFailIfTextRemains, alike start]

theorem andNothingRemains (alike : matcher.RepliesAlike first second) :
    matcher.andNothingRemains.RepliesAlike first second := by
  intro start
  simp only [Matcher.andNothingRemains, alike start]

theorem map (alike : matcher.RepliesAlike first second) (change : Token → Token) :
    (matcher.map change).RepliesAlike first second := by
  intro start
  simp only [Matcher.map, alike start]

/-- A change is given the conventions too, so it has to give the same answers. -/
theorem transform (alike : matcher.RepliesAlike first second)
    {change : Token → Conventions → Except ParseError Token}
    (changesAlike : ∀ token, change token first = change token second) :
    (matcher.transform change).RepliesAlike first second := by
  intro start
  have same : Reply.ofChange change first = Reply.ofChange change second := by
    funext token finish
    rw [Reply.ofChange, Reply.ofChange, changesAlike]
  simp only [Matcher.transform, alike start]
  exact congrArg (Reply.andThen _) same

end Matcher.RepliesAlike

end TextGrammar
