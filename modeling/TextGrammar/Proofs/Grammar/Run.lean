import TextGrammar.Proofs.Grammar.Parts

/-!
# Runs of a grammar

A grammar that is watched shows which calls it makes. Each combination calls the grammars inside of
it, and a transformation calls its function; a call is noted together with what it has answered and
with the calls that were made for it, so that a run is a tree of calls in the order of time. Watched
grammars are combined by the same combinations as others, of which only the steps note more than the
reply. Without these notes a watched grammar replies exactly as the grammar does.
-/

namespace TextGrammar

/-- A call that is made while a text is read. -/
inductive Call where
  /-- A grammar is called at a cursor, makes calls of its own and replies. -/
  | reading (grammar : Grammar) (start : Cursor) (inner : List Call) (reply : Reply Token)
  /-- A function on tokens is called while the cursor stands at a place. -/
  | changing (token : Token) (place : Cursor) (result : Except ParseError Token)

namespace Call

/-- Where the cursor stands when the call is made. -/
def place : Call → Cursor
  | .reading _ start _ _ => start
  | .changing _ place _ => place

/-- Where the reading goes on after the call: behind a match, and otherwise where the call was
made. -/
def resume : Call → Cursor
  | .reading _ start _ reply =>
      match reply.outcome with
      | .matched _ => reply.cursor
      | _ => start
  | .changing _ place _ => place

end Call

/-- What is seen of a run: the calls that it makes itself, in order, and its reply. -/
structure Run (α : Type) where
  calls : List Call
  reply : Reply α

namespace Run

variable {α β : Type}

/-- A run without calls. -/
def still (reply : Reply α) : Run α :=
  ⟨[], reply⟩

/-- What follows a match, as for replies. -/
def andThen (run : Run α) (next : α → Cursor → Run β) : Run β where
  calls := run.calls ++ match run.reply.outcome with
    | .matched value => (next value run.reply.cursor).calls
    | _ => []
  reply := run.reply.andThen fun value cursor => (next value cursor).reply

/-- What follows if there was no match, as for replies. -/
def orElse (run : Run α) (next : Cursor → Run α) : Run α where
  calls := run.calls ++ match run.reply.outcome with
    | .noMatch => (next run.reply.cursor).calls
    | _ => []
  reply := run.reply.orElse fun cursor => (next cursor).reply

theorem andThen_of_matched {run : Run α} {next : α → Cursor → Run β} {value : α}
    (outcome : run.reply.outcome = .matched value) :
    run.andThen next = ⟨run.calls ++ (next value run.reply.cursor).calls,
      (next value run.reply.cursor).reply.after run.reply.log⟩ := by
  simp [andThen, Reply.andThen, outcome]

theorem andThen_of_noMatch {run : Run α} {next : α → Cursor → Run β}
    (outcome : run.reply.outcome = .noMatch) :
    run.andThen next = ⟨run.calls, .noMatch, run.reply.cursor, run.reply.log⟩ := by
  simp [andThen, Reply.andThen, outcome]

theorem andThen_of_failed {run : Run α} {next : α → Cursor → Run β} {error : ParseError}
    (outcome : run.reply.outcome = .failed error) :
    run.andThen next = ⟨run.calls, .failed error, run.reply.cursor, run.reply.log⟩ := by
  simp [andThen, Reply.andThen, outcome]

theorem orElse_of_noMatch {run : Run α} {next : Cursor → Run α}
    (outcome : run.reply.outcome = .noMatch) :
    run.orElse next = ⟨run.calls ++ (next run.reply.cursor).calls,
      (next run.reply.cursor).reply.after run.reply.log⟩ := by
  simp [orElse, Reply.orElse, outcome]

/-- A match and an error stay as they are. -/
theorem orElse_of_ne_noMatch {run : Run α} {next : Cursor → Run α}
    (outcome : run.reply.outcome ≠ .noMatch) : run.orElse next = run := by
  rcases run with ⟨calls, found, cursor, log⟩
  cases found with
  | noMatch => exact absurd rfl outcome
  | matched value => simp [orElse, Reply.orElse]
  | failed error => simp [orElse, Reply.orElse]

/-- A function is called for a token that ends at a cursor. -/
def ofChange (change : Token → Conventions → Except ParseError Token) (conventions : Conventions)
    (token : Token) (finish : Cursor) : Run Token where
  calls := [.changing token finish (change token conventions)]
  reply := .ofChange change conventions token finish

end Run

instance : Answers Run where
  still := Run.still
  andThen := Run.andThen
  orElse := Run.orElse
  ofChange := Run.ofChange

namespace Answers

variable {α β : Type}

@[simp] theorem still_run (reply : Reply α) : still (M := Run) reply = .still reply := rfl

@[simp] theorem andThen_run (run : Run α) (next : α → Cursor → Run β) :
    andThen run next = run.andThen next := rfl

@[simp] theorem orElse_run (run : Run α) (next : Cursor → Run α) :
    orElse run next = run.orElse next := rfl

end Answers

/-- What is left of a watched matcher if its calls are not looked at. -/
def Matcher.plain (watched : Matcher Run) : Matcher := fun conventions start =>
  (watched conventions start).reply

/-- A grammar as it is called by others, with what it does when it is watched. -/
def Grammar.calledAs (grammar : Grammar) (watched : Matcher Run) : Matcher Run :=
  fun conventions start =>
    let run := watched conventions start
    ⟨[.reading grammar start run.calls run.reply], run.reply⟩

mutual

/-- A grammar under watch. -/
def Grammar.run : Grammar → Matcher Run
  | .leaf leaf => fun conventions start => .still (leaf.matcher conventions start)
  | .sequence components =>
      .sequence (Grammar.sequence components).label (watchedParts components)
  | .alternatives choices => .firstOf (watchedChoices choices)
  | .optional inner => (inner.calledAs inner.run).optional
  | .repeated minimum inner =>
      (inner.calledAs inner.run).repeated (Grammar.repeated minimum inner).label minimum
  | .labelled _ inner => inner.calledAs inner.run
  | .orReport reporter inner => (inner.calledAs inner.run).orReport reporter inner.label
  | .orFailIfTextRemains reporter inner =>
      (inner.calledAs inner.run).orFailIfTextRemains reporter inner.label
  | .andNothingRemains inner => (inner.calledAs inner.run).andNothingRemains
  | .map change inner => (inner.calledAs inner.run).map change
  | .transform change inner => (inner.calledAs inner.run).transform change
  | .external _ matcher => fun conventions start => .still (matcher conventions start)

/-- A part of a sequence under watch. -/
def Component.watchedPart : Component → Matcher.Part Run
  | .required grammar => ⟨true, grammar.label, grammar.calledAs grammar.run⟩
  | .optional grammar => ⟨false, grammar.label, grammar.calledAs grammar.run⟩

/-- Several parts of a sequence under watch. -/
def watchedParts : List Component → List (Matcher.Part Run)
  | [] => []
  | component :: components => component.watchedPart :: watchedParts components

/-- Several grammars under watch. -/
def watchedChoices : List Grammar → List (Matcher Run)
  | [] => []
  | grammar :: grammars => grammar.calledAs grammar.run :: watchedChoices grammars

end

/-- A grammar as others call it. -/
def Grammar.called (grammar : Grammar) : Matcher Run :=
  grammar.calledAs grammar.run

theorem watchedPart_eq (component : Component) :
    component.watchedPart =
      ⟨component.isRequired, component.grammar.label, component.grammar.called⟩ := by
  cases component <;> rfl

theorem watchedParts_eq_map (components : List Component) :
    watchedParts components = components.map Component.watchedPart := by
  induction components with
  | nil => rfl
  | cons component components ih => rw [watchedParts, ih, List.map_cons]

theorem watchedChoices_eq_map (grammars : List Grammar) :
    watchedChoices grammars = grammars.map Grammar.called := by
  induction grammars with
  | nil => rfl
  | cons grammar grammars ih => rw [watchedChoices, ih, List.map_cons, Grammar.called]

/-! ## Watching changes no reply -/

namespace Matcher

/-- The part as those see it who do not watch. -/
def Part.plain (part : Part Run) : Part :=
  ⟨part.required, part.label, part.matcher.plain⟩

theorem plain_firstOf (matchers : List (Matcher Run)) :
    (firstOf matchers).plain = firstOf (matchers.map plain) := by
  funext conventions start
  induction matchers with
  | nil => rfl
  | cons matcher matchers ih =>
      rw [List.map_cons, firstOf, ← ih]
      rfl

theorem reply_gather (label : String) (parts : List (Part Run)) (conventions : Conventions)
    (start : Cursor) :
    (gather label parts conventions start).reply =
      gather label (parts.map Part.plain) conventions start := by
  induction parts generalizing start with
  | nil => rfl
  | cons part parts ih =>
      simp only [gather, List.map_cons, ← ih]
      rfl

theorem plain_sequence (label : String) (parts : List (Part Run)) :
    (sequence label parts).plain = sequence label (parts.map Part.plain) := by
  funext conventions start
  simp only [sequence, ← reply_gather]
  rfl

theorem reply_iterate (matcher : Matcher Run) (conventions : Conventions) (calls : Nat)
    (start : Cursor) :
    (iterate matcher conventions calls start).reply =
      iterate matcher.plain conventions calls start := by
  induction calls generalizing start with
  | zero => rfl
  | succ calls ih =>
      simp only [iterate, Answers.orElse_run, Answers.andThen_run, Run.orElse, Run.andThen, ← ih]
      congr 1
      congr 1
      funext token next
      split <;> rfl

theorem plain_repeated (label : String) (minimum : Nat) (matcher : Matcher Run) :
    (matcher.repeated label minimum).plain = matcher.plain.repeated label minimum := by
  funext conventions start
  simp only [repeated, ← reply_iterate]
  rfl

end Matcher

namespace Grammar

/-- A grammar replies the same whether it is watched or not. -/
theorem plain_run (grammar : Grammar) : grammar.run.plain = grammar.matcher := by
  induction grammar with
  | leaf leaf => rfl
  | sequence components ih =>
      have parts : (watchedParts components).map Matcher.Part.plain = componentParts components := by
        rw [watchedParts_eq_map, componentParts_eq_map, List.map_map]
        apply List.map_congr_left
        intro component member
        have same := ih component member
        cases component with
        | required grammar => exact congrArg (Matcher.Part.mk true grammar.label) same
        | optional grammar => exact congrArg (Matcher.Part.mk false grammar.label) same
      rw [run, Matcher.plain_sequence, parts, matcher]
  | alternatives choices ih =>
      rw [run, Matcher.plain_firstOf, matcher, watchedChoices_eq_map, grammarMatchers_eq_map,
        List.map_map]
      exact congrArg Matcher.firstOf (List.map_congr_left ih)
  | repeated minimum inner ih =>
      rw [run, Matcher.plain_repeated, matcher, ← ih]
      rfl
  | labelled label inner ih => exact ih
  | external label matcher => rfl
  -- the other combinations call one grammar, and unfold to the same steps
  | _ =>
      rename_i ih
      rw [matcher, ← ih]
      rfl

theorem reply_run (grammar : Grammar) (conventions : Conventions) (start : Cursor) :
    (grammar.run conventions start).reply = grammar.parse conventions start :=
  congrFun (congrFun grammar.plain_run conventions) start

end Grammar

end TextGrammar
