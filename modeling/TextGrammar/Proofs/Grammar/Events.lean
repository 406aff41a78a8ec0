import TextGrammar.Proofs.Grammar.Invariant

/-!
# Events of a run

In the order of time, the reading of a grammar is a list of events: grammars are called and reply, and
functions on tokens are called and answer. An error is the last thing that happens in it: after it,
those who are still waiting for a reply hand on the error one after the other, with the cursor as it
is.
-/

namespace TextGrammar

/-- Something that happens while a text is read. -/
inductive Event where
  /-- A grammar is called at a cursor. -/
  | called (grammar : Grammar) (start : Cursor)
  /-- A grammar replies to the call at a cursor. -/
  | replied (grammar : Grammar) (start : Cursor) (reply : Reply Token)
  /-- A function on tokens is called while the cursor stands at a place, and answers. -/
  | changed (token : Token) (place : Cursor) (result : Except ParseError Token)

namespace Event

/-- A call gives an error, and the cursor is left at a place. -/
def Raises (error : ParseError) (place : Cursor) : Event → Prop
  | .called _ _ => False
  | .replied _ _ reply => reply.outcome = .failed error ∧ reply.cursor = place
  | .changed _ finish result => result = .error error ∧ finish = place

/-- A grammar that was called before replies with an error, and leaves the cursor at a place. -/
def HandsOn (error : ParseError) (place : Cursor) : Event → Prop
  | .replied _ _ reply => reply.outcome = .failed error ∧ reply.cursor = place
  | _ => False

end Event

mutual

/-- What happens from a call to its answer. -/
def Call.events : Call → List Event
  | .reading grammar start inner reply =>
      .called grammar start :: (eventsOfCalls inner ++ [.replied grammar start reply])
  | .changing token place result => [.changed token place result]

/-- What happens in several calls, one after the other. -/
def eventsOfCalls : List Call → List Event
  | [] => []
  | call :: calls => call.events ++ eventsOfCalls calls

end

@[simp] theorem eventsOfCalls_append (front back : List Call) :
    eventsOfCalls (front ++ back) = eventsOfCalls front ++ eventsOfCalls back := by
  induction front with
  | nil => rfl
  | cons call calls ih => simp [eventsOfCalls, ih]

/-- All that happens while a grammar reads from a cursor on, its own call and reply included. -/
def Grammar.events (grammar : Grammar) (conventions : Conventions) (start : Cursor) : List Event :=
  eventsOfCalls (grammar.called conventions start).calls

/-! ## Events are true -/

/-- A reply that is noted is the one that the grammar gives there. -/
def Event.IsTrue (conventions : Conventions) : Event → Prop
  | .replied grammar start reply => reply = grammar.parse conventions start
  | _ => True

/-- The replies that are noted in a run are those that were given. -/
def Run.IsTrue {α : Type} (conventions : Conventions) (run : Run α) : Prop :=
  ∀ event ∈ eventsOfCalls run.calls, event.IsTrue conventions

namespace Run.IsTrue

variable {α β : Type} {conventions : Conventions}

theorem still (reply : Reply α) : (Run.still reply).IsTrue conventions := by
  intro event member
  exact absurd member List.not_mem_nil

theorem append {front back : List Call}
    (first : ∀ event ∈ eventsOfCalls front, event.IsTrue conventions)
    (second : ∀ event ∈ eventsOfCalls back, event.IsTrue conventions) :
    ∀ event ∈ eventsOfCalls (front ++ back), event.IsTrue conventions := by
  rw [eventsOfCalls_append, List.forall_mem_append]
  exact ⟨first, second⟩

theorem andThen {run : Run α} {next : α → Cursor → Run β} (holds : run.IsTrue conventions)
    (goesOn : ∀ value cursor, (next value cursor).IsTrue conventions) :
    (run.andThen next).IsTrue conventions := by
  cases outcome : run.reply.outcome with
  | matched value =>
      rw [andThen_of_matched outcome]
      exact append holds (goesOn value run.reply.cursor)
  | noMatch =>
      rw [andThen_of_noMatch outcome]
      exact holds
  | failed error =>
      rw [andThen_of_failed outcome]
      exact holds

theorem orElse {run : Run α} {next : Cursor → Run α} (holds : run.IsTrue conventions)
    (instead : ∀ cursor, (next cursor).IsTrue conventions) :
    (run.orElse next).IsTrue conventions := by
  by_cases outcome : run.reply.outcome = .noMatch
  · rw [orElse_of_noMatch outcome]
    exact append holds (instead run.reply.cursor)
  · rw [orElse_of_ne_noMatch outcome]
    exact holds

theorem call {grammar : Grammar} {start : Cursor}
    (holds : (grammar.run conventions start).IsTrue conventions) :
    (grammar.called conventions start).IsTrue conventions := by
  intro event member
  simp only [Grammar.called, Grammar.calledAs, eventsOfCalls, Call.events, List.append_nil, List.mem_cons,
    List.mem_append, List.not_mem_nil, or_false] at member
  rcases member with rfl | inside | rfl
  · trivial
  · exact holds event inside
  · exact grammar.reply_run conventions start

theorem invariant (conventions : Conventions) :
    Run.Invariant conventions (Run.IsTrue conventions) where
  matched _ _ := still _
  noMatch _ _ _ := still _
  invalidToken _ _ := still _
  andThen := andThen
  orElse := orElse
  call := call

end Run.IsTrue

theorem Grammar.isTrue_run (grammar : Grammar) (conventions : Conventions) (start : Cursor) :
    (grammar.run conventions start).IsTrue conventions := by
  apply grammar.run_of_invariant_of_still (Run.IsTrue.invariant conventions)
  · exact .still
  · intro change token finish event member
    rw [List.mem_singleton.1 member]
    trivial

/-! ## Errors come last -/

/-- After an error an event does nothing but hand it on. -/
def Event.LeavesErrors (earlier later : Event) : Prop :=
  ∀ error place, earlier.Raises error place → later.HandsOn error place

namespace Run

/-- An error in a run is the last that happens in it, and it is the reply of the run. -/
structure EndsWithErrors {α : Type} (run : Run α) : Prop where
  last : (eventsOfCalls run.calls).Pairwise Event.LeavesErrors
  reply : ∀ event ∈ eventsOfCalls run.calls, ∀ error place, event.Raises error place →
    run.reply.outcome = .failed error ∧ run.reply.cursor = place

namespace EndsWithErrors

variable {α β : Type}

theorem still (reply : Reply α) : (Run.still reply).EndsWithErrors where
  last := .nil
  reply := by
    intro event member
    exact absurd member List.not_mem_nil

/-- If a run has not failed, there was no error in it. -/
theorem not_raises {run : Run α} (ends : run.EndsWithErrors)
    (unfailed : ∀ error, run.reply.outcome ≠ .failed error) {event : Event}
    (member : event ∈ eventsOfCalls run.calls) (error : ParseError) (place : Cursor) :
    ¬event.Raises error place := by
  intro raises
  exact unfailed error (ends.reply event member error place raises).1

/-- A run that has not failed may be followed by another one. -/
theorem followedBy {first : Run α} {second : Run β} (ends : first.EndsWithErrors)
    (endsLater : second.EndsWithErrors) (unfailed : ∀ error, first.reply.outcome ≠ .failed error) :
    (⟨first.calls ++ second.calls, second.reply.after first.reply.log⟩ :
      Run β).EndsWithErrors where
  last := by
    rw [eventsOfCalls_append, List.pairwise_append]
    refine ⟨ends.last, endsLater.last, ?_⟩
    intro earlier inFirst later inSecond error place raises
    exact absurd raises (ends.not_raises unfailed inFirst error place)
  reply := by
    intro event member error place raises
    rw [eventsOfCalls_append, List.mem_append] at member
    rcases member with inFirst | inSecond
    · exact absurd raises (ends.not_raises unfailed inFirst error place)
    · exact endsLater.reply event inSecond error place raises

theorem andThen {run : Run α} {next : α → Cursor → Run β} (ends : run.EndsWithErrors)
    (goesOn : ∀ value cursor, (next value cursor).EndsWithErrors) :
    (run.andThen next).EndsWithErrors := by
  cases outcome : run.reply.outcome with
  | matched value =>
      rw [andThen_of_matched outcome]
      exact ends.followedBy (goesOn value run.reply.cursor) (by simp [outcome])
  | noMatch =>
      rw [andThen_of_noMatch outcome]
      refine ⟨ends.last, ?_⟩
      intro event member error place raises
      exact absurd raises (ends.not_raises (by simp [outcome]) member error place)
  | failed failure =>
      rw [andThen_of_failed outcome]
      refine ⟨ends.last, ?_⟩
      intro event member error place raises
      have same := ends.reply event member error place raises
      rw [outcome] at same
      cases same.1
      exact ⟨rfl, same.2⟩

theorem orElse {run : Run α} {next : Cursor → Run α} (ends : run.EndsWithErrors)
    (instead : ∀ cursor, (next cursor).EndsWithErrors) : (run.orElse next).EndsWithErrors := by
  by_cases outcome : run.reply.outcome = .noMatch
  · rw [orElse_of_noMatch outcome]
    exact ends.followedBy (instead run.reply.cursor) (by simp [outcome])
  · rw [orElse_of_ne_noMatch outcome]
    exact ends

/-- The reply to a call hands on what has happened in it. -/
theorem call {grammar : Grammar} {conventions : Conventions} {start : Cursor}
    (ends : (grammar.run conventions start).EndsWithErrors) :
    (grammar.called conventions start).EndsWithErrors := by
  constructor
  · simp only [Grammar.called, Grammar.calledAs, eventsOfCalls, Call.events, List.append_nil]
    rw [List.pairwise_cons, List.pairwise_append]
    refine ⟨?_, ends.last, List.pairwise_singleton _ _, ?_⟩
    · intro later member error place raises
      exact False.elim raises
    · intro earlier inside later own error place raises
      rw [List.mem_singleton.1 own]
      exact ends.reply earlier inside error place raises
  · intro event member error place raises
    simp only [Grammar.called, Grammar.calledAs, eventsOfCalls, Call.events, List.append_nil, List.mem_cons,
      List.mem_append, List.not_mem_nil, or_false] at member
    rcases member with rfl | inside | rfl
    · exact False.elim raises
    · exact ends.reply event inside error place raises
    · exact raises

theorem ofChange (change : Token → Conventions → Except ParseError Token)
    (conventions : Conventions) (token : Token) (finish : Cursor) :
    (Run.ofChange change conventions token finish).EndsWithErrors := by
  constructor
  · exact List.pairwise_singleton _ _
  · intro event member error place raises
    rw [List.mem_singleton.1 member] at raises
    rcases raises with ⟨failed, rfl⟩
    simp [Run.ofChange, Reply.ofChange, failed, Reply.failed]

/-- The steps of all combinations leave errors last. -/
theorem invariant (conventions : Conventions) : Run.Invariant conventions Run.EndsWithErrors where
  matched _ _ := still _
  noMatch _ _ _ := still _
  invalidToken _ _ := still _
  andThen := andThen
  orElse := orElse
  call := call

end EndsWithErrors

end Run

/-- Errors come last in every run, whatever the parts of the grammar do. -/
theorem Grammar.endsWithErrors_run (grammar : Grammar) (conventions : Conventions)
    (start : Cursor) : (grammar.run conventions start).EndsWithErrors := by
  apply grammar.run_of_invariant_of_still (Run.EndsWithErrors.invariant conventions)
  · exact .still
  · intro change token finish
    exact .ofChange change conventions token finish

end TextGrammar
