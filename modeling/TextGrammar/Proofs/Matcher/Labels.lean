import Mathlib.Data.List.Forall2
import TextGrammar.Matcher.Combinators

/-!
# Matchers that differ in labels only

A matcher is told what it and its parts are called so that it can say so: in its log, and to a reporter,
which may put the name of what was expected into an error. Nothing else depends on these names. They are
left out in different views of a reply, some of which leave out more; and matchers whose replies are the
same in such a view can be put in place of each other in every combination, which itself may have another
name.
-/

namespace TextGrammar

variable {α β : Type}

/-- A view of replies: what is seen of an error, and of a record of the log, if that is seen at all. The
names of sequences, of their parts and of repetitions are not seen. -/
structure View where
  error : ParseError → ParseError
  record? : LogRecord → Option LogRecord
  missing_eq : ∀ sequence sequence' part part' offset,
    record? (.missing sequence part offset) = record? (.missing sequence' part' offset)
  tooFew_eq : ∀ repetition repetition' count minimum,
    record? (.tooFew repetition count minimum) = record? (.tooFew repetition' count minimum)

/-- The outcome as it is seen. -/
def Outcome.seen (view : View) : Outcome α → Outcome α
  | .matched value => .matched value
  | .noMatch => .noMatch
  | .failed error => .failed (view.error error)

@[simp] theorem Outcome.seen_eq_matched_iff {view : View} {outcome : Outcome α} {value : α} :
    outcome.seen view = .matched value ↔ outcome = .matched value := by
  cases outcome <;> simp [seen]

@[simp] theorem Outcome.seen_eq_noMatch_iff {view : View} {outcome : Outcome α} :
    outcome.seen view = .noMatch ↔ outcome = .noMatch := by
  cases outcome <;> simp [seen]

namespace Reply

/-- The reply as it is seen. -/
def seen (view : View) (reply : Reply α) : Reply α :=
  ⟨reply.outcome.seen view, reply.cursor, reply.log.filterMap view.record?⟩

theorem seen_after (view : View) (log : List LogRecord) (reply : Reply α) :
    (reply.after log).seen view = (reply.seen view).after (log.filterMap view.record?) := by
  simp [seen, after]

theorem seen_andThen (view : View) (reply : Reply α) (next : α → Cursor → Reply β) :
    (reply.andThen next).seen view =
      (reply.seen view).andThen fun value cursor => (next value cursor).seen view := by
  rcases reply with ⟨outcome, cursor, log⟩
  cases outcome with
  | matched value => exact seen_after view log (next value cursor)
  | noMatch => rfl
  | failed error => rfl

theorem seen_orElse (view : View) (reply : Reply α) (next : Cursor → Reply α) :
    (reply.orElse next).seen view =
      (reply.seen view).orElse fun cursor => (next cursor).seen view := by
  rcases reply with ⟨outcome, cursor, log⟩
  cases outcome with
  | matched value => rfl
  | noMatch => exact seen_after view log (next cursor)
  | failed error => rfl

/-- Two replies are the same in a view. -/
def SeenAlike (view : View) (first second : Reply α) : Prop :=
  first.seen view = second.seen view

namespace SeenAlike

variable {view : View} {first second : Reply α}

theorem refl (reply : Reply α) : reply.SeenAlike view reply :=
  rfl

theorem noMatch {record record' : LogRecord}
    (records : view.record? record = view.record? record') (cursor : Cursor) :
    (⟨.noMatch, cursor, [record]⟩ : Reply α).SeenAlike view ⟨.noMatch, cursor, [record']⟩ := by
  simp only [SeenAlike, seen, List.filterMap_cons, records]

theorem andThen {next next' : α → Cursor → Reply β} (alike : first.SeenAlike view second)
    (goesOn : ∀ value cursor, (next value cursor).SeenAlike view (next' value cursor)) :
    (Answers.andThen first next).SeenAlike view (Answers.andThen second next') := by
  have following : (fun value cursor => (next value cursor).seen view) =
      fun value cursor => (next' value cursor).seen view :=
    funext fun value => funext (goesOn value)
  rw [SeenAlike, Answers.andThen_reply, Answers.andThen_reply, seen_andThen, seen_andThen, alike,
    following]

theorem orElse {next next' : Cursor → Reply α} (alike : first.SeenAlike view second)
    (goesOn : ∀ cursor, (next cursor).SeenAlike view (next' cursor)) :
    (Answers.orElse first next).SeenAlike view (Answers.orElse second next') := by
  have following : (fun cursor => (next cursor).seen view) =
      fun cursor => (next' cursor).seen view :=
    funext goesOn
  rw [SeenAlike, Answers.orElse_reply, Answers.orElse_reply, seen_orElse, seen_orElse, alike,
    following]

theorem outcome_eq (alike : first.SeenAlike view second) :
    first.outcome.seen view = second.outcome.seen view :=
  congrArg outcome alike

theorem cursor_eq (alike : first.SeenAlike view second) : first.cursor = second.cursor := by
  have cursors : (first.seen view).cursor = (second.seen view).cursor := congrArg cursor alike
  exact cursors

theorem matched_iff (alike : first.SeenAlike view second) (value : α) :
    first.outcome = .matched value ↔ second.outcome = .matched value := by
  rw [← Outcome.seen_eq_matched_iff, alike.outcome_eq, Outcome.seen_eq_matched_iff]

theorem noMatch_iff (alike : first.SeenAlike view second) :
    first.outcome = .noMatch ↔ second.outcome = .noMatch := by
  rw [← Outcome.seen_eq_noMatch_iff, alike.outcome_eq, Outcome.seen_eq_noMatch_iff]

end SeenAlike

end Reply

/-- Whatever a reporter is told to have been expected, its replies are the same in a view. -/
def Reporter.SeenAlike (view : View) (reporter : Reporter) : Prop :=
  ∀ cursor label label',
    (reporter.reply cursor label : Reply Token).SeenAlike view (reporter.reply cursor label')

/-! ## Two views -/

/-- The error without the name of what was expected. -/
def ParseError.withoutLabel : ParseError → ParseError
  | .endOfText position => .endOfText position
  | .invalidCharacter character position _ => .invalidCharacter character position ""
  | .transform text reason => .transform text reason
  | .invalidToken error => .invalidToken error

/-- The record without the names that are given by labels. Formats and numbers have their own. -/
def LogRecord.withoutLabels : LogRecord → LogRecord
  | .rejected format offset => .rejected format offset
  | .overflowed number offset => .overflowed number offset
  | .missing _ _ offset => .missing "" "" offset
  | .tooFew _ count minimum => .tooFew "" count minimum
  | .reported error => .reported error.withoutLabel

/-- How much a record matters does not depend on names. -/
theorem LogRecord.level_withoutLabels (record : LogRecord) :
    record.withoutLabels.level = record.level := by
  cases record <;> rfl

/-- The view in which only names are left out. -/
def View.withoutLabels : View where
  error := ParseError.withoutLabel
  record? record := some record.withoutLabels
  missing_eq _ _ _ _ _ := rfl
  tooFew_eq _ _ _ _ := rfl

/-- The view in which neither the log is seen nor what an error is. -/
def View.withoutReports : View where
  error _ := .endOfText .start
  record? _ := none
  missing_eq _ _ _ _ _ := rfl
  tooFew_eq _ _ _ _ := rfl

namespace Reply.SeenAlike

variable {first second : Reply α}

theorem logs_eq (alike : first.SeenAlike .withoutLabels second) :
    first.log.map LogRecord.withoutLabels = second.log.map LogRecord.withoutLabels := by
  have seen (log : List LogRecord) : log.filterMap View.withoutLabels.record? =
      log.map LogRecord.withoutLabels :=
    congrFun (List.filterMap_eq_map' ..) log
  rw [← seen first.log, ← seen second.log]
  exact congrArg log alike

/-- Records are as many and matter as much if they are the same without labels. -/
theorem levels_eq (alike : first.SeenAlike .withoutLabels second) :
    first.log.map LogRecord.level = second.log.map LogRecord.level := by
  have kept (log : List LogRecord) : log.map LogRecord.level =
      (log.map LogRecord.withoutLabels).map LogRecord.level := by
    simp [Function.comp_def, LogRecord.level_withoutLabels]
  rw [kept first.log, alike.logs_eq, ← kept second.log]

end Reply.SeenAlike

/-- The basic reporter puts the label into the error as the name of what was expected, and makes no other
use of it. -/
theorem Reporter.seenAlike_basic : Reporter.basic.SeenAlike .withoutLabels := by
  intro cursor label label'
  simp only [Reply.SeenAlike, Reply.seen, reply, basic, errorAt]
  cases cursor.at? with
  | none => rfl
  | some c => rfl

theorem Reporter.seenAlike_withoutReports (reporter : Reporter) :
    reporter.SeenAlike .withoutReports := by
  intro cursor label label'
  have unseen (log : List LogRecord) : log.filterMap View.withoutReports.record? = [] :=
    List.filterMap_eq_nil_iff.2 fun _ _ => rfl
  simp only [Reply.SeenAlike, Reply.seen, reply, unseen]
  rfl

/-! ## Combinations -/

namespace Matcher

/-- The replies of two matchers are the same in a view, wherever they are called. -/
def SeenAlike (view : View) (first second : Matcher) : Prop :=
  ∀ conventions start, (first conventions start).SeenAlike view (second conventions start)

/-- Two parts of sequences are the same in a view, in which their labels are not seen. -/
structure Part.SeenAlike (view : View) (first second : Part) : Prop where
  required_eq : first.required = second.required
  matchers : first.matcher.SeenAlike view second.matcher

namespace SeenAlike

variable {view : View} {first second : Matcher} {reporter : Reporter}

theorem firstOf {firsts seconds : List Matcher}
    (each : List.Forall₂ (SeenAlike view) firsts seconds) :
    (Matcher.firstOf firsts).SeenAlike view (Matcher.firstOf seconds) := by
  intro conventions start
  induction each with
  | nil => exact .refl _
  | cons alike others ih =>
      apply (alike conventions start).orElse
      intro cursor
      exact ih

theorem optional (alike : first.SeenAlike view second) :
    first.optional.SeenAlike view second.optional := by
  intro conventions start
  apply Reply.SeenAlike.orElse
  · apply (alike conventions start).andThen
    intro token finish
    exact .refl _
  · intro cursor
    exact .refl _

theorem tokens {part part' : Part} (alike : part.SeenAlike view part') (label label' : String)
    (conventions : Conventions) (start : Cursor) :
    (part.tokens label conventions start).SeenAlike view
      (part'.tokens label' conventions start) := by
  apply Reply.SeenAlike.orElse
  · apply (alike.matchers conventions start).andThen
    intro token finish
    exact .refl _
  · intro cursor
    rw [alike.required_eq]
    split
    · exact .noMatch (view.missing_eq _ _ _ _ _) start
    · exact .refl _

theorem gather {parts parts' : List Part} (each : List.Forall₂ (Part.SeenAlike view) parts parts')
    (label label' : String) (conventions : Conventions) (start : Cursor) :
    (Matcher.gather label parts conventions start).SeenAlike view
      (Matcher.gather label' parts' conventions start) := by
  induction each generalizing start with
  | nil => exact .refl _
  | cons alike others ih =>
      apply (tokens alike label label' conventions start).andThen
      intro found next
      apply (ih next).andThen
      intro later finish
      exact .refl _

theorem sequence {parts parts' : List Part} (each : List.Forall₂ (Part.SeenAlike view) parts parts')
    (label label' : String) :
    (Matcher.sequence label parts).SeenAlike view (Matcher.sequence label' parts') := by
  intro conventions start
  apply Reply.SeenAlike.orElse
  · apply (gather each label label' conventions start).andThen
    intro tokens finish
    exact .refl _
  · intro cursor
    exact .refl _

theorem iterate (alike : first.SeenAlike view second) (conventions : Conventions) (calls : Nat)
    (start : Cursor) :
    (Matcher.iterate first conventions calls start).SeenAlike view
      (Matcher.iterate second conventions calls start) := by
  induction calls generalizing start with
  | zero => exact .refl _
  | succ calls ih =>
      apply Reply.SeenAlike.orElse
      · apply (alike conventions start).andThen
        intro token next
        split
        · exact .refl _
        · apply (ih next).andThen
          intro later finish
          exact .refl _
      · intro cursor
        exact .refl _

theorem repeated (alike : first.SeenAlike view second) (label label' : String) (minimum : Nat) :
    (first.repeated label minimum).SeenAlike view (second.repeated label' minimum) := by
  intro conventions start
  apply (alike.iterate conventions (callLimit start) start).andThen
  intro tokens finish
  split
  · exact .noMatch (view.tooFew_eq _ _ _ _) start
  · exact .refl _

theorem orReport (alike : first.SeenAlike view second) (reports : reporter.SeenAlike view)
    (label label' : String) :
    (first.orReport reporter label).SeenAlike view (second.orReport reporter label') := by
  intro conventions start
  apply (alike conventions start).orElse
  intro finish
  exact reports finish label label'

theorem orFailIfTextRemains (alike : first.SeenAlike view second)
    (reports : reporter.SeenAlike view) (label label' : String) :
    (first.orFailIfTextRemains reporter label).SeenAlike view
      (second.orFailIfTextRemains reporter label') := by
  intro conventions start
  apply (alike conventions start).andThen
  intro token finish
  split
  · exact .refl _
  · exact reports finish label label'

theorem andNothingRemains (alike : first.SeenAlike view second) :
    first.andNothingRemains.SeenAlike view second.andNothingRemains := by
  intro conventions start
  apply Reply.SeenAlike.orElse
  · apply (alike conventions start).andThen
    intro token finish
    exact .refl _
  · intro cursor
    exact .refl _

theorem map (alike : first.SeenAlike view second) (change : Token → Token) :
    (first.map change).SeenAlike view (second.map change) := by
  intro conventions start
  apply (alike conventions start).andThen
  intro token finish
  exact .refl _

theorem transform (alike : first.SeenAlike view second)
    (change : Token → Conventions → Except ParseError Token) :
    (first.transform change).SeenAlike view (second.transform change) := by
  intro conventions start
  apply (alike conventions start).andThen
  intro token finish
  exact .refl _

end SeenAlike

end Matcher

end TextGrammar
