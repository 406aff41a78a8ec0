import TextGrammar.Proofs.Grammar.Events

/-!
# Failure

An error ends the whole reading at once. No combination tries anything else, changes the error or moves
the cursor, and so the record that a basic reporter logs is the last one.
-/

namespace TextGrammar

/-- An error names a place in the text, as those of reporters do. -/
def ParseError.namesPlace : ParseError → Bool
  | .endOfText _ => true
  | .invalidCharacter _ _ _ => true
  | .transform _ _ => false
  | .invalidToken _ => false

theorem Reporter.namesPlace_errorAt (cursor : Cursor) (expected : String) :
    (errorAt cursor expected).namesPlace = true := by
  unfold errorAt
  cases cursor.at? with
  | none => rfl
  | some character => rfl

/-- What reporters have logged of an outcome. -/
def Outcome.report {α : Type} : Outcome α → List LogRecord
  | .matched _ => []
  | .noMatch => []
  | .failed error => if error.namesPlace then [.reported error] else []

/-- The log of a reply closes with the report of its outcome. -/
def Reply.LogsReport {α : Type} (reply : Reply α) : Prop :=
  ∃ earlier, (∀ record ∈ earlier, record.level = .trace) ∧
    reply.log = earlier ++ reply.outcome.report

namespace Reply.LogsReport

variable {α β : Type}

/-- Without a report nothing is in the log but traces. -/
theorem of_traces {reply : Reply α} (unreported : reply.outcome.report = [])
    (traces : ∀ record ∈ reply.log, record.level = .trace) : reply.LogsReport := by
  refine ⟨reply.log, traces, ?_⟩
  rw [unreported, List.append_nil]

theorem traces {reply : Reply α} (logs : reply.LogsReport)
    (unreported : reply.outcome.report = []) : ∀ record ∈ reply.log, record.level = .trace := by
  rcases logs with ⟨earlier, traces, log⟩
  rw [log, unreported, List.append_nil]
  exact traces

/-- Traces may come before the log of a reply. -/
theorem after {reply : Reply α} (logs : reply.LogsReport) {log : List LogRecord}
    (traces : ∀ record ∈ log, record.level = .trace) : (reply.after log).LogsReport := by
  rcases logs with ⟨earlier, earlierTraces, closes⟩
  refine ⟨log ++ earlier, ?_, ?_⟩
  · intro record member
    rcases List.mem_append.1 member with inLog | inEarlier
    · exact traces record inLog
    · exact earlierTraces record inEarlier
  · rw [log_after, outcome_after, closes, List.append_assoc]

theorem andThen {reply : Reply α} {next : α → Cursor → Reply β} (logs : reply.LogsReport)
    (goesOn : ∀ value cursor, (next value cursor).LogsReport) :
    (reply.andThen next).LogsReport := by
  rcases reply with ⟨outcome, cursor, log⟩
  cases outcome with
  | matched value => exact (goesOn value cursor).after (logs.traces rfl)
  | noMatch => exact logs
  | failed error => exact logs

theorem orElse {reply : Reply α} {next : Cursor → Reply α} (logs : reply.LogsReport)
    (instead : ∀ cursor, (next cursor).LogsReport) : (reply.orElse next).LogsReport := by
  rcases reply with ⟨outcome, cursor, log⟩
  cases outcome with
  | matched value => exact logs
  | noMatch => exact (instead cursor).after (logs.traces rfl)
  | failed error => exact logs

/-- The basic reporter logs the error that it gives. -/
theorem basic (cursor : Cursor) (expected : String) :
    (Reporter.basic.reply cursor expected : Reply α).LogsReport := by
  refine ⟨[], by simp, ?_⟩
  simp [Reporter.reply, Reporter.basic, Outcome.report, Reporter.namesPlace_errorAt]

theorem invariant (conventions : Conventions) :
    Run.Invariant conventions fun run => run.reply.LogsReport where
  matched _ _ := of_traces rfl (by simp [Run.still, Reply.matched])
  noMatch _ _ traces := of_traces rfl traces
  invalidToken _ _ := of_traces rfl (by simp [Run.still, Reply.failed])
  andThen := andThen
  orElse := orElse
  call := id

/-- An error that names a place is the last record of the log, behind nothing but traces. -/
theorem last {reply : Reply α} (logs : reply.LogsReport) {error : ParseError}
    (failed : reply.outcome = .failed error) (names : error.namesPlace = true) :
    ∃ earlier, reply.log = earlier ++ [.reported error] ∧
      ∀ record ∈ earlier, record.level = .trace := by
  rcases logs with ⟨earlier, traces, closes⟩
  rw [failed, Outcome.report, if_pos names] at closes
  exact ⟨earlier, closes, traces⟩

/-- A record above the traces is there just in case the outcome has a report. -/
theorem exists_debug_iff {reply : Reply α} (logs : reply.LogsReport) :
    (∃ record ∈ reply.log, record.level = .debug) ↔
      ∃ error, reply.outcome = .failed error ∧ error.namesPlace = true := by
  constructor
  · rintro ⟨record, member, debug⟩
    have reported : reply.outcome.report ≠ [] := by
      intro unreported
      have trace := logs.traces unreported record member
      rw [debug] at trace
      cases trace
    cases outcome : reply.outcome with
    | matched value => simp [outcome, Outcome.report] at reported
    | noMatch => simp [outcome, Outcome.report] at reported
    | failed error => exact ⟨error, rfl, by simpa [outcome, Outcome.report] using reported⟩
  · rintro ⟨error, failed, names⟩
    rcases logs.last failed names with ⟨earlier, closes, -⟩
    exact ⟨.reported error, by simp [closes], rfl⟩

end Reply.LogsReport

namespace Grammar

/-- A part of a grammar leaves it to basic reporters to give errors that name a place. -/
def LeavesReports : Grammar → Prop
  | .orReport reporter _ => reporter = .basic
  | .orFailIfTextRemains reporter _ => reporter = .basic
  | .transform change _ => ∀ token conventions error, change token conventions = .error error →
      error.namesPlace = false
  | .external _ _ => False
  | _ => True

theorem logsReport_parse (grammar : Grammar) (leaves : ∀ part ∈ grammar.parts, part.LeavesReports)
    (conventions : Conventions) (start : Cursor) :
    (grammar.parse conventions start).LogsReport := by
  rw [← grammar.reply_run]
  apply grammar.run_of_invariant (Reply.LogsReport.invariant conventions)
  intro part inside
  have own := leaves part inside
  cases part with
  | orReport reporter inner =>
      cases own
      exact fun cursor => .basic cursor inner.label
  | orFailIfTextRemains reporter inner =>
      cases own
      exact fun cursor => .basic cursor inner.label
  | transform change inner =>
      intro token finish
      unfold Run.ofChange Reply.ofChange
      cases changed : change token conventions with
      | ok changed => exact .of_traces rfl (by simp [Reply.matched])
      | error error =>
          apply Reply.LogsReport.of_traces
          · simp [Reply.failed, Outcome.report, own token conventions error changed]
          · simp [Reply.failed]
  | external label matcher => exact False.elim own
  | _ => trivial

/-- No error is swallowed or changed. Once a call that is made while a grammar reads has given an
error, no call is made any more: everybody hands on this error with the cursor as it is, up to the
grammar itself; and the replies in question are those of the grammars that were called. If errors
that name a place come from basic reporters only, the log of a reading has a record above the traces
just in case the reading ends with such an error. There is one then, it is the last, and it tells the
error. -/
theorem errors_end_reading (grammar : Grammar) (conventions : Conventions) (start : Cursor) :
    let reply := grammar.parse conventions start
    (grammar.events conventions start).Pairwise Event.LeavesErrors ∧
      (∀ event ∈ grammar.events conventions start, ∀ error place, event.Raises error place →
        reply.outcome = .failed error ∧ reply.cursor = place) ∧
      (∀ event ∈ grammar.events conventions start, event.IsTrue conventions) ∧
      ((∀ part ∈ grammar.parts, part.LeavesReports) →
        ((∃ record ∈ reply.log, record.level = .debug) ↔
          ∃ error, reply.outcome = .failed error ∧ error.namesPlace = true) ∧
        ∀ error, reply.outcome = .failed error → error.namesPlace = true →
          ∃ earlier record, reply.log = earlier ++ [record] ∧ record.level = .debug ∧
            record.message = "reporting " ++ error.message ∧
            ∀ other ∈ earlier, other.level = .trace) := by
  intro reply
  have ends := (grammar.endsWithErrors_run conventions start).call
  refine ⟨ends.last, ?_, (grammar.isTrue_run conventions start).call, ?_⟩
  · intro event member error place raises
    have handedOn := ends.reply event member error place raises
    have same : (grammar.called conventions start).reply = reply :=
      grammar.reply_run conventions start
    rw [same] at handedOn
    exact handedOn
  · intro leaves
    have logs := grammar.logsReport_parse leaves conventions start
    refine ⟨logs.exists_debug_iff, ?_⟩
    intro error failed names
    rcases logs.last failed names with ⟨earlier, closes, traces⟩
    exact ⟨earlier, .reported error, closes, rfl, rfl, traces⟩

/-- A letter that has to be there. -/
def requiredLetter : Grammar :=
  .orReport .basic (.labelled "letter" (.leaf (.symbol "b")))

/-- Letters that are tried one after the other: two of them in a row, the one that has to be there,
and a single one. -/
def strictLetters : Grammar :=
  .alternatives [
    .repeated 2 (.leaf (.symbol "a")),
    requiredLetter,
    .transform (fun _ _ => .error (.transform "a" "late")) (.leaf (.symbol "a"))]

theorem leavesReports_strictLetters : ∀ part ∈ strictLetters.parts, part.LeavesReports := by
  simp [strictLetters, requiredLetter, parts, partsOfGrammars, LeavesReports,
    ParseError.namesPlace]

/-- The error that the required letter ends a reading with. -/
def missingLetter : ParseError :=
  .invalidCharacter 'a' ⟨1, 1⟩ "letter"

set_option maxRecDepth 4000 in
theorem outcome_strictLetters :
    (strictLetters.parse (.english 2000) (Cursor.ofText "a!")).outcome = .failed missingLetter :=
  rfl

set_option maxRecDepth 8000 in
theorem requiredLetter_mem_events :
    .replied requiredLetter (Cursor.ofText "a!")
        (requiredLetter.parse (.english 2000) (Cursor.ofText "a!")) ∈
      strictLetters.events (.english 2000) (Cursor.ofText "a!") := by
  have place : (strictLetters.events (.english 2000) (Cursor.ofText "a!"))[12]? =
      some (.replied requiredLetter (Cursor.ofText "a!")
        (requiredLetter.parse (.english 2000) (Cursor.ofText "a!"))) := rfl
  exact List.mem_of_getElem? place

set_option maxRecDepth 4000 in
theorem raises_requiredLetter :
    (Event.replied requiredLetter (Cursor.ofText "a!")
      (requiredLetter.parse (.english 2000) (Cursor.ofText "a!"))).Raises missingLetter
        (Cursor.ofText "a!") :=
  ⟨rfl, rfl⟩

theorem errors_end_reading_strictLetters :
    let start := Cursor.ofText "a!"
    let reply := strictLetters.parse (.english 2000) start
    (strictLetters.events (.english 2000) start).Pairwise Event.LeavesErrors ∧
      (reply.outcome = .failed missingLetter ∧ reply.cursor = start) ∧
      (∀ part ∈ strictLetters.parts, part.LeavesReports) ∧
      ∃ earlier record, reply.log = earlier ++ [record] ∧ record.level = .debug ∧
        record.message = "reporting " ++ missingLetter.message ∧
        ∀ other ∈ earlier, other.level = .trace := by
  have leaves := leavesReports_strictLetters
  have result := errors_end_reading strictLetters (.english 2000) (Cursor.ofText "a!")
  exact ⟨result.1, result.2.1 _ requiredLetter_mem_events _ _ raises_requiredLetter, leaves,
    (result.2.2.2 leaves).2 _ outcome_strictLetters rfl⟩

end Grammar

end TextGrammar
