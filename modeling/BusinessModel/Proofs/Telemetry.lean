import BusinessModel.Proofs.CommandLine.Verdict
import BusinessModel.Proofs.EventLog
import BusinessModel.Proofs.Session.History

/-!
# What is told of a lint run

A lint run is told twice: to the span that a tracer records, issue by issue and then in a summary,
and to the event log in one entry.  Both are read off the same report, and whatever levels have been
set before, the entry is not held back.

* `Session.events_le_after` — setting levels never silences the event log
* `Lint.telemetry_agrees` — span, entry and report agree
-/

namespace BusinessModel

namespace Session

variable {s : Session}

/-- Setting a level keeps the threshold of events at most at information. -/
lemma events_le_configure (log : LogThresholds) (level : String) :
    (log.configure level).events ≤ LogLevel.info.rank :=
  Nat.min_le_right _ _

/-- Whatever levels are set, one after the other, events are logged from information on. -/
lemma events_le_after (low : s.log.events ≤ LogLevel.info.rank) (levels : List String) :
    (s.after (levels.map .configureLog)).log.events ≤ LogLevel.info.rank := by
  induction levels generalizing s with
  | nil => exact low
  | cons level rest ih =>
    rw [List.map_cons, after_cons]
    exact ih (events_le_configure s.log level)

end Session

/-- The span events and the log entry of a lint run tell the same as its report.  Nothing is left on
a span unless there is a tracer with a current span that is recording, but the entry is always
logged. -/
theorem Lint.telemetry_agrees (r : Report) (source service : String) (t : Tracer)
    (directory : List String) (environment : Environment) (levels : List String) :
    (if t.available && t.hasSpan && t.recording then
        SpanEvent.Recorded source r (t.record (SpanEvent.lintResult source r))
      else t.record (SpanEvent.lintResult source r) = []) ∧
      ∃ entry : EventEntry, entry.Completes service source r ∧
        (Action.report (.lintCompleted service source r)
          ((Session.initial directory environment).after (levels.map .configureLog))).notices =
            [.event entry] := by
  constructor
  · unfold Tracer.record Tracer.records
    cases t.available && t.hasSpan && t.recording with
    | false => rfl
    | true => exact SpanEvent.recorded_lintResult
  · have low := Session.events_le_after (s := Session.initial directory environment)
      (Nat.le_refl _) levels
    refine ⟨_, EventEntry.completes_lintCompleted, ?_⟩
    rw [CommandLine.report_of_log _ low]

end BusinessModel
