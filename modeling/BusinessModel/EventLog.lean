import BusinessModel.Graph
import BusinessModel.Json.Writer
import BusinessModel.Lint.Report
import BusinessModel.Settings
import BusinessModel.Validation

/-!
# The event log

Runs are logged in two ways.  Diagnostics are lines of text from the parts of the program, shown
from a threshold on.  Events are entries with fields, one for each run, with the service and the
source that they are about; they are never held back.

* `EventEntry.lintCompleted`, `EventEntry.validationFailed`, `EventEntry.graphBuilt` — the events
* `LogThresholds.configure` — the thresholds after a level is set
-/

namespace BusinessModel

/-- How urgent an event is. -/
inductive Urgency where
  | info
  | warn
  | error
  deriving DecidableEq, Repr, Inhabited

namespace Urgency

def name : Urgency → String
  | info => "info"
  | warn => "warn"
  | error => "error"

/-- The level that an event is logged at. -/
def level : Urgency → LogLevel
  | info => .info
  | warn => .warning
  | error => .error

end Urgency

/-- An entry of the event log. -/
structure EventEntry where
  urgency : Urgency
  event : String
  service : String
  /-- The document that the event is about, the empty text if it has no name. -/
  source : String
  details : Mapping
  deriving Repr, Inhabited

namespace EventEntry

/-- The fields of an entry in order, without the time at which it is written. -/
def fields (e : EventEntry) : Mapping :=
  [(.str "level", .str e.urgency.name), (.str "event", .str e.event),
    (.str "service", .str e.service)]
    ++ (if e.source.isEmpty then [] else [(.str "source", .str e.source)])
    ++ e.details

/-- The line that is written for an entry at some time. -/
def line (e : EventEntry) (time : String) : String :=
  Json.writeLine (.map ((.str "timestamp", .str time) :: e.fields))

/-- A lint run has ended. -/
def lintCompleted (service source : String) (report : Lint.Report) : EventEntry where
  urgency := if report.passed then .info else .warn
  event := "lint.completed"
  service := service
  source := source
  details :=
    [(.str "version", .str report.generation.name), (.str "passed", .bool report.passed),
      (.str "error_count", .int report.errors.length),
      (.str "warning_count", .int report.warnings.length)]

/-- A validation has found something. -/
def validationFailed (service source : String) (report : Validation.Report) : EventEntry where
  urgency := .error
  event := "validation.failed"
  service := service
  source := source
  details :=
    let first := report.issues.head?.map fun issue => Value.str issue.message
    [(.str "version", .str report.generation.name),
      (.str "error_count", .int report.issues.length), (.str "first_error", first.getD .null)]

/-- A connection graph has been built. -/
def graphBuilt (service source : String) (graph : Graph) (orphaned : List String) : EventEntry where
  urgency := .info
  event := "graph.built"
  service := service
  source := source
  details :=
    [(.str "entity_count", .int graph.length), (.str "orphaned_count", .int orphaned.length)]

end EventEntry

/-- The name of the service that runs log for. -/
def serviceName : String := "bmml"

/-- A line of the diagnostic log. -/
structure Diagnostic where
  level : LogLevel
  part : String
  text : String
  deriving DecidableEq, Repr, Inhabited

/-- A diagnostic as it is shown. -/
def Diagnostic.line (d : Diagnostic) : String :=
  s!"{d.level.name.toUpper} {d.part}: {d.text}"

/-- The thresholds of the log.  The one for everything is only set as long as nothing shows the
log yet. -/
structure LogThresholds where
  shown : Bool
  everything : Nat
  program : Nat
  events : Nat
  deriving DecidableEq, Repr, Inhabited

namespace LogThresholds

/-- Before any level is set. -/
def initial : LogThresholds := ⟨false, LogLevel.warning.rank, 0, LogLevel.info.rank⟩

/-- The threshold of a level by its name, in any case; an unknown name stands for warnings. -/
def rankOf (level : String) : Nat :=
  ((LogLevel.ofName? level.toLower).getD .warning).rank

/-- The thresholds after a level is set.  Events are shown whatever the level is. -/
def configure (t : LogThresholds) (level : String) : LogThresholds where
  shown := true
  everything := if t.shown then t.everything else rankOf level
  program := rankOf level
  events := min (rankOf level) LogLevel.info.rank

/-- The thresholds when nothing shows the log any more. -/
def hidden (t : LogThresholds) : LogThresholds := { t with shown := false }

/-- Whether an event is logged. -/
def logs (t : LogThresholds) (e : EventEntry) : Bool :=
  t.events ≤ e.urgency.level.rank

/-- Whether a diagnostic of the program is shown; the threshold for everything counts until the
program has its own. -/
def shows (t : LogThresholds) (d : Diagnostic) : Bool :=
  t.shown && (if t.program = 0 then t.everything else t.program) ≤ d.level.rank

/-- Whether warnings from outside the program are let through. -/
def letsWarn (t : LogThresholds) : Bool := t.everything ≤ LogLevel.warning.rank

end LogThresholds

end BusinessModel
