import BusinessModel.Graph
import BusinessModel.Lint.Report

/-!
# Span events

Runs leave events on the span that a tracer currently records.  An event is named `bmml.` and what
happened, and carries the document it is about as `bmml.source` when that has a name.  Without a
tracer, without a current span, or on a span that is not recording, nothing is left.
-/

namespace BusinessModel

/-- An event on a span. -/
structure SpanEvent where
  name : String
  attributes : Mapping
  deriving Repr, Inhabited

/-- The circumstances under which events are recorded. -/
structure Tracer where
  available : Bool
  hasSpan : Bool
  recording : Bool
  deriving DecidableEq, Repr

namespace SpanEvent

/-- An event about a source. -/
def about (source event : String) (attributes : Mapping) : SpanEvent where
  name := "bmml." ++ event
  attributes :=
    if source.isEmpty then attributes
    else Mapping.set attributes (.str "bmml.source") (.str source)

/-- The event that reports one lint issue. -/
def lintIssue (source : String) (issue : Lint.Issue) : SpanEvent :=
  about source "lint.issue"
    [(.str "bmml.rule", .str issue.rule), (.str "bmml.severity", .str issue.severity.name),
      (.str "bmml.path", .str issue.path), (.str "bmml.message", .str issue.message)]

/-- The event that sums up a lint run. -/
def lintComplete (source : String) (report : Lint.Report) : SpanEvent :=
  about source "lint.complete"
    [(.str "bmml.version", .str report.generation.name),
      (.str "bmml.passed", .bool report.passed),
      (.str "bmml.issue_count", .int report.issues.length),
      (.str "bmml.error_count", .int report.errors.length),
      (.str "bmml.warning_count", .int report.warnings.length)]

/-- The events of a lint run: one for every error and then the summary. -/
def lintResult (source : String) (report : Lint.Report) : List SpanEvent :=
  report.errors.map (lintIssue source) ++ [lintComplete source report]

/-- The event that reports a connection graph. -/
def graphBuilt (source : String) (graph : Graph) : SpanEvent :=
  about source "graph.built"
    [(.str "bmml.entity_count", .int graph.length),
      (.str "bmml.orphaned_count", .int graph.orphaned.length)]

end SpanEvent

namespace Tracer

def records (t : Tracer) : Bool := t.available && t.hasSpan && t.recording

/-- The events that are recorded. -/
def record (t : Tracer) (events : List SpanEvent) : List SpanEvent :=
  if t.records then events else []

end Tracer

end BusinessModel
