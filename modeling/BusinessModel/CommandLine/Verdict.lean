import BusinessModel.Json.Writer
import BusinessModel.Session.Action

/-!
# What commands print

Validating or linting a file ends in a verdict, with everything that was found.  As text, problems
go to the complaints and success is a single word among the results; as JSON, everything is a
result.  The connection graph of a file is printed in the same two forms.

* `Verdict.notices`, `Connections.notices` — what is printed in each format
-/

namespace BusinessModel.CommandLine

/-- The verdict on a file. -/
structure Verdict where
  success : Bool
  generation : Generation
  violations : List Validation.Issue
  issues : List Lint.Issue
  deriving Repr

/-- A place in a document; the root has a name of its own. -/
def placeText (path : String) : String := if path = "/" then "(root)" else path

/-- A violation in one line. -/
def violationLine (v : Validation.Issue) : String := s!"  {placeText v.path}: {v.message}"

/-- The mark of a severity. -/
def severityMark : Lint.Severity → String
  | .error => "✗"
  | .warning => "!"
  | .info => "i"

/-- A lint issue in one line. -/
def issueLine (issue : Lint.Issue) : String :=
  s!"  {severityMark issue.severity} [{issue.rule}] {placeText issue.path}: {issue.message}"

/-- Lines under a heading; nothing without lines. -/
def listed (heading : String) (lines : List String) : List String :=
  if lines.isEmpty then [] else heading :: lines

/-- A value printed as JSON. -/
def printed (v : Value) : List Notice := [.output (Json.writeIndented v)]

namespace Verdict

/-- The verdict as JSON. -/
def json (v : Verdict) : Value :=
  Json.object [("success", .bool v.success), ("version", .str v.generation.name),
    ("validation_errors", .list (v.violations.map fun violation =>
      Json.object [("path", .str violation.path), ("message", .str violation.message)])),
    ("lint_issues", .list (v.issues.map fun issue =>
      Json.object [("rule", .str issue.rule), ("severity", .str issue.severity.name),
        ("message", .str issue.message), ("path", .str issue.path)]))]

/-- The lines on everything that was found. -/
def problems (v : Verdict) : List String :=
  let violations := listed "Validation errors:" (v.violations.map violationLine)
  let issues := listed "Lint issues:" (v.issues.map issueLine)
  violations ++ (if violations.isEmpty || issues.isEmpty then [] else [""]) ++ issues

/-- What is printed about a verdict. -/
def notices (v : Verdict) : OutputFormat → List Notice
  | .json => printed v.json
  | .text => v.problems.map .complaint ++ if v.success then [.output "OK"] else []

end Verdict

/-- The connection graph of a document and what is shown of it. -/
structure Connections where
  generation : Generation
  segments : List String
  graph : Graph
  deriving Repr

namespace Connections

def ofDocument (doc : Document) : Connections where
  generation := doc.generation
  segments := Graph.segmentOrder (.map doc.content)
  graph := Graph.build (.map doc.content)

def json (c : Connections) : Value :=
  Json.object [("version", .str c.generation.name), ("segments", Json.texts c.segments),
    ("graph", .map (c.graph.map fun entity => (.str entity.1, Json.texts entity.2.sorted))),
    ("orphaned", Json.texts c.graph.orphaned)]

/-- Identifiers in one line. -/
def idList (ids : List String) : String :=
  if ids.isEmpty then "(none)" else commaSeparated ids

/-- The lines on the segments, on every entity, and on the orphaned ones. -/
def lines (c : Connections) : List String :=
  s!"Segments: {idList c.segments}"
    :: (c.graph.map fun entity => s!"  {entity.1} -> {idList entity.2.sorted}")
    ++ listed "Orphaned:" (c.graph.orphaned.map fun id => s!"  {id}")

/-- What is printed about the connections. -/
def notices (c : Connections) : OutputFormat → List Notice
  | .json => printed c.json
  | .text => c.lines.map .output

end Connections

end BusinessModel.CommandLine
