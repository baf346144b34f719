import BusinessModel.Generation
import BusinessModel.Schema.FlatDocument
import BusinessModel.Schema.TypedDocument

/-!
# Validation reports

A report lists the violations of a schema as texts, in the order of their paths and, at one path, of
their messages, both by code points.  There is no report if one of its messages had to show an
integer that is too long to be written.

* `Validation.pathOf` — the path of a violation
* `Validation.Report.ofSchema` — the report of a document against a schema, whatever it shows
* `Validation.check`, `Validation.run` — the report of a document, if it can be written
* `Validation.packaged` — the schema that comes with each generation
-/

namespace BusinessModel.Validation

/-- A text with another one in place of every occurrence of a character. -/
def replaceChar (c : Char) (written s : String) : String :=
  String.ofList (s.toList.flatMap fun d => if d = c then written.toList else [d])

/-- The path of the steps to a violation.  In every step tildes are replaced first, slashes after
them. -/
def pathOf (steps : List String) : String :=
  if steps.isEmpty then "/"
  else "/" ++ "/".intercalate (steps.map fun s => replaceChar '/' "~1" (replaceChar '~' "~0" s))

/-- One violation in the flat form that is handed out. -/
structure Issue where
  path : String
  message : String
  code : String
  deriving DecidableEq, Repr, Inhabited

/-- The result of validating one document. -/
structure Report where
  generation : Generation
  issues : List Issue
  deriving DecidableEq, Repr, Inhabited

namespace Issue

def ofViolation (v : Schema.Violation) : Issue where
  path := pathOf (v.place.map Step.text)
  message := v.fault.message
  code := v.fault.code

/-- The order of issues in a report. -/
def le (a b : Issue) : Bool :=
  decide (a.path < b.path) || (a.path == b.path && decide (a.message ≤ b.message))

end Issue

namespace Report

/-- A document is valid when its report is empty. -/
def valid (r : Report) : Bool := r.issues.isEmpty

/-- The report of a document against a schema. -/
def ofSchema (generation : Generation) (schema : Schema) (doc : Value) : Report where
  generation := generation
  issues := ((schema.violations doc).map Issue.ofViolation).mergeSort Issue.le

/-- The report of a document that could not be read. -/
def unreadable (generation : Generation) (message : String) : Report where
  generation := generation
  issues := [⟨"/", message, "PARSE_ERROR"⟩]

end Report

/-- The schema that comes with a generation. -/
def packaged : Generation → Schema
  | .v1 => Schema.FlatDocument.document
  | .v2 => Schema.TypedDocument.document

/-- The title of the schema that comes with a generation. -/
def packagedTitle (generation : Generation) : String :=
  s!"BMML {generation.name} document"

/-- The report of a document against a schema, if its messages can be written. -/
def check (generation : Generation) (schema : Schema) (doc : Value) : Except LongInteger Report :=
  if (schema.violations doc).all Schema.Violation.isWritable then
    .ok (.ofSchema generation schema doc)
  else .error .written

/-- The report of a document against the packaged schema of a given or else its own generation. -/
def run (doc : Value) (generation : Option Generation) : Except LongInteger Report :=
  let generation := generation.getD (Generation.detect doc)
  check generation (packaged generation) doc

end BusinessModel.Validation
