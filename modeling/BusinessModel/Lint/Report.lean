import BusinessModel.Lint.Flat
import BusinessModel.Lint.Typed

/-!
# Lint reports

An issue is a finding in the flat form that is handed out: texts for rule, message and path.  A
report lists the issues of one document in order, with the generation whose rules were used.  There
is no report if one of its messages had to show an integer that is too long to be written.

* `Lint.report` — the report of a document, whatever its messages show
* `Lint.run` — the report of a document, under a given or its detected generation
* `Report.passed` — whether a report holds no error
-/

namespace BusinessModel.Lint

/-- One issue.  Its rule is free text, so that reports of other tools can be held too. -/
structure Issue where
  rule : String
  severity : Severity
  message : String
  path : String
  deriving DecidableEq, Repr, Inhabited

/-- The issue that reports a finding. -/
def Finding.issue (f : Finding) : Issue where
  rule := f.rule.id
  severity := f.rule.severity
  message := f.fault.message
  path := f.place.text

/-- The issues of one document. -/
structure Report where
  generation : Generation
  issues : List Issue
  deriving DecidableEq, Repr, Inhabited

namespace Report

def ofSeverity (r : Report) (severity : Severity) : List Issue :=
  r.issues.filter (·.severity == severity)

def errors (r : Report) : List Issue := r.ofSeverity .error

def warnings (r : Report) : List Issue := r.ofSeverity .warning

/-- A report passes when it holds no error. -/
def passed (r : Report) : Bool := r.errors.isEmpty

def byRule (r : Report) (rule : String) : List Issue :=
  r.issues.filter (·.rule == rule)

end Report

/-- The findings about a document read as one of a generation. -/
def findings (doc : Mapping) (generation : Generation) : List Finding :=
  let index := Index.build doc generation
  match generation with
  | .v1 => Flat.findings doc index
  | .v2 => Typed.findings doc index

/-- The findings about a document, read as one of a given generation or else of its own.  Values
other than mappings are read as an empty document. -/
def findingsOf (doc : Value) (generation : Option Generation) : List Finding :=
  findings doc.asMapping (generation.getD (Generation.detect doc))

/-- The report about a document, whatever its messages show. -/
def report (doc : Value) (generation : Option Generation) : Report :=
  ⟨generation.getD (Generation.detect doc), (findingsOf doc generation).map Finding.issue⟩

/-- The report about a document, if its messages can be written. -/
def run (doc : Value) (generation : Option Generation) : Except LongInteger Report :=
  if (findingsOf doc generation).all Finding.isWritable then .ok (report doc generation)
  else .error .written

/-- Whether a document is free of errors under its own generation. -/
def isValid (doc : Value) : Except LongInteger Bool :=
  (run doc none).map Report.passed

end BusinessModel.Lint
