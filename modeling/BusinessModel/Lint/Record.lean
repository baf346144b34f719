import BusinessModel.FieldFault
import BusinessModel.Lint.Report

/-!
# Checked issue records

Issues and reports can be built from loose fields.  All four fields of an issue are required and no
others are allowed; an issue is never changed once it is built.
-/

namespace BusinessModel.Lint

/-- A required field, read by `read`. -/
def requiredField {α : Type} (fields : Mapping) (field : String)
    (read : Value → Except FieldProblem α) : Except (List FieldFault) α :=
  match Mapping.get? fields field with
  | none => .error [⟨field, .missing⟩]
  | some value => (read value).mapError fun problem => [⟨field, problem⟩]

def readText : Value → Except FieldProblem String
  | .str s => .ok s
  | _ => .error .notAText

def readNonEmptyText (value : Value) : Except FieldProblem String := do
  let s ← readText value
  if s.isEmpty then throw .empty else return s

def readSeverity (value : Value) : Except FieldProblem Severity :=
  match value.str?.bind Severity.ofName? with
  | some severity => .ok severity
  | none => .error (.notAMember (Severity.all.map Severity.name))

def readGeneration (value : Value) : Except FieldProblem Generation :=
  match value.str?.bind Generation.ofName? with
  | some generation => .ok generation
  | none => .error (.notAMember [Generation.v1.name, Generation.v2.name])

/-- The fields that a record does not have, in the order in which they were given. -/
def unknownFields (fields : Mapping) (known : List String) : Except (List FieldFault) Unit :=
  let unknown := fields.filterMap fun entry =>
    if known.contains entry.1.display then none else some ⟨entry.1.display, .unknownField⟩
  if unknown.isEmpty then .ok () else .error unknown

/-- An issue from its fields. -/
def Issue.ofFields (fields : Mapping) : Except (List FieldFault) Issue :=
  let made := collectFaults (.ok Issue.mk) (requiredField fields "rule" readNonEmptyText)
  let made := collectFaults made (requiredField fields "severity" readSeverity)
  let made := collectFaults made (requiredField fields "message" readText)
  let made := collectFaults made (requiredField fields "path" readText)
  collectFaults (made.map fun issue _ => issue)
    (unknownFields fields ["rule", "severity", "message", "path"])

/-- Assigning to any field of an issue is refused. -/
def Issue.assign (_ : Issue) (field : String) : FieldFault :=
  ⟨field, .frozen⟩

/-- A report from the value of its generation, its issues and further fields. -/
def Report.ofFields (version : Value) (issues : List Issue) (others : Mapping) :
    Except (List FieldFault) Report :=
  let generation := (readGeneration version).mapError fun problem => [⟨"version", problem⟩]
  let made := generation.map fun generation (_ : Unit) => Report.mk generation issues
  collectFaults made (unknownFields others ["version", "issues"])

end BusinessModel.Lint
