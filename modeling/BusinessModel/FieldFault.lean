import BusinessModel.Value.Display

/-!
# Faults of record fields

Records that come from outside, such as settings and issues, are checked field by field.  Every
field at fault is reported with its place, the kind of its fault and a sentence.
-/

namespace BusinessModel

/-- What is wrong with a field. -/
inductive FieldProblem where
  | missing
  | notAText
  | empty
  | notAmong (choices : List String)
  | notAMember (choices : List String)
  | notABoolean
  | unreadableBoolean
  | unknownField
  | frozen
  deriving DecidableEq, Repr

/-- A field and what is wrong with it. -/
structure FieldFault where
  field : String
  problem : FieldProblem
  deriving DecidableEq, Repr

/-- Choices with commas between them and an "or" before the last. -/
def choiceList (choices : List String) : String :=
  let quotedChoices := choices.map fun choice => s!"'{choice}'"
  match quotedChoices.reverse with
  | last :: first :: others => commaSeparated (first :: others).reverse ++ " or " ++ last
  | _ => commaSeparated quotedChoices

namespace FieldProblem

/-- The word for a kind of problem. -/
def kind : FieldProblem → String
  | missing => "missing"
  | notAText => "string_type"
  | empty => "string_too_short"
  | notAmong _ => "literal_error"
  | notAMember _ => "enum"
  | notABoolean => "bool_type"
  | unreadableBoolean => "bool_parsing"
  | unknownField => "extra_forbidden"
  | frozen => "frozen_instance"

def message : FieldProblem → String
  | missing => "Field required"
  | notAText => "Input should be a valid string"
  | empty => "String should have at least 1 character"
  | notAmong choices | notAMember choices => "Input should be " ++ choiceList choices
  | notABoolean => "Input should be a valid boolean"
  | unreadableBoolean => "Input should be a valid boolean, unable to interpret input"
  | unknownField => "Extra inputs are not permitted"
  | frozen => "Instance is frozen"

end FieldProblem

/-- A fault in one line. -/
def FieldFault.line (f : FieldFault) : String := s!"{f.field}: {f.problem.message}"

/-- The result of a checked field together with the results before it: all faults are kept. -/
def collectFaults {α β : Type} (before : Except (List FieldFault) (α → β))
    (next : Except (List FieldFault) α) : Except (List FieldFault) β :=
  match before, next with
  | .ok f, .ok a => .ok (f a)
  | .ok _, .error faults => .error faults
  | .error faults, .ok _ => .error faults
  | .error faults, .error more => .error (faults ++ more)

end BusinessModel
