import BusinessModel.FieldFault
import BusinessModel.PathName
import BusinessModel.Settings.EnvFile

/-!
# Settings

The settings of a run.  Each one comes from the first of four places that has it: what the caller
overrides, the environment, the environment file of the working directory, and the defaults.  In the
environment and in the file a setting is named with `BMML_` in front.  Case does not matter in any
of the places.

* `Settings.load` — the settings from the four places, or every field that is at fault
-/

namespace BusinessModel

/-- How much is logged. -/
inductive LogLevel where
  | debug
  | info
  | warning
  | error
  deriving DecidableEq, Repr, Inhabited

/-- How results are printed. -/
inductive OutputFormat where
  | text
  | json
  deriving DecidableEq, Repr, Inhabited

structure Settings where
  logLevel : LogLevel
  outputFormat : OutputFormat
  failOnWarnings : Bool
  schemaDir : Option String
  deriving DecidableEq, Repr, Inhabited

namespace LogLevel

def all : List LogLevel := [debug, info, warning, error]

def name : LogLevel → String
  | debug => "debug"
  | info => "info"
  | warning => "warning"
  | error => "error"

def ofName? (name : String) : Option LogLevel := all.find? fun level => level.name = name

/-- Levels as numbers: a record is logged when its level is not below the threshold. -/
def rank : LogLevel → Nat
  | debug => 10
  | info => 20
  | warning => 30
  | error => 40

end LogLevel

namespace OutputFormat

def all : List OutputFormat := [text, json]

def name : OutputFormat → String
  | text => "text"
  | json => "json"

def ofName? (name : String) : Option OutputFormat := all.find? fun format => format.name = name

end OutputFormat

namespace Settings

def default : Settings := ⟨.warning, .text, false, none⟩

/-- The truth value of a text, in any case. -/
def booleanOfText? (s : String) : Option Bool :=
  let word := s.toLower
  if ["1", "true", "t", "yes", "y", "on"].contains word then some true
  else if ["0", "false", "f", "no", "n", "off"].contains word then some false
  else none

/-- The truth value of a number: only zero and one have one. -/
def booleanOfInt? (n : Int) : Option Bool :=
  if n = 0 then some false else if n = 1 then some true else none

/-- Whether an integer fits into a signed word of 64 bits. -/
def isWord (n : Int) : Bool := -0x8000000000000000 ≤ n && n < 0x8000000000000000

/-- A truth value out of a field. -/
def checkBoolean (v : Value) : Except FieldProblem Bool :=
  let parsed (b : Option Bool) : Except FieldProblem Bool :=
    match b with
    | some b => .ok b
    | none => .error .unreadableBoolean
  match v with
  | .bool b => .ok b
  | .str s => parsed (booleanOfText? s)
  | .int n => if isWord n then parsed (booleanOfInt? n) else .error .notABoolean
  | .float x =>
    match x.toRatio? with
    | some (num, den) =>
      if x.isWhole && isWord (num / den) then parsed (booleanOfInt? (num / den))
      else .error .notABoolean
    | none => .error .notABoolean
  | _ => .error .notABoolean

/-- One of some choices out of a field. -/
def checkChoice {α : Type} (ofName? : String → Option α) (names : List String) (v : Value) :
    Except FieldProblem α :=
  match v.str?.bind ofName? with
  | some choice => .ok choice
  | none => .error (.notAmong names)

/-- A directory out of a field, with the variables in it and a tilde in front replaced. -/
def checkDirectory (environment : Environment) (v : Value) : Except FieldProblem (Option String) :=
  match v with
  | .null => .ok none
  | .str s => .ok (some (environment.expandHome (environment.expand s)))
  | _ => .error .notAText

/-- The places that settings come from, except the defaults. -/
structure Sources where
  overrides : Mapping
  environment : Environment
  file : List (String × Option String)

/-- Whether a key is a name, in any case. -/
def isNamed (name : String) : Scalar → Bool
  | .str s => s.toLower == name
  | _ => false

/-- What the caller overrides a field with: the first value under its name in any case. -/
def overriding? (overrides : Mapping) (field : String) : Option Value :=
  (overrides.find? fun entry => isNamed field entry.1).map (·.2)

/-- What the first place that has a field says. -/
def Sources.find? (s : Sources) (field : String) : Option Value :=
  let name := "bmml_" ++ field
  (overriding? s.overrides field).or
    (((s.environment.getAnyCase? name).or (EnvFile.getAnyCase? s.file name)).map .str)

/-- A field that is checked if a place has it. -/
def Sources.field {α : Type} (s : Sources) (name : String) (default : α)
    (check : Value → Except FieldProblem α) : Except (List FieldFault) α :=
  match s.find? name with
  | none => .ok default
  | some v => (check v).mapError fun problem => [⟨name, problem⟩]

/-- The settings from all places. -/
def load (s : Sources) : Except (List FieldFault) Settings :=
  collectFaults
    (collectFaults
      (collectFaults
        (collectFaults (.ok Settings.mk)
          (s.field "log_level" default.logLevel
            (checkChoice LogLevel.ofName? (LogLevel.all.map (·.name)))))
        (s.field "output_format" default.outputFormat
          (checkChoice OutputFormat.ofName? (OutputFormat.all.map (·.name)))))
      (s.field "fail_on_warnings" default.failOnWarnings checkBoolean))
    (s.field "schema_dir" default.schemaDir (checkDirectory s.environment))

/-- The directory of schemas, if one is named. -/
def schemaPath (s : Settings) : Option PathName :=
  match s.schemaDir with
  | some dir => if dir.isEmpty then none else some (PathName.ofText dir)
  | none => none

end Settings

end BusinessModel
