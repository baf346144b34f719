import BusinessModel.CommandLine.HelpPage
import BusinessModel.Settings

/-!
# The commands

The program has three commands, each about one file: one validates it, one lints it, and one shows
what its entities are connected to.

* `Command.forms`, `programForms` — the options of a command and of the program
* `Command.page`, `programPage` — their help pages
-/

namespace BusinessModel.CommandLine

inductive Command where
  | graph
  | lint
  | validate
  deriving DecidableEq, Repr

def helpForm : OptionForm := ⟨"--help", [], "Show this message and exit."⟩

def versionForm : OptionForm := ⟨"--version", [], "Show the version and exit."⟩

def formatForm : OptionForm :=
  ⟨"--format", OutputFormat.all.map (·.name),
    "Output format (defaults to BMML_OUTPUT_FORMAT or text)"⟩

def strictForm : OptionForm := ⟨"--strict", [], "Fail on warnings as well as errors"⟩

/-- The name of the operand that every command takes. -/
def operandName : String := "FILE"

namespace Command

/-- All commands by their names. -/
def all : List Command := [graph, lint, validate]

def name : Command → String
  | graph => "graph"
  | lint => "lint"
  | validate => "validate"

def ofName? (name : String) : Option Command := all.find? fun command => command.name = name

/-- What a command does, in one line. -/
def summary : Command → String
  | graph => "Show the customer segments each entity of FILE is connected to."
  | lint => "Validate FILE, then check its cross-entity references."
  | validate => "Validate FILE against the BMML JSON schema."

/-- What there is to know about a command besides its summary. -/
def details : Command → List (List String)
  | graph =>
    [["Requires a v2 (typed-relation) document.  Entities that reach no segment are",
      "listed as orphaned."]]
  | lint =>
    [["Reports dangling references and type-incompatible fit mappings as errors, and",
      "coverage gaps (segments without fits, pains never relieved, ...) as warnings."]]
  | validate => []

/-- How a command might be called. -/
def sample : Command → String
  | graph => "graph model.bmml"
  | lint => "lint model.bmml --format json"
  | validate => "validate model.bmml"

/-- The options of a command. -/
def forms : Command → List OptionForm
  | lint => [formatForm, strictForm, helpForm]
  | _ => [formatForm, helpForm]

/-- How a command is called. -/
def usage (command : Command) : String := s!"{command.name} [OPTIONS] {operandName}"

def page (command : Command) : HelpPage where
  usage := command.usage
  about := [command.summary] :: command.details
    ++ [[s!"Example:     {programName} {command.sample}"]]
  options := command.forms
  commands := []

end Command

/-- The options in front of a command. -/
def programForms : List OptionForm := [versionForm, helpForm]

/-- How the program is called. -/
def programUsage : String := "[OPTIONS] COMMAND [ARGS]..."

/-- The line that tells the version of the program. -/
def versionLine : String := s!"{programName}, version 0.1.0"

def programPage : HelpPage where
  usage := programUsage
  about := [[s!"{programName} - Business Model Markup Language validator and linter."]]
  options := programForms
  commands := Command.all.map fun command => (command.name, command.summary)

end BusinessModel.CommandLine
