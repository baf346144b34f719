import BusinessModel.Text.Quoted
import BusinessModel.Text.Similarity
import BusinessModel.Value.Display

/-!
# Command line arguments

The arguments of a command are options and operands.  An option begins with a dash; one that takes a
value has it behind an equals sign or in the next argument, whatever that looks like.  Two dashes
alone end the options, one dash alone is an operand.

* `Arguments.scan` — the options and operands of a list of arguments, or the first thing wrong
* `Arguments.sensible` — the same as far as nothing is wrong
-/

namespace BusinessModel.CommandLine

/-- What is wrong with the arguments. -/
inductive UsageProblem where
  | noSuchOption (name : String) (similar : List String)
  | valueMissing (option : String)
  | valueUnwanted (option : String)
  | notAmong (option value : String) (choices : List String)
  | missingOperand (name : String)
  | extraOperands (operands : List String)
  | isDirectory (operand file : String)
  | noSuchCommand (name : String) (similar : List String)
  | missingCommand
  deriving DecidableEq, Repr

/-- A sentence with what might have been meant. -/
def withSuggestions (sentence : String) (similar : List String) : String :=
  match similar with
  | [] => sentence
  | [one] => s!"{sentence} Did you mean {quoted one}?"
  | several =>
    let sorted := several.mergeSort fun a b => decide (a ≤ b)
    s!"{sentence} (Did you mean one of: {commaSeparated (sorted.map quoted)}?)"

namespace UsageProblem

def message : UsageProblem → String
  | noSuchOption name similar => withSuggestions s!"No such option {quoted name}." similar
  | valueMissing option => s!"Option {quoted option} requires an argument."
  | valueUnwanted option => s!"Option {quoted option} does not take a value."
  | notAmong option value choices =>
    s!"Invalid value for '{option}': {quoted value} is not one of "
      ++ s!"{commaSeparated (choices.map quoted)}."
  | missingOperand name => s!"Missing argument '{name}'."
  | extraOperands operands =>
    let noun := if operands.length = 1 then "argument" else "arguments"
    let all := " ".intercalate operands
    s!"Got unexpected extra {noun} ({all})"
  | isDirectory operand file =>
    s!"Invalid value for '{operand}': File {quoted file} is a directory."
  | noSuchCommand name similar => withSuggestions s!"No such command {quoted name}." similar
  | missingCommand => "Missing command."

/-- Whether a problem is with the value that an option has or lacks, whatever the command is. -/
def isAboutValue : UsageProblem → Bool
  | valueMissing _ | valueUnwanted _ => true
  | _ => false

end UsageProblem

/-- An option that a command knows. -/
structure OptionForm where
  name : String
  /-- The values that it may take; without any it takes no value. -/
  values : List String
  /-- What it does, in one line. -/
  about : String
  deriving DecidableEq, Repr

/-- Whether an option takes a value. -/
def OptionForm.takesValue (form : OptionForm) : Bool := !form.values.isEmpty

/-- The options in the order in which they are given, with their values, and the operands. -/
structure Arguments where
  options : List (String × Option String)
  operands : List String
  deriving Repr

namespace Arguments

/-- The arguments with an option in front. -/
def withOption (name : String) (value : Option String) (a : Arguments) : Arguments :=
  { a with options := (name, value) :: a.options }

/-- The arguments with an operand in front. -/
def withOperand (operand : String) (a : Arguments) : Arguments :=
  { a with operands := operand :: a.operands }

/-- The name of an option, and its value if one is attached. -/
def splitOption (argument : String) : String × Option String :=
  match argument.toList.span (· != '=') with
  | (name, _ :: value) => (String.ofList name, some (String.ofList value))
  | (name, []) => (String.ofList name, none)

/-- The refusal of an option that is not known: one with a single dash is read letter by letter. -/
def unknown (forms : List OptionForm) (argument : String) : UsageProblem :=
  match argument.toList with
  | '-' :: '-' :: _ =>
    let name := (splitOption argument).1
    .noSuchOption name (similarTo name (forms.map (·.name)))
  | dash :: letter :: _ => .noSuchOption (String.ofList [dash, letter]) []
  | _ => .noSuchOption argument []

/-- Whether an argument is an option. -/
def isOption (argument : String) : Bool :=
  argument.startsWith "-" && argument != "-"

/-- The options and operands in front of the first thing that is wrong, and that problem.  If
operands and options must not be mixed, everything from the first operand on is one. -/
def read (forms : List OptionForm) (mixed : Bool) :
    List String → Arguments × Option UsageProblem
  | [] => (⟨[], []⟩, none)
  | "--" :: rest => (⟨[], rest⟩, none)
  | argument :: rest =>
    if isOption argument then
      let (name, attached) := splitOption argument
      match forms.find? fun form => form.name = name with
      | none => (⟨[], []⟩, some (unknown forms argument))
      | some form =>
        match form.takesValue, attached with
        | true, some value => (read forms mixed rest).map (withOption name (some value)) id
        | true, none =>
          match rest with
          | [] => (⟨[], []⟩, some (.valueMissing name))
          | value :: after => (read forms mixed after).map (withOption name (some value)) id
        | false, some _ => (⟨[], []⟩, some (.valueUnwanted name))
        | false, none => (read forms mixed rest).map (withOption name none) id
    else if mixed then (read forms mixed rest).map (withOperand argument) id
    else (⟨[], argument :: rest⟩, none)

/-- The options and operands of some arguments, or the first thing that is wrong. -/
def scan (forms : List OptionForm) (mixed : Bool) (arguments : List String) :
    Except UsageProblem Arguments :=
  match read forms mixed arguments with
  | (found, none) => .ok found
  | (_, some problem) => .error problem

/-- What arguments say as far as they make sense: the options in front of the first thing that is
wrong, and the operands if nothing is. -/
def sensible (forms : List OptionForm) (mixed : Bool) (arguments : List String) : Arguments :=
  match read forms mixed arguments with
  | (found, none) => found
  | (found, some _) => { found with operands := [] }

/-- Whether an option is given. -/
def has (a : Arguments) (name : String) : Bool := a.options.any (·.1 == name)

/-- The value of an option, the last one if it is given more than once. -/
def value? (a : Arguments) (name : String) : Option String :=
  (a.options.reverse.lookup name).join

end Arguments

end BusinessModel.CommandLine
