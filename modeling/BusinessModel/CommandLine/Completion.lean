import BusinessModel.CommandLine.Command
import BusinessModel.Shell.Request

/-!
# Completion of command lines

To a command line that ends in the start of a word, the program can say how the word may go on.  An
option name is completed to the options that are not given yet, the value of an option to its
choices, the first operand to a command, and the operand of a command to a file, which is left to
the shell.

* `suggestions` — what may stand in place of the word that is to be completed
* `Suggestion.text` — a suggestion in the form that a shell reads
-/

namespace BusinessModel.CommandLine

/-- The variable by which a shell asks for completions. -/
def completionVariable : String := "_BMML_COMPLETE"

/-- What may stand in place of a word that is to be completed. -/
inductive Suggestion where
  /-- A word, with what it means. -/
  | word (text : String) (about : Option String)
  /-- Any file whose name starts so. -/
  | file (start : String)
  deriving DecidableEq, Repr

namespace Suggestion

/-- What kind of thing is suggested. -/
def kind : Suggestion → String
  | word _ _ => "plain"
  | file _ => "file"

/-- The text that is suggested. -/
def shown : Suggestion → String
  | word text _ => text
  | file start => start

/-- What the text means, if it means something of its own. -/
def about : Suggestion → Option String
  | word _ about => about
  | file _ => none

/-- A suggestion in the form that a shell reads.  Two of them read a line for each part, and one of
these takes a colon for the end of a word that is explained. -/
def text (shell : Shell) (s : Suggestion) : String :=
  match shell, s.about with
  | .bash, _ => s!"{s.kind},{s.shown}"
  | .fish, about =>
    let line := s.shown.replace "\n" "\\n"
    let explanation := (about.map ("\t" ++ ·)).getD ""
    s!"{s.kind},{line}{explanation}"
  | .powershell, about => "\n".intercalate [s.kind, s.shown, about.getD "_"]
  | .zsh, some about => "\n".intercalate [s.kind, s.shown.replace ":" "\\:", about]
  | .zsh, none => "\n".intercalate [s.kind, s.shown, "_"]

end Suggestion

/-- A text that is at most so long: words at its end give way to three dots. -/
def shortened (limit : Nat) (text : String) : String :=
  let words := text.splitOn " "
  let cut (count : Nat) : String := " ".intercalate (words.take count) ++ "..."
  if text.length ≤ limit then text
  else cut (((List.range words.length).reverse.find? fun n => (cut n).length ≤ limit).getD 0)

/-- How long the summary of a command is at most where it stands beside its name. -/
def summaryLimit : Nat := 45

/-- How far a command line has come: the command that it names, if it has got that far, and what is
given to that command or else to the program. -/
structure Progress where
  command : Option Command
  given : Arguments
  deriving Repr

namespace Progress

/-- How far some words come. -/
def ofWords (words : List String) : Progress :=
  let given := Arguments.sensible programForms false words
  match given.operands with
  | [] => ⟨none, given⟩
  | name :: others =>
    match Command.ofName? name with
    | none => ⟨none, given⟩
    | some command => ⟨some command, Arguments.sensible command.forms true others⟩

/-- The options that are known here. -/
def forms (p : Progress) : List OptionForm :=
  match p.command with
  | some command => command.forms
  | none => programForms

/-- Whether the operand of a command is still to come. -/
def lacksOperand (p : Progress) : Bool := p.command.isSome && p.given.operands.isEmpty

/-- The commands that may stand here and start so. -/
def commands (p : Progress) (start : String) : List Suggestion :=
  match p.command with
  | some _ => []
  | none => (Command.all.filter fun command => command.name.startsWith start).map fun command =>
    .word command.name (some (shortened summaryLimit command.summary))

/-- The options that are not given yet and start so, unless nothing of the name is there. -/
def options (p : Progress) (start : String) : List Suggestion :=
  if start.isEmpty then []
  else
    (p.forms.filter fun form => form.name.startsWith start && !p.given.has form.name).map
      fun form => .word form.name (some form.about)

/-- The names that may stand here and start so. -/
def names (p : Progress) (start : String) : List Suggestion := p.commands start ++ p.options start

/-- The option whose value is to come behind a word. -/
def optionBehind? (p : Progress) (word : Option String) : Option OptionForm :=
  p.forms.find? fun form => form.takesValue && word == some form.name

end Progress

/-- A command line in which the name of an option and the start of its value are two words. -/
def withValueApart (line : PartialLine) : PartialLine :=
  if line.start = "=" then ⟨line.before, ""⟩
  else
    match Arguments.splitOption line.start with
    | (name, some value) =>
      if line.start.startsWith "-" then ⟨line.before ++ [name], value⟩ else line
    | (_, none) => line

/-- What may stand in place of the word that is to be completed. -/
def suggestions (line : PartialLine) : List Suggestion :=
  let progress := Progress.ofWords line.before
  let ⟨before, start⟩ := withValueApart line
  if start.startsWith "-" && !before.contains "--" then progress.names start
  else
    match progress.optionBehind? before.getLast? with
    | some form => (form.values.filter (·.startsWith start)).map fun value => .word value none
    | none => if progress.lacksOperand then [.file start] else progress.names start

end BusinessModel.CommandLine
