import BusinessModel.Number.Numeral
import BusinessModel.Settings.Environment
import BusinessModel.Shell.Words

/-!
# Requests of shells

A shell asks a program for words that complete a command line.  It runs the program with an
instruction in one variable, the command line in another one, and in a third one where in it the
word stands that is to be completed: the number of the word, or the word itself.

* `ShellRequest.ofInstruction?` — which shell asks for what
* `Shell.line` — the command line that a shell wants completed
-/

namespace BusinessModel

inductive Shell where
  | bash
  | fish
  | powershell
  | zsh
  deriving DecidableEq, Repr

/-- What is wrong with the variables of a request. -/
inductive ShellProblem where
  | unset (name : String)
  | notInteger (text : String)
  | longInteger (f : LongInteger)
  /-- There is no word in the one that is to be completed. -/
  | noWord
  deriving DecidableEq, Repr

def ShellProblem.message : ShellProblem → String
  | unset name => quoted name
  | notInteger text => Numeral.refusal 10 text
  | longInteger f => f.message
  | noWord => "list index out of range"

/-- What a shell asks for. -/
inductive ShellRequest where
  /-- The script by which it asks for words from then on. -/
  | script (shell : Shell)
  /-- The words that complete a command line. -/
  | words (shell : Shell)
  deriving DecidableEq, Repr

/-- A command line that is to be completed. -/
structure PartialLine where
  /-- The words between the name of the program and the one that is to be completed. -/
  before : List String
  /-- What there is of the word that is to be completed. -/
  start : String
  deriving DecidableEq, Repr

namespace Shell

def all : List Shell := [bash, fish, powershell, zsh]

def name : Shell → String
  | bash => "bash"
  | fish => "fish"
  | powershell => "powershell"
  | zsh => "zsh"

def ofName? (name : String) : Option Shell := all.find? fun shell => shell.name = name

/-- The variable that holds the command line. -/
def lineVariable : String := "COMP_WORDS"

/-- The variable that tells which word is to be completed. -/
def wordVariable : String := "COMP_CWORD"

/-- The value of a variable of a request. -/
def valueOf (e : Environment) (name : String) : Except ShellProblem String :=
  match e.get? name with
  | some value => .ok value
  | none => .error (.unset name)

/-- The number of a word. -/
def wordNumber (text : String) : Except ShellProblem Int :=
  (Numeral.integer 10 text.toList).mapError fun
    | .notInteger => .notInteger text
    | .long count => .longInteger (.read count)

/-- A place among some words, counted from their end if the number is negative. -/
def place (words : List String) (n : Int) : Int :=
  if n < 0 then words.length + n else n

/-- The command line up to a word, by the number of that word. -/
def lineUpTo (words : List String) (number : Int) : PartialLine where
  before := (words.take (place words number).toNat).drop 1
  start :=
    let n := place words number
    if n < 0 then "" else words[n.toNat]?.getD ""

/-- The command line up to a word, by the word itself, which may be the last one of the line. -/
def lineBefore (words : List String) (word : String) : Except ShellProblem PartialLine :=
  let before := words.drop 1
  if word.isEmpty then .ok ⟨before, ""⟩
  else
    match shellWords word with
    | [] => .error .noWord
    | start :: _ =>
      if !start.isEmpty && before.getLast? == some start then .ok ⟨before.dropLast, start⟩
      else .ok ⟨before, start⟩

/-- The command line that a shell wants completed. -/
def line (shell : Shell) (e : Environment) : Except ShellProblem PartialLine := do
  let words := shellWords (← valueOf e lineVariable)
  let word ← valueOf e wordVariable
  match shell with
  | fish => lineBefore words word
  | bash | powershell | zsh => return lineUpTo words (← wordNumber word)

end Shell

/-- What an instruction asks for: the name of a shell stands in front of its first underscore. -/
def ShellRequest.ofInstruction? (instruction : String) : Option ShellRequest := do
  let name := instruction.toList.takeWhile (· != '_')
  let shell ← Shell.ofName? (String.ofList name)
  match String.ofList (instruction.toList.drop (name.length + 1)) with
  | "source" => some (.script shell)
  | "complete" => some (.words shell)
  | _ => none

end BusinessModel
