import BusinessModel.CommandLine.CompletionScript
import BusinessModel.CommandLine.Verdict
import BusinessModel.Session.Validators

/-!
# Runs of the program

A run reads its arguments, does what one command does, and ends with an exit code: zero for success,
one for a file that is not in order, two for arguments that make no sense.  Whatever else fails is
not the business of a run and fails it.

* `CommandLine.run` — the run with some arguments
-/

namespace BusinessModel.CommandLine

open BusinessModel.Action BusinessModel.Session

/-- Complain about the arguments, and say how they should be unless the problem is about one value
only. -/
def refuse (usage help : String) (problem : UsageProblem) : Action Nat := do
  if !problem.isAboutValue then
    say ([usageLine usage, s!"Try '{programName} {help}' for help.", ""].map .complaint)
  say [.complaint s!"Error: {problem.message}"]
  return 2

/-- Complain about the arguments in front of a command. -/
def refuseProgram : UsageProblem → Action Nat := refuse programUsage "--help"

/-- Complain about the arguments of a command. -/
def refuseCommand (command : Command) : UsageProblem → Action Nat :=
  refuse command.usage s!"{command.name} --help"

/-- Print lines as results, which is a success. -/
def answerWith (lines : List String) : Action Nat := do
  say (lines.map .output)
  return 0

/-- Complain about a file that a command cannot deal with. -/
def giveUp (reason : String) : Action Nat := do
  say [.complaint s!"Error: {reason}"]
  return 1

/-- What a command is called with. -/
structure Request where
  file : PathName
  format : Option OutputFormat
  strict : Bool
  deriving Repr

/-- The format that an option asks for. -/
def requestedFormat (arguments : Arguments) : Except UsageProblem (Option OutputFormat) :=
  match arguments.value? formatForm.name with
  | none => .ok none
  | some value =>
    match OutputFormat.ofName? value with
    | some format => .ok (some format)
    | none => .error (.notAmong formatForm.name value formatForm.values)

/-- The request that arguments make, or what is wrong with them. -/
def requestOf (arguments : Arguments) : Action (Except UsageProblem Request) := do
  match requestedFormat arguments, arguments.operands with
  | .error problem, _ => return .error problem
  | .ok _, [] => return .error (.missingOperand operandName)
  | .ok format, file :: others =>
    let s ← current
    match s.files.find s.directory file with
    | .error .nullCharacter => fail (.files .nullCharacter file)
    | .ok .directory => return .error (.isDirectory operandName file)
    | _ =>
      if !others.isEmpty then return .error (.extraOperands others)
      return .ok ⟨PathName.ofText file, format, arguments.has strictForm.name⟩

/-- The format to print in: the one that is asked for, or else the one of the settings. -/
def formatOf (request : Request) : Action OutputFormat := do
  match request.format with
  | some format => return format
  | none => return (← settingsInForce []).value.outputFormat

/-- The exit code of a command that ends well or not. -/
def exitCode (success : Bool) : Nat := if success then 0 else 1

/-- Log a failed validation. -/
def logViolations (source : String) (report : Validation.Report) : Action Unit :=
  if report.valid then done () else Action.report (.validationFailed serviceName source report)

/-- Validate a file. -/
def validateCommand (request : Request) : Action Nat := do
  let report ← validateFile request.file none
  logViolations request.file.text report
  let verdict : Verdict := ⟨report.valid, report.generation, report.issues, []⟩
  say (verdict.notices (← formatOf request))
  return exitCode verdict.success

/-- The index of a document, for the log. -/
def noteIndex (index : Index) : Action Unit :=
  note .debug "bmml.index" <|
    s!"Built {index.generation.name} index: segments={index.segments.length}, "
      ++ s!"value_propositions={index.propositions.length}, "
      ++ s!"resources={index.resources.length}, activities={index.activities.length}"

/-- The lint report of a document. -/
def lintDocument (doc : Document) : Action Lint.Report := do
  noteIndex (Index.build doc.content doc.generation)
  let report ← ofExcept <|
    (Lint.run (.map doc.content) (some doc.generation)).mapError .longInteger
  note .debug "bmml.lint.linter" <|
    s!"Linted {doc.generation.name} document: errors={report.errors.length} "
      ++ s!"warnings={report.warnings.length}"
  return report

/-- Leave the traces of a lint run: a diagnostic, its span events and an event. -/
def traceLint (source : String) (report : Lint.Report) : Action Unit := do
  if report.passed then
    note .debug "bmml.lint.otel"
      s!"Lint passed: version={report.generation.name} warnings={report.warnings.length}"
  else
    note .info "bmml.lint.otel" <|
      s!"Lint found errors: version={report.generation.name} errors={report.errors.length} "
        ++ s!"warnings={report.warnings.length}"
  say ((SpanEvent.lintResult source report).map .span)
  Action.report (.lintCompleted serviceName source report)

/-- Do something with the document of a request; give up if there is none.  A misfit is not the
business of a run. -/
def withDocument (request : Request) (next : Document → Action Nat) : Action Nat := do
  let load : Action (Document ⊕ String) :=
    (fun kept => .inl kept.value) <$> loadDocument request.file
  match ← orElseLoad load fun
    | .misfit m => fail (.load (.misfit m))
    | fault => done (.inr fault.message) with
  | .inl doc => next doc
  | .inr reason => giveUp reason

/-- Validate a file and, if it is valid, lint it. -/
def lintCommand (request : Request) : Action Nat := do
  let format ← formatOf request
  let failOnWarnings := request.strict || (← settingsInForce []).value.failOnWarnings
  let validation ← validateFile request.file none
  logViolations request.file.text validation
  if !validation.valid then
    let verdict : Verdict := ⟨false, validation.generation, validation.issues, []⟩
    say (verdict.notices format)
    return exitCode false
  withDocument request fun doc => do
    let report ← lintDocument doc
    traceLint request.file.text report
    let success := report.passed && !(failOnWarnings && !report.warnings.isEmpty)
    let verdict : Verdict := ⟨success, report.generation, [], report.issues⟩
    say (verdict.notices format)
    return exitCode success

/-- Show what the entities of a file are connected to. -/
def graphCommand (request : Request) : Action Nat :=
  withDocument request fun doc => do
    if doc.generation != .v2 then
      return ← giveUp <| s!"{request.file.text}: connection graphs require a v2 document "
        ++ "(version: \"2.0\")"
    let connections := Connections.ofDocument doc
    let graph := connections.graph
    note .debug "bmml.graph"
      s!"Built connection graph: entities={graph.length}, orphaned={graph.orphaned.length}"
    say [.span (.graphBuilt request.file.text graph)]
    Action.report (.graphBuilt serviceName request.file.text graph graph.orphaned)
    say (connections.notices (← formatOf request))
    return exitCode true

/-- Do what a command does. -/
def perform : Command → Request → Action Nat
  | .graph => graphCommand
  | .lint => lintCommand
  | .validate => validateCommand

/-- The run of a command with the arguments behind its name. -/
def runCommand (command : Command) (arguments : List String) : Action Nat := do
  match Arguments.scan command.forms true arguments with
  | .error problem => refuseCommand command problem
  | .ok arguments =>
    if arguments.has helpForm.name then answerWith command.page.lines
    else
      match ← requestOf arguments with
      | .error problem => refuseCommand command problem
      | .ok request => perform command request

/-- What the options in front of a command ask for, if anything: the first one counts. -/
def answerOptions? (arguments : Arguments) : Option (List String) :=
  arguments.options.head?.map fun option =>
    if option.1 = versionForm.name then [versionLine] else programPage.lines

/-- Set up the log as the settings in force say. -/
def configureLog : Action Unit := do
  let settings ← settingsInForce []
  change fun s => { s with log := s.log.configure settings.value.logLevel.name }

/-- The refusal of the name of a command.  Behind two dashes it may be an option that is meant for
the program, which is answered or refused as such. -/
def refuseName (name : String) (others : List String) : Action Nat :=
  match Arguments.scan programForms false (name :: others) with
  | .error problem => refuseProgram problem
  | .ok arguments =>
    match answerOptions? arguments with
    | some lines => answerWith lines
    | none =>
      refuseProgram (.noSuchCommand name (similarTo name (Command.all.map Command.name)))

/-- The run of the program with some arguments. -/
def runArguments : List String → Action Nat
  | [] => do
    say (programPage.lines.map .complaint)
    return 2
  | arguments =>
    match Arguments.scan programForms false arguments with
    | .error problem => refuseProgram problem
    | .ok scanned =>
      match answerOptions? scanned, scanned.operands with
      | some lines, _ => answerWith lines
      | none, [] => refuseProgram .missingCommand
      | none, name :: others =>
        match Command.ofName? name with
        | none => refuseName name others
        | some command => do
          configureLog
          runCommand command others

/-- Answer a shell that asks for something. -/
def answerShell (instruction : String) : Action Nat := do
  match ShellRequest.ofInstruction? instruction with
  | none => return exitCode false
  | some (.script shell) => answerWith [completionScript shell]
  | some (.words shell) => do
    let line ← ofExcept ((shell.line (← current).environment).mapError .shell)
    answerWith ["\n".intercalate ((suggestions line).map (Suggestion.text shell))]

/-- What a run does: what a shell asks for, if one does, and else what the arguments say. -/
def answerOrRun (arguments : List String) : Action Nat := do
  match (← current).environment.get? completionVariable with
  | some instruction =>
    if instruction.isEmpty then runArguments arguments else answerShell instruction
  | none => runArguments arguments

/-- A run of the program in a session.  Nothing shows its log until it is set up, nor after the
end. -/
def run (arguments : List String) : Action Nat := fun s =>
  let after := answerOrRun arguments { s with log := s.log.hidden }
  { after with
    notices := after.notices.map Notice.plain
    session := { after.session with log := after.session.log.hidden } }

end BusinessModel.CommandLine
