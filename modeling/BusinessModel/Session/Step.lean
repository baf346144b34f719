import BusinessModel.CommandLine.Run

/-!
# Steps of a session

Everything that can be done in a session, one step at a time: changing the files and the
environment, using the documents, schemas and settings, writing to the log, and running the program.

* `Step.act` — what a step does
* `Session.step`, `Session.steps` — a session after one step and after several
-/

namespace BusinessModel.Session

open BusinessModel.Action

/-- What an entry of the event log is written about. -/
inductive LogSubject where
  | lint (doc : Value) (generation : Option Generation)
  | validation (doc : Value) (generation : Option Generation)
  /-- A connection graph, with or without the entities that serve no segment. -/
  | graph (doc : Value) (withOrphaned : Bool)
  deriving Repr

/-- Something that is done in a session. -/
inductive Step where
  | write (file : PathName) (content : List UInt8)
  | delete (file : PathName)
  | makeDirectory (file : PathName)
  | setVariable (name value : String)
  | unsetVariable (name : String)
  | load (file : PathName)
  | loadText (text : String)
  /-- Read the content of a document, past the ones that are kept. -/
  | read (file : PathName)
  | forgetDocuments
  | validateFile (file : PathName) (generation : Option Generation)
  | validate (doc : Value) (generation : Option Generation) (directory : Option PathName)
  | schemaTitle (generation : Generation) (directory : Option PathName)
  | forgetValidators
  | useSettings (overrides : Mapping)
  /-- Create settings without putting them in force. -/
  | createSettings (overrides : Mapping)
  | forgetSettings
  | logLevel
  | configureLog (level : String)
  | log (service source : String) (subject : LogSubject)
  /-- Run the program with some variables set, or unset, for as long as it runs. -/
  | run (arguments : List String) (changes : List VariableChange)
  deriving Repr

/-- What a step leads to. -/
inductive Reply where
  | nothing
  | document (kept : Kept Document)
  | content (mapping : Mapping)
  | report (report : Validation.Report)
  | title (value : Value)
  | settingsInForce (kept : Kept Settings)
  | settings (settings : Settings)
  | logLevel (level : LogLevel)
  | thresholds (log : LogThresholds)
  | exit (code : Nat)
  deriving Repr

/-- Change the files at a path, unless something is in the way. -/
def changeFiles (file : PathName) (f : Files → List String → PathName → Except FileProblem Files) :
    Action Unit := do
  let s ← current
  match f s.files s.directory file with
  | .error problem => fail (.files problem file.text)
  | .ok files => change fun s => { s with files }

/-- Make a directory, and those above it. -/
def makeDirectories (file : PathName) : Action Unit := do
  let s ← current
  let (files, made) := s.files.makeDirectories s.directory file
  change fun s => { s with files }
  ofExcept (made.mapError fun fault => .files fault.1 fault.2.text)

/-- Write a file, in a directory that is made if there is none. -/
def writeFile (file : PathName) (content : List UInt8) : Action Unit := do
  makeDirectories file.parent
  changeFiles file fun files directory => files.write directory content

/-- Bind or unbind a variable. -/
def changeVariable (wanted : VariableChange) : Action Unit := do
  let environment ← ofExcept (((← current).environment.change? wanted).mapError .environment)
  change fun s => { s with environment }

/-- Set the thresholds of the log. -/
def configureLog (level : String) : Action LogThresholds := do
  change fun s => { s with log := s.log.configure level }
  return (← current).log

/-- The entry that is written about a subject. -/
def entryAbout (service source : String) : LogSubject → Action EventEntry
  | .lint doc generation => do
    let report ← ofExcept ((Lint.run doc generation).mapError .longInteger)
    return .lintCompleted service source report
  | .validation doc generation => do
    return .validationFailed service source (← validate doc generation none)
  | .graph doc withOrphaned =>
    let graph := Graph.build doc
    done (.graphBuilt service source graph (if withOrphaned then graph.orphaned else []))

/-- An action with some variables set or unset for as long as it takes; in the end they have their
values back, whether the action succeeds or fails. -/
def withVariables {α : Type} (changes : List VariableChange) (action : Action α) : Action α :=
  fun s =>
    let (environment, made) := s.environment.changeAll changes
    let guarded : Action α := do
      ofExcept (made.mapError .environment)
      action
    let after := guarded { s with environment }
    let restored := after.session.environment.restore s.environment (changes.map (·.1))
    { after with session := { after.session with environment := restored } }

namespace Step

/-- What a step does. -/
def act : Step → Action Reply
  | write file content => do
    Session.writeFile file content
    return .nothing
  | delete file => do
    Session.changeFiles file Files.delete
    return .nothing
  | makeDirectory file => do
    Session.makeDirectories file
    return .nothing
  | setVariable name value => do
    Session.changeVariable (name, some value)
    return .nothing
  | unsetVariable name => do
    Session.changeVariable (name, none)
    return .nothing
  | load file => return .document (← Session.loadDocument file)
  | loadText text => return .document (← Session.documentOfText text)
  | read file => return .content (← Session.readMapping file)
  | forgetDocuments => do
    Session.forgetDocuments
    return .nothing
  | validateFile file generation => return .report (← Session.validateFile file generation)
  | validate doc generation directory =>
    return .report (← Session.validate doc generation directory)
  | schemaTitle generation directory =>
    return .title (← Session.schemaTitle generation directory)
  | forgetValidators => do
    Session.forgetValidators
    return .nothing
  | useSettings overrides => return .settingsInForce (← Session.settingsInForce overrides)
  | createSettings overrides => return .settings (← Session.createSettings overrides)
  | forgetSettings => do
    Session.forgetSettings
    return .nothing
  | logLevel => return .logLevel (← Session.settingsInForce []).value.logLevel
  | configureLog level => return .thresholds (← Session.configureLog level)
  | log service source subject => do
    Action.report (← Session.entryAbout service source subject)
    return .nothing
  | run arguments changes =>
    return .exit (← Session.withVariables changes (CommandLine.run arguments))

end Step

/-- A session at its start, in a working directory with an environment, in which nothing is known of
any file. -/
def initial (directory : List String) (environment : Environment) : Session where
  directory := directory
  files := Files.putDirectories ⟨[]⟩ directory
  environment := environment
  documents := []
  validators := []
  settings := none
  log := LogThresholds.initial
  nextSerial := 0

/-- What a step leads to in a session. -/
def step (s : Session) (step : Step) : Outcome Reply := step.act s

/-- What some steps lead to, one after the other. -/
def steps (s : Session) : List Step → List (Outcome Reply)
  | [] => []
  | step :: rest =>
    let outcome := s.step step
    outcome :: steps outcome.session rest

end BusinessModel.Session
