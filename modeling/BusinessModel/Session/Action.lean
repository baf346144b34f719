import BusinessModel.Document
import BusinessModel.EventLog
import BusinessModel.Files
import BusinessModel.Json.Reader
import BusinessModel.Schema.Document
import BusinessModel.Shell.Request
import BusinessModel.Telemetry
import BusinessModel.Text.Terminal

/-!
# Sessions and actions

A session is what lasts between the things that are done in one process: the files and the
environment around it, the documents and schemas that were read, the settings in force and the
thresholds of the log.  Documents and settings that are kept carry a serial number, by which the
same one can be told from an equal one.

An action takes a session to another one.  It says things on the way, and it has a result or fails;
a failing action keeps what it changed before.
-/

namespace BusinessModel

/-- Something kept under a serial number. -/
structure Kept (α : Type) where
  serial : Nat
  value : α
  deriving Repr, Inhabited

/-- Where schemas come from: the ones that belong to the program, or those in a directory. -/
inductive SchemaPlace where
  | packaged
  | directory (path : String)
  deriving DecidableEq, Repr, Inhabited

/-- What lasts between actions. -/
structure Session where
  /-- The absolute components of the working directory. -/
  directory : List String
  files : Files
  environment : Environment
  /-- Loaded documents by their absolute components. -/
  documents : List (List String × Kept Document)
  /-- Schemas that were read and checked. -/
  validators : List ((SchemaPlace × Generation) × Schema)
  settings : Option (Kept Settings)
  log : LogThresholds
  /-- The serial number that is given next. -/
  nextSerial : Nat
  deriving Inhabited

/-- Why an action fails. -/
inductive Fault where
  | load (fault : LoadFault)
  | noSchema (path : String)
  | schemaNotText (fault : Utf8.Fault)
  | schemaNotJson (fault : Json.Fault)
  | badSchema (fault : Schema.Fault)
  | settings (faults : List FieldFault)
  | settingsNotText (fault : Utf8.Fault)
  | files (problem : FileProblem) (path : String)
  | environment (problem : VariableProblem)
  | longInteger (f : LongInteger)
  | shell (problem : ShellProblem)

def Fault.message : Fault → String
  | load fault => fault.message
  | noSchema path => s!"Schema file not found: {path}"
  | schemaNotText fault | settingsNotText fault => fault.message
  | schemaNotJson fault => fault.message
  | badSchema fault => fault.message
  | settings faults => "\n".intercalate (faults.map FieldFault.line)
  | files problem path => problem.message path
  | environment problem => problem.message
  | longInteger f => f.message
  | shell problem => problem.message

/-- Something that an action says. -/
inductive Notice where
  /-- A line of results. -/
  | output (line : String)
  /-- A line of problems. -/
  | complaint (line : String)
  | diagnostic (d : Diagnostic)
  | event (e : EventEntry)
  | span (e : SpanEvent)
  deriving Repr

/-- What is said, without terminal control sequences in the lines that are printed. -/
def Notice.plain : Notice → Notice
  | output line => .output (withoutControls line)
  | complaint line => .complaint (withoutControls line)
  | notice => notice

/-- What an action leads to. -/
structure Outcome (α : Type) where
  notices : List Notice
  session : Session
  result : Except Fault α

/-- Something that can be done in a session. -/
def Action (α : Type) : Type := Session → Outcome α

namespace Action

/-- Do nothing. -/
def done {α : Type} (a : α) : Action α := fun s => ⟨[], s, .ok a⟩

/-- Do one thing and then another one with its result. -/
def andThen {α β : Type} (first : Action α) (next : α → Action β) : Action β := fun s =>
  let before := first s
  match before.result with
  | .error fault => ⟨before.notices, before.session, .error fault⟩
  | .ok a =>
    let after := next a before.session
    ⟨before.notices ++ after.notices, after.session, after.result⟩

instance : Monad Action where
  pure := done
  bind := andThen

/-- Fail. -/
def fail {α : Type} (fault : Fault) : Action α := fun s => ⟨[], s, .error fault⟩

/-- A result that was computed outside the session. -/
def ofExcept {α : Type} (result : Except Fault α) : Action α := fun s => ⟨[], s, result⟩

/-- Look at the session. -/
def current : Action Session := fun s => ⟨[], s, .ok s⟩

/-- Change the session. -/
def change (f : Session → Session) : Action Unit := fun s => ⟨[], f s, .ok ()⟩

/-- Say something. -/
def say (notices : List Notice) : Action Unit := fun s => ⟨notices, s, .ok ()⟩

/-- Write a line to the diagnostic log, if its threshold lets the line through. -/
def note (level : LogLevel) (part text : String) : Action Unit := fun s =>
  let d : Diagnostic := ⟨level, part, text⟩
  ⟨if s.log.shows d then [.diagnostic d] else [], s, .ok ()⟩

/-- Write an entry to the event log, if its threshold lets the entry through. -/
def report (entry : EventEntry) : Action Unit := fun s =>
  ⟨if s.log.logs entry then [.event entry] else [], s, .ok ()⟩

/-- Keep something under a new serial number. -/
def keep {α : Type} (a : α) : Action (Kept α) := fun s =>
  ⟨[], { s with nextSerial := s.nextSerial + 1 }, .ok ⟨s.nextSerial, a⟩⟩

/-- The result of an action, or what stands for it when it fails as a document that cannot be loaded
fails. -/
def orElseLoad {α : Type} (action : Action α) (handle : LoadFault → Action α) : Action α := fun s =>
  let before := action s
  match before.result with
  | .error (.load fault) =>
    let after := handle fault before.session
    ⟨before.notices ++ after.notices, after.session, after.result⟩
  | _ => before

end Action

end BusinessModel
