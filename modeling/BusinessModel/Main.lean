import BusinessModel.Session.Step
import Std.Time.DateTime.Timestamp

/-!
# The program

The program reads the variables of its process and the files that a run may ask for, runs, and
prints what the run says: results to the standard output, everything else to the standard error.
Nothing records spans.
-/

namespace BusinessModel.Program

/-- The variable that a text of the form `name=value` binds. -/
def binding (s : String) : String × String :=
  let name := s.toList.takeWhile (· != '=')
  (String.ofList name, String.ofList (s.toList.drop (name.length + 1)))

/-- The variables of the process. -/
def environment : IO Environment := do
  match ← (IO.FS.readFile "/proc/self/environ").toBaseIO with
  | .ok text => return ((text.splitOn "\x00").filter (!·.isEmpty)).map binding
  | .error _ => return []

/-- What stands at a path. -/
def entryAt? (path : String) : IO (Option Entry) := do
  let place := (← IO.currentDir) / path
  if ← place.isDir then return some .directory
  match ← (IO.FS.readBinFile place).toBaseIO with
  | .ok content => return some (.file content.toList)
  | .error _ => return none

/-- A session that knows what stands at a path and everywhere on the way there. -/
def withPath (s : Session) (path : PathName) : IO Session :=
  (List.range path.parts.length).foldlM
    (fun s n => do
      let part : PathName := { path with parts := path.parts.take (n + 1) }
      let place := part.resolve s.directory
      match ← entryAt? part.text with
      | some entry =>
        return { s with files := (s.files.putDirectories place.dropLast).put place entry }
      | none => return s) s

/-- A session that knows what stands at some paths. -/
def withPaths (s : Session) (paths : List PathName) : IO Session := paths.foldlM withPath s

/-- The schema files that the settings of a session lead to. -/
def schemaFiles (s : Session) : List PathName :=
  match (Session.createSettings [] s).result with
  | .error _ => []
  | .ok settings =>
    match settings.schemaPath with
    | none => []
    | some dir => [Generation.v1, .v2].map fun g => dir.child (Session.schemaFileName g)

/-- The session of a process with some arguments. -/
def session (arguments : List String) : IO Session := do
  let directory := (PathName.ofText (← IO.currentDir).toString).parts
  let s := Session.initial directory (← environment)
  let s ← withPaths s ((Session.envFileName :: arguments).map PathName.ofText)
  withPaths s (schemaFiles s)

/-- The time of day. -/
def now : IO DateTime := do
  let epoch : Date := ⟨1970, 1, 1⟩
  let since := (← Std.Time.Timestamp.now).toNanosecondsSinceUnixEpoch.val.toNat / 1000
  return .ofInstant (epoch.ordinal * 86400000000 + since)

/-- Print what a run says. -/
def print : Notice → IO Unit
  | .output line => IO.println line
  | .complaint line => IO.eprintln line
  | .diagnostic d => IO.eprintln d.line
  | .event e => do IO.eprintln (e.line ((← now).text "T"))
  | .span _ => return

end BusinessModel.Program

open BusinessModel in
def main (arguments : List String) : IO UInt32 := do
  let outcome := CommandLine.run arguments (← Program.session arguments)
  outcome.notices.forM Program.print
  match outcome.result with
  | .ok code => return code.toUInt32
  | .error fault =>
    IO.eprintln fault.message
    return 1
