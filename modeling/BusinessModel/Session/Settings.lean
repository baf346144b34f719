import BusinessModel.Session.Action

/-!
# Settings of a session

The settings in force are created when they are first asked for, and again when something is
overridden; after that they stay as they are, whatever happens to the places they came from.

* `Session.createSettings` — settings from the places as they are now
* `Session.settingsInForce` — the settings that everything else reads
-/

namespace BusinessModel.Session

open BusinessModel.Action

/-- The name of the environment file. -/
def envFileName : String := ".env"

/-- The text without a byte order mark in front. -/
def unmarked (text : String) : String :=
  match text.toList with
  | '\ufeff' :: rest => String.ofList rest
  | _ => text

/-- Complain about the lines of an environment file that make no sense, if warnings are let
through. -/
def warnOfSkipped (text : String) : Action Unit := do
  if (← current).log.letsWarn then
    say ((EnvFile.skippedLines text).map fun number => .complaint
      s!"python-dotenv could not parse statement starting at line {number}")

/-- The bindings of the environment file in the working directory, if it is there. -/
def envFileBindings : Action (List (String × Option String)) := do
  let s ← current
  match s.files.find s.directory envFileName with
  | .ok (.file content) =>
    match Utf8.decodeFile content with
    | .error fault => fail (.settingsNotText fault)
    | .ok marked => do
      let text := unmarked marked
      warnOfSkipped text
      return EnvFile.bindings s.environment text
  | _ => return []

/-- Settings from their places as they are now. -/
def createSettings (overrides : Mapping) : Action Settings := do
  let file ← envFileBindings
  let s ← current
  ofExcept ((Settings.load ⟨overrides, s.environment, file⟩).mapError .settings)

/-- Create settings and put them in force. -/
def replaceSettings (overrides : Mapping) : Action (Kept Settings) := do
  let kept ← keep (← createSettings overrides)
  change fun s => { s with settings := some kept }
  return kept

/-- The settings in force; new ones if there are none or if something is overridden. -/
def settingsInForce (overrides : Mapping) : Action (Kept Settings) := do
  match (← current).settings, overrides with
  | some kept, [] => return kept
  | _, _ => replaceSettings overrides

def forgetSettings : Action Unit :=
  change fun s => { s with settings := none }

end BusinessModel.Session
