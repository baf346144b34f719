import BusinessModel.Session.Documents
import BusinessModel.Session.Settings
import BusinessModel.Validation

/-!
# Schemas of a session

The schema of a generation comes from a directory that is given, or else from the one that the
settings name, or else from the program itself.  A schema that was read and found sound is kept
under the text of its directory and its generation; from then on the kept one is used, whatever
happens to the file.

* `Session.readSchema` — the schema document in a place, as it is now
* `Session.validator` — the schema for a generation, kept or read
* `Session.validate`, `Session.validateFile` — reports on documents
-/

namespace BusinessModel.Session

open BusinessModel.Action

/-- The name of the schema file of a generation. -/
def schemaFileName (generation : Generation) : String :=
  s!"bmml-{generation.name}.schema.json"

/-- The place of schemas: a given directory, the one of the settings, or the program. -/
def schemaPlace (directory : Option PathName) : Action SchemaPlace := do
  match directory with
  | some path => return .directory path.text
  | none =>
    let kept ← settingsInForce []
    match kept.value.schemaPath with
    | some path => return .directory path.text
    | none => return .packaged

/-- The schema document of a generation in a directory. -/
def readSchema (directory : String) (generation : Generation) : Action Value := do
  let s ← current
  let name := ((PathName.ofText directory).child (schemaFileName generation)).text
  match s.files.find s.directory name with
  | .error problem => fail (if problem.isAbsence then .noSchema name else .files problem name)
  | .ok .directory => fail (.files .isDirectory name)
  | .ok (.file content) =>
    match Utf8.decodeFile content with
    | .error fault => fail (.schemaNotText fault)
    | .ok text => ofExcept ((Json.read text).mapError .schemaNotJson)

/-- The schema that a schema document describes, if it is sound. -/
def checkedSchema (doc : Value) : Except Fault Schema :=
  match Schema.documentFault? doc with
  | some fault => .error (.badSchema fault)
  | none => .ok (Schema.ofDocument doc)

/-- The title of the schema of a generation. -/
def schemaTitle (generation : Generation) (directory : Option PathName) : Action Value := do
  match ← schemaPlace directory with
  | .packaged => return .str (Validation.packagedTitle generation)
  | .directory path => return Schema.titleOf (← readSchema path generation)

/-- The schema of a generation in a place, as it is now. -/
def schemaIn (place : SchemaPlace) (generation : Generation) : Action Schema := do
  match place with
  | .packaged => return Validation.packaged generation
  | .directory path =>
    let doc ← readSchema path generation
    ofExcept (checkedSchema doc)

/-- The schema to validate documents of a generation with. -/
def validator (generation : Generation) (directory : Option PathName) : Action Schema := do
  let place ← schemaPlace directory
  match (← current).validators.lookup (place, generation) with
  | some schema => return schema
  | none =>
    let schema ← schemaIn place generation
    change fun s => { s with validators := ((place, generation), schema) :: s.validators }
    return schema

/-- The report of a document against the schema of a given generation or else of its own. -/
def validate (doc : Value) (generation : Option Generation) (directory : Option PathName) :
    Action Validation.Report := do
  if generation.isNone then noteDetection doc
  let generation := generation.getD (Generation.detect doc)
  let schema ← validator generation directory
  let report ← ofExcept ((Validation.check generation schema doc).mapError .longInteger)
  if !report.valid then
    note .debug "bmml.validator"
      s!"Validation failed for {generation.name} document: {report.issues.length} error(s)"
  return report

/-- The report of a file that cannot be loaded.  A misfit is not reported. -/
def unreadableReport (path : PathName) (generation : Option Generation) :
    LoadFault → Action Validation.Report
  | .missing _ => done (.unreadable (generation.getD .v1) s!"File not found: {path.text}")
  | .malformed fault => done (.unreadable (generation.getD .v1) fault.message)
  | .misfit m => fail (.load (.misfit m))

/-- The report of a file as it is now. -/
def validateFile (path : PathName) (generation : Option Generation) :
    Action Validation.Report := do
  match ← orElseLoad (Sum.inl <$> readMapping path)
    fun fault => Sum.inr <$> unreadableReport path generation fault with
  | .inl content => validate (.map content) generation none
  | .inr report => return report

def forgetValidators : Action Unit :=
  change fun s => { s with validators := [] }

end BusinessModel.Session
