import BusinessModel.Session.Action

/-!
# Documents of a session

A document is read from its file once and kept under the absolute place that its path names; from
then on the kept one is returned, whatever happens to the file.

* `Session.readMapping` — the root mapping of a file as it is now
* `Session.loadDocument` — the document of a path, kept or read
-/

namespace BusinessModel.Session

open BusinessModel.Action

/-- Name the generation that detection reads off a shape. -/
def noteDetection (doc : Value) : Action Unit :=
  match Generation.detectedByShape? doc with
  | some g => note .debug "bmml.detect" s!"Detected {g.name} from document structure"
  | none => done ()

/-- The root mapping of a file. -/
def readMapping (path : PathName) : Action Mapping := do
  let s ← current
  let name := path.text
  match s.files.find s.directory name with
  | .error problem =>
    fail (if problem.isAbsence then .load (.missing name) else .files problem name)
  | .ok .directory =>
    fail (.load (.malformed (.ofSource name
      s!"Failed to read file: {FileProblem.isDirectory.message name}")))
  | .ok (.file content) => ofExcept ((Document.mappingOfBytes name content).mapError .load)

/-- Read a document and keep it. -/
def readDocument (path : PathName) (place : List String) : Action (Kept Document) := do
  let content ← readMapping path
  noteDetection (.map content)
  let kept ← keep (Document.ofMapping path.text content)
  change fun s => { s with documents := (place, kept) :: s.documents }
  note .debug "bmml.loader"
    s!"Loaded {kept.value.generation.name} document from {PathName.absoluteText place}"
  return kept

/-- The document of a path. -/
def loadDocument (path : PathName) : Action (Kept Document) := do
  let s ← current
  if path.text.contains '\x00' then fail (.files .nullCharacter path.text)
  let place := path.resolve s.directory
  match s.documents.lookup place with
  | some kept => do
    note .debug "bmml.loader" s!"DocumentLoader cache hit: {PathName.absoluteText place}"
    return kept
  | none => readDocument path place

/-- The document of a text, which is not kept. -/
def documentOfText (text : String) : Action (Kept Document) := do
  keep (← ofExcept ((Document.ofText text).mapError .load))

def forgetDocuments : Action Unit :=
  change fun s => { s with documents := [] }

end BusinessModel.Session
