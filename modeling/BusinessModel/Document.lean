import BusinessModel.Generation
import BusinessModel.Text.Utf8
import BusinessModel.Yaml.Content

/-!
# Documents

A document is a YAML text whose root is a mapping.  It keeps the name of the source it was read from
and the generation that was detected for it.

* `Document.parse` — the value of any YAML text
* `Document.ofText`, `Document.ofBytes` — the document of a text or of the content of a file
-/

namespace BusinessModel

/-- Why a text could not be read as a document, and where. -/
structure ParseFault where
  detail : String
  path : String
  line : Option Int
  column : Option Int
  source : String
  deriving DecidableEq, Repr

namespace ParseFault

/-- A fault of a whole source. -/
def ofSource (source detail : String) : ParseFault := ⟨detail, "/", none, none, source⟩

/-- The detail behind its place; a source without a name is just a string. -/
def message (f : ParseFault) : String :=
  let name := if f.source.isEmpty then "<string>" else f.source
  let place := match f.line, f.column with
    | some line, some column => s!"{name}:{line}:{column}"
    | some line, none => s!"{name}:{line}"
    | none, _ => name
  s!"{place}: {f.detail}"

end ParseFault

/-- Why a document could not be loaded. -/
inductive LoadFault where
  /-- There is nothing at the path. -/
  | missing (path : String)
  | malformed (fault : ParseFault)
  /-- A scalar has no value of its type; this is not reported as a fault of the text. -/
  | misfit (m : Yaml.Misfit)
  deriving DecidableEq, Repr

def LoadFault.message : LoadFault → String
  | missing path => s!"Document not found: {path}"
  | malformed fault => fault.message
  | misfit m => m.message

/-- The name of the type of a value. -/
def Value.typeName : Value → String
  | .null => "NoneType"
  | .bool _ => "bool"
  | .int _ => "int"
  | .float _ => "float"
  | .str _ => "str"
  | .scalar (.bytes _) => "bytes"
  | .scalar (.date _) => "date"
  | .scalar (.datetime _) => "datetime"
  | .list _ => "list"
  | .tuple _ => "tuple"
  | .set _ => "set"
  | .map _ => "dict"

/-- A parsed document and its generation. -/
structure Document where
  content : Mapping
  generation : Generation
  source : String
  deriving Repr, Inhabited

namespace Document

/-- The fault that a YAML failure is reported as; lines and columns count from one. -/
def faultOf (source : String) : Yaml.Failure → LoadFault
  | .malformed fault => .malformed
    { ParseFault.ofSource source s!"YAML parse error: {fault.problem.message}" with
      line := fault.mark.map (·.line + 1)
      column := fault.mark.map (·.column + 1) }
  | .misfit m => .misfit m

/-- The value of any YAML text. -/
def parse (source text : String) : Except LoadFault Value :=
  (Yaml.read text).mapError (faultOf source)

/-- The root of a document, which must be a mapping. -/
def requireMapping (source : String) : Value → Except LoadFault Mapping
  | .map entries => .ok entries
  | root => .error (.malformed
      (.ofSource source s!"Expected YAML mapping at document root, got {root.typeName}"))

/-- The root mapping of a text. -/
def mappingOfText (source text : String) : Except LoadFault Mapping := do
  requireMapping source (← parse source text)

/-- The root mapping of the content of a file. -/
def mappingOfBytes (source : String) (bytes : List UInt8) : Except LoadFault Mapping :=
  match Utf8.decodeFile bytes with
  | .ok text => mappingOfText source text
  | .error fault => .error (.malformed (.ofSource source s!"Failed to read file: {fault.message}"))

/-- The document with a root mapping. -/
def ofMapping (source : String) (content : Mapping) : Document where
  content := content
  generation := Generation.detect (.map content)
  source := source

/-- The document of a text without a name. -/
def ofText (text : String) : Except LoadFault Document := do
  return ofMapping "" (← mappingOfText "" text)

end Document

end BusinessModel
