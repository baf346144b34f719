import BusinessModel.Value.Display

/-!
# Document generations

Documents come in two generations.  In the first, entities refer to each other through flat fields
(`customer_segment`, `for_value`, `provides`); in the second, through the relations `for` and
`from`, grouped by the section that they point into.

`Generation.detect` trusts an explicit `version` field and otherwise looks for the first section
whose first entry has the shape of one generation.  A document without any signal counts as the
first generation.
-/

namespace BusinessModel

inductive Generation where
  | v1
  | v2
  deriving DecidableEq, Repr, Inhabited

namespace Generation

def name : Generation → String
  | v1 => "v1"
  | v2 => "v2"

/-- The text of the `version` field of a document of this generation. -/
def discriminator : Generation → String
  | v1 => "1.0"
  | v2 => "2.0"

def ofName? (name : String) : Option Generation :=
  if name = "v1" then some v1 else if name = "v2" then some v2 else none

def ofDiscriminator? (text : String) : Option Generation :=
  if text = "1.0" then some v1 else if text = "2.0" then some v2 else none

/-- The generation that a `version` field states.  Without quotes the field is read as a double,
which states the generation by its text. -/
def stated? : Value → Option Generation
  | .str s => ofDiscriminator? s
  | .float x => ofDiscriminator? (floatText x)
  | _ => none

/-- The fields that only entries of the first generation have, by section, in the order in which
sections are looked at. -/
def flatFields : List (String × List String) :=
  [("fits", ["value_proposition", "customer_segment"]),
    ("channels", ["segments"]),
    ("customer_relationships", ["segment"]),
    ("revenue_streams", ["from_segments", "for_value"]),
    ("key_resources", ["for_value"]),
    ("key_partnerships", ["provides"])]

/-- The fields that only entries of the second generation have. -/
def relationFields : List String := ["for", "from"]

/-- What the first entry of a section tells about the generation. -/
def sectionSignal (doc : Mapping) (row : String × List String) : Option Generation :=
  match (Mapping.get doc row.1).asList with
  | .map first :: _ =>
    if relationFields.any (Mapping.hasKey first) then some v2
    else if row.2.any (Mapping.hasKey first) then some v1
    else none
  | _ => none

/-- What the shape of a document tells about its generation: the two forms of costs first, then the
first section with a signal. -/
def ofShape? (doc : Mapping) : Option Generation :=
  if (Mapping.get doc "costs").isList then some v2
  else if (Mapping.get doc "cost_structure").isMapping then some v1
  else flatFields.findSome? (sectionSignal doc)

/-- The generation of a document. -/
def detect (doc : Value) : Generation :=
  match doc with
  | .map entries =>
    match stated? (Mapping.get entries "version") with
    | some generation => generation
    | none => (ofShape? entries).getD v1
  | _ => v1

/-- The generation that detection read off the shape of a document, if it had to. -/
def detectedByShape? (doc : Value) : Option Generation :=
  match doc with
  | .map entries =>
    match stated? (Mapping.get entries "version") with
    | some _ => none
    | none => ofShape? entries
  | _ => none

end Generation

end BusinessModel
