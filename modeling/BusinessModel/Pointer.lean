/-!
# Pointers into a document

A pointer lists the steps from the root of a document to one of its parts.  Its text joins the steps
with slashes; a tilde and a slash inside a step are written `~0` and `~1`, so that distinct lists of
steps never share a text.  The root is written `/`.
-/

namespace BusinessModel

/-- One step down into a document: a member of a mapping or an item of a list. -/
inductive Step where
  | key (name : String)
  | index (i : Nat)
  deriving DecidableEq, Repr, Inhabited

abbrev Pointer := List Step

def Step.text : Step → String
  | .key name => name
  | .index i => i.repr

namespace Pointer

/-- The written form of one character of a step. -/
def escapeChar (c : Char) : List Char :=
  if c = '~' then ['~', '0'] else if c = '/' then ['~', '1'] else [c]

/-- The written form of a step. -/
def escape (s : String) : String :=
  String.ofList (s.toList.flatMap escapeChar)

/-- The pointer text of steps given by their texts. -/
def ofTexts (steps : List String) : String :=
  if steps.isEmpty then "/" else String.join (steps.map fun s => "/" ++ escape s)

/-- The text of a pointer. -/
def text (p : Pointer) : String :=
  ofTexts (p.map Step.text)

end Pointer

end BusinessModel
