/-!
# Path names

A path name is a list of components, with one or two slashes in front of it if it is absolute.
Empty components and single dots mean nothing and are dropped, double dots are kept.  The name
without components is written as a dot.

* `PathName.ofText`, `PathName.text` — reading and writing
* `PathName.resolve` — the absolute components, double dots resolved by name alone
-/

namespace BusinessModel

/-- A path name. -/
structure PathName where
  /-- How many slashes mark the root: none for a relative name. -/
  slashes : Nat
  parts : List String
  deriving DecidableEq, Repr, Inhabited

namespace PathName

/-- Whether a component names something. -/
def isPart (part : String) : Bool := part != "" && part != "."

/-- The path name that a text writes.  Exactly two slashes in front are kept as two. -/
def ofText (s : String) : PathName :=
  let leading := (s.toList.takeWhile (· == '/')).length
  ⟨if leading ≤ 2 then leading else 1, (s.splitOn "/").filter isPart⟩

/-- The text of a path name. -/
def text (p : PathName) : String :=
  let root := String.ofList (List.replicate p.slashes '/')
  let whole := root ++ "/".intercalate p.parts
  if whole.isEmpty then "." else whole

/-- The path name of something inside. -/
def child (p : PathName) (name : String) : PathName :=
  { p with parts := p.parts ++ [name] }

/-- The path name without its last component. -/
def parent (p : PathName) : PathName :=
  { p with parts := p.parts.dropLast }

def isAbsolute (p : PathName) : Bool := p.slashes != 0

/-- One component further; double dots lead back. -/
def follow (place : List String) (part : String) : List String :=
  if part = ".." then place.dropLast else place ++ [part]

/-- The absolute components of a name, seen from a directory. -/
def resolve (directory : List String) (p : PathName) : List String :=
  p.parts.foldl follow (if p.isAbsolute then [] else directory)

/-- The text of absolute components. -/
def absoluteText (parts : List String) : String :=
  "/" ++ "/".intercalate parts

end PathName

end BusinessModel
