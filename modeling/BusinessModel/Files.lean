import BusinessModel.PathName
import BusinessModel.Text.Quoted

/-!
# Files

A file tree holds contents and directories by their absolute components.  Paths are followed
component by component: double dots lead back only out of something that exists, and only
directories have anything inside.  Names have a limited length, and so have paths.

* `Files.find` — what a path text leads to, seen from a directory
* `Files.write`, `Files.makeDirectories`, `Files.delete` — changes of a tree at a path, unless
  something is in the way
-/

namespace BusinessModel

/-- What stands at a place of a file tree. -/
inductive Entry where
  | file (content : List UInt8)
  | directory
  deriving DecidableEq, Repr, Inhabited

/-- What keeps a path from being followed, or its place from being changed or read. -/
inductive FileProblem where
  /-- Nothing stands there. -/
  | missing
  /-- Something stands there already. -/
  | occupied
  /-- A file stands on the way there. -/
  | notADirectory
  | isDirectory
  /-- The path or one of its components is too long. -/
  | nameTooLong
  /-- A null character stands in the path. -/
  | nullCharacter
  deriving DecidableEq, Repr

namespace FileProblem

def message (path : String) : FileProblem → String
  | missing => s!"[Errno 2] No such file or directory: {quoted path}"
  | occupied => s!"[Errno 17] File exists: {quoted path}"
  | notADirectory => s!"[Errno 20] Not a directory: {quoted path}"
  | isDirectory => s!"[Errno 21] Is a directory: {quoted path}"
  | nameTooLong => s!"[Errno 36] File name too long: {quoted path}"
  | nullCharacter => "embedded null byte"

/-- Whether a problem means no more than that a path leads nowhere. -/
def isAbsence : FileProblem → Bool
  | missing | notADirectory | nullCharacter => true
  | _ => false

end FileProblem

/-- The most bytes that a component of a path has. -/
def nameLimit : Nat := 255

/-- The most bytes that a path has. -/
def pathLimit : Nat := 4095

/-- A file tree. -/
structure Files where
  entries : List (List String × Entry)
  deriving Repr, Inhabited

namespace Files

/-- What stands at an absolute place.  The root is always there. -/
def at? (t : Files) (place : List String) : Option Entry :=
  if place.isEmpty then some .directory else t.entries.lookup place

/-- The tree without the entry at a place. -/
def erase (t : Files) (place : List String) : Files :=
  ⟨t.entries.filter fun e => e.1 != place⟩

/-- The tree with an entry at a place. -/
def put (t : Files) (place : List String) (entry : Entry) : Files :=
  ⟨(place, entry) :: (t.erase place).entries⟩

/-- The tree with a directory at a place and at all places above it that are free. -/
def putDirectories (t : Files) (place : List String) : Files :=
  (List.range (place.length + 1)).foldl
    (fun t n => match t.at? (place.take n) with
      | some _ => t
      | none => t.put (place.take n) .directory) t

/-! ### Following paths -/

/-- One component further, out of a directory. -/
def enter (t : Files) (place : List String) (part : String) :
    Except FileProblem (List String) :=
  match t.at? place with
  | none => .error .missing
  | some (.file _) => .error .notADirectory
  | some .directory =>
    if part = "" ∨ part = "." then .ok place
    else if part = ".." then .ok place.dropLast
    else if nameLimit < part.utf8ByteSize then .error .nameTooLong
    else if (t.at? (place ++ [part])).isSome then .ok (place ++ [part])
    else .error .missing

/-- A path text, if there is a path that it can be. -/
def checkText (path : String) : Except FileProblem String :=
  if path.contains '\x00' then .error .nullCharacter
  else if path.isEmpty then .error .missing
  else if pathLimit < path.utf8ByteSize then .error .nameTooLong
  else .ok path

/-- What a path text leads to from a directory. -/
def find (t : Files) (directory : List String) (path : String) : Except FileProblem Entry := do
  let path ← checkText path
  let start := if path.startsWith "/" then [] else directory
  match t.at? (← (path.splitOn "/").foldlM t.enter start) with
  | some entry => return entry
  | none => throw .missing

/-- The place that a path name stands for, in a directory that is there, and what stands at it. -/
def target (t : Files) (directory : List String) (path : PathName) :
    Except FileProblem (List String × Option Entry) := do
  let _ ← checkText path.text
  let start := if path.isAbsolute then [] else directory
  match path.parts.getLast? with
  | none => return (start, some .directory)
  | some last =>
    let above ← path.parent.parts.foldlM t.enter start
    match t.enter above last with
    | .ok place => return (place, t.at? place)
    | .error .missing => return (above ++ [last], none)
    | .error problem => throw problem

/-! ### Changes -/

/-- The tree with a file at a path, in a directory that is there. -/
def write (t : Files) (directory : List String) (content : List UInt8) (path : PathName) :
    Except FileProblem Files := do
  match ← t.target directory path with
  | (_, some .directory) => throw .isDirectory
  | (place, _) => return t.put place (.file content)

/-- The tree without the file at a path. -/
def delete (t : Files) (directory : List String) (path : PathName) :
    Except FileProblem Files := do
  match ← t.target directory path with
  | (_, none) => throw .missing
  | (_, some .directory) => throw .isDirectory
  | (place, some (.file _)) => return t.erase place

/-- The tree with a directory at a path, in a directory that is there. -/
def makeDirectory (t : Files) (directory : List String) (path : PathName) :
    Except FileProblem Files := do
  match ← t.target directory path with
  | (_, some .directory) => return t
  | (_, some (.file _)) => throw .occupied
  | (place, none) => return t.put place .directory

/-- The tree with a directory at a path and at all paths above it, as far as they can be made, and
the path at which one cannot. -/
def makeDirectories (t : Files) (directory : List String) (path : PathName) :
    Files × Except (FileProblem × PathName) Unit :=
  match t.makeDirectory directory path with
  | .ok t => (t, .ok ())
  | .error problem =>
    if h : problem = .missing ∧ path.parts ≠ [] then
      have : path.parent.parts.length < path.parts.length := by
        have := List.length_pos_iff.2 h.2
        simp only [PathName.parent, List.length_dropLast]
        omega
      match t.makeDirectories directory path.parent with
      | (t, .error fault) => (t, .error fault)
      | (t, .ok ()) =>
        match t.makeDirectory directory path with
        | .ok t => (t, .ok ())
        | .error problem => (t, .error (problem, path))
    else (t, .error (problem, path))
termination_by path.parts.length

end Files

end BusinessModel
