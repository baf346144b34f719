/-!
# Identifier sets and tables

Sets of identifiers keep their members in order of insertion, each once; tables keep their keys in
order of first insertion, each once.  The views by which both are reasoned about are membership and
`Table.get?`.
-/

namespace BusinessModel

/-- A set of identifiers. -/
abbrev IdSet := List String

namespace IdSet

/-- The set with one more member. -/
def insert (s : IdSet) (id : String) : IdSet :=
  if s.contains id then s else s ++ [id]

/-- The set with more members. -/
def addAll (s : IdSet) (ids : List String) : IdSet :=
  ids.foldl insert s

/-- The set of some identifiers. -/
def ofList (ids : List String) : IdSet :=
  addAll [] ids

/-- The members in the order of their code points. -/
def sorted (s : IdSet) : List String :=
  s.mergeSort fun a b => decide (a ≤ b)

end IdSet

/-- A table from identifiers to `α`. -/
abbrev Table (α : Type) := List (String × α)

namespace Table

variable {α : Type}

/-- The value of a key. -/
def get? (t : Table α) (key : String) : Option α :=
  t.lookup key

def contains (t : Table α) (key : String) : Bool :=
  (get? t key).isSome

/-- The table with `f` applied to the value of a key; a new key is added at the end, with `f`
applied to `init`. -/
def update (t : Table α) (key : String) (init : α) (f : α → α) : Table α :=
  match t with
  | [] => [(key, f init)]
  | (k, v) :: rest => if k = key then (k, f v) :: rest else (k, v) :: update rest key init f

def keys (t : Table α) : List String :=
  t.map (·.1)

end Table

end BusinessModel
