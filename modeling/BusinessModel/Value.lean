import BusinessModel.Number.Binary64
import BusinessModel.Calendar

/-!
# Document values

A parsed document is a tree of scalars, lists and mappings, as a document language can write them.
Only scalars are keys of mappings and members of sets.  Mappings keep the order in which their keys
were first written.

The accessors are tolerant: an absent or ill-typed part reads as empty, and entries of the wrong
type are skipped without renumbering the others, so that their indices stay valid in pointers.

* `Mapping.get` — the value of a text key, null when it is absent
* `Mapping.entries` — the numbered mappings of a section
* `Mapping.relation` — the references that an entry makes under a relation to one kind of target
-/

namespace BusinessModel

/-- A value without parts. -/
inductive Scalar where
  | null
  | bool (b : Bool)
  | int (n : Int)
  | float (x : Binary64)
  | str (s : String)
  | bytes (content : List UInt8)
  | date (d : Date)
  | datetime (t : DateTime)
  deriving DecidableEq, Repr, Inhabited

/-- A document tree. -/
inductive Value where
  | scalar (s : Scalar)
  | list (items : List Value)
  | tuple (items : List Value)
  | set (members : List Scalar)
  | map (entries : List (Scalar × Value))
  deriving Repr, Inhabited

/-- The entries of a mapping, in order. -/
abbrev Mapping := List (Scalar × Value)

namespace Scalar

/-- The number that a scalar stands for as a key: truth values count as zero and one. -/
def toInt? : Scalar → Option Int
  | .bool b => some (if b then 1 else 0)
  | .int n => some n
  | _ => none

/-- Whether two scalars are the same key: numbers by their value, times by their moment, everything
else, and what is not a number, by identity. -/
def sameKey (a b : Scalar) : Bool :=
  match a, b with
  | .float x, .float y => x == y || x.numEq y
  | .float x, b => match b.toInt? with
    | some n => x.eqInt n
    | none => false
  | a, .float y => match a.toInt? with
    | some n => y.eqInt n
    | none => false
  | .datetime t, .datetime u => t.sameMoment u
  | a, b => match a.toInt?, b.toInt? with
    | some m, some n => m == n
    | _, _ => a == b

end Scalar

namespace Value

@[match_pattern] abbrev null : Value := .scalar .null
@[match_pattern] abbrev bool (b : Bool) : Value := .scalar (.bool b)
@[match_pattern] abbrev int (n : Int) : Value := .scalar (.int n)
@[match_pattern] abbrev float (x : Binary64) : Value := .scalar (.float x)
@[match_pattern] abbrev str (s : String) : Value := .scalar (.str s)

/-- The items of a list, none for any other value. -/
def asList : Value → List Value
  | .list items => items
  | _ => []

/-- The entries of a mapping, none for any other value. -/
def asMapping : Value → Mapping
  | .map entries => entries
  | _ => []

/-- The entries of a mapping, if the value is one. -/
def mapping? : Value → Option Mapping
  | .map entries => some entries
  | _ => none

/-- The text of a text value. -/
def str? : Value → Option String
  | .str s => some s
  | _ => none

def isList : Value → Bool
  | .list _ => true
  | _ => false

def isMapping : Value → Bool
  | .map _ => true
  | _ => false

/-- The texts among some values. -/
def texts (values : List Value) : List String :=
  values.filterMap str?

end Value

namespace Mapping

/-- The value of a text key. -/
def get? (m : Mapping) (key : String) : Option Value :=
  m.lookup (.str key)

/-- The value of a text key, null when it is absent. -/
def get (m : Mapping) (key : String) : Value :=
  (get? m key).getD .null

def hasKey (m : Mapping) (key : String) : Bool :=
  (get? m key).isSome

/-- The mapping with a key set: a key already present keeps its place and takes the new value. -/
def set (m : Mapping) (key : Scalar) (value : Value) : Mapping :=
  match m with
  | [] => [(key, value)]
  | (k, v) :: rest => if k.sameKey key then (k, value) :: rest else (k, v) :: set rest key value

/-- The mapping that some pairs leave behind when they are set one after another. -/
def ofPairs (pairs : List (Scalar × Value)) : Mapping :=
  pairs.foldl (fun m pair => set m pair.1 pair.2) []

/-- The mappings among the items of the list under `key`, each with its index in that list. -/
def entries (m : Mapping) (key : String) : List (Nat × Mapping) :=
  (get m key).asList.zipIdx.filterMap fun item => item.1.mapping?.map fun entry => (item.2, entry)

/-- The items that an entry lists for `target` under `relation`. -/
def relation (entry : Mapping) (relation target : String) : List Value :=
  (get (get entry relation).asMapping target).asList

/-- The text that an entry has as its identifier. -/
def id? (entry : Mapping) : Option String :=
  (get entry "id").str?

end Mapping

end BusinessModel
