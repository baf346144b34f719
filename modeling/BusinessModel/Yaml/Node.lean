import BusinessModel.Yaml.Event

/-!
# Nodes

The nodes of a document, before values are built from them.  Every node has a number, in the order
in which nodes begin; an alias is another mention of the number that its anchor names.  The anchor
must be written first, and only once in a document.

* `Nodes.ofText` — the nodes of the only document of a text
-/

namespace BusinessModel.Yaml

/-- The number of a node. -/
abbrev NodeId := Nat

/-- What a node holds. -/
inductive NodeBody where
  | scalar (text : String)
  | sequence (items : List NodeId)
  | mapping (entries : List (NodeId × NodeId))
  deriving DecidableEq, Repr, Inhabited

/-- A node of a document. -/
structure Node where
  tag : String
  mark : Mark
  body : NodeBody
  deriving DecidableEq, Repr, Inhabited

namespace Node

def shape (node : Node) : NodeShape :=
  match node.body with
  | .scalar _ => .scalar
  | .sequence _ => .sequence
  | .mapping _ => .mapping

/-- What is wrong with a node. -/
def failure (problem : Problem) (node : Node) : Failure :=
  .malformed ⟨problem, some node.mark⟩

end Node

/-- The nodes of a document by their numbers, and the one that holds all others. -/
structure Nodes where
  all : Array Node
  root : NodeId
  deriving Repr, Inhabited

/-- A collection whose end has not come yet. -/
structure OpenCollection where
  node : NodeId
  isMapping : Bool
  /-- Its members so far, last first. -/
  members : List NodeId

namespace OpenCollection

/-- Every second member is the value of the key in front of it. -/
def inPairs : List NodeId → List (NodeId × NodeId)
  | key :: value :: rest => (key, value) :: inPairs rest
  | _ => []

/-- What a collection holds in the end. -/
def body (c : OpenCollection) : NodeBody :=
  let members := c.members.reverse
  if c.isMapping then .mapping (inPairs members) else .sequence members

end OpenCollection

/-- A document that grows along the walk through it. -/
structure Growth where
  nodes : Array Node
  /-- The collections around the current place, innermost first. -/
  around : List OpenCollection
  /-- What the anchors of the document name. -/
  anchors : List (String × NodeId)
  root : Option NodeId

namespace Growth

def empty : Growth := ⟨#[], [], [], none⟩

def refuse {α : Type} (problem : Problem) (mark : Mark) : Except Failure α :=
  .error (.malformed ⟨problem, some mark⟩)

/-- Mention a node at the current place. -/
def place (g : Growth) (node : NodeId) : Growth :=
  match g.around with
  | [] => { g with root := some node }
  | innermost :: outer =>
    { g with around := { innermost with members := node :: innermost.members } :: outer }

/-- Begin a node.  Its anchor must be new. -/
def begin (g : Growth) (p : Properties) (body : NodeBody) : Except Failure Growth :=
  let id := g.nodes.size
  let nodes := g.nodes.push ⟨p.tag, p.mark, body⟩
  match p.anchor with
  | none => .ok ({ g with nodes }.place id)
  | some anchor =>
    if (g.anchors.lookup anchor).isSome then refuse .repeatedAnchor p.mark
    else .ok ({ g with nodes, anchors := (anchor, id) :: g.anchors }.place id)

/-- Begin a collection. -/
def enter (g : Growth) (p : Properties) (isMapping : Bool) : Except Failure Growth := do
  let id := g.nodes.size
  let g ← g.begin p (if isMapping then .mapping [] else .sequence [])
  return { g with around := ⟨id, isMapping, []⟩ :: g.around }

/-- Finish the innermost collection. -/
def close (g : Growth) : Growth :=
  match g.around with
  | [] => g
  | c :: outer =>
    { g with around := outer, nodes := g.nodes.modify c.node ({ · with body := c.body }) }

/-- One step of the walk. -/
def step (g : Growth) : Event → Except Failure Growth
  | .documentStart mark => if g.root.isSome then refuse .anotherDocument mark else .ok g
  | .documentEnd => .ok { g with anchors := [] }
  | .streamEnd => .ok g
  | .reference anchor mark =>
    match g.anchors.lookup anchor with
    | some node => .ok (g.place node)
    | none => refuse (.undefinedAlias anchor) mark
  | .scalar p text => g.begin p (.scalar text)
  | .sequenceStart p => g.enter p false
  | .mappingStart p => g.enter p true
  | .sequenceEnd | .mappingEnd => .ok g.close

end Growth

namespace Nodes

/-- The nodes of the only document of a text; a text without documents has none. -/
def ofText (text : String) : Except Failure (Option Nodes) := do
  let (events, ending) := Walk.events text
  let growth ← events.foldlM Growth.step Growth.empty
  match ending with
  | some failure => .error failure
  | none => return growth.root.map fun root => ⟨growth.nodes, root⟩

end Nodes

end BusinessModel.Yaml
