import BusinessModel.Yaml.Literal
import BusinessModel.Yaml.Node

/-!
# Values of nodes

A value is built from a node as its tag says, once for all mentions of the node.  The entries of
merged mappings come in front of those of the mapping that merges them, so that its own entries win;
of several merged mappings an earlier one wins over a later one.

Collections are built in the order in which they are met: a collection is empty at first, and its
members are only built when it is its turn.  So of several failures the one on the highest level
counts, and of those the first.  A mapping takes in the entries that it merges when it is its turn,
or when another mapping merges it; whatever looks at it later finds it so.

* `Yaml.read` — the value of a text
-/

namespace BusinessModel.Yaml

/-- A scalar that may be a key.  What is no number is not even the same as another such scalar,
unless both are `.nan`, so it carries the number of its node. -/
structure Key where
  scalar : Scalar
  node : Option NodeId
  deriving DecidableEq, Repr

/-- Whether two scalars are the same key. -/
def Key.same (a b : Key) : Bool :=
  a.node == b.node && a.scalar.sameKey b.scalar

/-- What is built from a node: a scalar at once, a collection with members that come later. -/
inductive Part where
  | scalar (key : Key)
  | collection (node : NodeId)
  deriving DecidableEq, Repr

/-- The members of a collection. -/
inductive Members where
  | list (items : List Part)
  | pairs (items : List (Part × Part))
  | map (entries : List (Key × Part))
  | set (members : List Key)
  deriving Repr

/-- What has been built so far. -/
structure Builder where
  /-- The nodes, with the entries that mappings have taken in. -/
  nodes : Array Node
  /-- What has been built from each node. -/
  parts : Array (Option Part)
  /-- The members of the collections that have had their turn. -/
  members : Array (Option Members)
  /-- The collections in the order in which they were met. -/
  met : Array NodeId

/-- Building from nodes. -/
abbrev Build := StateT Builder (Except Failure)

namespace Build

def node (id : NodeId) : Build Node := do
  return (← get).nodes.getD id default

/-- Change what a node holds. -/
def hold (id : NodeId) (body : NodeBody) : Build Unit :=
  modify fun b => { b with nodes := b.nodes.modify id ({ · with body }) }

/-- Take away the special meaning of a value key. -/
def settleKey (id : NodeId) : Build Unit := do
  if (← node id).tag = Tag.value then
    modify fun b => { b with nodes := b.nodes.modify id ({ · with tag := Tag.str }) }

/-- The refusal of a node. -/
def refuse {α : Type} (problem : Problem) (node : Node) : Build α :=
  throw (node.failure problem)

/-- How deep nodes can be nested. -/
def depthLimit : Build Nat := do
  return (← get).nodes.size + 1

/-! ### Scalars -/

/-- The text of a node down to a depth: that of a scalar, or of the value of a value key. -/
def textWithin : Nat → NodeId → Build String
  | 0, _ => throw (.misfit .endless)
  | depth + 1, id => do
    let n ← node id
    match n.body with
    | .scalar text => return text
    | .sequence _ => refuse (.notOfShape .scalar .sequence) n
    | .mapping entries =>
      match ← entries.findM? fun entry => do return (← node entry.1).tag == Tag.value with
      | some (_, value) => textWithin depth value
      | none => refuse (.notOfShape .scalar .mapping) n

/-- The value of the text of a node with a scalar tag. -/
def scalarOf (tag : CoreTag) (node : Node) (text : String) : Except Failure Scalar :=
  match tag with
  | .null => .ok .null
  | .bool => (Scalar.bool <$> Literal.bool text).mapError .misfit
  | .int => (Scalar.int <$> Literal.int text).mapError .misfit
  | .float => (Scalar.float <$> Literal.float text).mapError .misfit
  | .timestamp =>
    if node.shape = .scalar then (Literal.timestamp text).mapError .misfit
    else .error (.misfit .noText)
  | .binary => (Scalar.bytes <$> Literal.binary text).mapError fun problem => node.failure problem
  | _ => .ok (.str text)

/-- The scalar of a node as a key. -/
def keyOf (tag : CoreTag) (id : NodeId) : Build Key := do
  let text ← textWithin (← depthLimit) id
  let scalar ← scalarOf tag (← node id) text
  return ⟨scalar, if scalar = .float .nan ∧ !Literal.isNotNumber text then some id else none⟩

/-! ### Collections -/

/-- Whether a tag stands for a collection. -/
def isCollection : CoreTag → Bool
  | .orderedPairs | .pairs | .set | .seq | .map => true
  | _ => false

/-- What is built from a node, now or at an earlier mention. -/
def part (id : NodeId) : Build Part := do
  match (← get).parts.getD id none with
  | some part => return part
  | none =>
    let n ← node id
    let part ← match Tag.core? n.tag with
      | none => refuse (.unknownTag n.tag) n
      | some tag =>
        if isCollection tag then do
          modify fun b => { b with met := b.met.push id }
          pure (Part.collection id)
        else Part.scalar <$> keyOf tag id
    modify fun b => { b with parts := b.parts.set! id (some part) }
    return part

/-- The entries that the value of a merge key brings.  Of a list of mappings the last one comes
first, so that the earlier ones win. -/
def mergeable (takeIn : NodeId → Build Unit) (id : NodeId) :
    Build (List (NodeId × NodeId)) := do
  let entriesOf (id : NodeId) : Build (List (NodeId × NodeId)) := do
    takeIn id
    match (← node id).body with
    | .mapping entries => return entries
    | _ => return []
  let n ← node id
  match n.body with
  | .scalar _ => refuse (.notMergeable .scalar) n
  | .mapping _ => entriesOf id
  | .sequence items =>
    let brought ← items.mapM fun item => do
      let n ← node item
      if n.shape = .mapping then entriesOf item else refuse (.itemNotMergeable n.shape) n
    return brought.reverse.flatten

/-- Let a mapping take in the entries that it merges, down to a depth. -/
def takeIn : Nat → NodeId → Build Unit
  | 0, _ => return
  | depth + 1, id => do
    let .mapping entries := (← node id).body | return
    let isMerge (entry : NodeId × NodeId) : Build Bool := do
      return (← node entry.1).tag == Tag.merge
    let merges ← entries.filterM isMerge
    let own ← entries.filterM fun entry => not <$> isMerge entry
    own.forM fun entry => settleKey entry.1
    if !merges.isEmpty then
      hold id (.mapping own)
      let merged ← merges.mapM fun entry => mergeable (takeIn depth) entry.2
      hold id (.mapping (merged.flatten ++ own))

/-- Entries with one more: a key that is there already keeps its place and takes the new value. -/
def withEntry (entries : List (Key × Part)) (key : Key) (value : Part) : List (Key × Part) :=
  match entries with
  | [] => [(key, value)]
  | (k, v) :: rest =>
    if k.same key then (k, value) :: rest else (k, v) :: withEntry rest key value

/-- The entries of a mapping.  Only scalars are keys. -/
def entriesOf (id : NodeId) : Build (List (Key × Part)) := do
  takeIn (← depthLimit) id
  let n ← node id
  let .mapping entries := n.body | refuse (.notOfShape .mapping n.shape) n
  entries.foldlM (fun built entry => do
    let .scalar key ← part entry.1 | refuse .unusableKey (← node entry.1)
    return withEntry built key (← part entry.2)) []

/-- The pairs of a list of mappings with a single entry each. -/
def pairsOf (id : NodeId) : Build (List (Part × Part)) := do
  let n ← node id
  let .sequence items := n.body | refuse (.pairsNotSequence n.shape) n
  items.mapM fun item => do
    let n ← node item
    match n.body with
    | .mapping [(key, value)] => return (← part key, ← part value)
    | .mapping entries => refuse (.pairNotSingle entries.length) n
    | _ => refuse (.pairNotMapping n.shape) n

/-- The members of a collection, when it is its turn. -/
def membersOf (id : NodeId) : Build Members := do
  let n ← node id
  match Tag.core? n.tag with
  | some .map => return .map (← entriesOf id)
  | some .set => return .set ((← entriesOf id).map (·.1))
  | some .orderedPairs | some .pairs => return .pairs (← pairsOf id)
  | _ =>
    let .sequence items := n.body | refuse (.notOfShape .sequence n.shape) n
    return .list (← items.mapM part)

/-- Give the collections from a position on their turn.  Every collection is met once, so there are
at most as many turns as nodes. -/
def takeTurns : Nat → Nat → Build Unit
  | 0, _ => return
  | turns + 1, position => do
    match (← get).met[position]? with
    | none => return
    | some id =>
      let members ← membersOf id
      modify fun b => { b with members := b.members.set! id (some members) }
      takeTurns turns (position + 1)

/-! ### Values -/

/-- The value of a part down to a depth, inside some collections.  A collection among those around
it is nested in itself. -/
def valueOf (b : Builder) : Nat → List NodeId → Part → Except Failure Value
  | _, _, .scalar key => .ok (.scalar key.scalar)
  | 0, _, .collection _ => .error (.misfit .endless)
  | depth + 1, around, .collection id =>
    if around.contains id then .error (.misfit .endless)
    else
      let within := valueOf b depth (id :: around)
      match b.members.getD id none with
      | none => .ok .null
      | some (.list items) => return .list (← items.mapM within)
      | some (.pairs items) =>
        return .list (← items.mapM fun pair => do
          return .tuple [← within pair.1, ← within pair.2])
      | some (.map entries) =>
        return .map (← entries.mapM fun entry => do
          return (entry.1.scalar, ← within entry.2))
      | some (.set members) => .ok (.set (members.map (·.scalar)))

end Build

namespace Nodes

/-- The value of a document. -/
def value (nodes : Nodes) : Except Failure Value := do
  let size := nodes.all.size
  let build : Build Part := do
    let root ← Build.part nodes.root
    Build.takeTurns (size + 1) 0
    return root
  let (root, builder) ←
    build.run ⟨nodes.all, Array.replicate size none, Array.replicate size none, #[]⟩
  Build.valueOf builder (size + 1) [] root

end Nodes

/-- Whether a character may stand in a document. -/
def isAcceptable (c : Char) : Bool :=
  c == '\t' || c == '\n' || c == '\r' || (' ' ≤ c && c ≤ '~') || c == '\x85' ||
    ('\xa0' ≤ c && c ≤ '\ufffd') || 0x10000 ≤ c.toNat

/-- The value of a text.  A text without documents is null. -/
def read (text : String) : Except Failure Value :=
  match text.toList.zipIdx.find? fun c => !isAcceptable c.1 with
  | some (c, position) => .error (.malformed ⟨.unacceptable c.toNat position, none⟩)
  | none => do
    match ← Nodes.ofText text with
    | none => return .null
    | some nodes => nodes.value

end BusinessModel.Yaml
