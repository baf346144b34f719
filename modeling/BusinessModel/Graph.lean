import BusinessModel.Index

/-!
# The connection graph

The graph tells which customer segments every entity of a document ultimately serves.  It is built
in layers, each reading only the layers before it:

1. a segment serves itself
2. a value proposition serves the segments of every fit that names it
3. fits, channels, relationships and revenue streams serve the segments that they name
4. key resources and activities serve what their value propositions serve
5. partnerships and costs serve what their resources and activities serve

* `Graph.build` — the graph of a document, entities in order of first appearance
* `Graph.orphaned` — the entities that serve no segment
-/

namespace BusinessModel

/-- The segments that each entity serves. -/
abbrev Graph := Table IdSet

namespace Graph

/-- The graph with more segments for an entity. -/
def reach (g : Graph) (id : String) (segments : List String) : Graph :=
  g.update id [] (·.addAll segments)

/-- The segments of an entity, none for an entity that the graph does not have. -/
def reached (g : Graph) (id : String) : IdSet :=
  (g.get? id).getD []

/-- The graph with all of another graph added, entity by entity. -/
def merge (g layer : Graph) : Graph :=
  layer.foldl (fun g entity => reach g entity.1 entity.2) g

/-- The texts that an entry lists for a target under a relation. -/
def refs (entry : Mapping) (relation target : String) : List String :=
  Value.texts (Mapping.relation entry relation target)

/-- Add, for every entry of a section that has an identifier, the segments that `serves` finds. -/
def addSection (doc : Mapping) (key : String) (serves : Mapping → List String) (g : Graph) :
    Graph :=
  (Mapping.entries doc key).foldl
    (fun g entry => match Mapping.id? entry.2 with
      | some id => reach g id (serves entry.2)
      | none => g)
    g

/-- First layer: every declared segment serves itself, and nothing else at this point. -/
def segments (doc : Mapping) : Graph :=
  (Mapping.idsIn doc "customer_segments").foldl (fun g id => g.update id [] fun _ => [id]) []

/-- Second layer: value propositions that are declared or named by a fit. -/
def propositions (doc : Mapping) : Graph :=
  (Mapping.entries doc "fits").foldl
    (fun g fit => (refs fit.2 "for" "value_propositions").foldl
      (fun g id => reach g id (refs fit.2 "for" "customer_segments")) g)
    (addSection doc "value_propositions" (fun _ => []) [])

/-- Sections of the third layer, each with the relation under which its entries name segments. -/
def segmentSections : List (String × String) :=
  [("fits", "for"), ("channels", "for"), ("customer_relationships", "for"),
    ("revenue_streams", "from")]

/-- Fourth layer: key resources and key activities. -/
def resources (doc : Mapping) (propositions : Graph) : Graph :=
  let serves (entry : Mapping) : List String :=
    (refs entry "for" "value_propositions").flatMap propositions.reached
  ["key_resources", "key_activities"].foldl (fun g key => addSection doc key serves g) []

/-- Fifth layer: what partnerships and costs serve through resources and activities. -/
def servedThrough (resources : Graph) (entry : Mapping) : List String :=
  ["key_resources", "key_activities"].flatMap fun target =>
    (refs entry "for" target).flatMap resources.reached

/-- The connection graph of a document. -/
def build (doc : Value) : Graph :=
  let doc := doc.asMapping
  let props := propositions doc
  let named := segmentSections.foldl
    (fun g row => addSection doc row.1 (fun entry => refs entry row.2 "customer_segments") g)
    (merge (segments doc) props)
  let through := resources doc props
  ["key_partnerships", "costs"].foldl
    (fun g key => addSection doc key (servedThrough through) g)
    (merge named through)

/-- The declared segments, in order of declaration, each once. -/
def segmentOrder (doc : Value) : List String :=
  IdSet.ofList (Mapping.idsIn doc.asMapping "customer_segments")

/-- Whether an entity is absent from the graph or serves no segment. -/
def isOrphaned (g : Graph) (id : String) : Bool :=
  (g.reached id).isEmpty

/-- The entities of the graph that serve no segment. -/
def orphaned (g : Graph) : List String :=
  (g.filter fun entity => entity.2.isEmpty).map (·.1)

end Graph

end BusinessModel
