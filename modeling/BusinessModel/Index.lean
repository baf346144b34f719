import BusinessModel.Generation
import BusinessModel.Table

/-!
# Declared entities

One pass over a document collects the identifiers that references may name: customer segments with
their jobs, pains and gains, value propositions with their products, relievers and creators, and the
flat sets of key resources and key activities.  Several declarations of one identifier merge.

* `Index.build` — the index of a document
* `Index.hasSegment`, `Index.hasProposition`, `Index.isResourceOrActivity` — what a reference
  resolves to; values other than texts resolve to nothing
* `Index.profilesIn`, `Index.valueMapsIn` — unions over the entities that some references name
-/

namespace BusinessModel

/-- The items declared on a customer segment. -/
structure Profile where
  jobs : IdSet := []
  pains : IdSet := []
  gains : IdSet := []
  deriving DecidableEq, Repr, Inhabited

/-- The items declared on a value proposition.  Documents of the first generation declare products
and services only. -/
structure ValueMap where
  products : IdSet := []
  relievers : IdSet := []
  creators : IdSet := []
  deriving DecidableEq, Repr, Inhabited

/-- What a document declares. -/
structure Index where
  generation : Generation
  segments : Table Profile
  propositions : Table ValueMap
  resources : IdSet
  activities : IdSet
  deriving Repr, Inhabited

/-- The identifiers of the entries of a section, in order, with repetitions. -/
def Mapping.idsIn (m : Mapping) (key : String) : List String :=
  (Mapping.entries m key).filterMap fun entry => Mapping.id? entry.2

namespace Profile

/-- The profile with the items of one more declaration. -/
def declare (p : Profile) (entry : Mapping) : Profile where
  jobs := p.jobs.addAll (Mapping.idsIn entry "jobs")
  pains := p.pains.addAll (Mapping.idsIn entry "pains")
  gains := p.gains.addAll (Mapping.idsIn entry "gains")

end Profile

namespace ValueMap

/-- The value map with the items of one more declaration. -/
def declare (generation : Generation) (m : ValueMap) (entry : Mapping) : ValueMap where
  products := m.products.addAll (Mapping.idsIn entry "products_services")
  relievers := match generation with
    | .v1 => m.relievers
    | .v2 => m.relievers.addAll (Mapping.idsIn entry "pain_relievers")
  creators := match generation with
    | .v1 => m.creators
    | .v2 => m.creators.addAll (Mapping.idsIn entry "gain_creators")

end ValueMap

namespace Index

/-- The table of the entries of a section that have an identifier, `declare` merging each entry into
the value of its identifier. -/
def tabulate {α : Type} (doc : Mapping) (key : String) (init : α) (declare : α → Mapping → α) :
    Table α :=
  (Mapping.entries doc key).foldl
    (fun table entry => match Mapping.id? entry.2 with
      | some id => table.update id init (declare · entry.2)
      | none => table)
    []

/-- The index of a document, read as a document of a generation. -/
def build (doc : Mapping) (generation : Generation) : Index where
  generation := generation
  segments := tabulate doc "customer_segments" {} Profile.declare
  propositions := tabulate doc "value_propositions" {} (ValueMap.declare generation)
  resources := IdSet.ofList (Mapping.idsIn doc "key_resources")
  activities := IdSet.ofList (Mapping.idsIn doc "key_activities")

def segment? (index : Index) : Value → Option Profile
  | .str id => index.segments.get? id
  | _ => none

def valueMap? (index : Index) : Value → Option ValueMap
  | .str id => index.propositions.get? id
  | _ => none

def hasSegment (index : Index) (ref : Value) : Bool :=
  (index.segment? ref).isSome

def hasProposition (index : Index) (ref : Value) : Bool :=
  (index.valueMap? ref).isSome

/-- Partnerships and costs may name a resource as well as an activity. -/
def isResourceOrActivity (index : Index) : Value → Bool
  | .str id => index.resources.contains id || index.activities.contains id
  | _ => false

/-- The union of one kind of item over the segments that some references name. -/
def profilesIn (index : Index) (items : Profile → IdSet) (refs : List Value) : IdSet :=
  refs.foldl (fun found ref => match index.segment? ref with
    | some profile => found.addAll (items profile)
    | none => found) []

/-- The union of one kind of item over the value propositions that some references name. -/
def valueMapsIn (index : Index) (items : ValueMap → IdSet) (refs : List Value) : IdSet :=
  refs.foldl (fun found ref => match index.valueMap? ref with
    | some valueMap => found.addAll (items valueMap)
    | none => found) []

end Index

end BusinessModel
