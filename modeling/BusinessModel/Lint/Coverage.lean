import BusinessModel.Index
import BusinessModel.Lint.Finding

/-!
# Coverage

After all references, a document is checked for declared entities that no fit uses.  A rule set
gathers what the fits of its generation use into a `Coverage`; the findings are the same function of
it for both generations.
-/

namespace BusinessModel.Lint

/-- What the fits of a document use. -/
structure Coverage where
  segments : IdSet := []
  propositions : IdSet := []
  pains : IdSet := []
  gains : IdSet := []
  jobs : IdSet := []
  /-- The products and services in use, where fits name any. -/
  products : Option IdSet := none

namespace Coverage

/-- The entries of a section whose identifier is not in use. -/
def unusedIn (m : Mapping) (key : String) (used : IdSet) : List (Nat × String) :=
  (Mapping.entries m key).filterMap fun entry => match Mapping.id? entry.2 with
    | some id => if used.contains id then none else some (entry.1, id)
    | none => none

/-- Declared entities that no fit names. -/
def unfitted (doc : Mapping) (key : String) (used : IdSet) (rule : Rule) (kind : EntityKind) :
    List Finding :=
  (unusedIn doc key used).map fun item => ⟨rule, [.key key, .index item.1], .noFits kind item.2⟩

/-- Items of one declared entity that no fit uses. -/
def unusedItems (place : Pointer) (entry : Mapping) (key : String) (used : IdSet) (rule : Rule)
    (kind : EntityKind) : List Finding :=
  (unusedIn entry key used).map fun item =>
    ⟨rule, place ++ [.key key, .index item.1], .unused kind item.2⟩

/-- Profile items of every segment: its pains, then its gains, then its jobs. -/
def unusedProfileItems (doc : Mapping) (c : Coverage) : List Finding :=
  (Mapping.entries doc "customer_segments").flatMap fun entry =>
    let place := [.key "customer_segments", .index entry.1]
    unusedItems place entry.2 "pains" c.pains .painNeverRelieved .pain ++
      unusedItems place entry.2 "gains" c.gains .gainNeverCreated .gain ++
      unusedItems place entry.2 "jobs" c.jobs .jobNeverAddressed .job

/-- Products and services of every value proposition. -/
def unusedProducts (doc : Mapping) (used : IdSet) : List Finding :=
  (Mapping.entries doc "value_propositions").flatMap fun entry =>
    unusedItems [.key "value_propositions", .index entry.1] entry.2 "products_services" used
      .productServiceNeverUsed .productService

/-- Everything that is declared and not in use. -/
def findings (doc : Mapping) (c : Coverage) : List Finding :=
  unfitted doc "customer_segments" c.segments .segmentNoFits .customerSegment ++
    unfitted doc "value_propositions" c.propositions .vpNoFits .valueProposition ++
    unusedProfileItems doc c ++
    match c.products with
    | some used => unusedProducts doc used
    | none => []

end Coverage

end BusinessModel.Lint
