import BusinessModel.Schema.Shapes

/-!
# The schema of the second generation

Entities have little more than an identifier and a name; references stand under the relations `for`
and `from`.
-/

namespace BusinessModel.Schema.TypedDocument

/-- An item of a customer profile. -/
def profileItem (kind : EntityKind) : Schema :=
  record ["id", "description"] [("id", idOf [kind]), ("description", text)]

/-- An item of a value map. -/
def valueMapItem (kind : EntityKind) : Schema :=
  record ["id", "name"] [("id", idOf [kind]), ("name", text)]

def customerSegment : Schema :=
  record ["id", "name"]
    [("id", idOf [.customerSegment]), ("name", text), ("description", text),
      ("jobs", listOf (profileItem .job)), ("pains", listOf (profileItem .pain)),
      ("gains", listOf (profileItem .gain))]

def valueProposition : Schema :=
  record ["id", "name"]
    [("id", idOf [.valueProposition]), ("name", text), ("description", text),
      ("products_services", listOf (valueMapItem .productService)),
      ("pain_relievers", listOf (valueMapItem .painReliever)),
      ("gain_creators", listOf (valueMapItem .gainCreator))]

/-- References to value propositions, by the name of their section. -/
def toPropositions : String × Schema := ("value_propositions", idsOf .valueProposition)

/-- References to segments, by the name of their section. -/
def toSegments : String × Schema := ("customer_segments", idsOf .customerSegment)

/-- References to resources, by the name of their section. -/
def toResources : String × Schema := ("key_resources", idsOf .keyResource)

/-- References to activities, by the name of their section. -/
def toActivities : String × Schema := ("key_activities", idsOf .keyActivity)

/-- A pair of a value-map item and a profile item. -/
def mapping : Schema :=
  .all [.hasType [.array], .leadingItems [text, text], .noItemsAfter 2, .minItems 2, .maxItems 2]

def fit : Schema :=
  record ["id", "for"]
    [("id", idOf [.fit]),
      ("for", record ["value_propositions", "customer_segments"] [toPropositions, toSegments]),
      ("mappings", listOf mapping)]

/-- An entity with a name and relations to other entities. -/
def linked (kind : EntityKind) (relations : List (String × List (String × Schema))) : Schema :=
  record ["id", "name"]
    ([("id", idOf [kind]), ("name", text)] ++
      relations.map fun relation => (relation.1, record [] relation.2))

/-- A document of the second generation. -/
def document : Schema :=
  documentOf "2.0"
    [("customer_segments", listOf customerSegment),
      ("value_propositions", listOf valueProposition),
      ("fits", listOf fit),
      ("channels", listOf (linked .channel [("for", [toPropositions, toSegments])])),
      ("customer_relationships",
        listOf (linked .customerRelationship [("for", [toSegments])])),
      ("revenue_streams",
        listOf (linked .revenueStream [("from", [toSegments]), ("for", [toPropositions])])),
      ("key_resources", listOf (linked .keyResource [("for", [toPropositions])])),
      ("key_activities", listOf (linked .keyActivity [("for", [toPropositions])])),
      ("key_partnerships",
        listOf (linked .keyPartnership [("for", [toResources, toActivities])])),
      ("costs", listOf (linked .cost [("for", [toResources, toActivities])]))]

end BusinessModel.Schema.TypedDocument
