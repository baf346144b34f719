import BusinessModel.Schema.Shapes

/-!
# The schema of the first generation

Entities carry descriptive fields beside their identifier, and flat reference fields.
-/

namespace BusinessModel.Schema.FlatDocument

def level : Schema := choice ["low", "medium", "high"]

def job : Schema :=
  record ["id", "type", "description"]
    [("id", idOf [.job]), ("type", choice ["functional", "emotional", "social"]),
      ("description", text), ("importance", level)]

def pain : Schema :=
  record ["id", "description"]
    [("id", idOf [.pain]), ("description", text), ("severity", level)]

def gain : Schema :=
  record ["id", "description"]
    [("id", idOf [.gain]), ("description", text), ("importance", level)]

def customerSegment : Schema :=
  record ["id", "name"]
    [("id", idOf [.customerSegment]), ("name", text), ("description", text),
      ("jobs", listOf job), ("pains", listOf pain), ("gains", listOf gain)]

def productService : Schema :=
  record ["id", "type", "description"]
    [("id", idOf [.productService]),
      ("type", choice ["product", "service", "digital", "financial"]), ("description", text)]

def valueProposition : Schema :=
  record ["id", "name"]
    [("id", idOf [.valueProposition]), ("name", text), ("description", text),
      ("products_services", listOf productService)]

/-- What a fit does with one profile item, and the products and services that do it. -/
def fitItem (target : String) (kind : EntityKind) : Schema :=
  record [target, "through"]
    [(target, idOf [kind]), ("through", idsOf .productService), ("description", text)]

def fit : Schema :=
  record ["id", "value_proposition", "customer_segment"]
    [("id", idOf [.fit]), ("value_proposition", idOf [.valueProposition]),
      ("customer_segment", idOf [.customerSegment]),
      ("pain_relievers", listOf (fitItem "pain" .pain)),
      ("gain_creators", listOf (fitItem "gain" .gain)),
      ("job_addressers", listOf (fitItem "job" .job))]

def channel : Schema :=
  record ["id", "name", "type"]
    [("id", idOf [.channel]), ("name", text),
      ("type", choice ["direct", "indirect", "owned", "partner"]),
      ("segments", idsOf .customerSegment),
      ("phases", listOf (choice
        ["awareness", "evaluation", "purchase", "delivery", "after_sales"]))]

def customerRelationship : Schema :=
  record ["id", "segment", "type"]
    [("id", idOf [.customerRelationship]), ("segment", idOf [.customerSegment]),
      ("type", choice
        ["personal_assistance", "dedicated", "self_service", "automated", "community",
          "co_creation"]),
      ("description", text)]

def revenueStream : Schema :=
  record ["id", "name", "type"]
    [("id", idOf [.revenueStream]), ("name", text),
      ("type", choice
        ["transaction", "recurring", "licensing", "subscription", "usage", "advertising"]),
      ("from_segments", idsOf .customerSegment), ("for_value", idOf [.valueProposition]),
      ("pricing", choice
        ["fixed_menu", "dynamic", "negotiation", "auction", "market_dependent",
          "volume_dependent"])]

def keyResource : Schema :=
  record ["id", "name", "type"]
    [("id", idOf [.keyResource]), ("name", text),
      ("type", choice ["physical", "intellectual", "human", "financial"]),
      ("description", text), ("for_value", idsOf .valueProposition)]

def keyActivity : Schema :=
  record ["id", "name", "type"]
    [("id", idOf [.keyActivity]), ("name", text),
      ("type", choice ["production", "problem_solving", "platform"]),
      ("description", text), ("for_value", idsOf .valueProposition)]

/-- References to resources and activities alike. -/
def resourceOrActivityIds : Schema := listOf (idOf [.keyResource, .keyActivity])

def keyPartnership : Schema :=
  record ["id", "name", "type", "motivation"]
    [("id", idOf [.keyPartnership]), ("name", text),
      ("type", choice ["strategic_alliance", "coopetition", "joint_venture", "supplier"]),
      ("motivation", choice ["optimization", "risk_reduction", "resource_acquisition"]),
      ("provides", resourceOrActivityIds)]

def majorCost : Schema :=
  record ["name", "type"]
    [("name", text), ("type", choice ["fixed", "variable"]),
      ("linked_to", resourceOrActivityIds)]

def costStructure : Schema :=
  record ["type"]
    [("type", choice ["cost_driven", "value_driven"]),
      ("characteristics", listOf (choice
        ["fixed_costs_heavy", "variable_costs_heavy", "economies_of_scale",
          "economies_of_scope"])),
      ("major_costs", listOf majorCost)]

/-- A document of the first generation. -/
def document : Schema :=
  documentOf "1.0"
    [("customer_segments", listOf customerSegment),
      ("value_propositions", listOf valueProposition),
      ("fits", listOf fit),
      ("channels", listOf channel),
      ("customer_relationships", listOf customerRelationship),
      ("revenue_streams", listOf revenueStream),
      ("key_resources", listOf keyResource),
      ("key_activities", listOf keyActivity),
      ("key_partnerships", listOf keyPartnership),
      ("cost_structure", costStructure)]

end BusinessModel.Schema.FlatDocument
