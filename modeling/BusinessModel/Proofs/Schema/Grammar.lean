import BusinessModel.Generation
import BusinessModel.Proofs.Declared
import BusinessModel.Proofs.Identifier

/-!
# The grammar of documents

What a document of either generation looks like is said here without schemas: which fields the
mappings at each place have, which of them they need, and what stands in each field.

* `Grammar.Field`, `Grammar.IsRecord` — mappings with described fields and no others
* `Grammar.IsHead` — the head of a document: each portfolio has stages of its own
* `Grammar.entryFields` — the sections of each generation, with the fields of their entries
* `Grammar.IsDocument` — the documents of a generation
-/

namespace BusinessModel.Grammar

/-! ### What stands in a field -/

def IsText (v : Value) : Prop := ∃ s, v = .str s

def IsNonEmptyText (v : Value) : Prop := ∃ s, v = .str s ∧ s ≠ ""

/-- One of some texts. -/
def IsOneOf (choices : List String) (v : Value) : Prop := ∃ s ∈ choices, v = .str s

lemma isOneOf_str {choices : List String} {s : String} :
    IsOneOf choices (.str s) ↔ s ∈ choices := by
  simp [IsOneOf]

/-- The identifier of an entity of a kind. -/
def IsId (kind : EntityKind) (v : Value) : Prop := ∃ id, v = .str id ∧ kind.Spells id

/-- An identifier tells its kind. -/
lemma IsId.exists_ofId? {kind : EntityKind} {v : Value} (spelled : IsId kind v) :
    ∃ id, v = .str id ∧ EntityKind.ofId? id = some kind := by
  obtain ⟨id, rfl, spells⟩ := spelled
  exact ⟨id, rfl, spells.ofId?_eq⟩

/-- The identifier of a resource or of an activity. -/
def IsMeansId (v : Value) : Prop := IsId .keyResource v ∨ IsId .keyActivity v

/-- A list of nothing but values of one form. -/
def IsListOf (form : Value → Prop) (v : Value) : Prop := ∃ xs, v = .list xs ∧ ∀ x ∈ xs, form x

/-- A list of exactly two texts. -/
def IsPair (v : Value) : Prop := ∃ left right, v = .list [.str left, .str right]

/-! ### Records -/

/-- A field of a mapping: its name, whether it has to be there, and the form of its value. -/
structure Field where
  name : String
  needed : Bool
  form : Value → Prop

/-- A field that has to be there. -/
def needs (name : String) (form : Value → Prop) : Field := ⟨name, true, form⟩

/-- A field that can be left out. -/
def may (name : String) (form : Value → Prop) : Field := ⟨name, false, form⟩

/-- A mapping has the fields that it needs and no others than described, and in each field stands
what should. -/
structure Conforms (fields : List Field) (m : Mapping) : Prop where
  known : ∀ member ∈ m, ∃ field ∈ fields, member.1 = .str field.name
  needed : ∀ field ∈ fields, field.needed = true → ∃ v, Mapping.get? m field.name = some v
  form : ∀ field ∈ fields, ∀ v, Mapping.get? m field.name = some v → field.form v

def IsRecord (fields : List Field) (v : Value) : Prop := ∃ m, v = .map m ∧ Conforms fields m

/-- Whether a mapping conforms depends on the names of the fields, on the names of those that are
needed, and on what stands in them. -/
lemma conforms_iff {fields : List Field} {m : Mapping} :
    Conforms fields m ↔
      (∀ member ∈ m, ∃ name ∈ fields.map (·.name), member.1 = .str name) ∧
        (∀ name ∈ (fields.filter (·.needed)).map (·.name), Mapping.hasKey m name = true) ∧
          ∀ field ∈ fields, ∀ v, Mapping.get? m field.name = some v → field.form v := by
  simp only [List.forall_mem_map, List.mem_filter, and_imp, Mapping.hasKey,
    Option.isSome_iff_exists]
  simp only [List.mem_map, exists_exists_and_eq_and]
  exact ⟨fun h => ⟨h.known, h.needed, h.form⟩, fun h => ⟨h.1, h.2.1, h.2.2⟩⟩

/-- A list of records. -/
def IsListOfRecords (fields : List Field) : Value → Prop := IsListOf (IsRecord fields)

/-! ### The head -/

/-- The stages of each portfolio. -/
inductive IsStageOf : String → String → Prop where
  | explore {stage} :
    stage ∈ ["ideation", "discovery", "validation", "acceleration", "transfer"] →
    IsStageOf "explore" stage
  | exploit {stage} :
    stage ∈ ["improve", "grow", "sustain", "retire", "transfer"] →
    IsStageOf "exploit" stage

def headFields (portfolio stage : Value → Prop) : List Field :=
  [needs "name" IsNonEmptyText, may "tagline" IsText, may "created" IsText, may "updated" IsText,
    needs "portfolio" portfolio, needs "stage" stage, may "derived_from" IsText]

/-- A head whose stage is one of its portfolio. -/
def IsHead (v : Value) : Prop :=
  ∃ portfolio stage, IsStageOf portfolio stage ∧
    IsRecord (headFields (· = .str portfolio) (· = .str stage)) v

/-! ### Entities of the first generation -/

namespace Flat

def level : Value → Prop := IsOneOf ["low", "medium", "high"]

def job : List Field :=
  [needs "id" (IsId .job), needs "type" (IsOneOf ["functional", "emotional", "social"]),
    needs "description" IsText, may "importance" level]

def pain : List Field :=
  [needs "id" (IsId .pain), needs "description" IsText, may "severity" level]

def gain : List Field :=
  [needs "id" (IsId .gain), needs "description" IsText, may "importance" level]

def customerSegment : List Field :=
  [needs "id" (IsId .customerSegment), needs "name" IsText, may "description" IsText,
    may "jobs" (IsListOfRecords job), may "pains" (IsListOfRecords pain),
    may "gains" (IsListOfRecords gain)]

def productService : List Field :=
  [needs "id" (IsId .productService),
    needs "type" (IsOneOf ["product", "service", "digital", "financial"]),
    needs "description" IsText]

def valueProposition : List Field :=
  [needs "id" (IsId .valueProposition), needs "name" IsText, may "description" IsText,
    may "products_services" (IsListOfRecords productService)]

/-- What a fit does with one profile item. -/
def fitItem (target : String) (kind : EntityKind) : List Field :=
  [needs target (IsId kind), needs "through" (IsListOf (IsId .productService)),
    may "description" IsText]

def fit : List Field :=
  [needs "id" (IsId .fit), needs "value_proposition" (IsId .valueProposition),
    needs "customer_segment" (IsId .customerSegment),
    may "pain_relievers" (IsListOfRecords (fitItem "pain" .pain)),
    may "gain_creators" (IsListOfRecords (fitItem "gain" .gain)),
    may "job_addressers" (IsListOfRecords (fitItem "job" .job))]

def channel : List Field :=
  [needs "id" (IsId .channel), needs "name" IsText,
    needs "type" (IsOneOf ["direct", "indirect", "owned", "partner"]),
    may "segments" (IsListOf (IsId .customerSegment)),
    may "phases" (IsListOf (IsOneOf
      ["awareness", "evaluation", "purchase", "delivery", "after_sales"]))]

def customerRelationship : List Field :=
  [needs "id" (IsId .customerRelationship), needs "segment" (IsId .customerSegment),
    needs "type" (IsOneOf ["personal_assistance", "dedicated", "self_service", "automated",
      "community", "co_creation"]),
    may "description" IsText]

def revenueStream : List Field :=
  [needs "id" (IsId .revenueStream), needs "name" IsText,
    needs "type" (IsOneOf ["transaction", "recurring", "licensing", "subscription", "usage",
      "advertising"]),
    may "from_segments" (IsListOf (IsId .customerSegment)),
    may "for_value" (IsId .valueProposition),
    may "pricing" (IsOneOf ["fixed_menu", "dynamic", "negotiation", "auction", "market_dependent",
      "volume_dependent"])]

def keyResource : List Field :=
  [needs "id" (IsId .keyResource), needs "name" IsText,
    needs "type" (IsOneOf ["physical", "intellectual", "human", "financial"]),
    may "description" IsText, may "for_value" (IsListOf (IsId .valueProposition))]

def keyActivity : List Field :=
  [needs "id" (IsId .keyActivity), needs "name" IsText,
    needs "type" (IsOneOf ["production", "problem_solving", "platform"]),
    may "description" IsText, may "for_value" (IsListOf (IsId .valueProposition))]

def keyPartnership : List Field :=
  [needs "id" (IsId .keyPartnership), needs "name" IsText,
    needs "type" (IsOneOf ["strategic_alliance", "coopetition", "joint_venture", "supplier"]),
    needs "motivation" (IsOneOf ["optimization", "risk_reduction", "resource_acquisition"]),
    may "provides" (IsListOf IsMeansId)]

def majorCost : List Field :=
  [needs "name" IsText, needs "type" (IsOneOf ["fixed", "variable"]),
    may "linked_to" (IsListOf IsMeansId)]

def costStructure : List Field :=
  [needs "type" (IsOneOf ["cost_driven", "value_driven"]),
    may "characteristics" (IsListOf (IsOneOf ["fixed_costs_heavy", "variable_costs_heavy",
      "economies_of_scale", "economies_of_scope"])),
    may "major_costs" (IsListOfRecords majorCost)]

end Flat

/-! ### Entities of the second generation -/

namespace Typed

/-- An item of a customer profile. -/
def profileItem (kind : EntityKind) : List Field :=
  [needs "id" (IsId kind), needs "description" IsText]

/-- An item of a value map. -/
def valueMapItem (kind : EntityKind) : List Field :=
  [needs "id" (IsId kind), needs "name" IsText]

def customerSegment : List Field :=
  [needs "id" (IsId .customerSegment), needs "name" IsText, may "description" IsText,
    may "jobs" (IsListOfRecords (profileItem .job)),
    may "pains" (IsListOfRecords (profileItem .pain)),
    may "gains" (IsListOfRecords (profileItem .gain))]

def valueProposition : List Field :=
  [needs "id" (IsId .valueProposition), needs "name" IsText, may "description" IsText,
    may "products_services" (IsListOfRecords (valueMapItem .productService)),
    may "pain_relievers" (IsListOfRecords (valueMapItem .painReliever)),
    may "gain_creators" (IsListOfRecords (valueMapItem .gainCreator))]

/-- The kind of the entities that a list of references names. -/
abbrev Target := String × EntityKind

def toPropositions : Target := ("value_propositions", .valueProposition)

def toSegments : Target := ("customer_segments", .customerSegment)

def toResources : Target := ("key_resources", .keyResource)

def toActivities : Target := ("key_activities", .keyActivity)

/-- The references of a fit, both of which have to be there. -/
def fitReferences : List Field :=
  [needs "value_propositions" (IsListOf (IsId .valueProposition)),
    needs "customer_segments" (IsListOf (IsId .customerSegment))]

def fit : List Field :=
  [needs "id" (IsId .fit), needs "for" (IsRecord fitReferences), may "mappings" (IsListOf IsPair)]

/-- References to some targets, each of which can be left out. -/
def references (targets : List Target) : List Field :=
  targets.map fun target => may target.1 (IsListOf (IsId target.2))

/-- An entity that refers to others under some relations. -/
def linked (kind : EntityKind) (relations : List (String × List Target)) : List Field :=
  [needs "id" (IsId kind), needs "name" IsText] ++
    relations.map fun relation => may relation.1 (IsRecord (references relation.2))

end Typed

/-! ### Documents -/

/-- The sections of documents of a generation, with the fields of their entries. -/
def entryFields : Generation → List (String × List Field)
  | .v1 => [("customer_segments", Flat.customerSegment),
      ("value_propositions", Flat.valueProposition),
      ("fits", Flat.fit),
      ("channels", Flat.channel),
      ("customer_relationships", Flat.customerRelationship),
      ("revenue_streams", Flat.revenueStream),
      ("key_resources", Flat.keyResource),
      ("key_activities", Flat.keyActivity),
      ("key_partnerships", Flat.keyPartnership)]
  | .v2 => [("customer_segments", Typed.customerSegment),
      ("value_propositions", Typed.valueProposition),
      ("fits", Typed.fit),
      ("channels", Typed.linked .channel [("for", [Typed.toPropositions, Typed.toSegments])]),
      ("customer_relationships",
        Typed.linked .customerRelationship [("for", [Typed.toSegments])]),
      ("revenue_streams",
        Typed.linked .revenueStream
          [("from", [Typed.toSegments]), ("for", [Typed.toPropositions])]),
      ("key_resources", Typed.linked .keyResource [("for", [Typed.toPropositions])]),
      ("key_activities", Typed.linked .keyActivity [("for", [Typed.toPropositions])]),
      ("key_partnerships",
        Typed.linked .keyPartnership [("for", [Typed.toResources, Typed.toActivities])]),
      ("costs", Typed.linked .cost [("for", [Typed.toResources, Typed.toActivities])])]

/-- Fields of documents that hold one record instead of a list of them. -/
def singleFields : Generation → List (String × List Field)
  | .v1 => [("cost_structure", Flat.costStructure)]
  | .v2 => []

def documentFields (g : Generation) : List Field :=
  [needs "version" (· = .str g.discriminator), needs "meta" IsHead] ++
    (entryFields g).map (fun row => may row.1 (IsListOfRecords row.2)) ++
    (singleFields g).map fun row => may row.1 (IsRecord row.2)

/-- The documents of a generation. -/
def IsDocument (g : Generation) : Value → Prop := IsRecord (documentFields g)

/-! ### Reading a document -/

variable {g : Generation} {m entry : Mapping} {fields targets inner : List Field}
  {name key relation target id : String} {needed needed' : Bool} {form : Value → Prop} {v x : Value}
  {kind : EntityKind} {i : Nat}

namespace Conforms

/-- A mapping has no fields but its own. -/
lemma mem_names (h : Conforms fields m) (has : Mapping.hasKey m name = true) :
    name ∈ fields.map (·.name) := by
  obtain ⟨v, found⟩ := Option.isSome_iff_exists.1 has
  obtain ⟨before, after, shape, _⟩ := List.lookup_eq_some_iff.1 found
  obtain ⟨field, there, same⟩ := h.known (.str name, v) (by simp [shape])
  cases same
  exact List.mem_map_of_mem there

/-- What stands in a field, if it is there. -/
lemma get_cases (h : Conforms fields m) (listed : ⟨name, needed, form⟩ ∈ fields) :
    Mapping.get m name = .null ∨ form (Mapping.get m name) := by
  unfold Mapping.get
  cases found : Mapping.get? m name with
  | none => exact .inl rfl
  | some v => exact .inr (h.form _ listed v found)

/-- What stands in a field that has to be there. -/
lemma form_get (h : Conforms fields m) (listed : needs name form ∈ fields) :
    form (Mapping.get m name) := by
  obtain ⟨v, found⟩ : ∃ v, Mapping.get? m name = some v := h.needed _ listed rfl
  rw [Mapping.get, found, Option.getD_some]
  exact h.form _ listed v found

/-- The items of a list that stands in a field. -/
lemma form_of_mem_asList (h : Conforms fields m)
    (listed : ⟨name, needed, IsListOf form⟩ ∈ fields) (member : x ∈ (Mapping.get m name).asList) :
    form x := by
  obtain absent | ⟨xs, shape, forms⟩ := h.get_cases listed
  · simp [absent, Value.asList] at member
  · rw [shape] at member
    exact forms x member

/-- The references under a relation. -/
lemma form_of_mem_relation (h : Conforms fields m)
    (relates : ⟨relation, needed, IsRecord targets⟩ ∈ fields)
    (aimed : ⟨target, needed', IsListOf form⟩ ∈ targets)
    (member : x ∈ Mapping.relation m relation target) : form x := by
  rw [Mapping.relation] at member
  obtain absent | ⟨targets, shape, conforms⟩ := h.get_cases relates
  · rw [absent] at member
    exact absurd member List.not_mem_nil
  · rw [shape] at member
    exact conforms.form_of_mem_asList aimed member

/-- The entries of a list of records. -/
lemma conforms_of_mem_entries (h : Conforms fields m)
    (listed : ⟨key, needed, IsListOfRecords inner⟩ ∈ fields)
    (place : (i, entry) ∈ Mapping.entries m key) : Conforms inner entry := by
  obtain ⟨_, same, conforms⟩ :=
    h.form_of_mem_asList listed (List.mem_of_getElem? (mem_entries.1 place))
  cases same
  exact conforms

/-- What a list of records declares has the kind that its identifiers have. -/
lemma ofId?_of_declares (h : Conforms fields m)
    (listed : ⟨key, needed, IsListOfRecords inner⟩ ∈ fields)
    (identified : needs "id" (IsId kind) ∈ inner) (declared : Declares m key id entry) :
    EntityKind.ofId? id = some kind := by
  obtain ⟨i, place, named⟩ := declared
  obtain ⟨id', text, spelled⟩ :=
    ((h.conforms_of_mem_entries listed place).form_get identified).exists_ofId?
  cases text.symm.trans (Value.str?_eq_some.1 named)
  exact spelled

end Conforms

lemma mem_documentFields (listed : (key, fields) ∈ entryFields g) :
    may key (IsListOfRecords fields) ∈ documentFields g :=
  List.mem_append_left _ (List.mem_append_right _ (List.mem_map.2 ⟨_, listed, rfl⟩))

/-- The entries of a section are the records that the section holds. -/
lemma isRecord_of_mem_asList (h : Conforms (documentFields g) m)
    (listed : (key, fields) ∈ entryFields g) (member : x ∈ (Mapping.get m key).asList) :
    IsRecord fields x :=
  h.form_of_mem_asList (mem_documentFields listed) member

end BusinessModel.Grammar
