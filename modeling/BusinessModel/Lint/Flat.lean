import BusinessModel.Lint.Coverage

/-!
# Rules of the first generation

Entities of the first generation refer through flat fields.  A fit names one value proposition and
one segment, and lists what it relieves, creates and addresses; each of those entries targets an
item of the segment and goes through products and services of the value proposition.  The targets
are only checked when the segment resolves, the products only when the value proposition does.

* `Flat.references` — the findings about references, in document order
* `Flat.coverage` — what the fits use
-/

namespace BusinessModel.Lint.Flat

/-- A list of a fit whose entries each target one profile item. -/
structure FitList where
  key : String
  target : String
  kind : EntityKind
  items : Profile → IdSet
  rule : Rule

def fitLists : List FitList :=
  [⟨"pain_relievers", "pain", .pain, Profile.pains, .fitPainRef⟩,
    ⟨"gain_creators", "gain", .gain, Profile.gains, .fitGainRef⟩,
    ⟨"job_addressers", "job", .job, Profile.jobs, .fitJobRef⟩]

/-- Whether a value is a member of a set of identifiers. -/
def isIn (ids : IdSet) : Value → Bool
  | .str id => ids.contains id
  | _ => false

/-- A reference in a field of its own. -/
def checkRef (ref : Value) (resolves : Value → Bool) (rule : Rule) (place : Pointer)
    (referent : Referent) : List Finding :=
  if resolves ref then [] else [⟨rule, place, .unresolved referent ref⟩]

/-- The target of an entry of a fit, looked up in the segment of the fit. -/
def checkTarget (profile : Option Profile) (segment : Value) (list : FitList) (place : Pointer)
    (entry : Mapping) : List Finding :=
  match profile with
  | none => []
  | some profile =>
    let target := Mapping.get entry list.target
    if isIn (list.items profile) target then []
    else [⟨list.rule, place ++ [.key list.target],
      .notIn (.entity list.kind) target .customerSegment segment⟩]

/-- The products of an entry of a fit, looked up in the value proposition of the fit. -/
def checkThrough (valueMap : Option ValueMap) (proposition : Value) (place : Pointer)
    (entry : Mapping) : List Finding :=
  match valueMap with
  | none => []
  | some valueMap =>
    (Mapping.get entry "through").asList.zipIdx.filterMap fun item =>
      if isIn valueMap.products item.1 then none
      else some ⟨.fitThroughRef, place ++ [.key "through", .index item.2],
        .notIn (.entity .productService) item.1 .valueProposition proposition⟩

/-- One list of a fit. -/
def checkFitList (index : Index) (fit : Nat × Mapping) (list : FitList) : List Finding :=
  let segment := Mapping.get fit.2 "customer_segment"
  let proposition := Mapping.get fit.2 "value_proposition"
  (Mapping.entries fit.2 list.key).flatMap fun entry =>
    let place := [.key "fits", .index fit.1, .key list.key, .index entry.1]
    checkTarget (index.segment? segment) segment list place entry.2 ++
      checkThrough (index.valueMap? proposition) proposition place entry.2

/-- One fit: its value proposition, its segment, then its lists. -/
def checkFit (index : Index) (fit : Nat × Mapping) : List Finding :=
  checkRef (Mapping.get fit.2 "value_proposition") index.hasProposition .fitValuePropositionRef
      [.key "fits", .index fit.1, .key "value_proposition"] (.entity .valueProposition) ++
    checkRef (Mapping.get fit.2 "customer_segment") index.hasSegment .fitCustomerSegmentRef
      [.key "fits", .index fit.1, .key "customer_segment"] (.entity .customerSegment) ++
    fitLists.flatMap (checkFitList index fit)

/-- The unresolved references in a list under `field` of an entry. -/
def checkField (entry : Mapping) (field : String) (resolves : Value → Bool) (rule : Rule)
    (place : Pointer) (referent : Referent) : List Finding :=
  unresolvedRefs (Mapping.get entry field).asList resolves rule (place ++ [.key field]) referent

/-- A section whose entries list references under `field`. -/
def checkSection (doc : Mapping) (key field : String) (resolves : Value → Bool) (rule : Rule)
    (referent : Referent) : List Finding :=
  (Mapping.entries doc key).flatMap fun entry =>
    checkField entry.2 field resolves rule [.key key, .index entry.1] referent

def checkRelationships (doc : Mapping) (index : Index) : List Finding :=
  (Mapping.entries doc "customer_relationships").flatMap fun entry =>
    checkRef (Mapping.get entry.2 "segment") index.hasSegment .customerRelationshipSegmentRef
      [.key "customer_relationships", .index entry.1, .key "segment"] (.entity .customerSegment)

/-- Revenue comes from segments; the value that it is for is a single reference, and optional. -/
def checkRevenueStreams (doc : Mapping) (index : Index) : List Finding :=
  (Mapping.entries doc "revenue_streams").flatMap fun entry =>
    let place := [.key "revenue_streams", .index entry.1]
    let value := Mapping.get entry.2 "for_value"
    checkField entry.2 "from_segments" index.hasSegment .revenueStreamSegmentRef place
        (.entity .customerSegment) ++
      match value with
      | .null => []
      | value => checkRef value index.hasProposition .revenueStreamValueRef
          (place ++ [.key "for_value"]) (.entity .valueProposition)

def checkCosts (doc : Mapping) (index : Index) : List Finding :=
  (Mapping.entries (Mapping.get doc "cost_structure").asMapping "major_costs").flatMap fun entry =>
    checkField entry.2 "linked_to" index.isResourceOrActivity .costLinkedToRef
      [.key "cost_structure", .key "major_costs", .index entry.1] .resourceOrActivity

/-- All findings about references. -/
def references (doc : Mapping) (index : Index) : List Finding :=
  (Mapping.entries doc "fits").flatMap (checkFit index) ++
    checkSection doc "channels" "segments" index.hasSegment .channelSegmentRef
      (.entity .customerSegment) ++
    checkRelationships doc index ++
    checkRevenueStreams doc index ++
    checkSection doc "key_resources" "for_value" index.hasProposition .keyResourceValueRef
      (.entity .valueProposition) ++
    checkSection doc "key_activities" "for_value" index.hasProposition .keyActivityValueRef
      (.entity .valueProposition) ++
    checkSection doc "key_partnerships" "provides" index.isResourceOrActivity
      .keyPartnershipProvidesRef .resourceOrActivity ++
    checkCosts doc index

/-- What the fits of a document use. -/
def coverage (doc : Mapping) : Coverage :=
  let fits := (Mapping.entries doc "fits").map (·.2)
  let named (field : String) : IdSet :=
    IdSet.ofList (Value.texts (fits.map fun fit => Mapping.get fit field))
  let entriesOf (key : String) : List Mapping :=
    fits.flatMap fun fit => (Mapping.entries fit key).map (·.2)
  let targeted (key target : String) : IdSet :=
    IdSet.ofList (Value.texts ((entriesOf key).map fun entry => Mapping.get entry target))
  { segments := named "customer_segment"
    propositions := named "value_proposition"
    pains := targeted "pain_relievers" "pain"
    gains := targeted "gain_creators" "gain"
    jobs := targeted "job_addressers" "job"
    products := some (IdSet.ofList (fitLists.flatMap fun list =>
      (entriesOf list.key).flatMap fun entry =>
        Value.texts (Mapping.get entry "through").asList)) }

/-- All findings: references first, then coverage. -/
def findings (doc : Mapping) (index : Index) : List Finding :=
  references doc index ++ (coverage doc).findings doc

end BusinessModel.Lint.Flat
