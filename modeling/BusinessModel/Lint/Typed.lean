import BusinessModel.Lint.Coverage

/-!
# Rules of the second generation

Entities of the second generation name their targets under the relations `for` and `from`, grouped
by the section that they point into.  A fit may link several value propositions and segments, and
maps value-map items to profile items by pairs of identifiers: relievers to pains, creators to
gains.  The two sides of a pair are looked up among the entities that the fit links; a side is only
checked when at least one of its entities resolves.

* `Typed.references` — the findings about references, in document order
* `Typed.coverage` — what the fits use; only pairs of compatible kinds count
-/

namespace BusinessModel.Lint.Typed

/-- What a list of references points to, by the section that declares it. -/
inductive Target where
  | segments
  | propositions
  | resources
  | activities
  deriving DecidableEq, Repr

namespace Target

def key : Target → String
  | segments => "customer_segments"
  | propositions => "value_propositions"
  | resources => "key_resources"
  | activities => "key_activities"

def referent : Target → Referent
  | segments => .entity .customerSegment
  | propositions => .entity .valueProposition
  | resources | activities => .resourceOrActivity

def resolves (index : Index) : Target → Value → Bool
  | segments => index.hasSegment
  | propositions => index.hasProposition
  | resources | activities => index.isResourceOrActivity

end Target

/-- A list of references that the entries of a section may carry. -/
structure Link where
  relation : String
  target : Target
  rule : Rule
  deriving DecidableEq, Repr

/-- The references of fits, apart from their mappings. -/
def fitLinks : List Link :=
  [⟨"for", .propositions, .fitValuePropositionRef⟩, ⟨"for", .segments, .fitCustomerSegmentRef⟩]

/-- The references of all other sections, in the order in which they are checked. -/
def links : List (String × List Link) :=
  [("channels",
      [⟨"for", .segments, .channelSegmentRef⟩, ⟨"for", .propositions, .channelValueRef⟩]),
    ("customer_relationships", [⟨"for", .segments, .customerRelationshipSegmentRef⟩]),
    ("revenue_streams",
      [⟨"from", .segments, .revenueStreamSegmentRef⟩,
        ⟨"for", .propositions, .revenueStreamValueRef⟩]),
    ("key_resources", [⟨"for", .propositions, .keyResourceValueRef⟩]),
    ("key_activities", [⟨"for", .propositions, .keyActivityValueRef⟩]),
    ("key_partnerships",
      [⟨"for", .resources, .keyPartnershipProvidesRef⟩,
        ⟨"for", .activities, .keyPartnershipProvidesRef⟩]),
    ("costs", [⟨"for", .resources, .costLinkedToRef⟩, ⟨"for", .activities, .costLinkedToRef⟩])]

/-- The unresolved references of one link of an entry. -/
def checkLink (index : Index) (key : String) (entry : Nat × Mapping) (link : Link) :
    List Finding :=
  unresolvedRefs (Mapping.relation entry.2 link.relation link.target.key)
    (link.target.resolves index) link.rule
    [.key key, .index entry.1, .key link.relation, .key link.target.key] link.target.referent

/-- The unresolved references of a section. -/
def checkSection (doc : Mapping) (index : Index) (row : String × List Link) : List Finding :=
  (Mapping.entries doc row.1).flatMap fun entry => row.2.flatMap (checkLink index row.1 entry)

/-- The two identifiers of a mapping; other shapes are not pairs. -/
def pair? : Value → Option (String × String)
  | .list [.str left, .str right] => some (left, right)
  | .tuple [.str left, .str right] => some (left, right)
  | _ => none

/-- The kind that the right side must have when the left side has a kind that asks for one. -/
def wantedKind? : EntityKind → Option EntityKind
  | .painReliever => some .pain
  | .gainCreator => some .gain
  | _ => none

/-- The rule for a right side of this kind; kinds without one cannot be mapped to. -/
def profileRule? : EntityKind → Option Rule
  | .pain => some .fitPainRef
  | .gain => some .fitGainRef
  | .job => some .fitJobRef
  | _ => none

/-- The rule for a left side of this kind; other kinds are not looked up. -/
def valueMapRule? : EntityKind → Option Rule
  | .painReliever => some .painRelieverScopeRef
  | .gainCreator => some .gainCreatorScopeRef
  | _ => none

/-- The entities that a fit links, as far as they resolve. -/
structure Scope where
  propositions : List Value
  segments : List Value

namespace Scope

def ofFit (index : Index) (fit : Mapping) : Scope where
  propositions :=
    (Mapping.relation fit "for" "value_propositions").filter index.hasProposition
  segments := (Mapping.relation fit "for" "customer_segments").filter index.hasSegment

/-- The value-map items of a kind within the scope. -/
def valueMapItems (scope : Scope) (index : Index) : EntityKind → IdSet
  | .painReliever => index.valueMapsIn ValueMap.relievers scope.propositions
  | .gainCreator => index.valueMapsIn ValueMap.creators scope.propositions
  | _ => []

/-- The profile items of a kind within the scope. -/
def profileItems (scope : Scope) (index : Index) : EntityKind → IdSet
  | .pain => index.profilesIn Profile.pains scope.segments
  | .gain => index.profilesIn Profile.gains scope.segments
  | .job => index.profilesIn Profile.jobs scope.segments
  | _ => []

end Scope

/-- What is wrong with the kinds of a pair, and on which side: on the whole pair when its left side
asks for another kind, on its right side when that is no profile item. -/
def kindMismatch? (left right : String) : Option (Pointer × Fault) :=
  let rightKind := EntityKind.ofId? right
  let clash : Option (EntityKind × EntityKind) := do
    let leftKind ← EntityKind.ofId? left
    let wanted ← wantedKind? leftKind
    if rightKind = some wanted then none else some (leftKind, wanted)
  match clash with
  | some (leftKind, wanted) => some ([], .incompatible left right leftKind wanted)
  | none =>
    if (rightKind.bind profileRule?).isNone then some ([.index 1], .notAProfileItem left right)
    else none

/-- The left side of a pair, looked up in the value propositions of its fit. -/
def checkLeft (index : Index) (scope : Scope) (place : Pointer) (left : String) : List Finding :=
  match EntityKind.ofId? left with
  | none => []
  | some kind =>
    match valueMapRule? kind with
    | none => []
    | some rule =>
      if scope.propositions.isEmpty || (scope.valueMapItems index kind).contains left then []
      else [⟨rule, place ++ [.index 0],
        .notInAny (.entity kind) left .valueProposition scope.propositions⟩]

/-- The right side of a pair, looked up in the segments of its fit. -/
def checkRight (index : Index) (scope : Scope) (place : Pointer) (right : String) : List Finding :=
  match EntityKind.ofId? right with
  | none => []
  | some kind =>
    match profileRule? kind with
    | none => []
    | some rule =>
      if scope.segments.isEmpty || (scope.profileItems index kind).contains right then []
      else [⟨rule, place ++ [.index 1],
        .notInAny (.entity kind) right .customerSegment scope.segments⟩]

/-- One mapping of a fit. -/
def checkMapping (index : Index) (scope : Scope) (place : Pointer) (mapping : Value) :
    List Finding :=
  match pair? mapping with
  | none => [⟨.fitMappingMalformed, place, .notAPair mapping⟩]
  | some (left, right) =>
    match kindMismatch? left right with
    | some (side, fault) => [⟨.fitMappingTypeMismatch, place ++ side, fault⟩]
    | none => checkLeft index scope place left ++ checkRight index scope place right

/-- One fit: its references, then its mappings. -/
def checkFit (index : Index) (fit : Nat × Mapping) : List Finding :=
  fitLinks.flatMap (checkLink index "fits" fit) ++
    (Mapping.get fit.2 "mappings").asList.zipIdx.flatMap fun item =>
      checkMapping index (Scope.ofFit index fit.2)
        [.key "fits", .index fit.1, .key "mappings", .index item.2] item.1

/-- All findings about references. -/
def references (doc : Mapping) (index : Index) : List Finding :=
  (Mapping.entries doc "fits").flatMap (checkFit index) ++ links.flatMap (checkSection doc index)

/-- Whether the kinds of a pair allow it to cover its right side. -/
def isCompatible (left right : String) : Bool :=
  match EntityKind.ofId? right with
  | none => false
  | some rightKind =>
    (profileRule? rightKind).isSome &&
      match (EntityKind.ofId? left).bind wantedKind? with
      | some wanted => wanted == rightKind
      | none => true

/-- The right sides of the compatible pairs of a fit. -/
def mappedBy (fit : Mapping) : List String :=
  (Mapping.get fit "mappings").asList.filterMap fun mapping => match pair? mapping with
    | some (left, right) => if isCompatible left right then some right else none
    | none => none

/-- What the fits of a document use. -/
def coverage (doc : Mapping) : Coverage :=
  let fits := (Mapping.entries doc "fits").map (·.2)
  let named (target : String) : IdSet :=
    IdSet.ofList (fits.flatMap fun fit => Value.texts (Mapping.relation fit "for" target))
  let mapped := IdSet.ofList (fits.flatMap mappedBy)
  { segments := named "customer_segments"
    propositions := named "value_propositions"
    pains := mapped
    gains := mapped
    jobs := mapped }

/-- All findings: references first, then coverage. -/
def findings (doc : Mapping) (index : Index) : List Finding :=
  references doc index ++ (coverage doc).findings doc

end BusinessModel.Lint.Typed
