import BusinessModel.Generation

/-!
# Lint rules

A rule names what an issue is about.  Reference rules are errors; coverage rules, which point at
declared entities that nothing uses, are warnings.  Each generation has rules of its own beside the
shared ones.
-/

namespace BusinessModel.Lint

inductive Severity where
  | error
  | warning
  | info
  deriving DecidableEq, Repr, Inhabited

namespace Severity

def name : Severity → String
  | error => "error"
  | warning => "warning"
  | info => "info"

def all : List Severity := [error, warning, info]

def ofName? (name : String) : Option Severity :=
  all.find? fun severity => severity.name == name

end Severity

inductive Rule where
  | fitValuePropositionRef
  | fitCustomerSegmentRef
  | fitPainRef
  | fitGainRef
  | fitJobRef
  | fitThroughRef
  | fitMappingMalformed
  | fitMappingTypeMismatch
  | painRelieverScopeRef
  | gainCreatorScopeRef
  | channelSegmentRef
  | channelValueRef
  | customerRelationshipSegmentRef
  | revenueStreamSegmentRef
  | revenueStreamValueRef
  | keyResourceValueRef
  | keyActivityValueRef
  | keyPartnershipProvidesRef
  | costLinkedToRef
  | segmentNoFits
  | vpNoFits
  | painNeverRelieved
  | gainNeverCreated
  | jobNeverAddressed
  | productServiceNeverUsed
  deriving DecidableEq, Repr, Inhabited

namespace Rule

/-- Every rule, in the order in which rules are listed. -/
def all : List Rule :=
  [fitValuePropositionRef, fitCustomerSegmentRef, fitPainRef, fitGainRef, fitJobRef, fitThroughRef,
    fitMappingMalformed, fitMappingTypeMismatch, painRelieverScopeRef, gainCreatorScopeRef,
    channelSegmentRef, channelValueRef, customerRelationshipSegmentRef, revenueStreamSegmentRef,
    revenueStreamValueRef, keyResourceValueRef, keyActivityValueRef, keyPartnershipProvidesRef,
    costLinkedToRef, segmentNoFits, vpNoFits, painNeverRelieved, gainNeverCreated,
    jobNeverAddressed, productServiceNeverUsed]

def id : Rule → String
  | fitValuePropositionRef => "fit-value-proposition-ref"
  | fitCustomerSegmentRef => "fit-customer-segment-ref"
  | fitPainRef => "fit-pain-ref"
  | fitGainRef => "fit-gain-ref"
  | fitJobRef => "fit-job-ref"
  | fitThroughRef => "fit-through-ref"
  | fitMappingMalformed => "fit-mapping-malformed"
  | fitMappingTypeMismatch => "fit-mapping-type-mismatch"
  | painRelieverScopeRef => "pain-reliever-scope-ref"
  | gainCreatorScopeRef => "gain-creator-scope-ref"
  | channelSegmentRef => "channel-segment-ref"
  | channelValueRef => "channel-value-ref"
  | customerRelationshipSegmentRef => "customer-relationship-segment-ref"
  | revenueStreamSegmentRef => "revenue-stream-segment-ref"
  | revenueStreamValueRef => "revenue-stream-value-ref"
  | keyResourceValueRef => "key-resource-value-ref"
  | keyActivityValueRef => "key-activity-value-ref"
  | keyPartnershipProvidesRef => "key-partnership-provides-ref"
  | costLinkedToRef => "cost-linked-to-ref"
  | segmentNoFits => "segment-no-fits"
  | vpNoFits => "vp-no-fits"
  | painNeverRelieved => "pain-never-relieved"
  | gainNeverCreated => "gain-never-created"
  | jobNeverAddressed => "job-never-addressed"
  | productServiceNeverUsed => "product-service-never-used"

/-- Whether a rule is about entities that no fit uses. -/
def isCoverage : Rule → Bool
  | segmentNoFits | vpNoFits | painNeverRelieved | gainNeverCreated | jobNeverAddressed
  | productServiceNeverUsed => true
  | _ => false

def severity (rule : Rule) : Severity :=
  if rule.isCoverage then .warning else .error

/-- Whether documents of a generation can break a rule. -/
def appliesTo (rule : Rule) (generation : Generation) : Bool :=
  match generation, rule with
  | .v1, fitMappingMalformed | .v1, fitMappingTypeMismatch | .v1, painRelieverScopeRef
  | .v1, gainCreatorScopeRef | .v1, channelValueRef => false
  | .v2, fitThroughRef | .v2, productServiceNeverUsed => false
  | _, _ => true

/-- The rules of a generation, in listing order. -/
def forGeneration (generation : Generation) : List Rule :=
  all.filter (·.appliesTo generation)

end Rule

end BusinessModel.Lint
