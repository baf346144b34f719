import BusinessModel.Proofs.Lint.Report
import BusinessModel.Proofs.Pointer

/-!
# The sides of a fit

A fit stands between value propositions and segments.  It refers to entities of either side, in the
first generation in a field of its own and in the second in a list.  What the fit puts together is
looked up in the entities of one side each.

* `Lint.Side` — the sides of a fit, and the rules that belong to each
* `Issue.IsAbout` — the issues that belong to one side of a fit
* `Lint.Relinks`, `Lint.replaceFit` — replacing a side of a fit in a document
-/

namespace BusinessModel.Lint

/-- The sides of a fit. -/
inductive Side where
  | propositions
  | segments
  deriving DecidableEq, Repr

namespace Side

/-- The section that declares the entities of a side.  A fit of the second generation lists those
that it refers to under the same name. -/
def key : Side → String
  | propositions => "value_propositions"
  | segments => "customer_segments"

/-- The field in which a fit of the first generation refers to an entity of a side. -/
def field : Side → String
  | propositions => "value_proposition"
  | segments => "customer_segment"

/-- The rule that the references of fits to a side break. -/
def refRule : Side → Rule
  | propositions => .fitValuePropositionRef
  | segments => .fitCustomerSegmentRef

/-- The rules about what is looked up in the entities of a side. -/
def scopedRules : Side → Generation → List Rule
  | propositions, .v1 => [.fitThroughRef]
  | propositions, .v2 => [.painRelieverScopeRef, .gainCreatorScopeRef]
  | segments, _ => [.fitPainRef, .fitGainRef, .fitJobRef]

/-- The rule about entities of a side without fits. -/
def noFits : Side → Rule
  | propositions => .vpNoFits
  | segments => .segmentNoFits

lemma key_injective : Function.Injective key := by
  intro a b
  cases a <;> cases b <;> decide

lemma field_injective : Function.Injective field := by
  intro a b
  cases a <;> cases b <;> decide

end Side

lemma Flat.FitItem.mem_scopedRules {key target field : String} {kind : EntityKind} {rule : Rule}
    (item : FitItem key target kind field rule) : rule ∈ Side.segments.scopedRules .v1 := by
  cases item <;> decide

lemma Typed.ValueMapItem.mem_scopedRules {kind : EntityKind} {field : String} {rule : Rule}
    (item : ValueMapItem kind field rule) : rule ∈ Side.propositions.scopedRules .v2 := by
  cases item <;> decide

lemma Typed.ProfileItem.mem_scopedRules {kind : EntityKind} {field : String} {rule : Rule}
    (item : ProfileItem kind field rule) : rule ∈ Side.segments.scopedRules .v2 := by
  cases item <;> decide

/-- The place below which a fit puts items of its sides together. -/
def scopedPlace (i : Nat) : Generation → Pointer
  | .v1 => [.key "fits", .index i]
  | .v2 => [.key "fits", .index i, .key "mappings"]

/-- An issue belongs to a side of a fit: it is about a reference of the fit to that side, about
something looked up in that side, or about an entity of that side without fits. -/
def Issue.IsAbout (issue : Issue) (g : Generation) (side : Side) (i : Nat) : Prop :=
  issue.rule = side.refRule.id ∧ Pointer.Under [.key "fits", .index i] issue.path ∨
    issue.rule ∈ (side.scopedRules g).map Rule.id ∧ (scopedPlace i g).Under issue.path ∨
      issue.rule = side.noFits.id

instance {issue : Issue} {g : Generation} {side : Side} {i : Nat} :
    Decidable (issue.IsAbout g side i) :=
  inferInstanceAs (Decidable (_ ∧ _ ∨ _ ∧ _ ∨ _))

/-- A document with one item of its fits replaced. -/
def replaceFit (doc : Mapping) (i : Nat) (fit : Mapping) : Mapping :=
  Mapping.set doc (.str "fits") (.list ((Mapping.get doc "fits").asList.set i (.map fit)))

/-- A side of a fit is replaced: in the first generation by any value, in the second by any list, if
the fit has a mapping for it. -/
inductive Relinks (side : Side) (fit : Mapping) : Generation → Mapping → Prop where
  | field (ref : Value) : Relinks side fit .v1 (Mapping.set fit (.str side.field) ref)
  | list {links : Mapping} (refs : List Value) :
    Mapping.get fit "for" = .map links →
    Relinks side fit .v2
      (Mapping.set fit (.str "for") (.map (Mapping.set links (.str side.key) (.list refs))))

end BusinessModel.Lint
