import BusinessModel.Proofs.Lint.Warnings
import BusinessModel.Proofs.Path

/-!
# References and their places

The references that the rules of a generation are about are listed here with their places, whether
they resolve or not.  Every reference error but those about mappings is an error of one of them.
What stands at the place of a reference is the reference itself; only the single fields of the first
generation can be missing, and then the mapping around them is there.

* `Lint.Reference` — the references of a document: rule, place, and what they should name
* `Lint.RefError.reference_or_mapping` — what an error is about
* `Lint.Reference.stands` — the place of a reference leads to it
-/

namespace BusinessModel.Lint

namespace Flat

/-- The references of a document of the first generation. -/
inductive Reference (doc : Mapping) : Rule → Pointer → Referent → Value → Prop where
  | listed {key field referent rule i entry j ref} :
    Refers key field referent rule →
    (i, entry) ∈ Mapping.entries doc key →
    (Mapping.get entry field).asList[j]? = some ref →
    Reference doc rule [.key key, .index i, .key field, .index j] referent ref
  | cost {i entry j ref} :
    (i, entry) ∈ Mapping.entries (Mapping.get doc "cost_structure").asMapping "major_costs" →
    (Mapping.get entry "linked_to").asList[j]? = some ref →
    Reference doc .costLinkedToRef
      [.key "cost_structure", .key "major_costs", .index i, .key "linked_to", .index j]
      .resourceOrActivity ref
  | single {key field referent rule i entry} :
    RefersOnce key field referent rule →
    (i, entry) ∈ Mapping.entries doc key →
    Reference doc rule [.key key, .index i, .key field] referent (Mapping.get entry field)
  | streamValue {i entry} :
    (i, entry) ∈ Mapping.entries doc "revenue_streams" →
    Mapping.get entry "for_value" ≠ .null →
    Reference doc .revenueStreamValueRef [.key "revenue_streams", .index i, .key "for_value"]
      (.entity .valueProposition) (Mapping.get entry "for_value")
  | target {key target kind field rule i fit k entry} :
    FitItem key target kind field rule →
    (i, fit) ∈ Mapping.entries doc "fits" →
    (k, entry) ∈ Mapping.entries fit key →
    Reference doc rule [.key "fits", .index i, .key key, .index k, .key target] (.entity kind)
      (Mapping.get entry target)
  | through {key target kind field rule i fit k entry t ref} :
    FitItem key target kind field rule →
    (i, fit) ∈ Mapping.entries doc "fits" →
    (k, entry) ∈ Mapping.entries fit key →
    (Mapping.get entry "through").asList[t]? = some ref →
    Reference doc .fitThroughRef
      [.key "fits", .index i, .key key, .index k, .key "through", .index t]
      (.entity .productService) ref

end Flat

namespace Typed

/-- The references of a document of the second generation, apart from the sides of mappings. -/
inductive Reference (doc : Mapping) : Rule → Pointer → Referent → Value → Prop where
  | linked {key relation target referent rule i entry j ref} :
    Refers key relation target referent rule →
    (i, entry) ∈ Mapping.entries doc key →
    (Mapping.relation entry relation target)[j]? = some ref →
    Reference doc rule [.key key, .index i, .key relation, .key target, .index j] referent ref

end Typed

/-- The references of a document, each with the rule that it can break, its place, and what it
should name. -/
def Reference (doc : Mapping) : Generation → Rule → Pointer → Referent → Value → Prop
  | .v1 => Flat.Reference doc
  | .v2 => Typed.Reference doc

/-- The fields that hold a single reference, each behind the place of the mapping that should have
it. -/
inductive MayLack : Pointer → String → Prop where
  | single {key field referent rule i} :
    Flat.RefersOnce key field referent rule →
    MayLack [.key key, .index i] field
  | target {key target kind field rule i k} :
    Flat.FitItem key target kind field rule →
    MayLack [.key "fits", .index i, .key key, .index k] target

/-- What a broken rule is about, if it is about a reference. -/
def Fault.reference? : Fault → Option (Referent × Value)
  | .unresolved referent ref => some (referent, ref)
  | .notIn referent ref _ _ => some (referent, ref)
  | .notInAny referent id _ _ => some (referent, .str id)
  | _ => none

/-- What the references of a rule should name. -/
def Rule.referent? : Rule → Option Referent
  | fitValuePropositionRef | channelValueRef | revenueStreamValueRef | keyResourceValueRef
  | keyActivityValueRef => some (.entity .valueProposition)
  | fitCustomerSegmentRef | channelSegmentRef | customerRelationshipSegmentRef
  | revenueStreamSegmentRef => some (.entity .customerSegment)
  | fitPainRef => some (.entity .pain)
  | fitGainRef => some (.entity .gain)
  | fitJobRef => some (.entity .job)
  | fitThroughRef => some (.entity .productService)
  | painRelieverScopeRef => some (.entity .painReliever)
  | gainCreatorScopeRef => some (.entity .gainCreator)
  | keyPartnershipProvidesRef | costLinkedToRef => some .resourceOrActivity
  | _ => none

variable {doc m : Mapping} {g : Generation} {f : Finding} {rule : Rule} {place : Pointer}
  {referent : Referent} {ref v : Value} {name : String}

/-- What a mapping has in a field is there, or the field is missing and reads as null. -/
lemma get_cases (m : Mapping) (name : String) :
    (Value.map m).follow [.key name] = some (Mapping.get m name) ∨
      Mapping.get? m name = none ∧ Mapping.get m name = .null := by
  unfold Mapping.get
  cases found : Mapping.get? m name with
  | none => exact .inr ⟨rfl, rfl⟩
  | some v => exact .inl (by simp [found])

/-- A reference is reached by its place, or it is a single reference that is missing. -/
inductive Stands (doc : Mapping) (g : Generation) (place : Pointer) (ref : Value) : Prop where
  | there : (Value.map doc).follow place = some ref → Stands doc g place ref
  | lacking {above name m} :
    g = .v1 →
    MayLack above name →
    place = above ++ [.key name] →
    (Value.map doc).follow above = some (.map m) →
    Mapping.get? m name = none →
    ref = .null →
    Stands doc g place ref

/-- What stands at a place is what the place leads to, and null if it leads to nothing. -/
lemma Stands.eq_getD (stands : Stands doc g place ref) :
    ref = ((Value.map doc).follow place).getD .null := by
  cases stands with
  | there reached => rw [reached, Option.getD_some]
  | lacking _ _ shape reached absent null =>
    rw [shape, Value.follow_append reached, Value.follow_key, absent, null, Option.bind_none,
      Option.getD_none]

/-- A single reference stands in its field, if the mapping around it is there. -/
lemma stands_single {above : Pointer} (lacks : MayLack above name)
    (reached : (Value.map doc).follow above = some (.map m)) :
    Stands doc .v1 (above ++ [.key name]) (Mapping.get m name) := by
  obtain found | ⟨absent, null⟩ := get_cases m name
  · exact .there ((Value.follow_append reached).trans found)
  · exact .lacking rfl lacks rfl reached absent null

namespace Flat

/-- The place of a reference leads to it, unless it is a single one that is missing. -/
lemma Reference.stands (reference : Reference doc rule place referent ref) :
    Stands doc .v1 place ref := by
  cases reference with
  | listed _ entry position =>
    exact .there (by rw [Value.follow_entry entry, Value.follow_asList position, Value.follow_nil])
  | cost entry position =>
    refine .there ?_
    rw [Value.follow_member (mem_entries.1 entry), Value.follow_asList position, Value.follow_nil]
  | single refers entry => exact stands_single (.single refers) (Value.follow_entry entry)
  | streamValue entry present =>
    refine .there (.trans (Value.follow_entry entry) ?_)
    obtain found | ⟨_, null⟩ := get_cases _ "for_value"
    · exact found
    · exact absurd null present
  | target item fit entry =>
    refine stands_single (.target item) ?_
    rw [Value.follow_entry fit, Value.follow_entry entry, Value.follow_nil]
  | through _ fit entry position =>
    refine .there ?_
    rw [Value.follow_entry fit, Value.follow_entry entry, Value.follow_asList position,
      Value.follow_nil]

/-- The places of references are plain. -/
lemma Reference.plain (reference : Reference doc rule place referent ref) : place.IsPlain := by
  cases reference with
  | listed refers => cases refers <;> simp <;> decide
  | cost => simp; decide
  | single refers => cases refers <;> simp <;> decide
  | streamValue => simp; decide
  | target item => cases item <;> simp <;> decide
  | through item => cases item <;> simp <;> decide

/-- A rule tells what its references should name. -/
lemma Reference.referent?_eq (reference : Reference doc rule place referent ref) :
    rule.referent? = some referent := by
  cases reference with
  | listed refers => cases refers <;> rfl
  | cost => rfl
  | single refers => cases refers <;> rfl
  | streamValue => rfl
  | target item => cases item <;> rfl
  | through => rfl

/-- Every error is about a reference. -/
lemma RefError.exists_reference (error : RefError doc f) :
    ∃ referent ref, Reference doc f.rule f.place referent ref ∧
      f.fault.reference? = some (referent, ref) := by
  cases error with
  | unresolved refers entry position => exact ⟨_, _, .listed refers entry position, rfl⟩
  | cost entry position => exact ⟨_, _, .cost entry position, rfl⟩
  | single refers entry => exact ⟨_, _, .single refers entry, rfl⟩
  | streamValue entry present => exact ⟨_, _, .streamValue entry present, rfl⟩
  | target item fit entry => exact ⟨_, _, .target item fit entry, rfl⟩
  | through item fit entry position => exact ⟨_, _, .through item fit entry position, rfl⟩

end Flat

namespace Typed

/-- The place of a reference leads to it. -/
lemma Reference.follow (reference : Reference doc rule place referent ref) :
    (Value.map doc).follow place = some ref := by
  cases reference with
  | linked _ entry position => rw [Value.follow_entry entry, Value.follow_relation position]

/-- The places of references are plain. -/
lemma Reference.plain (reference : Reference doc rule place referent ref) : place.IsPlain := by
  cases reference with
  | linked refers => cases refers <;> simp <;> decide

/-- A rule tells what its references should name. -/
lemma Reference.referent?_eq (reference : Reference doc rule place referent ref) :
    rule.referent? = some referent := by
  cases reference with
  | linked refers => cases refers <;> rfl

end Typed

namespace Reference

lemma stands (reference : Reference doc g rule place referent ref) : Stands doc g place ref := by
  cases g with
  | v1 => exact Flat.Reference.stands reference
  | v2 => exact .there (Typed.Reference.follow reference)

lemma plain (reference : Reference doc g rule place referent ref) : place.IsPlain := by
  cases g with
  | v1 => exact Flat.Reference.plain reference
  | v2 => exact Typed.Reference.plain reference

lemma ne_nil (reference : Reference doc g rule place referent ref) : place ≠ [] := by
  cases g with
  | v1 => cases reference <;> simp
  | v2 =>
    cases reference
    simp

lemma referent?_eq (reference : Reference doc g rule place referent ref) :
    rule.referent? = some referent := by
  cases g with
  | v1 => exact Flat.Reference.referent?_eq reference
  | v2 => exact Typed.Reference.referent?_eq reference

end Reference

/-- Every error is about a reference, or about a mapping of a fit of the second generation. -/
lemma RefError.reference_or_mapping (error : RefError doc g f) :
    (∃ referent ref, Reference doc g f.rule f.place referent ref ∧
      f.fault.reference? = some (referent, ref)) ∨
    (g = .v2 ∧ ∃ i fit k mapping, (i, fit) ∈ Mapping.entries doc "fits" ∧
      (Mapping.get fit "mappings").asList[k]? = some mapping ∧
      Typed.MappingError doc fit (mappingPlace i k) mapping f) := by
  cases g with
  | v1 => exact .inl (Flat.RefError.exists_reference error)
  | v2 =>
    cases error with
    | unresolved refers entry position => exact .inl ⟨_, _, .linked refers entry position, rfl⟩
    | mapping fit position error => exact .inr ⟨rfl, _, _, _, _, fit, position, error⟩

end BusinessModel.Lint
