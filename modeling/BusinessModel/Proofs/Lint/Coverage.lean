import BusinessModel.Lint.Report
import BusinessModel.Proofs.Declared
import BusinessModel.Proofs.Table

/-!
# Declared and not in use

What the coverage findings are about is described for both generations at once: the entities that
fits should name, the items that fits should use, and, given what is in use, those that are not.
Whatever a `Coverage` holds, its findings are the declared entities and items outside of it.

* `Lint.Unused` — the declared entities and items that are not in use
* `Coverage.mem_findings` — the findings of a coverage are what it leaves unused
-/

namespace BusinessModel.Lint

/-- The entities that some fit should name. -/
inductive Entity : String → EntityKind → Rule → Prop where
  | segment : Entity "customer_segments" .customerSegment .segmentNoFits
  | proposition : Entity "value_propositions" .valueProposition .vpNoFits

/-- The items of entities that some fit should use.  Only fits of the first generation name
products. -/
inductive Item : Generation → String → String → EntityKind → Rule → Prop where
  | pain {g} : Item g "customer_segments" "pains" .pain .painNeverRelieved
  | gain {g} : Item g "customer_segments" "gains" .gain .gainNeverCreated
  | job {g} : Item g "customer_segments" "jobs" .job .jobNeverAddressed
  | product :
    Item .v1 "value_propositions" "products_services" .productService .productServiceNeverUsed

/-- The declared entities and items of a document that are not in use. -/
inductive Unused (doc : Mapping) (g : Generation) (inUse : EntityKind → String → Prop) :
    Finding → Prop where
  | entity {key kind rule i entry id} :
    Entity key kind rule →
    (i, entry) ∈ Mapping.entries doc key →
    Mapping.id? entry = some id →
    ¬inUse kind id →
    Unused doc g inUse ⟨rule, [.key key, .index i], .noFits kind id⟩
  | item {key field kind rule i owner j item id} :
    Item g key field kind rule →
    (i, owner) ∈ Mapping.entries doc key →
    (j, item) ∈ Mapping.entries owner field →
    Mapping.id? item = some id →
    ¬inUse kind id →
    Unused doc g inUse ⟨rule, [.key key, .index i, .key field, .index j], .unused kind id⟩

variable {doc m entry : Mapping} {g : Generation} {inUse other : EntityKind → String → Prop}
  {f : Finding} {key : String} {seen : IdSet} {rule : Rule} {kind : EntityKind}
  {place : Pointer} {c : Coverage}

/-- What is unused depends on nothing but what is in use. -/
lemma Unused.congr (same : ∀ kind id, inUse kind id ↔ other kind id) :
    Unused doc g inUse f ↔ Unused doc g other f := by
  have : inUse = other := funext₂ fun kind id => propext (same kind id)
  rw [this]

/-- What is unused is a warning. -/
lemma Unused.severity (unused : Unused doc g inUse f) : f.rule.severity = .warning := by
  cases unused with
  | entity entity => cases entity <;> rfl
  | item item => cases item <;> rfl

/-- What is unused is shown by identifiers, which have a text. -/
lemma Unused.isWritable (unused : Unused doc g inUse f) : f.isWritable = true := by
  cases unused with
  | entity => rfl
  | item => rfl

namespace Coverage

/-- The identifiers of a kind that are in use. -/
def used (c : Coverage) : EntityKind → IdSet
  | .customerSegment => c.segments
  | .valueProposition => c.propositions
  | .pain => c.pains
  | .gain => c.gains
  | .job => c.jobs
  | .productService => c.products.getD []
  | _ => []

/-- The entries whose identifier is not in use. -/
lemma mem_unusedIn {i : Nat} {id : String} :
    (i, id) ∈ unusedIn m key seen ↔
      ∃ entry, (i, entry) ∈ Mapping.entries m key ∧ Mapping.id? entry = some id ∧ id ∉ seen := by
  simp only [unusedIn, List.mem_filterMap, Prod.exists]
  refine ⟨?_, ?_⟩
  · rintro ⟨j, entry, place, made⟩
    split at made
    next id' named =>
      split at made
      next => cases made
      next outside =>
        cases made
        exact ⟨entry, place, named, by simpa using outside⟩
    next => cases made
  · rintro ⟨entry, place, named, outside⟩
    exact ⟨i, entry, place, by simp [named, outside]⟩

lemma mem_unfitted :
    f ∈ unfitted doc key seen rule kind ↔
      ∃ i entry id, (i, entry) ∈ Mapping.entries doc key ∧ Mapping.id? entry = some id ∧
        id ∉ seen ∧ f = ⟨rule, [.key key, .index i], .noFits kind id⟩ := by
  simp only [unfitted, List.mem_map, Prod.exists, mem_unusedIn]
  refine ⟨?_, ?_⟩
  · rintro ⟨i, id, ⟨entry, place, named, outside⟩, rfl⟩
    exact ⟨i, entry, id, place, named, outside, rfl⟩
  · rintro ⟨i, entry, id, place, named, outside, rfl⟩
    exact ⟨i, id, ⟨entry, place, named, outside⟩, rfl⟩

lemma mem_unusedItems :
    f ∈ unusedItems place m key seen rule kind ↔
      ∃ j item id, (j, item) ∈ Mapping.entries m key ∧ Mapping.id? item = some id ∧
        id ∉ seen ∧ f = ⟨rule, place ++ [.key key, .index j], .unused kind id⟩ := by
  simp only [unusedItems, List.mem_map, Prod.exists, mem_unusedIn]
  refine ⟨?_, ?_⟩
  · rintro ⟨j, id, ⟨item, place, named, outside⟩, rfl⟩
    exact ⟨j, item, id, place, named, outside, rfl⟩
  · rintro ⟨j, item, id, place, named, outside, rfl⟩
    exact ⟨j, id, ⟨item, place, named, outside⟩, rfl⟩

/-- The parts that the findings of a coverage are made of. -/
lemma mem_findings_iff_or :
    f ∈ c.findings doc ↔
      f ∈ unfitted doc "customer_segments" c.segments .segmentNoFits .customerSegment ∨
      f ∈ unfitted doc "value_propositions" c.propositions .vpNoFits .valueProposition ∨
      f ∈ unusedProfileItems doc c ∨
      ∃ seen, c.products = some seen ∧ f ∈ unusedProducts doc seen := by
  unfold findings
  cases c.products <;> simp

/-- Products are looked at in a generation if and only if its coverage holds them. -/
lemma mem_unusedProducts (h : c.products.isSome ↔ g = .v1) :
    (∃ seen, c.products = some seen ∧ f ∈ unusedProducts doc seen) ↔
      g = .v1 ∧ ∃ i owner, (i, owner) ∈ Mapping.entries doc "value_propositions" ∧
        f ∈ unusedItems [.key "value_propositions", .index i] owner "products_services"
          (c.used .productService) .productServiceNeverUsed .productService := by
  cases products : c.products with
  | none =>
    have second : g ≠ .v1 := by simpa [products] using h
    simp [second]
  | some seen =>
    have first : g = .v1 := by simpa [products] using h
    simp [first, unusedProducts, used, products]

/-- The findings of a coverage are what it leaves unused. -/
lemma mem_findings (h : c.products.isSome ↔ g = .v1) :
    f ∈ c.findings doc ↔ Unused doc g (fun kind id => id ∈ c.used kind) f := by
  simp only [mem_findings_iff_or, mem_unusedProducts h, mem_unfitted, unusedProfileItems,
    List.mem_flatMap, List.mem_append, Prod.exists, mem_unusedItems, List.cons_append,
    List.nil_append]
  refine ⟨?_, ?_⟩
  · rintro (⟨i, entry, id, place, named, outside, rfl⟩ |
      ⟨i, entry, id, place, named, outside, rfl⟩ |
      ⟨i, owner, place, (⟨j, item, id, inner, named, outside, rfl⟩ |
        ⟨j, item, id, inner, named, outside, rfl⟩) | ⟨j, item, id, inner, named, outside, rfl⟩⟩ |
      ⟨rfl, i, owner, place, j, item, id, inner, named, outside, rfl⟩)
    · exact .entity .segment place named outside
    · exact .entity .proposition place named outside
    · exact .item .pain place inner named outside
    · exact .item .gain place inner named outside
    · exact .item .job place inner named outside
    · exact .item .product place inner named outside
  · intro unused
    cases unused with
    | @entity key kind rule i entry id entity place named outside =>
      cases entity with
      | segment => exact .inl ⟨i, entry, id, place, named, outside, rfl⟩
      | proposition => exact .inr (.inl ⟨i, entry, id, place, named, outside, rfl⟩)
    | @item key field kind rule i owner j item id looked place inner named outside =>
      cases looked with
      | pain =>
        refine .inr (.inr (.inl ⟨i, owner, place, .inl (.inl ?_)⟩))
        exact ⟨j, item, id, inner, named, outside, rfl⟩
      | gain =>
        refine .inr (.inr (.inl ⟨i, owner, place, .inl (.inr ?_)⟩))
        exact ⟨j, item, id, inner, named, outside, rfl⟩
      | job =>
        refine .inr (.inr (.inl ⟨i, owner, place, .inr ?_⟩))
        exact ⟨j, item, id, inner, named, outside, rfl⟩
      | product =>
        exact .inr (.inr (.inr ⟨rfl, i, owner, place, j, item, id, inner, named, outside, rfl⟩))

end Coverage

end BusinessModel.Lint
