import BusinessModel.Proofs.Lint.Reference

/-!
# Reference errors of the first generation

The errors that a document of the first generation should be reported for, again described by what
the document declares alone.  A fit names one segment and one value proposition; its entries are
checked against each of the two independently, and only if that one is declared.

* `Flat.Refers`, `Flat.RefersOnce`, `Flat.FitItem` — the references that are checked
* `Flat.RefError` — the reference errors of a document
* `Flat.mem_references` — the findings about references are the reference errors
-/

namespace BusinessModel.Lint.Flat

/-- The lists of references that the entries of a section make: the field, what the references
should name, and the rule that they break otherwise. -/
inductive Refers : String → String → Referent → Rule → Prop where
  | channelSegment :
    Refers "channels" "segments" (.entity .customerSegment) .channelSegmentRef
  | streamSegment :
    Refers "revenue_streams" "from_segments" (.entity .customerSegment) .revenueStreamSegmentRef
  | resourceProposition :
    Refers "key_resources" "for_value" (.entity .valueProposition) .keyResourceValueRef
  | activityProposition :
    Refers "key_activities" "for_value" (.entity .valueProposition) .keyActivityValueRef
  | partnershipMeans :
    Refers "key_partnerships" "provides" .resourceOrActivity .keyPartnershipProvidesRef

/-- The single references that every entry of a section must make. -/
inductive RefersOnce : String → String → Referent → Rule → Prop where
  | fitProposition :
    RefersOnce "fits" "value_proposition" (.entity .valueProposition) .fitValuePropositionRef
  | fitSegment :
    RefersOnce "fits" "customer_segment" (.entity .customerSegment) .fitCustomerSegmentRef
  | relationshipSegment :
    RefersOnce "customer_relationships" "segment" (.entity .customerSegment)
      .customerRelationshipSegmentRef

/-- The lists of a fit: the field of their entries that targets a profile item, the kind of the
item, and the list of a segment that declares it. -/
inductive FitItem : String → String → EntityKind → String → Rule → Prop where
  | reliever : FitItem "pain_relievers" "pain" .pain "pains" .fitPainRef
  | creator : FitItem "gain_creators" "gain" .gain "gains" .fitGainRef
  | addresser : FitItem "job_addressers" "job" .job "jobs" .fitJobRef

/-- The reference errors of a document. -/
inductive RefError (doc : Mapping) : Finding → Prop where
  | unresolved {key field referent rule i entry j ref} :
    Refers key field referent rule →
    (i, entry) ∈ Mapping.entries doc key →
    (Mapping.get entry field).asList[j]? = some ref →
    ¬Resolves doc referent ref →
    RefError doc ⟨rule, [.key key, .index i, .key field, .index j], .unresolved referent ref⟩
  | cost {i entry j ref} :
    (i, entry) ∈ Mapping.entries (Mapping.get doc "cost_structure").asMapping "major_costs" →
    (Mapping.get entry "linked_to").asList[j]? = some ref →
    ¬Resolves doc .resourceOrActivity ref →
    RefError doc ⟨.costLinkedToRef,
      [.key "cost_structure", .key "major_costs", .index i, .key "linked_to", .index j],
      .unresolved .resourceOrActivity ref⟩
  | single {key field referent rule i entry} :
    RefersOnce key field referent rule →
    (i, entry) ∈ Mapping.entries doc key →
    ¬Resolves doc referent (Mapping.get entry field) →
    RefError doc ⟨rule, [.key key, .index i, .key field],
      .unresolved referent (Mapping.get entry field)⟩
  | streamValue {i entry} :
    (i, entry) ∈ Mapping.entries doc "revenue_streams" →
    Mapping.get entry "for_value" ≠ .null →
    ¬Resolves doc (.entity .valueProposition) (Mapping.get entry "for_value") →
    RefError doc ⟨.revenueStreamValueRef, [.key "revenue_streams", .index i, .key "for_value"],
      .unresolved (.entity .valueProposition) (Mapping.get entry "for_value")⟩
  | target {key target kind field rule i fit k entry} :
    FitItem key target kind field rule →
    (i, fit) ∈ Mapping.entries doc "fits" →
    (k, entry) ∈ Mapping.entries fit key →
    Names doc "customer_segments" (Mapping.get fit "customer_segment") →
    ¬Lists doc "customer_segments" field (Mapping.get fit "customer_segment")
      (Mapping.get entry target) →
    RefError doc ⟨rule, [.key "fits", .index i, .key key, .index k, .key target],
      .notIn (.entity kind) (Mapping.get entry target) .customerSegment
        (Mapping.get fit "customer_segment")⟩
  | through {key target kind field rule i fit k entry t ref} :
    FitItem key target kind field rule →
    (i, fit) ∈ Mapping.entries doc "fits" →
    (k, entry) ∈ Mapping.entries fit key →
    (Mapping.get entry "through").asList[t]? = some ref →
    Names doc "value_propositions" (Mapping.get fit "value_proposition") →
    ¬Lists doc "value_propositions" "products_services" (Mapping.get fit "value_proposition") ref →
    RefError doc ⟨.fitThroughRef,
      [.key "fits", .index i, .key key, .index k, .key "through", .index t],
      .notIn (.entity .productService) ref .valueProposition
        (Mapping.get fit "value_proposition")⟩

variable {doc fit entry : Mapping} {g : Generation} {ref : Value} {f : Finding} {place : Pointer}
  {resolves : Value → Bool} {referent : Referent} {rule : Rule} {key field : String}

/-- Membership in a set of identifiers, by the texts. -/
lemma isIn_eq_true {ids : IdSet} : isIn ids ref = true ↔ ∃ id ∈ ids, ref = .str id := by
  unfold isIn
  split
  next id => simp
  next h => exact iff_of_false nofun fun ⟨id, _, text⟩ => h id text

/-- The items of what an owner resolves to are those that its declarations list. -/
lemma isIn_items {α : Type} {look : Option α} {items : α → IdSet} {found : α} {owner : Value}
    (listed : ∀ x, (∃ p ∈ look, x ∈ items p) ↔ Lists doc key field owner (.str x))
    (h : look = some found) :
    isIn (items found) ref = true ↔ Lists doc key field owner ref := by
  have member : ∀ x, x ∈ items found ↔ Lists doc key field owner (.str x) := by
    intro x
    rw [← listed x, h]
    simp
  rw [isIn_eq_true]
  refine ⟨?_, ?_⟩
  · rintro ⟨x, found, rfl⟩
    exact (member x).1 found
  · intro lists
    obtain ⟨x, rfl⟩ := lists.exists_str
    exact ⟨x, (member x).2 lists, rfl⟩

/-- The finding about the target of an entry: its segment is declared and does not list it. -/
lemma mem_checkTarget {segment : Value} {list : FitList}
    (gathers : Index.Gathers {} Profile.declare list.items field) :
    f ∈ checkTarget ((Index.build doc g).segment? segment) segment list place entry ↔
      Names doc "customer_segments" segment ∧
        ¬Lists doc "customer_segments" field segment (Mapping.get entry list.target) ∧
        f = ⟨list.rule, place ++ [.key list.target],
          .notIn (.entity list.kind) (Mapping.get entry list.target) .customerSegment segment⟩ := by
  rw [← Index.hasSegment_build, Index.hasSegment]
  cases found : (Index.build doc g).segment? segment with
  | none => simp [checkTarget]
  | some profile =>
    have listed : isIn (list.items profile) (Mapping.get entry list.target) = true ↔
        Lists doc "customer_segments" field segment (Mapping.get entry list.target) :=
      isIn_items (fun _ => Index.mem_items_segment? gathers) found
    simp [checkTarget, listed]

/-- The findings about the products of an entry: its value proposition is declared and does not list
them. -/
lemma mem_checkThrough {proposition : Value} :
    f ∈ checkThrough ((Index.build doc g).valueMap? proposition) proposition place entry ↔
      ∃ t ref, (Mapping.get entry "through").asList[t]? = some ref ∧
        Names doc "value_propositions" proposition ∧
        ¬Lists doc "value_propositions" "products_services" proposition ref ∧
        f = ⟨.fitThroughRef, place ++ [.key "through", .index t],
          .notIn (.entity .productService) ref .valueProposition proposition⟩ := by
  rw [← Index.hasProposition_build, Index.hasProposition]
  cases found : (Index.build doc g).valueMap? proposition with
  | none => simp [checkThrough]
  | some valueMap =>
    have listed : ∀ ref, isIn valueMap.products ref = true ↔
        Lists doc "value_propositions" "products_services" proposition ref := by
      intro ref
      exact isIn_items (fun _ => Index.mem_items_valueMap? (Index.gathers_products g)) found
    simp only [checkThrough, List.mem_filterMap, Prod.exists, List.mk_mem_zipIdx_iff_getElem?,
      Option.isSome_some, true_and, ← listed]
    refine ⟨?_, ?_⟩
    · rintro ⟨ref, t, position, made⟩
      split at made
      next => cases made
      next outside =>
        cases made
        exact ⟨t, ref, position, outside, rfl⟩
    · rintro ⟨t, ref, position, outside, rfl⟩
      exact ⟨ref, t, position, if_neg outside⟩

/-- The finding about a single reference. -/
lemma mem_checkRef (h : resolves ref = true ↔ Resolves doc referent ref) :
    f ∈ checkRef ref resolves rule place referent ↔
      ¬Resolves doc referent ref ∧ f = ⟨rule, place, .unresolved referent ref⟩ := by
  rw [← h]
  unfold checkRef
  cases resolves ref <;> simp

/-- The findings about a list of references of an entry. -/
lemma mem_checkField (h : ∀ ref, resolves ref = true ↔ Resolves doc referent ref) :
    f ∈ checkField entry field resolves rule place referent ↔
      ∃ j ref, (Mapping.get entry field).asList[j]? = some ref ∧ ¬Resolves doc referent ref ∧
        f = ⟨rule, place ++ [.key field, .index j], .unresolved referent ref⟩ := by
  refine mem_unresolvedRefs.trans ?_
  simp only [← h, Bool.not_eq_true, List.append_assoc, List.cons_append, List.nil_append]

/-- The findings about a section whose entries list references. -/
lemma mem_checkSection (h : ∀ ref, resolves ref = true ↔ Resolves doc referent ref) :
    f ∈ checkSection doc key field resolves rule referent ↔
      ∃ i entry j ref, (i, entry) ∈ Mapping.entries doc key ∧
        (Mapping.get entry field).asList[j]? = some ref ∧ ¬Resolves doc referent ref ∧
        f = ⟨rule, [.key key, .index i, .key field, .index j], .unresolved referent ref⟩ := by
  simp only [checkSection, List.mem_flatMap, Prod.exists, mem_checkField h, List.cons_append,
    List.nil_append, exists_and_left]

/-- The lists of a fit are those that are checked. -/
lemma fitItem_of_mem {list : FitList} (member : list ∈ fitLists) :
    ∃ field, FitItem list.key list.target list.kind field list.rule ∧
      Index.Gathers {} Profile.declare list.items field := by
  simp only [fitLists, List.mem_cons, List.not_mem_nil, or_false] at member
  obtain rfl | rfl | rfl := member
  · exact ⟨"pains", .reliever, Index.gathers_pains⟩
  · exact ⟨"gains", .creator, Index.gathers_gains⟩
  · exact ⟨"jobs", .addresser, Index.gathers_jobs⟩

lemma exists_fitList {target : String} {kind : EntityKind}
    (item : FitItem key target kind field rule) :
    ∃ list ∈ fitLists, list.key = key ∧ list.target = target ∧ list.kind = kind ∧
      list.rule = rule ∧ Index.Gathers {} Profile.declare list.items field := by
  cases item with
  | reliever => exact ⟨_, .head _, rfl, rfl, rfl, rfl, Index.gathers_pains⟩
  | creator => exact ⟨_, .tail _ (.head _), rfl, rfl, rfl, rfl, Index.gathers_gains⟩
  | addresser => exact ⟨_, .tail _ (.tail _ (.head _)), rfl, rfl, rfl, rfl, Index.gathers_jobs⟩

/-- The findings about a list of a fit: for each of its entries, the target and the products are
looked up independently of each other. -/
lemma mem_checkFitList {i : Nat} {list : FitList}
    (gathers : Index.Gathers {} Profile.declare list.items field) :
    f ∈ checkFitList (Index.build doc g) (i, fit) list ↔
      ∃ k entry, (k, entry) ∈ Mapping.entries fit list.key ∧
        ((Names doc "customer_segments" (Mapping.get fit "customer_segment") ∧
            ¬Lists doc "customer_segments" field (Mapping.get fit "customer_segment")
              (Mapping.get entry list.target) ∧
            f = ⟨list.rule, [.key "fits", .index i, .key list.key, .index k, .key list.target],
              .notIn (.entity list.kind) (Mapping.get entry list.target) .customerSegment
                (Mapping.get fit "customer_segment")⟩) ∨
          ∃ t ref, (Mapping.get entry "through").asList[t]? = some ref ∧
            Names doc "value_propositions" (Mapping.get fit "value_proposition") ∧
            ¬Lists doc "value_propositions" "products_services"
              (Mapping.get fit "value_proposition") ref ∧
            f = ⟨.fitThroughRef,
              [.key "fits", .index i, .key list.key, .index k, .key "through", .index t],
              .notIn (.entity .productService) ref .valueProposition
                (Mapping.get fit "value_proposition")⟩) := by
  simp only [checkFitList, List.mem_flatMap, List.mem_append, Prod.exists, mem_checkTarget gathers,
    mem_checkThrough, List.cons_append, List.nil_append]

/-- Every finding about a fit is a reference error. -/
lemma checkFit_sound {i : Nat} (place : (i, fit) ∈ Mapping.entries doc "fits")
    (found : f ∈ checkFit (Index.build doc .v1) (i, fit)) : RefError doc f := by
  simp only [checkFit, List.mem_append, mem_checkRef hasProposition_iff,
    mem_checkRef hasSegment_iff, List.mem_flatMap] at found
  obtain (⟨unresolved, rfl⟩ | ⟨unresolved, rfl⟩) | ⟨list, member, found⟩ := found
  · exact .single .fitProposition place unresolved
  · exact .single .fitSegment place unresolved
  · obtain ⟨field, item, gathers⟩ := fitItem_of_mem member
    obtain ⟨k, entry, entry_mem, ⟨declared, unlisted, rfl⟩ |
      ⟨t, ref, position, declared, unlisted, rfl⟩⟩ := (mem_checkFitList gathers).1 found
    · exact .target item place entry_mem declared unlisted
    · exact .through item place entry_mem position declared unlisted

/-- The findings about the segments of customer relationships. -/
lemma mem_checkRelationships :
    f ∈ checkRelationships doc (Index.build doc g) ↔
      ∃ i entry, (i, entry) ∈ Mapping.entries doc "customer_relationships" ∧
        ¬Resolves doc (.entity .customerSegment) (Mapping.get entry "segment") ∧
        f = ⟨.customerRelationshipSegmentRef,
          [.key "customer_relationships", .index i, .key "segment"],
          .unresolved (.entity .customerSegment) (Mapping.get entry "segment")⟩ := by
  simp only [checkRelationships, List.mem_flatMap, Prod.exists, mem_checkRef hasSegment_iff]

/-- The findings about revenue streams: segments are listed, the value is one reference that may be
absent. -/
lemma mem_checkRevenueStreams :
    f ∈ checkRevenueStreams doc (Index.build doc g) ↔
      ∃ i entry, (i, entry) ∈ Mapping.entries doc "revenue_streams" ∧
        ((∃ j ref, (Mapping.get entry "from_segments").asList[j]? = some ref ∧
            ¬Resolves doc (.entity .customerSegment) ref ∧
            f = ⟨.revenueStreamSegmentRef,
              [.key "revenue_streams", .index i, .key "from_segments", .index j],
              .unresolved (.entity .customerSegment) ref⟩) ∨
          (Mapping.get entry "for_value" ≠ .null ∧
            ¬Resolves doc (.entity .valueProposition) (Mapping.get entry "for_value") ∧
            f = ⟨.revenueStreamValueRef, [.key "revenue_streams", .index i, .key "for_value"],
              .unresolved (.entity .valueProposition) (Mapping.get entry "for_value")⟩)) := by
  simp only [checkRevenueStreams, List.mem_flatMap, List.mem_append, Prod.exists,
    mem_checkField fun _ => hasSegment_iff, List.cons_append, List.nil_append]
  refine exists_congr fun i => exists_congr fun entry => and_congr_right fun _ =>
    or_congr_right ?_
  -- Null is the only value that stands for no reference at all.
  split
  next absent => exact iff_of_false List.not_mem_nil fun present => present.1 absent
  next present =>
    rw [mem_checkRef hasProposition_iff]
    exact ⟨fun found => ⟨present, found⟩, And.right⟩

/-- The findings about the costs of the cost structure. -/
lemma mem_checkCosts :
    f ∈ checkCosts doc (Index.build doc g) ↔
      ∃ i entry, (i, entry) ∈
          Mapping.entries (Mapping.get doc "cost_structure").asMapping "major_costs" ∧
        ∃ j ref, (Mapping.get entry "linked_to").asList[j]? = some ref ∧
          ¬Resolves doc .resourceOrActivity ref ∧
          f = ⟨.costLinkedToRef,
            [.key "cost_structure", .key "major_costs", .index i, .key "linked_to", .index j],
            .unresolved .resourceOrActivity ref⟩ := by
  simp only [checkCosts, List.mem_flatMap, Prod.exists,
    mem_checkField fun _ => isResourceOrActivity_iff, List.cons_append, List.nil_append]

/-- Every finding about references is a reference error. -/
lemma references_sound (found : f ∈ references doc (Index.build doc .v1)) : RefError doc f := by
  simp only [references, List.mem_append, or_assoc] at found
  obtain found | found | found | found | found | found | found | found := found
  · obtain ⟨⟨i, fit⟩, place, found⟩ := List.mem_flatMap.1 found
    exact checkFit_sound place found
  · obtain ⟨i, entry, j, ref, place, position, unresolved, rfl⟩ :=
      (mem_checkSection fun _ => hasSegment_iff).1 found
    exact .unresolved .channelSegment place position unresolved
  · obtain ⟨i, entry, place, unresolved, rfl⟩ := mem_checkRelationships.1 found
    exact .single .relationshipSegment place unresolved
  · obtain ⟨i, entry, place, ⟨j, ref, position, unresolved, rfl⟩ | ⟨present, unresolved, rfl⟩⟩ :=
      mem_checkRevenueStreams.1 found
    · exact .unresolved .streamSegment place position unresolved
    · exact .streamValue place present unresolved
  · obtain ⟨i, entry, j, ref, place, position, unresolved, rfl⟩ :=
      (mem_checkSection fun _ => hasProposition_iff).1 found
    exact .unresolved .resourceProposition place position unresolved
  · obtain ⟨i, entry, j, ref, place, position, unresolved, rfl⟩ :=
      (mem_checkSection fun _ => hasProposition_iff).1 found
    exact .unresolved .activityProposition place position unresolved
  · obtain ⟨i, entry, j, ref, place, position, unresolved, rfl⟩ :=
      (mem_checkSection fun _ => isResourceOrActivity_iff).1 found
    exact .unresolved .partnershipMeans place position unresolved
  · obtain ⟨i, entry, place, j, ref, position, unresolved, rfl⟩ := mem_checkCosts.1 found
    exact .cost place position unresolved

/-- Every reference error is found. -/
lemma references_complete (error : RefError doc f) : f ∈ references doc (Index.build doc .v1) := by
  simp only [references, List.mem_append, or_assoc]
  -- Each kind of error stands in the part of the findings that checks its section.
  cases error with
  | @unresolved key field referent rule i entry j ref refers place position unresolved =>
    cases refers with
    | channelSegment =>
      refine .inr (.inl ?_)
      exact (mem_checkSection fun _ => hasSegment_iff).2
        ⟨i, entry, j, ref, place, position, unresolved, rfl⟩
    | streamSegment =>
      refine .inr (.inr (.inr (.inl ?_)))
      exact mem_checkRevenueStreams.2
        ⟨i, entry, place, .inl ⟨j, ref, position, unresolved, rfl⟩⟩
    | resourceProposition =>
      refine .inr (.inr (.inr (.inr (.inl ?_))))
      exact (mem_checkSection fun _ => hasProposition_iff).2
        ⟨i, entry, j, ref, place, position, unresolved, rfl⟩
    | activityProposition =>
      refine .inr (.inr (.inr (.inr (.inr (.inl ?_)))))
      exact (mem_checkSection fun _ => hasProposition_iff).2
        ⟨i, entry, j, ref, place, position, unresolved, rfl⟩
    | partnershipMeans =>
      refine .inr (.inr (.inr (.inr (.inr (.inr (.inl ?_))))))
      exact (mem_checkSection fun _ => isResourceOrActivity_iff).2
        ⟨i, entry, j, ref, place, position, unresolved, rfl⟩
  | @cost i entry j ref place position unresolved =>
    refine .inr (.inr (.inr (.inr (.inr (.inr (.inr ?_))))))
    exact mem_checkCosts.2 ⟨i, entry, place, j, ref, position, unresolved, rfl⟩
  | @single key field referent rule i entry refers place unresolved =>
    cases refers with
    | fitProposition =>
      refine .inl (List.mem_flatMap.2 ⟨_, place, ?_⟩)
      simp only [checkFit, List.mem_append]
      exact .inl (.inl ((mem_checkRef hasProposition_iff).2 ⟨unresolved, rfl⟩))
    | fitSegment =>
      refine .inl (List.mem_flatMap.2 ⟨_, place, ?_⟩)
      simp only [checkFit, List.mem_append]
      exact .inl (.inr ((mem_checkRef hasSegment_iff).2 ⟨unresolved, rfl⟩))
    | relationshipSegment =>
      refine .inr (.inr (.inl ?_))
      exact mem_checkRelationships.2 ⟨i, entry, place, unresolved, rfl⟩
  | @streamValue i entry place present unresolved =>
    refine .inr (.inr (.inr (.inl ?_)))
    exact mem_checkRevenueStreams.2 ⟨i, entry, place, .inr ⟨present, unresolved, rfl⟩⟩
  | @target key target kind field rule i fit k entry item place entry_mem declared unlisted =>
    refine .inl (List.mem_flatMap.2 ⟨_, place, ?_⟩)
    obtain ⟨list, member, rfl, rfl, rfl, rfl, gathers⟩ := exists_fitList item
    exact List.mem_append_right _ (List.mem_flatMap.2 ⟨list, member,
      (mem_checkFitList gathers).2 ⟨k, entry, entry_mem, .inl ⟨declared, unlisted, rfl⟩⟩⟩)
  | @through key target kind field rule i fit k entry t ref item place entry_mem position declared
      unlisted =>
    refine .inl (List.mem_flatMap.2 ⟨_, place, ?_⟩)
    obtain ⟨list, member, rfl, rfl, rfl, rfl, gathers⟩ := exists_fitList item
    exact List.mem_append_right _ (List.mem_flatMap.2 ⟨list, member, (mem_checkFitList gathers).2
      ⟨k, entry, entry_mem, .inr ⟨t, ref, position, declared, unlisted, rfl⟩⟩⟩)

/-- The findings about references are the reference errors. -/
lemma mem_references : f ∈ references doc (Index.build doc .v1) ↔ RefError doc f :=
  ⟨references_sound, references_complete⟩

/-- Reference errors are errors. -/
lemma RefError.severity (error : RefError doc f) : f.rule.severity = .error := by
  cases error with
  | unresolved refers => cases refers <;> rfl
  | cost => rfl
  | single refers => cases refers <;> rfl
  | streamValue => rfl
  | target item => cases item <;> rfl
  | through => rfl

end BusinessModel.Lint.Flat
