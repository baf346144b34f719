import BusinessModel.Proofs.Lint.Coverage
import BusinessModel.Proofs.Lint.Flat
import BusinessModel.Proofs.Lint.Typed

/-!
# What fits use

Fits of the first generation use what their own fields and the entries of their lists name, in
whatever segment it is declared.  Fits of the second generation use what their mappings end in, but
only through mappings that are accepted.  Which mappings these are is left open here: the coverage
agrees with every notion of acceptance that holds exactly of the compatible pairs.

* `Flat.InUse`, `Typed.InUse` — what the fits of a document use
* `Flat.mem_used_coverage`, `Typed.mem_used_coverage` — the coverage holds what is in use
-/

namespace BusinessModel.Lint

namespace Flat

/-- What the fits of a document of the first generation use. -/
inductive InUse (doc : Mapping) : EntityKind → String → Prop where
  | segment {i fit id} :
    (i, fit) ∈ Mapping.entries doc "fits" →
    Mapping.get fit "customer_segment" = .str id →
    InUse doc .customerSegment id
  | proposition {i fit id} :
    (i, fit) ∈ Mapping.entries doc "fits" →
    Mapping.get fit "value_proposition" = .str id →
    InUse doc .valueProposition id
  | target {key target kind field rule i fit k entry id} :
    FitItem key target kind field rule →
    (i, fit) ∈ Mapping.entries doc "fits" →
    (k, entry) ∈ Mapping.entries fit key →
    Mapping.get entry target = .str id →
    InUse doc kind id
  | through {key target kind field rule i fit k entry id} :
    FitItem key target kind field rule →
    (i, fit) ∈ Mapping.entries doc "fits" →
    (k, entry) ∈ Mapping.entries fit key →
    .str id ∈ (Mapping.get entry "through").asList →
    InUse doc .productService id

variable {doc : Mapping} {kind : EntityKind} {id key target field : String}

/-- The identifiers that fits name in a field of their own. -/
lemma mem_named :
    id ∈ IdSet.ofList (Value.texts
        (((Mapping.entries doc "fits").map (·.2)).map fun fit => Mapping.get fit field)) ↔
      ∃ i fit, (i, fit) ∈ Mapping.entries doc "fits" ∧ Mapping.get fit field = .str id := by
  simp only [IdSet.mem_ofList, Value.mem_texts, List.mem_map, Prod.exists]
  refine ⟨?_, ?_⟩
  · rintro ⟨_, ⟨i, fit, place, rfl⟩, named⟩
    exact ⟨i, fit, place, named⟩
  · rintro ⟨i, fit, place, named⟩
    exact ⟨fit, ⟨i, fit, place, rfl⟩, named⟩

/-- The entries that fits hold in one of their lists. -/
lemma mem_entriesOf {entry : Mapping} :
    (entry ∈ ((Mapping.entries doc "fits").map (·.2)).flatMap fun fit =>
        (Mapping.entries fit key).map (·.2)) ↔
      ∃ i fit k, (i, fit) ∈ Mapping.entries doc "fits" ∧ (k, entry) ∈ Mapping.entries fit key := by
  simp only [List.mem_flatMap, List.mem_map, Prod.exists]
  refine ⟨?_, ?_⟩
  · rintro ⟨_, ⟨i, fit, place, rfl⟩, k, _, inner, rfl⟩
    exact ⟨i, fit, k, place, inner⟩
  · rintro ⟨i, fit, k, place, inner⟩
    exact ⟨fit, ⟨i, fit, place, rfl⟩, k, entry, inner, rfl⟩

/-- The identifiers that the entries of a list target. -/
lemma mem_targeted :
    id ∈ IdSet.ofList (Value.texts ((((Mapping.entries doc "fits").map (·.2)).flatMap fun fit =>
        (Mapping.entries fit key).map (·.2)).map fun entry => Mapping.get entry target)) ↔
      ∃ i fit k entry, (i, fit) ∈ Mapping.entries doc "fits" ∧
        (k, entry) ∈ Mapping.entries fit key ∧ Mapping.get entry target = .str id := by
  rw [IdSet.mem_ofList, Value.mem_texts, List.mem_map]
  refine ⟨?_, ?_⟩
  · rintro ⟨entry, member, named⟩
    obtain ⟨i, fit, k, place, inner⟩ := mem_entriesOf.1 member
    exact ⟨i, fit, k, entry, place, inner, named⟩
  · rintro ⟨i, fit, k, entry, place, inner, named⟩
    exact ⟨entry, mem_entriesOf.2 ⟨i, fit, k, place, inner⟩, named⟩

/-- The products that the entries of all lists go through. -/
lemma mem_products :
    id ∈ (coverage doc).used .productService ↔
      ∃ key target kind field rule, FitItem key target kind field rule ∧
        ∃ i fit k entry, (i, fit) ∈ Mapping.entries doc "fits" ∧
          (k, entry) ∈ Mapping.entries fit key ∧
            .str id ∈ (Mapping.get entry "through").asList := by
  refine IdSet.mem_ofList.trans ?_
  refine ⟨?_, ?_⟩
  · intro used
    obtain ⟨list, listed, used⟩ := List.mem_flatMap.1 used
    obtain ⟨entry, member, named⟩ := List.mem_flatMap.1 used
    obtain ⟨i, fit, k, place, inner⟩ := mem_entriesOf.1 member
    obtain ⟨field, item, _⟩ := fitItem_of_mem listed
    exact ⟨_, _, _, field, _, item, i, fit, k, entry, place, inner, Value.mem_texts.1 named⟩
  · rintro ⟨key, target, kind, field, rule, item, i, fit, k, entry, place, inner, named⟩
    obtain ⟨list, listed, rfl, _⟩ := exists_fitList item
    refine List.mem_flatMap.2 ⟨list, listed, List.mem_flatMap.2 ⟨entry, ?_, ?_⟩⟩
    · exact mem_entriesOf.2 ⟨i, fit, k, place, inner⟩
    · exact Value.mem_texts.2 named

/-- The coverage of a document of the first generation holds what its fits use. -/
lemma mem_used_coverage : id ∈ (coverage doc).used kind ↔ InUse doc kind id := by
  refine ⟨?_, ?_⟩
  · intro used
    cases kind with
    | customerSegment =>
      obtain ⟨i, fit, place, named⟩ := mem_named.1 used
      exact .segment place named
    | valueProposition =>
      obtain ⟨i, fit, place, named⟩ := mem_named.1 used
      exact .proposition place named
    | pain =>
      obtain ⟨i, fit, k, entry, place, inner, named⟩ := mem_targeted.1 used
      exact .target .reliever place inner named
    | gain =>
      obtain ⟨i, fit, k, entry, place, inner, named⟩ := mem_targeted.1 used
      exact .target .creator place inner named
    | job =>
      obtain ⟨i, fit, k, entry, place, inner, named⟩ := mem_targeted.1 used
      exact .target .addresser place inner named
    | productService =>
      obtain ⟨_, _, _, _, _, item, i, fit, k, entry, place, inner, named⟩ := mem_products.1 used
      exact .through item place inner named
    | _ => exact absurd used List.not_mem_nil
  · intro use
    cases use with
    | segment place named => exact mem_named.2 ⟨_, _, place, named⟩
    | proposition place named => exact mem_named.2 ⟨_, _, place, named⟩
    | target item place inner named =>
      cases item with
      | reliever => exact mem_targeted.2 ⟨_, _, _, _, place, inner, named⟩
      | creator => exact mem_targeted.2 ⟨_, _, _, _, place, inner, named⟩
      | addresser => exact mem_targeted.2 ⟨_, _, _, _, place, inner, named⟩
    | through item place inner named =>
      exact mem_products.2 ⟨_, _, _, _, _, item, _, _, _, _, place, inner, named⟩

end Flat

namespace Typed

/-- The last item of a sequence is a text. -/
inductive EndsIn : Value → String → Prop where
  | list {items id} : items.getLast? = some (.str id) → EndsIn (.list items) id
  | tuple {items id} : items.getLast? = some (.str id) → EndsIn (.tuple items) id

/-- What the fits of a document of the second generation use, if their accepted mappings are given
by the positions of the fit and of the mapping. -/
inductive InUse (doc : Mapping) (accepted : Nat → Nat → Prop) : EntityKind → String → Prop where
  | segment {i fit id} :
    (i, fit) ∈ Mapping.entries doc "fits" →
    .str id ∈ Mapping.relation fit "for" "customer_segments" →
    InUse doc accepted .customerSegment id
  | proposition {i fit id} :
    (i, fit) ∈ Mapping.entries doc "fits" →
    .str id ∈ Mapping.relation fit "for" "value_propositions" →
    InUse doc accepted .valueProposition id
  | target {kind field rule i fit k mapping id} :
    ProfileItem kind field rule →
    (i, fit) ∈ Mapping.entries doc "fits" →
    (Mapping.get fit "mappings").asList[k]? = some mapping →
    EndsIn mapping id →
    accepted i k →
    InUse doc accepted kind id

variable {doc fit : Mapping} {mapping : Value} {accepted : Nat → Nat → Prop} {kind : EntityKind}
  {l r id target : String}

/-- A pair ends in its right side. -/
lemma IsPair.endsIn_iff (pair : IsPair mapping l r) : EndsIn mapping id ↔ id = r := by
  cases pair with
  | list =>
    refine ⟨?_, ?_⟩
    · intro ends
      cases ends with
      | list last => simpa [eq_comm] using last
    · rintro rfl
      exact .list rfl
  | tuple =>
    refine ⟨?_, ?_⟩
    · intro ends
      cases ends with
      | tuple last => simpa [eq_comm] using last
    · rintro rfl
      exact .tuple rfl

/-- The kind that a left side asks for. -/
lemma bind_wantedKind?_eq_some {wanted : EntityKind} :
    (EntityKind.ofId? l).bind wantedKind? = some wanted ↔
      ∃ kind, EntityKind.ofId? l = some kind ∧ Wants kind wanted := by
  simp only [Option.bind_eq_some_iff, wantedKind?_eq_some]

/-- The coverage tells compatible pairs by itself, and as the references do. -/
lemma isCompatible_iff : isCompatible l r = true ↔ Compatible l r := by
  unfold isCompatible Compatible
  rw [← isSome_bind_profileRule?]
  cases right : EntityKind.ofId? r with
  | none => simp
  | some kind =>
    rw [Option.bind_some, Bool.and_eq_true, and_comm]
    refine and_congr_left' ?_
    -- Without a wanted kind there is nothing to clash with; otherwise the wanted kind is unique.
    cases asked : (EntityKind.ofId? l).bind wantedKind? with
    | none =>
      refine iff_of_true rfl fun leftKind wanted clash => ?_
      have := bind_wantedKind?_eq_some.2 ⟨leftKind, clash.1, clash.2.1⟩
      cases asked.symm.trans this
    | some wanted =>
      obtain ⟨leftKind, known, wants⟩ := bind_wantedKind?_eq_some.1 asked
      refine ⟨?_, ?_⟩
      · intro same leftKind' wanted' clash
        have again := bind_wantedKind?_eq_some.2 ⟨leftKind', clash.1, clash.2.1⟩
        cases asked.symm.trans again
        exact clash.2.2 (right.trans (congrArg some (beq_iff_eq.1 same).symm))
      · intro noClash
        by_contra different
        refine noClash leftKind wanted ⟨known, wants, ?_⟩
        rw [right]
        exact fun same => different (beq_iff_eq.2 (Option.some.inj same).symm)

/-- The right sides of the compatible pairs of a fit. -/
lemma mem_mappedBy :
    id ∈ mappedBy fit ↔
      ∃ (k : Nat) (mapping : Value) (l : String),
        (Mapping.get fit "mappings").asList[k]? = some mapping ∧
          IsPair mapping l id ∧ Compatible l id := by
  simp only [mappedBy, List.mem_filterMap]
  refine ⟨?_, ?_⟩
  · rintro ⟨mapping, member, made⟩
    obtain ⟨k, position⟩ := List.mem_iff_getElem?.1 member
    split at made
    next l r pair =>
      split at made
      next compatible =>
        cases made
        exact ⟨k, mapping, l, position, pair?_eq_some.1 pair, isCompatible_iff.1 compatible⟩
      next => cases made
    next => cases made
  · rintro ⟨k, mapping, l, position, pair, compatible⟩
    refine ⟨mapping, List.mem_iff_getElem?.2 ⟨k, position⟩, ?_⟩
    simp only [pair?_eq_some.2 pair, isCompatible_iff.2 compatible, if_true]

/-- The identifiers that fits name among their targets. -/
lemma mem_named :
    id ∈ IdSet.ofList (((Mapping.entries doc "fits").map (·.2)).flatMap fun fit =>
        Value.texts (Mapping.relation fit "for" target)) ↔
      ∃ i fit, (i, fit) ∈ Mapping.entries doc "fits" ∧
        .str id ∈ Mapping.relation fit "for" target := by
  simp only [IdSet.mem_ofList, List.mem_flatMap, Value.mem_texts, List.mem_map, Prod.exists]
  refine ⟨?_, ?_⟩
  · rintro ⟨_, ⟨i, fit, place, rfl⟩, named⟩
    exact ⟨i, fit, place, named⟩
  · rintro ⟨i, fit, place, named⟩
    exact ⟨fit, ⟨i, fit, place, rfl⟩, named⟩

/-- The identifiers that some accepted mapping ends in. -/
lemma mem_mapped
    (h : ∀ i fit k mapping, (i, fit) ∈ Mapping.entries doc "fits" →
      (Mapping.get fit "mappings").asList[k]? = some mapping →
      (accepted i k ↔ ∃ l r, IsPair mapping l r ∧ Compatible l r)) :
    id ∈ IdSet.ofList (((Mapping.entries doc "fits").map (·.2)).flatMap mappedBy) ↔
      ∃ i fit k mapping, (i, fit) ∈ Mapping.entries doc "fits" ∧
        (Mapping.get fit "mappings").asList[k]? = some mapping ∧ EndsIn mapping id ∧
        accepted i k := by
  simp only [IdSet.mem_ofList, List.mem_flatMap, List.mem_map, Prod.exists, mem_mappedBy]
  refine ⟨?_, ?_⟩
  · rintro ⟨_, ⟨i, fit, place, rfl⟩, k, mapping, l, position, pair, compatible⟩
    exact ⟨i, fit, k, mapping, place, position, pair.endsIn_iff.2 rfl,
      (h i fit k mapping place position).2 ⟨l, id, pair, compatible⟩⟩
  · rintro ⟨i, fit, k, mapping, place, position, ends, accepts⟩
    obtain ⟨l, r, pair, compatible⟩ := (h i fit k mapping place position).1 accepts
    obtain rfl := pair.endsIn_iff.1 ends
    exact ⟨fit, ⟨i, fit, place, rfl⟩, k, mapping, l, position, pair, compatible⟩

/-- The coverage of a document of the second generation holds what its fits use, if the accepted
mappings are the compatible pairs. -/
lemma mem_used_coverage
    (h : ∀ i fit k mapping, (i, fit) ∈ Mapping.entries doc "fits" →
      (Mapping.get fit "mappings").asList[k]? = some mapping →
      (accepted i k ↔ ∃ l r, IsPair mapping l r ∧ Compatible l r)) :
    id ∈ (coverage doc).used kind ↔ InUse doc accepted kind id := by
  refine ⟨?_, ?_⟩
  · intro used
    cases kind with
    | customerSegment =>
      obtain ⟨i, fit, place, named⟩ := mem_named.1 used
      exact .segment place named
    | valueProposition =>
      obtain ⟨i, fit, place, named⟩ := mem_named.1 used
      exact .proposition place named
    | pain =>
      obtain ⟨i, fit, k, mapping, place, position, ends, accepts⟩ := (mem_mapped h).1 used
      exact .target .pain place position ends accepts
    | gain =>
      obtain ⟨i, fit, k, mapping, place, position, ends, accepts⟩ := (mem_mapped h).1 used
      exact .target .gain place position ends accepts
    | job =>
      obtain ⟨i, fit, k, mapping, place, position, ends, accepts⟩ := (mem_mapped h).1 used
      exact .target .job place position ends accepts
    | _ => exact absurd used List.not_mem_nil
  · intro use
    cases use with
    | segment place named => exact mem_named.2 ⟨_, _, place, named⟩
    | proposition place named => exact mem_named.2 ⟨_, _, place, named⟩
    | target item place position ends accepts =>
      have mapped := (mem_mapped h).2 ⟨_, _, _, _, place, position, ends, accepts⟩
      cases item with
      | pain => exact mapped
      | gain => exact mapped
      | job => exact mapped

end Typed

end BusinessModel.Lint
