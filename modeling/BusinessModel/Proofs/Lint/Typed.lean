import BusinessModel.Proofs.Lint.Reference

/-!
# Reference errors of the second generation

The errors that a document of the second generation should be reported for are described by what
the document declares, rule by rule, without the index and without the order of the checks.  The
findings about references are exactly these errors.

* `Typed.Refers` — the references that are checked, section by section
* `Typed.MappingError` — what can be wrong with one mapping of a fit
* `Typed.RefError` — the reference errors of a document
* `Typed.mem_references` — the findings about references are the reference errors
* `Typed.resolves_of_clean` — without errors every checked reference resolves
-/

namespace BusinessModel.Lint.Typed

/-- The references that the entries of a section make under a relation: what they should name, and
the rule that they break otherwise. -/
inductive Refers : String → String → String → Referent → Rule → Prop where
  | fitProposition :
    Refers "fits" "for" "value_propositions" (.entity .valueProposition) .fitValuePropositionRef
  | fitSegment :
    Refers "fits" "for" "customer_segments" (.entity .customerSegment) .fitCustomerSegmentRef
  | channelSegment :
    Refers "channels" "for" "customer_segments" (.entity .customerSegment) .channelSegmentRef
  | channelProposition :
    Refers "channels" "for" "value_propositions" (.entity .valueProposition) .channelValueRef
  | relationshipSegment :
    Refers "customer_relationships" "for" "customer_segments" (.entity .customerSegment)
      .customerRelationshipSegmentRef
  | streamSegment :
    Refers "revenue_streams" "from" "customer_segments" (.entity .customerSegment)
      .revenueStreamSegmentRef
  | streamProposition :
    Refers "revenue_streams" "for" "value_propositions" (.entity .valueProposition)
      .revenueStreamValueRef
  | resourceProposition :
    Refers "key_resources" "for" "value_propositions" (.entity .valueProposition)
      .keyResourceValueRef
  | activityProposition :
    Refers "key_activities" "for" "value_propositions" (.entity .valueProposition)
      .keyActivityValueRef
  | partnershipResource :
    Refers "key_partnerships" "for" "key_resources" .resourceOrActivity .keyPartnershipProvidesRef
  | partnershipActivity :
    Refers "key_partnerships" "for" "key_activities" .resourceOrActivity .keyPartnershipProvidesRef
  | costResource :
    Refers "costs" "for" "key_resources" .resourceOrActivity .costLinkedToRef
  | costActivity :
    Refers "costs" "for" "key_activities" .resourceOrActivity .costLinkedToRef

/-- A mapping is a sequence of two texts. -/
inductive IsPair : Value → String → String → Prop where
  | list {l r} : IsPair (.list [.str l, .str r]) l r
  | tuple {l r} : IsPair (.tuple [.str l, .str r]) l r

/-- Relievers are for pains, creators for gains. -/
inductive Wants : EntityKind → EntityKind → Prop where
  | reliever : Wants .painReliever .pain
  | creator : Wants .gainCreator .gain

/-- The kinds of profile items, each with the list of a segment that declares it. -/
inductive ProfileItem : EntityKind → String → Rule → Prop where
  | pain : ProfileItem .pain "pains" .fitPainRef
  | gain : ProfileItem .gain "gains" .fitGainRef
  | job : ProfileItem .job "jobs" .fitJobRef

/-- The kinds of value-map items that are looked up, each with the list of a value proposition that
declares it. -/
inductive ValueMapItem : EntityKind → String → Rule → Prop where
  | reliever : ValueMapItem .painReliever "pain_relievers" .painRelieverScopeRef
  | creator : ValueMapItem .gainCreator "gain_creators" .gainCreatorScopeRef

/-- The left side of a pair wants another kind than its right side has. -/
def Clash (left right : String) (kind wanted : EntityKind) : Prop :=
  EntityKind.ofId? left = some kind ∧ Wants kind wanted ∧ EntityKind.ofId? right ≠ some wanted

/-- An identifier is that of a profile item. -/
def IsProfileItem (id : String) : Prop :=
  ∃ kind field rule, EntityKind.ofId? id = some kind ∧ ProfileItem kind field rule

/-- The kinds of a pair fit together. -/
def Compatible (left right : String) : Prop :=
  (∀ kind wanted, ¬Clash left right kind wanted) ∧ IsProfileItem right

/-- The references that name an entity of a section. -/
def linked (doc : Mapping) (key : String) (refs : List Value) : List Value :=
  refs.filter fun ref => Names doc key ref

/-- A fit links declared entities of a section, and none of them lists an item.  A fit without such
links has no scope, and nothing is out of it. -/
def OutOfScope (doc fit : Mapping) (key field id : String) : Prop :=
  linked doc key (Mapping.relation fit "for" key) ≠ [] ∧
    ∀ owner ∈ Mapping.relation fit "for" key, ¬Lists doc key field owner (.str id)

/-- What is wrong with one mapping of a fit, given with its place. -/
inductive MappingError (doc fit : Mapping) (place : Pointer) (mapping : Value) :
    Finding → Prop where
  | malformed :
    (∀ l r, ¬IsPair mapping l r) →
    MappingError doc fit place mapping ⟨.fitMappingMalformed, place, .notAPair mapping⟩
  | clash {l r kind wanted} :
    IsPair mapping l r →
    Clash l r kind wanted →
    MappingError doc fit place mapping
      ⟨.fitMappingTypeMismatch, place, .incompatible l r kind wanted⟩
  | notProfileItem {l r} :
    IsPair mapping l r →
    (∀ kind wanted, ¬Clash l r kind wanted) →
    ¬IsProfileItem r →
    MappingError doc fit place mapping
      ⟨.fitMappingTypeMismatch, place ++ [.index 1], .notAProfileItem l r⟩
  | left {l r kind field rule} :
    IsPair mapping l r →
    Compatible l r →
    EntityKind.ofId? l = some kind →
    ValueMapItem kind field rule →
    OutOfScope doc fit "value_propositions" field l →
    MappingError doc fit place mapping
      ⟨rule, place ++ [.index 0], .notInAny (.entity kind) l .valueProposition
        (linked doc "value_propositions" (Mapping.relation fit "for" "value_propositions"))⟩
  | right {l r kind field rule} :
    IsPair mapping l r →
    Compatible l r →
    EntityKind.ofId? r = some kind →
    ProfileItem kind field rule →
    OutOfScope doc fit "customer_segments" field r →
    MappingError doc fit place mapping
      ⟨rule, place ++ [.index 1], .notInAny (.entity kind) r .customerSegment
        (linked doc "customer_segments" (Mapping.relation fit "for" "customer_segments"))⟩

/-- The reference errors of a document. -/
inductive RefError (doc : Mapping) : Finding → Prop where
  | unresolved {key relation target referent rule i entry j ref} :
    Refers key relation target referent rule →
    (i, entry) ∈ Mapping.entries doc key →
    (Mapping.relation entry relation target)[j]? = some ref →
    ¬Resolves doc referent ref →
    RefError doc ⟨rule, [.key key, .index i, .key relation, .key target, .index j],
      .unresolved referent ref⟩
  | mapping {i fit k mapping f} :
    (i, fit) ∈ Mapping.entries doc "fits" →
    (Mapping.get fit "mappings").asList[k]? = some mapping →
    MappingError doc fit [.key "fits", .index i, .key "mappings", .index k] mapping f →
    RefError doc f

variable {doc fit entry : Mapping} {g : Generation} {mapping ref : Value} {l r id : String}
  {place : Pointer} {f : Finding}

lemma pair?_eq_some : pair? mapping = some (l, r) ↔ IsPair mapping l r := by
  refine ⟨?_, ?_⟩
  · intro h
    unfold pair? at h
    split at h
    next => cases h; exact .list
    next => cases h; exact .tuple
    next => cases h
  · intro pair
    cases pair with
    | list => rfl
    | tuple => rfl

lemma pair?_eq_none : pair? mapping = none ↔ ∀ l r, ¬IsPair mapping l r := by
  simp [Option.eq_none_iff_forall_ne_some, pair?_eq_some]

lemma wantedKind?_eq_some {kind wanted : EntityKind} :
    wantedKind? kind = some wanted ↔ Wants kind wanted := by
  refine ⟨?_, ?_⟩
  · intro h
    unfold wantedKind? at h
    split at h
    next => cases h; exact .reliever
    next => cases h; exact .creator
    next => cases h
  · intro wants
    cases wants with
    | reliever => rfl
    | creator => rfl

lemma profileRule?_eq_some {kind : EntityKind} {rule : Rule} :
    profileRule? kind = some rule ↔ ∃ field, ProfileItem kind field rule := by
  refine ⟨?_, ?_⟩
  · intro h
    unfold profileRule? at h
    split at h
    next => cases h; exact ⟨_, .pain⟩
    next => cases h; exact ⟨_, .gain⟩
    next => cases h; exact ⟨_, .job⟩
    next => cases h
  · rintro ⟨field, item⟩
    cases item with
    | pain => rfl
    | gain => rfl
    | job => rfl

lemma valueMapRule?_eq_some {kind : EntityKind} {rule : Rule} :
    valueMapRule? kind = some rule ↔ ∃ field, ValueMapItem kind field rule := by
  refine ⟨?_, ?_⟩
  · intro h
    unfold valueMapRule? at h
    split at h
    next => cases h; exact ⟨_, .reliever⟩
    next => cases h; exact ⟨_, .creator⟩
    next => cases h
  · rintro ⟨field, item⟩
    cases item with
    | reliever => rfl
    | creator => rfl

/-- The right side has a rule if and only if it is a profile item. -/
lemma isSome_bind_profileRule? :
    ((EntityKind.ofId? id).bind profileRule?).isSome ↔ IsProfileItem id := by
  rw [Option.isSome_iff_exists]
  simp only [Option.bind_eq_some_iff, profileRule?_eq_some, IsProfileItem]
  refine ⟨?_, ?_⟩
  · rintro ⟨rule, kind, known, field, item⟩
    exact ⟨kind, field, rule, known, item⟩
  · rintro ⟨kind, field, rule, known, item⟩
    exact ⟨rule, kind, known, field, item⟩

/-- The clash that is looked for first. -/
lemma clash?_eq_some {kind wanted : EntityKind} :
    (do
      let leftKind ← EntityKind.ofId? l
      let wanted ← wantedKind? leftKind
      if EntityKind.ofId? r = some wanted then none else some (leftKind, wanted)) =
        some (kind, wanted) ↔
      Clash l r kind wanted := by
  simp only [Option.bind_eq_bind, Option.bind_eq_some_iff, Clash]
  refine ⟨?_, ?_⟩
  · rintro ⟨leftKind, known, wanted', wants, chosen⟩
    split at chosen
    next => cases chosen
    next different =>
      cases chosen
      exact ⟨known, wantedKind?_eq_some.1 wants, different⟩
  · rintro ⟨known, wants, different⟩
    exact ⟨kind, known, wanted, wantedKind?_eq_some.2 wants, if_neg different⟩

/-- The kinds of a pair clash, or its right side is no profile item, or nothing is wrong. -/
lemma kindMismatch?_cases (l r : String) :
    (∃ kind wanted, Clash l r kind wanted ∧
      kindMismatch? l r = some ([], .incompatible l r kind wanted)) ∨
    ((∀ kind wanted, ¬Clash l r kind wanted) ∧ ¬IsProfileItem r ∧
      kindMismatch? l r = some ([.index 1], .notAProfileItem l r)) ∨
    (Compatible l r ∧ kindMismatch? l r = none) := by
  unfold kindMismatch?
  dsimp only
  split
  next kind wanted found => exact .inl ⟨kind, wanted, clash?_eq_some.1 found, rfl⟩
  next absent =>
    have noClash : ∀ kind wanted, ¬Clash l r kind wanted := by
      intro kind wanted clash
      rw [clash?_eq_some.2 clash] at absent
      cases absent
    -- The right side is looked at only now that nothing clashes.
    right
    by_cases item : IsProfileItem r
    · right
      refine ⟨⟨noClash, item⟩, if_neg ?_⟩
      rw [Option.isNone_iff_eq_none, ← Option.not_isSome_iff_eq_none, isSome_bind_profileRule?]
      exact not_not_intro item
    · left
      refine ⟨noClash, item, if_pos ?_⟩
      rw [Option.isNone_iff_eq_none, ← Option.not_isSome_iff_eq_none, isSome_bind_profileRule?]
      exact item

/-- A pair has no kind mismatch if and only if its kinds fit together. -/
lemma kindMismatch?_eq_none : kindMismatch? l r = none ↔ Compatible l r := by
  obtain ⟨kind, wanted, clash, found⟩ | ⟨_, noItem, found⟩ | ⟨compatible, found⟩ :=
    kindMismatch?_cases l r
  · exact iff_of_false (by simp [found]) fun compatible => compatible.1 kind wanted clash
  · exact iff_of_false (by simp [found]) fun compatible => noItem compatible.2
  · exact iff_of_true found compatible

/-- Only declared entities list anything, so that unresolved links are of no account. -/
lemma exists_mem_linked {key field : String} {refs : List Value} {item : Value} :
    (∃ owner ∈ linked doc key refs, Lists doc key field owner item) ↔
      ∃ owner ∈ refs, Lists doc key field owner item := by
  refine ⟨?_, ?_⟩
  · rintro ⟨owner, member, lists⟩
    exact ⟨owner, List.mem_of_mem_filter member, lists⟩
  · rintro ⟨owner, member, lists⟩
    exact ⟨owner, List.mem_filter.2 ⟨member, by simpa using lists.names⟩, lists⟩

lemma propositions_ofFit :
    (Scope.ofFit (Index.build doc g) fit).propositions =
      linked doc "value_propositions" (Mapping.relation fit "for" "value_propositions") := by
  apply List.filter_congr
  intro ref _
  rw [Bool.eq_iff_iff, decide_eq_true_iff]
  exact Index.hasProposition_build

lemma segments_ofFit :
    (Scope.ofFit (Index.build doc g) fit).segments =
      linked doc "customer_segments" (Mapping.relation fit "for" "customer_segments") := by
  apply List.filter_congr
  intro ref _
  rw [Bool.eq_iff_iff, decide_eq_true_iff]
  exact Index.hasSegment_build

/-- A value-map item is in scope if and only if a linked value proposition declares it. -/
lemma mem_valueMapItems_ofFit {kind : EntityKind} {field : String} {rule : Rule}
    (item : ValueMapItem kind field rule) :
    id ∈ (Scope.ofFit (Index.build doc .v2) fit).valueMapItems (Index.build doc .v2) kind ↔
      ∃ owner ∈ Mapping.relation fit "for" "value_propositions",
        Lists doc "value_propositions" field owner (.str id) := by
  rw [← exists_mem_linked, ← propositions_ofFit]
  cases item with
  | reliever => exact Index.mem_valueMapsIn_build Index.gathers_relievers
  | creator => exact Index.mem_valueMapsIn_build Index.gathers_creators

/-- A profile item is in scope if and only if a linked segment declares it. -/
lemma mem_profileItems_ofFit {kind : EntityKind} {field : String} {rule : Rule}
    (item : ProfileItem kind field rule) :
    id ∈ (Scope.ofFit (Index.build doc .v2) fit).profileItems (Index.build doc .v2) kind ↔
      ∃ owner ∈ Mapping.relation fit "for" "customer_segments",
        Lists doc "customer_segments" field owner (.str id) := by
  rw [← exists_mem_linked, ← segments_ofFit]
  cases item with
  | pain => exact Index.mem_profilesIn_build Index.gathers_pains
  | gain => exact Index.mem_profilesIn_build Index.gathers_gains
  | job => exact Index.mem_profilesIn_build Index.gathers_jobs

/-- A left side is refused if and only if it is out of scope. -/
lemma left_refused_iff {kind : EntityKind} {field : String} {rule : Rule}
    (item : ValueMapItem kind field rule) :
    ¬((Scope.ofFit (Index.build doc .v2) fit).propositions.isEmpty ||
        ((Scope.ofFit (Index.build doc .v2) fit).valueMapItems
          (Index.build doc .v2) kind).contains l) = true ↔
      OutOfScope doc fit "value_propositions" field l := by
  rw [Bool.or_eq_true, not_or, List.contains_iff_mem, List.isEmpty_iff,
    mem_valueMapItems_ofFit item, propositions_ofFit]
  simp only [OutOfScope, not_exists, not_and, ne_eq]

/-- A right side is refused if and only if it is out of scope. -/
lemma right_refused_iff {kind : EntityKind} {field : String} {rule : Rule}
    (item : ProfileItem kind field rule) :
    ¬((Scope.ofFit (Index.build doc .v2) fit).segments.isEmpty ||
        ((Scope.ofFit (Index.build doc .v2) fit).profileItems
          (Index.build doc .v2) kind).contains r) = true ↔
      OutOfScope doc fit "customer_segments" field r := by
  rw [Bool.or_eq_true, not_or, List.contains_iff_mem, List.isEmpty_iff,
    mem_profileItems_ofFit item, segments_ofFit]
  simp only [OutOfScope, not_exists, not_and, ne_eq]

/-- A finding about a left side is about an item that is looked up, and refused. -/
lemma exists_of_mem_checkLeft {index : Index} {scope : Scope}
    (found : f ∈ checkLeft index scope place l) :
    ∃ kind field rule, EntityKind.ofId? l = some kind ∧ ValueMapItem kind field rule ∧
      ¬(scope.propositions.isEmpty || (scope.valueMapItems index kind).contains l) = true ∧
      f = ⟨rule, place ++ [.index 0],
        .notInAny (.entity kind) l .valueProposition scope.propositions⟩ := by
  unfold checkLeft at found
  split at found
  next => cases found
  next kind known =>
    split at found
    next => cases found
    next rule hasRule =>
      obtain ⟨field, item⟩ := valueMapRule?_eq_some.1 hasRule
      split at found
      next => cases found
      next refused => exact ⟨kind, field, rule, known, item, refused, List.mem_singleton.1 found⟩

/-- A finding about a right side is about an item that is looked up, and refused. -/
lemma exists_of_mem_checkRight {index : Index} {scope : Scope}
    (found : f ∈ checkRight index scope place r) :
    ∃ kind field rule, EntityKind.ofId? r = some kind ∧ ProfileItem kind field rule ∧
      ¬(scope.segments.isEmpty || (scope.profileItems index kind).contains r) = true ∧
      f = ⟨rule, place ++ [.index 1],
        .notInAny (.entity kind) r .customerSegment scope.segments⟩ := by
  unfold checkRight at found
  split at found
  next => cases found
  next kind known =>
    split at found
    next => cases found
    next rule hasRule =>
      obtain ⟨field, item⟩ := profileRule?_eq_some.1 hasRule
      split at found
      next => cases found
      next refused => exact ⟨kind, field, rule, known, item, refused, List.mem_singleton.1 found⟩

lemma checkLeft_sound (pair : IsPair mapping l r) (compatible : Compatible l r)
    (found : f ∈ checkLeft (Index.build doc .v2) (Scope.ofFit (Index.build doc .v2) fit) place l) :
    MappingError doc fit place mapping f := by
  obtain ⟨kind, field, rule, known, item, refused, rfl⟩ := exists_of_mem_checkLeft found
  rw [propositions_ofFit]
  exact .left pair compatible known item ((left_refused_iff item).1 refused)

lemma checkRight_sound (pair : IsPair mapping l r) (compatible : Compatible l r)
    (found : f ∈ checkRight (Index.build doc .v2) (Scope.ofFit (Index.build doc .v2) fit) place r) :
    MappingError doc fit place mapping f := by
  obtain ⟨kind, field, rule, known, item, refused, rfl⟩ := exists_of_mem_checkRight found
  rw [segments_ofFit]
  exact .right pair compatible known item ((right_refused_iff item).1 refused)

lemma checkLeft_complete {kind : EntityKind} {field : String} {rule : Rule}
    (known : EntityKind.ofId? l = some kind) (item : ValueMapItem kind field rule)
    (outside : OutOfScope doc fit "value_propositions" field l) :
    ⟨rule, place ++ [.index 0], .notInAny (.entity kind) l .valueProposition
        (linked doc "value_propositions" (Mapping.relation fit "for" "value_propositions"))⟩ ∈
      checkLeft (Index.build doc .v2) (Scope.ofFit (Index.build doc .v2) fit) place l := by
  unfold checkLeft
  simp only [known, valueMapRule?_eq_some.2 ⟨field, item⟩]
  rw [if_neg ((left_refused_iff item).2 outside), propositions_ofFit]
  exact List.mem_singleton_self _

lemma checkRight_complete {kind : EntityKind} {field : String} {rule : Rule}
    (known : EntityKind.ofId? r = some kind) (item : ProfileItem kind field rule)
    (outside : OutOfScope doc fit "customer_segments" field r) :
    ⟨rule, place ++ [.index 1], .notInAny (.entity kind) r .customerSegment
        (linked doc "customer_segments" (Mapping.relation fit "for" "customer_segments"))⟩ ∈
      checkRight (Index.build doc .v2) (Scope.ofFit (Index.build doc .v2) fit) place r := by
  unfold checkRight
  simp only [known, profileRule?_eq_some.2 ⟨field, item⟩]
  rw [if_neg ((right_refused_iff item).2 outside), segments_ofFit]
  exact List.mem_singleton_self _

/-- A clash settles what is wrong with a pair. -/
lemma kindMismatch?_of_clash {kind wanted : EntityKind} (clash : Clash l r kind wanted) :
    kindMismatch? l r = some ([], .incompatible l r kind wanted) := by
  obtain ⟨kind', wanted', clash', found⟩ | ⟨noClash, _, _⟩ | ⟨compatible, _⟩ :=
    kindMismatch?_cases l r
  · have same := (clash?_eq_some.2 clash').symm.trans (clash?_eq_some.2 clash)
    cases same
    exact found
  · exact absurd clash (noClash kind wanted)
  · exact absurd clash (compatible.1 kind wanted)

/-- Without a clash, a right side that is no profile item is what is wrong. -/
lemma kindMismatch?_of_not_isProfileItem (noClash : ∀ kind wanted, ¬Clash l r kind wanted)
    (noItem : ¬IsProfileItem r) :
    kindMismatch? l r = some ([.index 1], .notAProfileItem l r) := by
  obtain ⟨kind, wanted, clash, _⟩ | ⟨_, _, found⟩ | ⟨compatible, _⟩ := kindMismatch?_cases l r
  · exact absurd clash (noClash kind wanted)
  · exact found
  · exact absurd compatible.2 noItem

/-- Every finding about a mapping is one of its errors. -/
lemma checkMapping_sound
    (found : f ∈ checkMapping (Index.build doc .v2) (Scope.ofFit (Index.build doc .v2) fit) place
      mapping) :
    MappingError doc fit place mapping f := by
  unfold checkMapping at found
  split at found
  next noPair =>
    rw [List.mem_singleton.1 found]
    exact .malformed (pair?_eq_none.1 noPair)
  next l r isPair =>
    have pair := pair?_eq_some.1 isPair
    obtain ⟨kind, wanted, clash, wrong⟩ | ⟨noClash, noItem, wrong⟩ | ⟨compatible, right⟩ :=
      kindMismatch?_cases l r
    · simp only [wrong, List.append_nil, List.mem_singleton] at found
      rw [found]
      exact .clash pair clash
    · simp only [wrong, List.mem_singleton] at found
      rw [found]
      exact .notProfileItem pair noClash noItem
    · simp only [right, List.mem_append] at found
      cases found with
      | inl found => exact checkLeft_sound pair compatible found
      | inr found => exact checkRight_sound pair compatible found

/-- Every error of a mapping is found. -/
lemma checkMapping_complete (error : MappingError doc fit place mapping f) :
    f ∈ checkMapping (Index.build doc .v2) (Scope.ofFit (Index.build doc .v2) fit) place
      mapping := by
  unfold checkMapping
  cases error with
  | malformed noPair => simp only [pair?_eq_none.2 noPair, List.mem_singleton]
  | clash pair clash =>
    simp only [pair?_eq_some.2 pair, kindMismatch?_of_clash clash, List.append_nil,
      List.mem_singleton]
  | notProfileItem pair noClash noItem =>
    simp only [pair?_eq_some.2 pair, kindMismatch?_of_not_isProfileItem noClash noItem,
      List.mem_singleton]
  | left pair compatible known item outside =>
    simp only [pair?_eq_some.2 pair, kindMismatch?_eq_none.2 compatible]
    exact List.mem_append_left _ (checkLeft_complete known item outside)
  | right pair compatible known item outside =>
    simp only [pair?_eq_some.2 pair, kindMismatch?_eq_none.2 compatible]
    exact List.mem_append_right _ (checkRight_complete known item outside)

lemma resolves_iff (target : Target) :
    target.resolves (Index.build doc g) ref = true ↔ Resolves doc target.referent ref := by
  cases target with
  | segments => exact hasSegment_iff
  | propositions => exact hasProposition_iff
  | resources => exact isResourceOrActivity_iff
  | activities => exact isResourceOrActivity_iff

/-- The findings about one list of references of an entry. -/
lemma mem_checkLink {key : String} {i : Nat} {link : Link} :
    f ∈ checkLink (Index.build doc g) key (i, entry) link ↔
      ∃ j ref, (Mapping.relation entry link.relation link.target.key)[j]? = some ref ∧
        ¬Resolves doc link.target.referent ref ∧
        f = ⟨link.rule,
          [.key key, .index i, .key link.relation, .key link.target.key, .index j],
          .unresolved link.target.referent ref⟩ := by
  refine mem_unresolvedRefs.trans ?_
  simp only [← resolves_iff (g := g), Bool.not_eq_true, List.cons_append, List.nil_append]

/-- The tables of links hold nothing but references that sections make. -/
lemma refers_of_mem_links {key : String} {row : List Link} {link : Link}
    (listed : (key, row) ∈ ("fits", fitLinks) :: links) (member : link ∈ row) :
    Refers key link.relation link.target.key link.target.referent link.rule := by
  simp only [links, List.mem_cons, Prod.mk.injEq, List.not_mem_nil, or_false] at listed
  obtain ⟨rfl, rfl⟩ | ⟨rfl, rfl⟩ | ⟨rfl, rfl⟩ | ⟨rfl, rfl⟩ | ⟨rfl, rfl⟩ | ⟨rfl, rfl⟩ | ⟨rfl, rfl⟩ |
    ⟨rfl, rfl⟩ := listed
  all_goals
    simp only [fitLinks, List.mem_cons, List.not_mem_nil, or_false] at member
    rcases member with rfl | rfl
    all_goals constructor

/-- The tables of links hold every reference that a section makes. -/
lemma exists_link_of_refers {key relation target : String} {referent : Referent} {rule : Rule}
    (refers : Refers key relation target referent rule) :
    ∃ row, (key, row) ∈ ("fits", fitLinks) :: links ∧ ∃ link ∈ row, link.relation = relation ∧
      link.target.key = target ∧ link.target.referent = referent ∧ link.rule = rule := by
  cases refers
  all_goals simp [links, fitLinks, Target.key, Target.referent]

/-- A finding about references comes from one link of one entry or from one mapping of one fit. -/
lemma mem_references_iff_exists :
    f ∈ references doc (Index.build doc .v2) ↔
      (∃ key row, (key, row) ∈ ("fits", fitLinks) :: links ∧
        ∃ i entry, (i, entry) ∈ Mapping.entries doc key ∧
          ∃ link ∈ row, f ∈ checkLink (Index.build doc .v2) key (i, entry) link) ∨
      ∃ i fit, (i, fit) ∈ Mapping.entries doc "fits" ∧
        ∃ k mapping, (Mapping.get fit "mappings").asList[k]? = some mapping ∧
          f ∈ checkMapping (Index.build doc .v2) (Scope.ofFit (Index.build doc .v2) fit)
            [.key "fits", .index i, .key "mappings", .index k] mapping := by
  simp only [references, checkFit, checkSection, List.mem_append, List.mem_flatMap, Prod.exists,
    List.mk_mem_zipIdx_iff_getElem?, List.mem_cons, Prod.mk.injEq]
  refine ⟨?_, ?_⟩
  · rintro (⟨i, fit, place, ⟨link, member, found⟩ | ⟨mapping, k, position, found⟩⟩ |
      ⟨key, row, listed, i, entry, place, link, member, found⟩)
    · exact .inl ⟨"fits", fitLinks, .inl ⟨rfl, rfl⟩, i, fit, place, link, member, found⟩
    · exact .inr ⟨i, fit, place, k, mapping, position, found⟩
    · exact .inl ⟨key, row, .inr listed, i, entry, place, link, member, found⟩
  · rintro (⟨key, row, ⟨rfl, rfl⟩ | listed, i, entry, place, link, member, found⟩ |
      ⟨i, fit, place, k, mapping, position, found⟩)
    · exact .inl ⟨i, entry, place, .inl ⟨link, member, found⟩⟩
    · exact .inr ⟨key, row, listed, i, entry, place, link, member, found⟩
    · exact .inl ⟨i, fit, place, .inr ⟨mapping, k, position, found⟩⟩

/-- The findings about references are the reference errors of a document. -/
lemma mem_references : f ∈ references doc (Index.build doc .v2) ↔ RefError doc f := by
  rw [mem_references_iff_exists]
  refine ⟨?_, ?_⟩
  · rintro (⟨key, row, listed, i, entry, place, link, member, found⟩ |
      ⟨i, fit, place, k, mapping, position, found⟩)
    · obtain ⟨j, ref, position, unresolved, rfl⟩ := mem_checkLink.1 found
      exact .unresolved (refers_of_mem_links listed member) place position unresolved
    · exact .mapping place position (checkMapping_sound found)
  · intro error
    cases error with
    | @unresolved key relation target referent rule i entry j ref refers place position
        unresolved =>
      obtain ⟨row, listed, link, member, rfl, rfl, rfl, rfl⟩ := exists_link_of_refers refers
      exact .inl ⟨key, row, listed, i, entry, place, link, member,
        mem_checkLink.2 ⟨j, ref, position, unresolved, rfl⟩⟩
    | @mapping i fit k mapping f place position error =>
      exact .inr ⟨i, fit, place, k, mapping, position, checkMapping_complete error⟩

/-- Without errors every reference that is checked names what it should. -/
lemma resolves_of_clean {key relation target : String} {referent : Referent} {rule : Rule} {i : Nat}
    (clean : ∀ f, ¬RefError doc f) (refers : Refers key relation target referent rule)
    (place : (i, entry) ∈ Mapping.entries doc key)
    (member : ref ∈ Mapping.relation entry relation target) : Resolves doc referent ref := by
  obtain ⟨j, position⟩ := List.getElem?_of_mem member
  by_contra unresolved
  exact clean _ (.unresolved refers place position unresolved)

/-- Reference errors break rules that are errors. -/
lemma RefError.severity (error : RefError doc f) : f.rule.severity = .error := by
  cases error with
  | unresolved refers => cases refers <;> rfl
  | mapping _ _ error =>
    cases error with
    | malformed => rfl
    | clash => rfl
    | notProfileItem => rfl
    | left _ _ _ item => cases item <;> rfl
    | right _ _ _ item => cases item <;> rfl

end BusinessModel.Lint.Typed
