import BusinessModel.Proofs.Lint.Fits
import BusinessModel.Proofs.Lint.Side

/-!
# The sides of a fit are checked independently

Replacing one side of a fit changes no issue but those that belong to that side.  Every check of a
fit looks at one side at most, so that the findings of two documents are compared check by check:
either the check looks at what both documents have in common, or all that it finds belongs to the
replaced side.

* `Lint.SameBut` — findings that differ in what belongs to a side of a fit at most
* `Lint.Relinked` — documents that differ in a side of a fit at most
* `Relinked.sameBut_findings` — their findings differ in what belongs to that side at most
* `Lint.ReportsBut`, `Lint.sides_independent` — the reports of such documents
-/

namespace BusinessModel.Lint

variable {α β : Type} {g : Generation} {side : Side} {i : Nat} {doc doc' fit fit' m : Mapping}
  {f : Finding} {found found' more more' : List Finding} {index : Index} {place : Pointer}

/-! ### Findings of two documents -/

/-- Two lists of findings are the same but for what belongs to a side of a fit. -/
def SameBut (g : Generation) (side : Side) (i : Nat) (found found' : List Finding) : Prop :=
  found.filter (fun f => ¬f.issue.IsAbout g side i) =
    found'.filter fun f => ¬f.issue.IsAbout g side i

namespace SameBut

lemma refl (found : List Finding) : SameBut g side i found found := rfl

lemma of_eq (same : found = found') : SameBut g side i found found' := same ▸ refl found

lemma symm (h : SameBut g side i found found') : SameBut g side i found' found := Eq.symm h

/-- What belongs to the side may differ as it likes. -/
lemma of_isAbout (h : ∀ f ∈ found, f.issue.IsAbout g side i)
    (h' : ∀ f ∈ found', f.issue.IsAbout g side i) : SameBut g side i found found' := by
  have none : ∀ {found : List Finding}, (∀ f ∈ found, f.issue.IsAbout g side i) →
      found.filter (fun f => ¬f.issue.IsAbout g side i) = [] := by
    intro found about
    apply List.filter_eq_nil_iff.2
    intro f member
    simpa using about f member
  exact (none h).trans (none h').symm

lemma append (h : SameBut g side i found found') (h' : SameBut g side i more more') :
    SameBut g side i (found ++ more) (found' ++ more') := by
  rw [SameBut, List.filter_append, List.filter_append, h, h']

lemma flatMap {R : α → β → Prop} {rows : List α} {rows' : List β} {check : α → List Finding}
    {check' : β → List Finding} (pairs : List.Forall₂ R rows rows')
    (h : ∀ row row', R row row' → SameBut g side i (check row) (check' row')) :
    SameBut g side i (rows.flatMap check) (rows'.flatMap check') := by
  induction pairs with
  | nil => exact .refl _
  | cons related _ ih => exact (h _ _ related).append ih

lemma flatMap_self {rows : List α} {check check' : α → List Finding}
    (h : ∀ row ∈ rows, SameBut g side i (check row) (check' row)) :
    SameBut g side i (rows.flatMap check) (rows.flatMap check') := by
  induction rows with
  | nil => exact .refl _
  | cons row rows ih =>
    obtain ⟨first, rest⟩ := List.forall_mem_cons.1 h
    exact first.append (ih rest)

/-- What does not belong to the side is on both lists. -/
lemma mem (h : SameBut g side i found found') (member : f ∈ found)
    (other : ¬f.issue.IsAbout g side i) : f ∈ found' := by
  have kept : f ∈ found.filter fun f => ¬f.issue.IsAbout g side i :=
    List.mem_filter.2 ⟨member, by simpa using other⟩
  rw [h] at kept
  exact (List.mem_filter.1 kept).1

end SameBut

/-- A finding about a reference of a fit to one of its sides belongs to that side. -/
lemma isAbout_of_refRule (step : Step) (rest : Pointer) (rule : f.rule = side.refRule)
    (here : f.place = [.key "fits", .index i] ++ step :: rest) : f.issue.IsAbout g side i := by
  refine .inl ⟨congrArg Rule.id rule, ?_⟩
  show Pointer.Under _ f.place.text
  rw [here]
  exact Pointer.under_text_append (List.cons_ne_nil _ _)

/-- A finding about what a fit looks up in one of its sides belongs to that side. -/
lemma isAbout_of_scopedRules (step : Step) (rest : Pointer) (rule : f.rule ∈ side.scopedRules g)
    (here : f.place = scopedPlace i g ++ step :: rest) : f.issue.IsAbout g side i := by
  refine .inr (.inl ⟨List.mem_map_of_mem rule, ?_⟩)
  show Pointer.Under _ f.place.text
  rw [here]
  apply Pointer.under_text_append
  cases g <;> exact List.cons_ne_nil _ _

/-! ### Documents that differ in a side of a fit -/

/-- Two fits agree in all that is read of them beside one of their sides. -/
def AgreeBeside (side : Side) : Generation → Mapping → Mapping → Prop
  | .v1, fit, fit' => ∀ key, key ≠ side.field → Mapping.get fit key = Mapping.get fit' key
  | .v2, fit, fit' =>
    (∀ key, key ≠ "for" → Mapping.get fit key = Mapping.get fit' key) ∧
      ∀ target, target ≠ side.key →
        Mapping.relation fit "for" target = Mapping.relation fit' "for" target

/-- An entry of the fits of two documents that differ in a side of a fit. -/
inductive Pairs (g : Generation) (side : Side) (i : Nat) :
    Nat × Mapping → Nat × Mapping → Prop where
  | same (entry : Nat × Mapping) : Pairs g side i entry entry
  | relinked {fit fit' : Mapping} :
    AgreeBeside side g fit fit' → Pairs g side i (i, fit) (i, fit')

/-- Two documents agree in all that is read of them beside a side of a fit. -/
structure Relinked (g : Generation) (side : Side) (i : Nat) (doc doc' : Mapping) : Prop where
  elsewhere : ∀ key, "fits" ≠ key → Mapping.get doc key = Mapping.get doc' key
  fits : List.Forall₂ (Pairs g side i) (Mapping.entries doc "fits") (Mapping.entries doc' "fits")

/-- Replacing a side of a fit leaves everything else of it. -/
lemma Relinks.agreeBeside (h : Relinks side fit g fit') : AgreeBeside side g fit fit' := by
  cases h with
  | field ref =>
    intro key other
    exact (Mapping.get_set_of_ne other.symm).symm
  | @list links refs read =>
    refine ⟨fun key other => (Mapping.get_set_of_ne other.symm).symm, fun target other => ?_⟩
    rw [Mapping.relation, Mapping.relation, Mapping.get_set, read]
    exact congrArg Value.asList (Mapping.get_set_of_ne other.symm).symm

/-- The mappings of a list in which one mapping is replaced. -/
lemma forall₂_filterMap_set {R : Nat × Mapping → Nat × Mapping → Prop} {items : List Value}
    {k n : Nat} (same : ∀ entry, R entry entry) (here : R (n + k, fit) (n + k, fit'))
    (position : items[k]? = some (.map fit)) :
    List.Forall₂ R
      ((items.zipIdx n).filterMap fun item => item.1.mapping?.map fun entry => (item.2, entry))
      (((items.set k (.map fit')).zipIdx n).filterMap fun item =>
        item.1.mapping?.map fun entry => (item.2, entry)) := by
  induction items generalizing k n with
  | nil => cases position
  | cons item items ih =>
    cases k with
    | zero =>
      cases position
      exact .cons here (List.forall₂_same.2 fun entry _ => same entry)
    | succ k =>
      have rest := ih (n := n + 1) (by rwa [Nat.add_right_comm, Nat.add_assoc]) position
      simp only [List.set_cons_succ, List.zipIdx_cons, List.filterMap_cons]
      cases item.mapping? with
      | none => exact rest
      | some entry => exact .cons (same _) rest

/-- Documents in which a side of a fit is replaced differ in it at most. -/
lemma relinked_replaceFit (entry : (i, fit) ∈ Mapping.entries doc "fits")
    (relinks : Relinks side fit g fit') : Relinked g side i doc (replaceFit doc i fit') := by
  refine ⟨fun key other => (Mapping.get_set_of_ne other).symm, ?_⟩
  rw [Mapping.entries, Mapping.entries, replaceFit, Mapping.get_set]
  refine forall₂_filterMap_set .same ?_ (mem_entries.1 entry)
  rw [Nat.zero_add]
  exact .relinked relinks.agreeBeside

namespace Relinked

/-- What a function reads of all fits is the same if it does not look at the side. -/
lemma map_fits (h : Relinked g side i doc doc') {read : Mapping → β}
    (reads : ∀ fit fit', AgreeBeside side g fit fit' → read fit = read fit') :
    ((Mapping.entries doc "fits").map (·.2)).map read =
      ((Mapping.entries doc' "fits").map (·.2)).map read := by
  have each : ∀ row row', Pairs g side i row row' → read row.2 = read row'.2 := by
    intro row row' pair
    cases pair with
    | same => rfl
    | relinked agree => exact reads _ _ agree
  rw [List.map_map, List.map_map, ← List.forall₂_eq_eq_eq, List.forall₂_map_left_iff,
    List.forall₂_map_right_iff]
  exact h.fits.imp each

lemma flatMap_fits (h : Relinked g side i doc doc') {read : Mapping → List β}
    (reads : ∀ fit fit', AgreeBeside side g fit fit' → read fit = read fit') :
    ((Mapping.entries doc "fits").map (·.2)).flatMap read =
      ((Mapping.entries doc' "fits").map (·.2)).flatMap read := by
  rw [List.flatMap_def, List.flatMap_def, h.map_fits reads]

lemma sameBesideFits (h : Relinked g side i doc doc') : SameBesideFits doc doc' := h.elsewhere

end Relinked

/-! ### Coverage -/

namespace Coverage

variable {c c' : Coverage} {used used' : IdSet} {kind : EntityKind}

/-- Two coverages differ in the entities of a side at most. -/
structure AgreeBeside (side : Side) (c c' : Coverage) : Prop where
  segments : .segments ≠ side → c.segments = c'.segments
  propositions : .propositions ≠ side → c.propositions = c'.propositions
  pains : c.pains = c'.pains
  gains : c.gains = c'.gains
  jobs : c.jobs = c'.jobs
  products : c.products = c'.products

lemma sameBut_unfitted (other : Side) (same : other ≠ side → used = used') :
    SameBut g side i (unfitted doc other.key used other.noFits kind)
      (unfitted doc other.key used' other.noFits kind) := by
  by_cases apart : other = side
  · have about : ∀ used, ∀ f ∈ unfitted doc other.key used other.noFits kind,
        f.issue.IsAbout g side i := by
      intro used f found
      exact .inr (.inr (congrArg Rule.id ((rule_of_mem_unfitted found).trans (apart ▸ rfl))))
    exact .of_isAbout (about used) (about used')
  · rw [same apart]
    exact .refl _

lemma AgreeBeside.sameBut_findings (agree : AgreeBeside side c c') :
    SameBut g side i (c.findings doc) (c'.findings doc) := by
  have items : unusedProfileItems doc c = unusedProfileItems doc c' := by
    rw [unusedProfileItems, unusedProfileItems, agree.pains, agree.gains, agree.jobs]
  rw [findings, findings, items, agree.products]
  exact (((sameBut_unfitted .segments agree.segments).append
    (sameBut_unfitted .propositions agree.propositions)).append (.refl _)).append (.refl _)

end Coverage

/-! ### The second generation -/

namespace Typed

variable {scope scope' : Scope} {link : Link} {mapping : Value} {left right : String} {k : Nat}

/-- The left side of a pair is looked up in value propositions alone. -/
lemma checkLeft_congr (same : scope.propositions = scope'.propositions) :
    checkLeft index scope place left = checkLeft index scope' place left := by
  cases scope
  cases scope'
  cases same
  rfl

/-- The right side of a pair is looked up in segments alone. -/
lemma checkRight_congr (same : scope.segments = scope'.segments) :
    checkRight index scope place right = checkRight index scope' place right := by
  cases scope
  cases scope'
  cases same
  rfl

lemma sameBut_checkLeft (agree : AgreeBeside side .v2 fit fit') :
    SameBut .v2 side i
      (checkLeft index (Scope.ofFit index fit) (scopedPlace i .v2 ++ [.index k]) left)
      (checkLeft index (Scope.ofFit index fit') (scopedPlace i .v2 ++ [.index k]) left) := by
  cases side with
  | propositions =>
    have about : ∀ scope, ∀ f ∈ checkLeft index scope (scopedPlace i .v2 ++ [.index k]) left,
        f.issue.IsAbout .v2 .propositions i := by
      intro scope f found
      obtain ⟨kind, field, rule, -, item, -, rfl⟩ := exists_of_mem_checkLeft found
      exact isAbout_of_scopedRules (.index k) [.index 0] item.mem_scopedRules rfl
    exact .of_isAbout (about _) (about _)
  | segments =>
    refine .of_eq (checkLeft_congr ?_)
    rw [Scope.ofFit, Scope.ofFit, agree.2 "value_propositions" (by decide)]

lemma sameBut_checkRight (agree : AgreeBeside side .v2 fit fit') :
    SameBut .v2 side i
      (checkRight index (Scope.ofFit index fit) (scopedPlace i .v2 ++ [.index k]) right)
      (checkRight index (Scope.ofFit index fit') (scopedPlace i .v2 ++ [.index k]) right) := by
  cases side with
  | propositions =>
    refine .of_eq (checkRight_congr ?_)
    rw [Scope.ofFit, Scope.ofFit, agree.2 "customer_segments" (by decide)]
  | segments =>
    have about : ∀ scope, ∀ f ∈ checkRight index scope (scopedPlace i .v2 ++ [.index k]) right,
        f.issue.IsAbout .v2 .segments i := by
      intro scope f found
      obtain ⟨kind, field, rule, -, item, -, rfl⟩ := exists_of_mem_checkRight found
      exact isAbout_of_scopedRules (.index k) [.index 1] item.mem_scopedRules rfl
    exact .of_isAbout (about _) (about _)

/-- What is wrong with the form or the kinds of a mapping is wrong whatever its fit refers to. -/
lemma sameBut_checkMapping (agree : AgreeBeside side .v2 fit fit') :
    SameBut .v2 side i
      (checkMapping index (Scope.ofFit index fit) (scopedPlace i .v2 ++ [.index k]) mapping)
      (checkMapping index (Scope.ofFit index fit') (scopedPlace i .v2 ++ [.index k]) mapping) := by
  unfold checkMapping
  cases pair? mapping with
  | none => exact .refl _
  | some pair =>
    dsimp only
    cases kindMismatch? pair.1 pair.2 with
    | some _ => exact .refl _
    | none => exact (sameBut_checkLeft agree).append (sameBut_checkRight agree)

/-- A fit checks the references to each of its sides by a link of its own. -/
lemma sameBut_checkLink (listed : link ∈ fitLinks) (agree : AgreeBeside side .v2 fit fit') :
    SameBut .v2 side i (checkLink index "fits" (i, fit) link)
      (checkLink index "fits" (i, fit') link) := by
  have sides : ∀ link ∈ fitLinks, link.relation = "for" ∧
      (link.target.key ≠ side.key ∨ link.rule = side.refRule) := by
    cases side <;> decide
  obtain ⟨relation, apart | same⟩ := sides link listed
  · apply SameBut.of_eq
    rw [checkLink, checkLink, relation, agree.2 _ apart]
  · have about : ∀ fit, ∀ f ∈ checkLink index "fits" (i, fit) link,
        f.issue.IsAbout .v2 side i := by
      intro fit f found
      obtain ⟨j, ref, -, -, rfl⟩ := mem_unresolvedRefs.1 found
      exact isAbout_of_refRule (.key link.relation) [.key link.target.key, .index j] same rfl
    exact .of_isAbout (about fit) (about fit')

lemma sameBut_checkFit (agree : AgreeBeside side .v2 fit fit') :
    SameBut .v2 side i (checkFit index (i, fit)) (checkFit index (i, fit')) := by
  have mappings : Mapping.get fit "mappings" = Mapping.get fit' "mappings" :=
    agree.1 "mappings" (by decide)
  rw [checkFit, checkFit, mappings]
  refine .append (.flatMap_self fun link listed => ?_) (.flatMap_self fun item _ => ?_)
  · exact sameBut_checkLink listed agree
  · exact sameBut_checkMapping agree

/-- The mappings of a fit use what they use whatever the fit refers to. -/
lemma agreeBeside_coverage (h : Relinked .v2 side i doc doc') :
    Coverage.AgreeBeside side (coverage doc) (coverage doc') := by
  have named : ∀ other, other ≠ side →
      ((Mapping.entries doc "fits").map (·.2)).flatMap
          (fun fit => Value.texts (Mapping.relation fit "for" other.key)) =
        ((Mapping.entries doc' "fits").map (·.2)).flatMap
          (fun fit => Value.texts (Mapping.relation fit "for" other.key)) := by
    intro other apart
    apply h.flatMap_fits
    intro fit fit' agree
    rw [agree.2 other.key fun same => apart (Side.key_injective same)]
  have mapped : ((Mapping.entries doc "fits").map (·.2)).flatMap mappedBy =
      ((Mapping.entries doc' "fits").map (·.2)).flatMap mappedBy := by
    apply h.flatMap_fits
    intro fit fit' agree
    rw [mappedBy, mappedBy, agree.1 "mappings" (by decide)]
  exact {
    segments := fun apart => congrArg IdSet.ofList (named .segments apart)
    propositions := fun apart => congrArg IdSet.ofList (named .propositions apart)
    pains := congrArg IdSet.ofList mapped
    gains := congrArg IdSet.ofList mapped
    jobs := congrArg IdSet.ofList mapped
    products := rfl }

end Typed

/-! ### The first generation -/

namespace Flat

variable {list : FitList} {resolves : Value → Bool} {referent : Referent} {segment : Value}
  {proposition : Value} {entry : Mapping} {k : Nat}

/-- The references of a fit to its two sides are checked apart. -/
lemma sameBut_checkRef (other : Side) (agree : AgreeBeside side .v1 fit fit') :
    SameBut .v1 side i
      (checkRef (Mapping.get fit other.field) resolves other.refRule
        [.key "fits", .index i, .key other.field] referent)
      (checkRef (Mapping.get fit' other.field) resolves other.refRule
        [.key "fits", .index i, .key other.field] referent) := by
  by_cases apart : other = side
  · subst apart
    have about : ∀ ref, ∀ f ∈ checkRef ref resolves other.refRule
        [.key "fits", .index i, .key other.field] referent, f.issue.IsAbout .v1 other i := by
      intro ref f found
      unfold checkRef at found
      split at found
      · cases found
      · obtain rfl := List.mem_singleton.1 found
        exact isAbout_of_refRule (.key other.field) [] rfl rfl
    exact .of_isAbout (about _) (about _)
  · rw [agree other.field fun same => apart (Side.field_injective same)]
    exact .refl _

lemma isAbout_checkTarget (listed : list ∈ fitLists)
    (found : f ∈ checkTarget ((Index.build doc .v1).segment? segment) segment list
      [.key "fits", .index i, .key list.key, .index k] entry) :
    f.issue.IsAbout .v1 .segments i := by
  obtain ⟨field, item, gathers⟩ := fitItem_of_mem listed
  obtain ⟨-, -, rfl⟩ := (mem_checkTarget gathers).1 found
  exact isAbout_of_scopedRules (.key list.key) [.index k, .key list.target] item.mem_scopedRules rfl

lemma isAbout_checkThrough
    (found : f ∈ checkThrough ((Index.build doc .v1).valueMap? proposition) proposition
      [.key "fits", .index i, .key list.key, .index k] entry) :
    f.issue.IsAbout .v1 .propositions i := by
  obtain ⟨t, ref, -, -, -, rfl⟩ := mem_checkThrough.1 found
  exact isAbout_of_scopedRules (.key list.key) [.index k, .key "through", .index t]
    (List.mem_singleton_self _) rfl

/-- The target of an entry is looked up in the segment alone, its products in the value proposition
alone. -/
lemma sameBut_checkFitList (listed : list ∈ fitLists) (agree : AgreeBeside side .v1 fit fit') :
    SameBut .v1 side i (checkFitList (Index.build doc .v1) (i, fit) list)
      (checkFitList (Index.build doc .v1) (i, fit') list) := by
  have others : ∀ list ∈ fitLists, list.key ≠ side.field := by cases side <;> decide
  have rows : Mapping.entries fit list.key = Mapping.entries fit' list.key := by
    rw [Mapping.entries, Mapping.entries, agree _ (others list listed)]
  simp only [checkFitList, rows]
  refine .flatMap_self fun row _ => ?_
  cases side with
  | propositions =>
    rw [agree "customer_segment" (by decide)]
    exact .append (.refl _)
      (.of_isAbout (fun f => isAbout_checkThrough) fun f => isAbout_checkThrough)
  | segments =>
    rw [agree "value_proposition" (by decide)]
    exact .append (.of_isAbout (fun f => isAbout_checkTarget listed)
      fun f => isAbout_checkTarget listed) (.refl _)

lemma sameBut_checkFit (agree : AgreeBeside side .v1 fit fit') :
    SameBut .v1 side i (checkFit (Index.build doc .v1) (i, fit))
      (checkFit (Index.build doc .v1) (i, fit')) :=
  .append (.append (sameBut_checkRef .propositions agree) (sameBut_checkRef .segments agree))
    (.flatMap_self fun _ listed => sameBut_checkFitList listed agree)

/-- The lists of a fit use what they use whatever the fit refers to. -/
lemma agreeBeside_coverage (h : Relinked .v1 side i doc doc') :
    Coverage.AgreeBeside side (coverage doc) (coverage doc') := by
  have named : ∀ other, other ≠ side →
      ((Mapping.entries doc "fits").map (·.2)).map (fun fit => Mapping.get fit other.field) =
        ((Mapping.entries doc' "fits").map (·.2)).map fun fit => Mapping.get fit other.field := by
    intro other apart
    apply h.map_fits
    intro fit fit' agree
    exact agree other.field fun same => apart (Side.field_injective same)
  have entries : ∀ list ∈ fitLists,
      (((Mapping.entries doc "fits").map (·.2)).flatMap fun fit =>
          (Mapping.entries fit list.key).map (·.2)) =
        ((Mapping.entries doc' "fits").map (·.2)).flatMap fun fit =>
          (Mapping.entries fit list.key).map (·.2) := by
    have others : ∀ list ∈ fitLists, list.key ≠ side.field := by cases side <;> decide
    intro list listed
    apply h.flatMap_fits
    intro fit fit' agree
    rw [Mapping.entries, Mapping.entries, agree _ (others list listed)]
  have targeted : ∀ list ∈ fitLists,
      IdSet.ofList (Value.texts ((((Mapping.entries doc "fits").map (·.2)).flatMap fun fit =>
          (Mapping.entries fit list.key).map (·.2)).map fun entry =>
            Mapping.get entry list.target)) =
        IdSet.ofList (Value.texts ((((Mapping.entries doc' "fits").map (·.2)).flatMap fun fit =>
          (Mapping.entries fit list.key).map (·.2)).map fun entry =>
            Mapping.get entry list.target)) := by
    intro list listed
    rw [entries list listed]
  exact {
    segments := fun apart => congrArg (IdSet.ofList ∘ Value.texts) (named .segments apart)
    propositions := fun apart => congrArg (IdSet.ofList ∘ Value.texts) (named .propositions apart)
    pains := targeted _ (.head _)
    gains := targeted _ (.tail _ (.head _))
    jobs := targeted _ (.tail _ (.tail _ (.head _)))
    products := congrArg (some ∘ IdSet.ofList) (List.flatMap_congr fun list listed =>
      congrArg (List.flatMap fun entry => Value.texts (Mapping.get entry "through").asList)
        (entries list listed)) }

end Flat

/-! ### Reports -/

/-- Both documents have the same sections without fits. -/
lemma Relinked.sameBut_references (h : Relinked g side i doc doc') :
    SameBut g side i (referencesOf doc g) (referencesOf doc' g) := by
  have fitless : SameBesideFits doc (withFits doc []) := sameBesideFits_withFits
  have fitless' := h.sameBesideFits.symm.trans fitless
  rw [fitless.referencesOf_eq entries_withFits_nil, fitless'.referencesOf_eq entries_withFits_nil,
    ← h.sameBesideFits.build_eq]
  refine .append (.flatMap h.fits fun row row' pair => ?_) (.refl _)
  cases pair with
  | same => exact .refl _
  | relinked agree =>
    cases g with
    | v1 => exact Flat.sameBut_checkFit agree
    | v2 => exact Typed.sameBut_checkFit agree

lemma Relinked.sameBut_findings (h : Relinked g side i doc doc') :
    SameBut g side i (findings doc g) (findings doc' g) := by
  rw [findings_eq, findings_eq, ← h.sameBesideFits.findings_coverage_eq]
  refine h.sameBut_references.append ?_
  cases g with
  | v1 => exact (Flat.agreeBeside_coverage h).sameBut_findings
  | v2 => exact (Typed.agreeBeside_coverage h).sameBut_findings

/-- An error that leaves one of the documents without a report belongs to the side, if the other one
has a report. -/
lemma SameBut.isAbout_of_unwritable
    (h : SameBut g side i (findings doc g) (findings doc' g))
    (writable : ∀ f, RefError doc g f → f.isWritable = true) (error : RefError doc' g f)
    (unwritable : f.isWritable = false) : f.issue.IsAbout g side i := by
  by_contra other
  have shown : f.isWritable = true := by
    cases mem_findings.1 (h.symm.mem (mem_findings.2 (.inl error)) other) with
    | inl error => exact writable f error
    | inr unused => exact unused.isWritable
  cases unwritable.symm.trans shown

/-- The reports of two documents hold the same issues, in the same order, but for those that belong
to a side of a fit.  If only one of the documents has a report, then the other one has an error that
belongs to that side and shows an integer that is too long. -/
inductive ReportsBut (g : Generation) (side : Side) (i : Nat) (doc doc' : Mapping) :
    Except LongInteger Report → Except LongInteger Report → Prop where
  | both {r r' : Report} :
    r.issues.filter (fun issue => ¬issue.IsAbout g side i) =
      r'.issues.filter (fun issue => ¬issue.IsAbout g side i) →
    ReportsBut g side i doc doc' (.ok r) (.ok r')
  | first {r : Report} {f : Finding} :
    RefError doc' g f → f.isWritable = false → f.issue.IsAbout g side i →
    ReportsBut g side i doc doc' (.ok r) (.error .written)
  | second {r' : Report} {f : Finding} :
    RefError doc g f → f.isWritable = false → f.issue.IsAbout g side i →
    ReportsBut g side i doc doc' (.error .written) (.ok r')
  | neither : ReportsBut g side i doc doc' (.error .written) (.error .written)

/-- Replacing one side of a fit leaves all issues but those that belong to that side. -/
theorem sides_independent (entry : (i, fit) ∈ Mapping.entries doc "fits")
    (relinks : Relinks side fit g fit') :
    ReportsBut g side i doc (replaceFit doc i fit') (run (.map doc) (some g))
      (run (.map (replaceFit doc i fit')) (some g)) := by
  have same : SameBut g side i (findings doc g) (findings (replaceFit doc i fit') g) :=
    (relinked_replaceFit entry relinks).sameBut_findings
  obtain ⟨writable, ran⟩ | ⟨⟨f, error, unwritable⟩, failed⟩ := run_cases (.map doc) g
  · obtain ⟨-, ran'⟩ | ⟨⟨f, error, unwritable⟩, failed'⟩ :=
      run_cases (.map (replaceFit doc i fit')) g
    · rw [ran, ran']
      refine .both ?_
      show ((findings _ g).map Finding.issue).filter _ = ((findings _ g).map Finding.issue).filter _
      rw [List.filter_map, List.filter_map]
      exact congrArg (List.map Finding.issue) same
    · rw [ran, failed']
      exact .first error unwritable (same.isAbout_of_unwritable writable error unwritable)
  · obtain ⟨writable, ran'⟩ | ⟨-, failed'⟩ := run_cases (.map (replaceFit doc i fit')) g
    · rw [failed, ran']
      exact .second error unwritable (same.symm.isAbout_of_unwritable writable error unwritable)
    · rw [failed, failed']
      exact .neither

/-- The fit of `referenceTo 0`, made to refer to another integer in the second generation. -/
def relinkedTo (n : Int) : Mapping :=
  Mapping.set (fitTo 0) (.str "for") (.map (Mapping.set [(.str "value_propositions",
    .list [.int 0])] (.str "value_propositions") (.list [.int n])))

lemma relinks_relinkedTo (n : Int) : Relinks .propositions (fitTo 0) .v2 (relinkedTo n) :=
  .list [.int n] rfl

lemma mem_entries_referenceTo (n : Int) :
    (0, fitTo n) ∈ Mapping.entries (referenceTo n).asMapping "fits" :=
  List.mem_singleton.2 rfl

lemma run_relinkedTo {n : Int} (long : isWritableInteger n = false) :
    run (.map (replaceFit (referenceTo 0).asMapping 0 (relinkedTo n))) (some .v2) =
      .error .written := by
  have entry : (0, relinkedTo n) ∈
      Mapping.entries (replaceFit (referenceTo 0).asMapping 0 (relinkedTo n)) "fits" :=
    List.mem_singleton.2 rfl
  have position : (Mapping.relation (relinkedTo n) "for" "value_propositions")[0]? =
      some (.int n) := rfl
  have error := Typed.RefError.unresolved .fitProposition entry position (not_names nofun)
  exact run_of_unwritable (g := .v2) error (not_isWritable_of_long long _ _ _)

/-- The warning about the segment stays when the fit refers to another integer. -/
theorem sides_independent_relinkedTo :
    ∃ r r', run (referenceTo 0) (some .v2) = .ok r ∧
      run (.map (replaceFit (referenceTo 0).asMapping 0 (relinkedTo 1))) (some .v2) = .ok r' ∧
      r.issues.filter (fun issue => ¬issue.IsAbout .v2 .propositions 0) =
        r'.issues.filter fun issue => ¬issue.IsAbout .v2 .propositions 0 := by
  have ran : run (.map (referenceTo 0).asMapping) (some .v2) =
      .ok (report (referenceTo 0) (some .v2)) := if_pos (by decide +kernel)
  have ran' : run (.map (replaceFit (referenceTo 0).asMapping 0 (relinkedTo 1))) (some .v2) =
      .ok (report (.map (replaceFit (referenceTo 0).asMapping 0 (relinkedTo 1))) (some .v2)) :=
    if_pos (by decide +kernel)
  have reports := sides_independent (mem_entries_referenceTo 0) (relinks_relinkedTo 1)
  rw [ran, ran'] at reports
  cases reports with
  | both same => exact ⟨_, _, ran, ran', same⟩

/-- The warning about the segment is not reported when the fit refers to a long integer. -/
theorem sides_unreported :
    (0, fitTo 0) ∈ Mapping.entries (referenceTo 0).asMapping "fits" ∧
      Relinks .propositions (fitTo 0) .v2 (relinkedTo leastLong) ∧
      (∃ r, run (referenceTo 0) (some .v2) = .ok r) ∧
      ¬∃ r r', run (referenceTo 0) (some .v2) = .ok r ∧
        run (.map (replaceFit (referenceTo 0).asMapping 0 (relinkedTo leastLong))) (some .v2) =
          .ok r' ∧
        r.issues.filter (fun issue => ¬issue.IsAbout .v2 .propositions 0) =
          r'.issues.filter fun issue => ¬issue.IsAbout .v2 .propositions 0 := by
  refine ⟨mem_entries_referenceTo 0, relinks_relinkedTo _, ⟨_, if_pos (by decide +kernel)⟩, ?_⟩
  intro ⟨r, r', _, ran, _⟩
  cases (run_relinkedTo not_isWritableInteger_leastLong).symm.trans ran

end BusinessModel.Lint
