import BusinessModel.Proofs.Alike.Coverage

/-!
# Rules of the first generation on documents that are alike

Every check of a document of the first generation is followed here through a document that is alike:
what it reads is related, what it looks up is the same under other names, and so it reports the
same.

* `Lint.Flat.coverage_eq` — the fits use the same, under other names
* `Lint.Flat.findingsAlike_findings` — the findings are alike
-/

namespace BusinessModel.Lint.Flat

variable {σ : Renaming} {R : Value → Value → Prop} {v w : Value} {m n : Mapping} {index : Index}
  {rule : Rule} {place : Pointer} {referent : Referent} {resolves resolves' : Value → Bool}
  {e f : Mapping} {i : Nat}
  {ids : IdSet} {key field : String} {list : FitList} {profile : Option Profile}
  {valueMap : Option ValueMap}

/-- Membership is decided by the text of a reference. -/
lemma isIn_eq_any : isIn ids v = v.str?.any ids.contains := by
  cases v with
  | scalar s => cases s <;> rfl
  | _ => rfl

lemma isIn_eq (like : Likeness σ R) (h : R v w) : isIn (ids.map σ) w = isIn ids v := by
  rw [isIn_eq_any, isIn_eq_any, like.str?_eq h]
  cases v.str? with
  | none => rfl
  | some id => simp only [Option.map_some, Option.any_some, σ.contains_map]

lemma findingsAlike_checkRef (related : R v w) (same : resolves' w = resolves v) :
    FindingsAlike R (checkRef v resolves rule place referent)
      (checkRef w resolves' rule place referent) := by
  unfold checkRef
  rw [same]
  split
  next => exact .nil
  next => exact .cons ⟨rfl, rfl, .cons related .nil⟩ .nil

/-- The lists of fits look items up in a renamed profile as they do in the profile. -/
lemma items_rename (listed : list ∈ fitLists) (p : Profile) :
    list.items (p.rename σ) = (list.items p).map σ := by
  simp only [fitLists, List.mem_cons, List.not_mem_nil, or_false] at listed
  rcases listed with rfl | rfl | rfl <;> rfl

lemma findingsAlike_checkTarget (like : Likeness σ R) (listed : list ∈ fitLists) (owner : R v w)
    (h : Alike R e f) :
    FindingsAlike R (checkTarget profile v list place e)
      (checkTarget (profile.map (Profile.rename σ)) w list place f) := by
  cases profile with
  | none => exact .nil
  | some p =>
    have target := like.rel_get h list.target
    simp only [checkTarget, Option.map_some, items_rename listed, isIn_eq like target]
    split
    next => exact .nil
    next => exact .cons ⟨rfl, rfl, .cons target (.cons owner .nil)⟩ .nil

lemma findingsAlike_checkThrough (like : Likeness σ R) (owner : R v w) (h : Alike R e f) :
    FindingsAlike R (checkThrough valueMap v place e)
      (checkThrough (valueMap.map (ValueMap.rename σ)) w place f) := by
  cases valueMap with
  | none => exact .nil
  | some p =>
    apply List.rel_filterMap ?_ (forall₂_zipIdx (like.forall₂_items h "through"))
    rintro ⟨product, i⟩ ⟨renamed, j⟩ ⟨related, index⟩
    cases index
    simp only [ValueMap.rename, isIn_eq like related]
    split
    next => exact .none
    next => exact .some ⟨rfl, rfl, .cons related (.cons owner .nil)⟩

lemma findingsAlike_checkFitList (like : Likeness σ R) (listed : list ∈ fitLists)
    (h : Alike R e f) :
    FindingsAlike R (checkFitList index (i, e) list)
      (checkFitList (index.rename σ) (i, f) list) := by
  have segment := like.rel_get h "customer_segment"
  have proposition := like.rel_get h "value_proposition"
  apply List.rel_flatMap (like.forall₂_entries (like.forall₂_items h list.key))
  rintro ⟨j, a⟩ ⟨k, b⟩ ⟨same, alike⟩
  cases same
  simp only [like.segment?_eq segment, like.valueMap?_eq proposition]
  apply List.rel_append
  · exact findingsAlike_checkTarget like listed segment alike
  · exact findingsAlike_checkThrough like proposition alike

lemma findingsAlike_checkFit (like : Likeness σ R) (h : Alike R e f) :
    FindingsAlike R (checkFit index (i, e)) (checkFit (index.rename σ) (i, f)) := by
  have segment := like.rel_get h "customer_segment"
  have proposition := like.rel_get h "value_proposition"
  apply List.rel_append
  · apply List.rel_append
    · exact findingsAlike_checkRef proposition (like.hasProposition_eq proposition)
    · exact findingsAlike_checkRef segment (like.hasSegment_eq segment)
  · exact forall₂_flatMap_of_mem fun list listed => findingsAlike_checkFitList like listed h

lemma findingsAlike_checkField (like : Likeness σ R) (h : Alike R e f)
    (same : ∀ {v w}, R v w → resolves' w = resolves v) :
    FindingsAlike R (checkField e field resolves rule place referent)
      (checkField f field resolves' rule place referent) :=
  findingsAlike_unresolvedRefs (like.forall₂_items h field) same

lemma findingsAlike_checkSection (like : Likeness σ R)
    (items : List.Forall₂ R (Mapping.get m key).asList (Mapping.get n key).asList)
    (same : ∀ {v w}, R v w → resolves' w = resolves v) :
    FindingsAlike R (checkSection m key field resolves rule referent)
      (checkSection n key field resolves' rule referent) := by
  apply List.rel_flatMap (like.forall₂_entries items)
  rintro ⟨i, e⟩ ⟨j, f⟩ ⟨index, alike⟩
  cases index
  exact findingsAlike_checkField like alike same

lemma findingsAlike_checkRelationships (like : Likeness σ R) (h : SectionsAlike R m n) :
    FindingsAlike R (checkRelationships m index) (checkRelationships n (index.rename σ)) := by
  have items := h.items "customer_relationships" (by simp [sectionKeys])
  apply List.rel_flatMap (like.forall₂_entries items)
  rintro ⟨i, e⟩ ⟨j, f⟩ ⟨index, alike⟩
  cases index
  have segment := like.rel_get alike "segment"
  exact findingsAlike_checkRef segment (like.hasSegment_eq segment)

lemma findingsAlike_checkRevenueStreams (like : Likeness σ R) (h : SectionsAlike R m n) :
    FindingsAlike R (checkRevenueStreams m index) (checkRevenueStreams n (index.rename σ)) := by
  have items := h.items "revenue_streams" (by simp [sectionKeys])
  apply List.rel_flatMap (like.forall₂_entries items)
  rintro ⟨i, e⟩ ⟨j, f⟩ ⟨index, alike⟩
  cases index
  have value := like.rel_get alike "for_value"
  apply List.rel_append
  · exact findingsAlike_checkField like alike like.hasSegment_eq
  · -- Without a value there is nothing to check, in neither of the two streams.
    split
    next absent =>
      rw [(like.eq_null_iff value).2 absent]
      exact .nil
    next present =>
      split
      next absent => exact absurd ((like.eq_null_iff value).1 absent) present
      next => exact findingsAlike_checkRef value (like.hasProposition_eq value)

lemma findingsAlike_checkCosts (like : Likeness σ R) (h : SectionsAlike R m n) :
    FindingsAlike R (checkCosts m index) (checkCosts n (index.rename σ)) := by
  have items := like.forall₂_items h.costStructure "major_costs"
  apply List.rel_flatMap (like.forall₂_entries items)
  rintro ⟨i, e⟩ ⟨j, f⟩ ⟨index, alike⟩
  cases index
  exact findingsAlike_checkField like alike like.isResourceOrActivity_eq

lemma findingsAlike_references (like : Likeness σ R) (h : SectionsAlike R m n) :
    FindingsAlike R (references m index) (references n (index.rename σ)) := by
  have channels := h.items "channels" (by simp [sectionKeys])
  have resources := h.items "key_resources" (by simp [sectionKeys])
  have activities := h.items "key_activities" (by simp [sectionKeys])
  have partnerships := h.items "key_partnerships" (by simp [sectionKeys])
  have fits : FindingsAlike R ((Mapping.entries m "fits").flatMap (checkFit index))
      ((Mapping.entries n "fits").flatMap (checkFit (index.rename σ))) := by
    apply List.rel_flatMap (like.forall₂_entries (h.items "fits" (by simp [sectionKeys])))
    rintro ⟨i, e⟩ ⟨j, f⟩ ⟨index, alike⟩
    cases index
    exact findingsAlike_checkFit like alike
  refine List.rel_append (List.rel_append (List.rel_append (List.rel_append (List.rel_append
    (List.rel_append (List.rel_append fits ?_) ?_) ?_) ?_) ?_) ?_) ?_
  · exact findingsAlike_checkSection like channels like.hasSegment_eq
  · exact findingsAlike_checkRelationships like h
  · exact findingsAlike_checkRevenueStreams like h
  · exact findingsAlike_checkSection like resources like.hasProposition_eq
  · exact findingsAlike_checkSection like activities like.hasProposition_eq
  · exact findingsAlike_checkSection like partnerships like.isResourceOrActivity_eq
  · exact findingsAlike_checkCosts like h

/-- The entries that the fits of a document list under a key. -/
def fitEntries (doc : Mapping) (key : String) : List Mapping :=
  ((Mapping.entries doc "fits").map (·.2)).flatMap fun fit => (Mapping.entries fit key).map (·.2)

lemma forall₂_fitEntries (like : Likeness σ R) (h : SectionsAlike R m n) (key : String) :
    List.Forall₂ (Alike R) (fitEntries m key) (fitEntries n key) := by
  apply List.rel_flatMap (forall₂_fits like h)
  intro e f alike
  have entries := like.forall₂_entries (like.forall₂_items alike key)
  exact List.rel_map (fun _ _ alike => alike.2) entries

/-- What the entries of a document that is alike name in a field, under other names. -/
lemma ofList_texts_eq {es fs : List Mapping} (like : Likeness σ R)
    (alike : List.Forall₂ (Alike R) es fs) (field : String) :
    IdSet.ofList (Value.texts (fs.map fun f => Mapping.get f field)) =
      (IdSet.ofList (Value.texts (es.map fun e => Mapping.get e field))).map σ := by
  have values : List.Forall₂ R (es.map fun e => Mapping.get e field)
      (fs.map fun f => Mapping.get f field) :=
    List.rel_map (fun e f (alike : Alike R e f) => like.rel_get alike field) alike
  rw [like.texts_eq values, IdSet.ofList_map]

/-- The fits of documents that are alike use the same, under other names. -/
lemma coverage_eq (like : Likeness σ R) (h : SectionsAlike R m n) :
    coverage n = (coverage m).rename σ := by
  have named := ofList_texts_eq like (forall₂_fits like h)
  have targeted := fun key => ofList_texts_eq like (forall₂_fitEntries like h key)
  have through : ∀ list : FitList,
      ((fitEntries n list.key).flatMap fun e => Value.texts (Mapping.get e "through").asList) =
        ((fitEntries m list.key).flatMap fun e =>
          Value.texts (Mapping.get e "through").asList).map σ :=
    fun list => flatMap_eq_of_forall₂ (forall₂_fitEntries like h list.key) fun _ _ alike =>
      like.texts_eq (like.forall₂_items alike "through")
  have products : IdSet.ofList (fitLists.flatMap fun list =>
      (fitEntries n list.key).flatMap fun e => Value.texts (Mapping.get e "through").asList) =
        (IdSet.ofList (fitLists.flatMap fun list => (fitEntries m list.key).flatMap fun e =>
          Value.texts (Mapping.get e "through").asList)).map σ := by
    simp only [through, ← List.map_flatMap, IdSet.ofList_map]
  change Coverage.mk _ _ _ _ _ _ = Coverage.mk _ _ _ _ _ _
  congr 1
  · exact named "customer_segment"
  · exact named "value_proposition"
  · exact targeted "pain_relievers" "pain"
  · exact targeted "gain_creators" "gain"
  · exact targeted "job_addressers" "job"
  · exact congrArg some products

lemma findingsAlike_findings (like : Likeness σ R) (h : SectionsAlike R m n) :
    FindingsAlike R (findings m index) (findings n (index.rename σ)) := by
  apply List.rel_append
  · exact findingsAlike_references like h
  · rw [coverage_eq like h]
    exact Coverage.findingsAlike_findings like h

end BusinessModel.Lint.Flat
