import BusinessModel.Proofs.Alike.Coverage
import BusinessModel.Proofs.Lint.Typed

/-!
# Rules of the second generation on documents that are alike

Every check of a document of the second generation is followed here through a document that is
alike.  The kinds of the two sides of a mapping are the same, since renaming keeps kinds, and the
scope of a fit links related entities.

* `Lint.Typed.pair?_eq` — pairs are pairs of renamed identifiers
* `Lint.Typed.coverage_eq` — the fits use the same, under other names
* `Lint.Typed.findingsAlike_findings` — the findings are alike
-/

namespace BusinessModel.Lint.Typed

variable {σ : Renaming} {R : Value → Value → Prop} {v w : Value} {m n : Mapping}
  {vs ws : List Value} {index : Index} {place : Pointer} {e f : Mapping} {i : Nat}
  {target : Target} {link : Link} {key left right : String} {scope scope' : Scope}
  {kind : EntityKind}

lemma resolves_eq (like : Likeness σ R) (h : R v w) :
    target.resolves (index.rename σ) w = target.resolves index v := by
  cases target with
  | segments => exact like.hasSegment_eq h
  | propositions => exact like.hasProposition_eq h
  | resources => exact like.isResourceOrActivity_eq h
  | activities => exact like.isResourceOrActivity_eq h

lemma findingsAlike_checkLink (like : Likeness σ R) (h : Alike R e f) :
    FindingsAlike R (checkLink index key (i, e) link)
      (checkLink (index.rename σ) key (i, f) link) :=
  findingsAlike_unresolvedRefs (like.forall₂_relation h link.relation link.target.key)
    (resolves_eq like)

lemma findingsAlike_checkSection {row : String × List Link} (like : Likeness σ R)
    (items : List.Forall₂ R (Mapping.get m row.1).asList (Mapping.get n row.1).asList) :
    FindingsAlike R (checkSection m index row) (checkSection n (index.rename σ) row) := by
  apply List.rel_flatMap (like.forall₂_entries items)
  rintro ⟨i, e⟩ ⟨j, f⟩ ⟨index, alike⟩
  cases index
  exact forall₂_flatMap_of_mem fun link _ => findingsAlike_checkLink like alike

/-! #### Mappings of fits -/

/-- Only a text is related to a text. -/
lemma exists_str (like : Likeness σ R) (h : R v (.str left)) : ∃ x, v = .str x := by
  have text : some left = v.str?.map σ := like.str?_eq h
  cases named : v.str? with
  | none => simp [named] at text
  | some x => exact ⟨x, Value.str?_eq_some.1 named⟩

/-- The items of a pair are renamed. -/
lemma items_of_texts (like : Likeness σ R)
    (items : List.Forall₂ R [.str left, .str right] ws) :
    ws = [.str (σ left), .str (σ right)] := by
  obtain ⟨a, _, first, more, rfl⟩ := List.forall₂_cons_left_iff.1 items
  obtain ⟨b, _, second, last, rfl⟩ := List.forall₂_cons_left_iff.1 more
  cases last
  cases like.scalar first
  cases like.scalar second
  rfl

/-- What is related to a pair is one. -/
lemma texts_of_items (like : Likeness σ R)
    (items : List.Forall₂ R vs [.str left, .str right]) : ∃ x y, vs = [.str x, .str y] := by
  obtain ⟨a, _, first, more, rfl⟩ := List.forall₂_cons_right_iff.1 items
  obtain ⟨b, _, second, last, rfl⟩ := List.forall₂_cons_right_iff.1 more
  cases last
  obtain ⟨x, rfl⟩ := exists_str like first
  obtain ⟨y, rfl⟩ := exists_str like second
  exact ⟨x, y, rfl⟩

lemma isPair_of_alike (like : Likeness σ R) (h : R v w) (pair : IsPair v left right) :
    IsPair w (σ left) (σ right) := by
  cases pair with
  | list =>
    obtain ⟨ys, rfl, items⟩ := like.list h
    cases items_of_texts like items
    exact .list
  | tuple =>
    obtain ⟨ys, rfl, items⟩ := like.tuple h
    cases items_of_texts like items
    exact .tuple

lemma exists_isPair_of_alike (like : Likeness σ R) (h : R v w) (pair : IsPair w left right) :
    ∃ x y, IsPair v x y := by
  cases v with
  | scalar s =>
    cases like.scalar h
    cases pair
  | list xs =>
    obtain ⟨ys, rfl, items⟩ := like.list h
    cases pair with
    | list =>
      obtain ⟨x, y, rfl⟩ := texts_of_items like items
      exact ⟨x, y, .list⟩
  | tuple xs =>
    obtain ⟨ys, rfl, items⟩ := like.tuple h
    cases pair with
    | tuple =>
      obtain ⟨x, y, rfl⟩ := texts_of_items like items
      exact ⟨x, y, .tuple⟩
  | set ms =>
    obtain ⟨ns, rfl⟩ := like.set h
    cases pair
  | map m =>
    obtain ⟨n, rfl, _⟩ := like.map h
    cases pair

/-- A related value is a pair of the same identifiers, renamed, or neither value is a pair. -/
lemma pair?_eq (like : Likeness σ R) (h : R v w) : pair? w = (pair? v).map (Prod.map σ σ) := by
  cases paired : pair? v with
  | none =>
    rw [Option.map_none, pair?_eq_none]
    intro left right pair
    obtain ⟨x, y, pair⟩ := exists_isPair_of_alike like h pair
    exact pair?_eq_none.1 paired x y pair
  | some pair =>
    exact pair?_eq_some.2 (isPair_of_alike like h (pair?_eq_some.1 paired))

/-- What is wrong with the kinds of a pair is told by the kinds alone, and shows no value. -/
lemma kindMismatch?_rename (left right : String) :
    Option.Rel (fun a b => b.1 = a.1 ∧ a.2.shown = [] ∧ b.2.shown = [])
      (kindMismatch? left right) (kindMismatch? (σ left) (σ right)) := by
  unfold kindMismatch?
  simp only [σ.ofId?_eq]
  split
  next => exact .some ⟨rfl, rfl, rfl⟩
  next =>
    split
    next => exact .some ⟨rfl, rfl, rfl⟩
    next => exact .none

/-- A scope links related entities. -/
structure ScopesAlike (R : Value → Value → Prop) (a b : Scope) : Prop where
  propositions : List.Forall₂ R a.propositions b.propositions
  segments : List.Forall₂ R a.segments b.segments

lemma scopesAlike_ofFit (like : Likeness σ R) (h : Alike R e f) :
    ScopesAlike R (Scope.ofFit index e) (Scope.ofFit (index.rename σ) f) where
  propositions := List.rel_filter
    (fun v w (related : R v w) => Bool.eq_iff_iff.1 (like.hasProposition_eq related).symm)
    (like.forall₂_relation h "for" "value_propositions")
  segments := List.rel_filter
    (fun v w (related : R v w) => Bool.eq_iff_iff.1 (like.hasSegment_eq related).symm)
    (like.forall₂_relation h "for" "customer_segments")

lemma valueMapItems_eq (like : Likeness σ R) (h : ScopesAlike R scope scope') :
    scope'.valueMapItems (index.rename σ) kind = (scope.valueMapItems index kind).map σ := by
  cases kind with
  | painReliever => exact like.valueMapsIn_eq h.propositions fun _ => rfl
  | gainCreator => exact like.valueMapsIn_eq h.propositions fun _ => rfl
  | _ => rfl

lemma profileItems_eq (like : Likeness σ R) (h : ScopesAlike R scope scope') :
    scope'.profileItems (index.rename σ) kind = (scope.profileItems index kind).map σ := by
  cases kind with
  | pain => exact like.profilesIn_eq h.segments fun _ => rfl
  | gain => exact like.profilesIn_eq h.segments fun _ => rfl
  | job => exact like.profilesIn_eq h.segments fun _ => rfl
  | _ => rfl

lemma findingsAlike_checkLeft (like : Likeness σ R) (h : ScopesAlike R scope scope') :
    FindingsAlike R (checkLeft index scope place left)
      (checkLeft (index.rename σ) scope' place (σ left)) := by
  have empty := isEmpty_eq_of_forall₂ h.propositions
  unfold checkLeft
  rw [σ.ofId?_eq]
  cases EntityKind.ofId? left with
  | none => exact .nil
  | some kind =>
    cases rules : valueMapRule? kind with
    | none => simp only [rules]; exact .nil
    | some rule =>
      simp only [rules, empty, valueMapItems_eq like h, σ.contains_map]
      split
      next => exact .nil
      next => exact .cons ⟨rfl, rfl, h.propositions⟩ .nil

lemma findingsAlike_checkRight (like : Likeness σ R) (h : ScopesAlike R scope scope') :
    FindingsAlike R (checkRight index scope place right)
      (checkRight (index.rename σ) scope' place (σ right)) := by
  have empty := isEmpty_eq_of_forall₂ h.segments
  unfold checkRight
  rw [σ.ofId?_eq]
  cases EntityKind.ofId? right with
  | none => exact .nil
  | some kind =>
    cases rules : profileRule? kind with
    | none => simp only [rules]; exact .nil
    | some rule =>
      simp only [rules, empty, profileItems_eq like h, σ.contains_map]
      split
      next => exact .nil
      next => exact .cons ⟨rfl, rfl, h.segments⟩ .nil

lemma findingsAlike_checkMapping (like : Likeness σ R) (h : ScopesAlike R scope scope')
    (related : R v w) :
    FindingsAlike R (checkMapping index scope place v)
      (checkMapping (index.rename σ) scope' place w) := by
  unfold checkMapping
  rw [pair?_eq like related]
  cases pair? v with
  | none => exact .cons ⟨rfl, rfl, .cons related .nil⟩ .nil
  | some pair =>
    obtain ⟨left, right⟩ := pair
    simp only [Option.map_some, Prod.map_apply]
    have mismatch := kindMismatch?_rename (σ := σ) left right
    generalize kindMismatch? left right = a at mismatch ⊢
    generalize kindMismatch? (σ left) (σ right) = b at mismatch ⊢
    cases mismatch with
    | none =>
      exact List.rel_append (findingsAlike_checkLeft like h) (findingsAlike_checkRight like h)
    | some same =>
      obtain ⟨side, nothing, nothing'⟩ := same
      refine .cons ⟨rfl, by rw [side], ?_⟩ .nil
      rw [nothing, nothing']
      exact .nil

lemma findingsAlike_checkFit (like : Likeness σ R) (h : Alike R e f) :
    FindingsAlike R (checkFit index (i, e)) (checkFit (index.rename σ) (i, f)) := by
  apply List.rel_append
  · exact forall₂_flatMap_of_mem fun link _ => findingsAlike_checkLink like h
  · apply List.rel_flatMap (forall₂_zipIdx (like.forall₂_items h "mappings"))
    rintro ⟨v, j⟩ ⟨w, k⟩ ⟨related, index⟩
    cases index
    exact findingsAlike_checkMapping like (scopesAlike_ofFit like h) related

lemma findingsAlike_references (like : Likeness σ R) (h : SectionsAlike R m n) :
    FindingsAlike R (references m index) (references n (index.rename σ)) := by
  have listed : ∀ row ∈ links, row.1 ∈ sectionKeys := by decide
  apply List.rel_append
  · apply List.rel_flatMap (like.forall₂_entries (h.items "fits" (by simp [sectionKeys])))
    rintro ⟨i, e⟩ ⟨j, f⟩ ⟨index, alike⟩
    cases index
    exact findingsAlike_checkFit like alike
  · exact forall₂_flatMap_of_mem fun row member =>
      findingsAlike_checkSection like (h.items row.1 (listed row member))

lemma isCompatible_rename : isCompatible (σ left) (σ right) = isCompatible left right := by
  unfold isCompatible
  rw [σ.ofId?_eq, σ.ofId?_eq]

/-- The compatible pairs of a fit that is alike have the same right sides, renamed. -/
lemma mappedBy_eq (like : Likeness σ R) (h : Alike R e f) :
    mappedBy f = (mappedBy e).map σ := by
  apply filterMap_eq_of_forall₂ (like.forall₂_items h "mappings")
  intro v w related
  rw [pair?_eq like related]
  cases pair? v with
  | none => rfl
  | some pair =>
    obtain ⟨left, right⟩ := pair
    simp only [Option.map_some, Prod.map_apply, isCompatible_rename]
    split <;> rfl

/-- The fits of documents that are alike use the same, under other names. -/
lemma coverage_eq (like : Likeness σ R) (h : SectionsAlike R m n) :
    coverage n = (coverage m).rename σ := by
  have fits := forall₂_fits like h
  have named : ∀ target, IdSet.ofList (((Mapping.entries n "fits").map (·.2)).flatMap fun fit =>
      Value.texts (Mapping.relation fit "for" target)) =
        (IdSet.ofList (((Mapping.entries m "fits").map (·.2)).flatMap fun fit =>
          Value.texts (Mapping.relation fit "for" target))).map σ := by
    intro target
    rw [← IdSet.ofList_map]
    exact congrArg IdSet.ofList (flatMap_eq_of_forall₂ fits fun _ _ alike =>
      like.texts_eq (like.forall₂_relation alike "for" target))
  have mapped : IdSet.ofList (((Mapping.entries n "fits").map (·.2)).flatMap mappedBy) =
      (IdSet.ofList (((Mapping.entries m "fits").map (·.2)).flatMap mappedBy)).map σ := by
    rw [← IdSet.ofList_map]
    exact congrArg IdSet.ofList (flatMap_eq_of_forall₂ fits fun _ _ => mappedBy_eq like)
  change Coverage.mk _ _ _ _ _ _ = Coverage.mk _ _ _ _ _ _
  congr 1
  · exact named "customer_segments"
  · exact named "value_propositions"

lemma findingsAlike_findings (like : Likeness σ R) (h : SectionsAlike R m n) :
    FindingsAlike R (findings m index) (findings n (index.rename σ)) := by
  apply List.rel_append
  · exact findingsAlike_references like h
  · rw [coverage_eq like h]
    exact Coverage.findingsAlike_findings like h

end BusinessModel.Lint.Typed
