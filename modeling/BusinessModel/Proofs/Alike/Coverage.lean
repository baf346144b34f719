import BusinessModel.Lint.Report
import BusinessModel.Proofs.Alike.Index

/-!
# Findings that are alike

Findings are alike when they report the same rule at the same place and show related values.  What
is unused in a document is unused in a document that is alike, when the same is in use under other
names.

* `Lint.FindingAlike`, `Lint.FindingsAlike` — findings of the same rules at the same places
* `Lint.findingsAlike_unresolvedRefs` — lists of references that resolve together
* `Lint.Coverage.findingsAlike_findings` — what is declared and not in use
-/

namespace BusinessModel.Lint

/-- Two findings are of the same rule at the same place, and show related values. -/
structure FindingAlike (R : Value → Value → Prop) (a b : Finding) : Prop where
  rule : b.rule = a.rule
  place : b.place = a.place
  shown : List.Forall₂ R a.fault.shown b.fault.shown

/-- Findings that are alike can be written or not alike. -/
lemma FindingAlike.isWritable_eq {σ : Renaming} {R : Value → Value → Prop} {a b : Finding}
    (like : Likeness σ R) (h : FindingAlike R a b) : b.isWritable = a.isWritable :=
  like.all_isWritable_eq h.shown

/-- Lists of findings that are alike one by one. -/
abbrev FindingsAlike (R : Value → Value → Prop) : List Finding → List Finding → Prop :=
  List.Forall₂ (FindingAlike R)

variable {σ : Renaming} {R : Value → Value → Prop} {v w : Value} {m n : Mapping}
  {vs ws : List Value} {index : Index} {rule : Rule} {place : Pointer} {referent : Referent}
  {resolves resolves' : Value → Bool} {e f : Mapping} {i : Nat}

lemma findingsAlike_unresolvedRefs (refs : List.Forall₂ R vs ws)
    (same : ∀ {v w}, R v w → resolves' w = resolves v) :
    FindingsAlike R (unresolvedRefs vs resolves rule place referent)
      (unresolvedRefs ws resolves' rule place referent) := by
  apply List.rel_filterMap ?_ (forall₂_zipIdx refs)
  rintro ⟨v, i⟩ ⟨w, j⟩ ⟨related, index⟩
  cases index
  simp only [same related]
  split
  next => exact .none
  next => exact .some ⟨rfl, rfl, .cons related .nil⟩

/-- The fits of documents that are alike, one by one. -/
lemma forall₂_fits (like : Likeness σ R) (h : SectionsAlike R m n) :
    List.Forall₂ (Alike R) ((Mapping.entries m "fits").map (·.2))
      ((Mapping.entries n "fits").map (·.2)) :=
  List.rel_map (fun _ _ alike => alike.2)
    (like.forall₂_entries (h.items "fits" (by simp [sectionKeys])))

/-! ### Coverage -/

namespace Coverage

/-- What is in use, under other names. -/
def rename (σ : Renaming) (c : Coverage) : Coverage where
  segments := c.segments.map σ
  propositions := c.propositions.map σ
  pains := c.pains.map σ
  gains := c.gains.map σ
  jobs := c.jobs.map σ
  products := c.products.map (·.map σ)

variable {key : String} {used : IdSet} {kind : EntityKind} {c : Coverage}

/-- The same entries are unused, each under its other name. -/
lemma unusedIn_eq (like : Likeness σ R)
    (items : List.Forall₂ R (Mapping.get m key).asList (Mapping.get n key).asList) :
    unusedIn n key (used.map σ) = (unusedIn m key used).map (Prod.map id σ) := by
  apply filterMap_eq_of_forall₂ (like.forall₂_entries items)
  rintro ⟨i, e⟩ ⟨j, f⟩ ⟨index, alike⟩
  cases index
  simp only [like.id?_eq alike]
  cases Mapping.id? e with
  | none => rfl
  | some id =>
    simp only [Option.map_some, σ.contains_map]
    split <;> rfl

/-- Findings that show nothing and name the unused entries are alike. -/
lemma findingsAlike_map {entries : List (Nat × String)} {make : Nat × String → Finding}
    (rules : ∀ entry, (make (Prod.map id σ entry)).rule = (make entry).rule)
    (places : ∀ entry, (make (Prod.map id σ entry)).place = (make entry).place)
    (shown : ∀ entry, (make entry).fault.shown = []) :
    FindingsAlike R (entries.map make) ((entries.map (Prod.map id σ)).map make) := by
  unfold FindingsAlike
  rw [List.forall₂_map_left_iff, List.forall₂_map_right_iff, List.forall₂_map_right_iff,
    List.forall₂_same]
  intro entry _
  refine ⟨rules entry, places entry, ?_⟩
  rw [shown, shown]
  exact .nil

lemma findingsAlike_unfitted (like : Likeness σ R)
    (items : List.Forall₂ R (Mapping.get m key).asList (Mapping.get n key).asList) :
    FindingsAlike R (unfitted m key used rule kind) (unfitted n key (used.map σ) rule kind) := by
  unfold unfitted
  rw [unusedIn_eq like items]
  exact findingsAlike_map (fun _ => rfl) (fun _ => rfl) fun _ => rfl

lemma findingsAlike_unusedItems (like : Likeness σ R) (h : Alike R e f) :
    FindingsAlike R (unusedItems place e key used rule kind)
      (unusedItems place f key (used.map σ) rule kind) := by
  unfold unusedItems
  rw [unusedIn_eq like (like.forall₂_items h key)]
  exact findingsAlike_map (fun _ => rfl) (fun _ => rfl) fun _ => rfl

/-- The same declared entities and items are unused when the same are in use, under other names. -/
lemma findingsAlike_findings (like : Likeness σ R) (h : SectionsAlike R m n) :
    FindingsAlike R (c.findings m) ((c.rename σ).findings n) := by
  have segments := h.items "customer_segments" (by simp [sectionKeys])
  have propositions := h.items "value_propositions" (by simp [sectionKeys])
  apply List.rel_append
  · apply List.rel_append
    · apply List.rel_append
      · exact findingsAlike_unfitted like segments
      · exact findingsAlike_unfitted like propositions
    · apply List.rel_flatMap (like.forall₂_entries segments)
      rintro ⟨i, e⟩ ⟨j, f⟩ ⟨index, alike⟩
      cases index
      apply List.rel_append
      · apply List.rel_append
        · exact findingsAlike_unusedItems like alike
        · exact findingsAlike_unusedItems like alike
      · exact findingsAlike_unusedItems like alike
  · cases products : c.products with
    | none =>
      simp only [rename, products, Option.map_none]
      exact .nil
    | some used =>
      simp only [rename, products, Option.map_some]
      apply List.rel_flatMap (like.forall₂_entries propositions)
      rintro ⟨i, e⟩ ⟨j, f⟩ ⟨index, alike⟩
      cases index
      exact findingsAlike_unusedItems like alike

end Coverage

end BusinessModel.Lint
