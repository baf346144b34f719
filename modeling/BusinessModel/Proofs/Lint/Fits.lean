import BusinessModel.Proofs.Lint.Order

/-!
# Documents that differ in their fits

Fits declare nothing, and no other section is checked against them.  Two documents that differ in
their fits alone have one index, and the same is declared in them.  The findings about references
are those about each fit, in order, and after them those about the other sections.

* `Lint.SameBesideFits` — two documents differ in their fits at most
* `SameBesideFits.build_eq` — their indices agree
* `SameBesideFits.referencesOf_eq` — findings about fits before those about other sections
* `Lint.Below`, `RefError.below` — where errors are
-/

namespace BusinessModel.Lint

/-- Two documents differ in their fits at most. -/
def SameBesideFits (doc doc' : Mapping) : Prop :=
  ∀ key, "fits" ≠ key → Mapping.get doc key = Mapping.get doc' key

/-- A document with other fits. -/
def withFits (doc : Mapping) (fits : List Value) : Mapping :=
  Mapping.set doc (.str "fits") (.list fits)

/-- The findings about one fit under the rules of a generation. -/
def checkFit (index : Index) : Generation → Nat × Mapping → List Finding
  | .v1 => Flat.checkFit index
  | .v2 => Typed.checkFit index

variable {doc doc' doc'' fit : Mapping} {g : Generation} {f : Finding} {fits : List Value}
  {key : String} {index : Index} {k : Nat}

namespace SameBesideFits

lemma symm (same : SameBesideFits doc doc') : SameBesideFits doc' doc :=
  fun key other => (same key other).symm

lemma trans (same : SameBesideFits doc doc') (same' : SameBesideFits doc' doc'') :
    SameBesideFits doc doc'' :=
  fun key other => (same key other).trans (same' key other)

lemma entries_eq (same : SameBesideFits doc doc') (other : "fits" ≠ key) :
    Mapping.entries doc key = Mapping.entries doc' key :=
  Mapping.entries_congr (same key other)

/-- Fits declare nothing. -/
lemma build_eq (same : SameBesideFits doc doc') (g : Generation) :
    Index.build doc g = Index.build doc' g := by
  simp only [Index.build, Index.tabulate, Mapping.idsIn,
    same.entries_eq (by decide : "fits" ≠ "customer_segments"),
    same.entries_eq (by decide : "fits" ≠ "value_propositions"),
    same.entries_eq (by decide : "fits" ≠ "key_resources"),
    same.entries_eq (by decide : "fits" ≠ "key_activities")]

/-- What is declared is declared outside of fits. -/
lemma findings_coverage_eq (same : SameBesideFits doc doc') (c : Coverage) :
    c.findings doc = c.findings doc' := by
  simp only [Coverage.findings, Coverage.unfitted, Coverage.unusedIn, Coverage.unusedProfileItems,
    Coverage.unusedProducts, same.entries_eq (by decide : "fits" ≠ "customer_segments"),
    same.entries_eq (by decide : "fits" ≠ "value_propositions")]

end SameBesideFits

lemma sameBesideFits_withFits : SameBesideFits doc (withFits doc fits) :=
  fun _ other => (Mapping.get_set_of_ne other).symm

lemma asList_withFits : (Mapping.get (withFits doc fits) "fits").asList = fits := by
  rw [withFits, Mapping.get_set]
  rfl

lemma entries_withFits_nil : Mapping.entries (withFits doc []) "fits" = [] := by
  rw [Mapping.entries, asList_withFits]
  rfl

/-- The other sections are checked after all fits, and as if there were none. -/
lemma SameBesideFits.referencesOf_eq (same : SameBesideFits doc doc')
    (none : Mapping.entries doc' "fits" = []) :
    referencesOf doc g =
      (Mapping.entries doc "fits").flatMap (checkFit (Index.build doc g) g) ++
        referencesOf doc' g := by
  cases g with
  | v1 =>
    simp only [referencesOf, checkFit, Flat.references, Flat.checkSection, Flat.checkRelationships,
      Flat.checkRevenueStreams, Flat.checkCosts, none, List.flatMap_nil, List.nil_append,
      List.append_assoc, ← same.build_eq,
      same.entries_eq (by decide : "fits" ≠ "channels"),
      same.entries_eq (by decide : "fits" ≠ "customer_relationships"),
      same.entries_eq (by decide : "fits" ≠ "revenue_streams"),
      same.entries_eq (by decide : "fits" ≠ "key_resources"),
      same.entries_eq (by decide : "fits" ≠ "key_activities"),
      same.entries_eq (by decide : "fits" ≠ "key_partnerships"),
      same "cost_structure" (by decide)]
  | v2 =>
    have others : ∀ row ∈ Typed.links, "fits" ≠ row.1 := by decide
    have sections : Typed.links.flatMap (Typed.checkSection doc (Index.build doc .v2)) =
        Typed.links.flatMap (Typed.checkSection doc' (Index.build doc .v2)) := by
      refine List.flatMap_congr fun row listed => ?_
      rw [Typed.checkSection, Typed.checkSection, same.entries_eq (others row listed)]
    rw [referencesOf, referencesOf, checkFit, Typed.references, Typed.references, sections, none,
      ← same.build_eq, List.flatMap_nil, List.nil_append]

/-! ### Places -/

/-- A place is below a fit of a document or below another section. -/
inductive Below (doc : Mapping) : Pointer → Prop where
  | fit {k fit step rest} :
    (k, fit) ∈ Mapping.entries doc "fits" →
    Below doc ([.key "fits", .index k] ++ step :: rest)
  | other {key step rest} :
    key ≠ "fits" →
    Below doc ([.key key] ++ step :: rest)

lemma Below.of_entry {i : Nat} {entry : Mapping} {step : Step} {rest : Pointer}
    (place : (i, entry) ∈ Mapping.entries doc key) :
    Below doc ([.key key, .index i] ++ step :: rest) := by
  by_cases isFits : key = "fits"
  · subst isFits
    exact .fit place
  · exact .other isFits

lemma RefError.below (error : RefError doc g f) : Below doc f.place := by
  cases g with
  | v1 =>
    cases error with
    | unresolved _ place => exact .of_entry place
    | cost => exact .other (by decide)
    | single _ place => exact .of_entry place
    | streamValue place => exact .of_entry place
    | target _ place => exact .of_entry place
    | through _ place => exact .of_entry place
  | v2 =>
    cases error with
    | unresolved _ place => exact .of_entry place
    | mapping place _ error => cases error <;> exact .of_entry place

/-- What is found in a fit is at that fit. -/
lemma prefix_of_mem_checkFit (found : f ∈ checkFit index g (k, fit)) :
    [.key "fits", .index k] <+: f.place := by
  cases g with
  | v1 => exact Flat.ascends_checkFit.below f found
  | v2 => exact Typed.ascends_checkFit.below f found

end BusinessModel.Lint
