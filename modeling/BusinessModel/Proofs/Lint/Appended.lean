import BusinessModel.Proofs.Lint.Fits
import BusinessModel.Proofs.Lint.InUse
import BusinessModel.Proofs.Lint.Issues
import BusinessModel.Proofs.Pointer
import Mathlib.Data.List.Flatten

/-!
# Appending fits

More fits at the end of a document have errors of their own, which come as one block after those of
the fits before them and ahead of those of the other sections, and they leave all other errors as
they are.  What is in use stays in use, so that warnings can only go.  All this holds as long as
there are reports; there is none if an appended fit has an error that shows an integer that is too
long.

* `Lint.appendFits` — a document with more values at the end of its fits
* `Lint.referencesOf_appendFits` — the findings about references, block by block
* `Lint.used_subset`, `Coverage.findings_sublist` — the more is used, the less is left unused
* `Lint.ReportsMore`, `Lint.appended_conservative` — the reports of the two documents
-/

namespace BusinessModel.Lint

/-- A document with more values at the end of its fits. -/
def appendFits (doc : Mapping) (more : List Value) : Mapping :=
  withFits doc ((Mapping.get doc "fits").asList ++ more)

/-- The number of the first fit that is appended to a document. -/
def nextFit (doc : Mapping) : Nat := (Mapping.get doc "fits").asList.length

/-- The fits among the appended values, numbered onwards. -/
def laterFits (doc : Mapping) (more : List Value) : List (Nat × Mapping) :=
  (more.zipIdx (nextFit doc)).filterMap fun item =>
    item.1.mapping?.map fun entry => (item.2, entry)

variable {doc doc' m fit : Mapping} {g : Generation} {f : Finding} {more : List Value}
  {key id : String} {used used' : IdSet} {c c' : Coverage} {k : Nat} {kind : EntityKind}
  {rule : Rule} {place : Pointer} {index : Index}

lemma sameBesideFits_appendFits : SameBesideFits doc (appendFits doc more) :=
  sameBesideFits_withFits

/-! ### Errors -/

lemma lt_nextFit (entry : (k, fit) ∈ Mapping.entries doc "fits") : k < nextFit doc :=
  (List.getElem?_eq_some_iff.1 (mem_entries.1 entry)).1

lemma nextFit_le (entry : (k, fit) ∈ laterFits doc more) : nextFit doc ≤ k := by
  obtain ⟨item, listed, made⟩ := List.mem_filterMap.1 entry
  obtain ⟨entry, -, same⟩ := Option.map_eq_some_iff.1 made
  cases same
  exact List.le_snd_of_mem_zipIdx listed

/-- The appended fits come after the old ones, which keep their numbers. -/
lemma entries_appendFits :
    Mapping.entries (appendFits doc more) "fits" =
      Mapping.entries doc "fits" ++ laterFits doc more := by
  rw [Mapping.entries, appendFits, asList_withFits, List.zipIdx_append, List.filterMap_append,
    Nat.zero_add]
  rfl

/-- The findings about references before fits are appended. -/
lemma referencesOf_blocks (doc : Mapping) (g : Generation) :
    referencesOf doc g =
      (Mapping.entries doc "fits").flatMap (checkFit (Index.build doc g) g) ++
        referencesOf (withFits doc []) g :=
  sameBesideFits_withFits.referencesOf_eq entries_withFits_nil

/-- The findings about references afterwards. -/
lemma referencesOf_appendFits :
    referencesOf (appendFits doc more) g =
      (Mapping.entries doc "fits").flatMap (checkFit (Index.build doc g) g) ++
        (laterFits doc more).flatMap (checkFit (Index.build doc g) g) ++
        referencesOf (withFits doc []) g := by
  have same : SameBesideFits doc (appendFits doc more) := sameBesideFits_appendFits
  have fitless : SameBesideFits doc (withFits doc []) := sameBesideFits_withFits
  rw [(same.symm.trans fitless).referencesOf_eq entries_withFits_nil, ← same.build_eq,
    entries_appendFits, List.flatMap_append]

/-- An error found in a fit is below that fit. -/
lemma under_of_mem_checkFit (error : RefError doc g f) (found : f ∈ checkFit index g (k, fit)) :
    Pointer.Under [.key "fits", .index k] f.place.text := by
  have here := prefix_of_mem_checkFit found
  have below := error.below
  generalize f.place = place at here below
  cases below with
  | fit =>
    obtain ⟨same, -⟩ := List.cons_prefix_cons.1 (List.cons_prefix_cons.1 here).2
    rw [same]
    exact Pointer.under_text_append (List.cons_ne_nil _ _)
  | other apart =>
    obtain ⟨same, -⟩ := List.cons_prefix_cons.1 here
    exact absurd (Step.key.inj same).symm apart

/-- An error of a document without fits is below another section. -/
lemma under_other (error : RefError (withFits doc []) g f) :
    ∃ key, key ≠ "fits" ∧ Pointer.Under [.key key] f.place.text := by
  have below := error.below
  generalize f.place = place at below
  cases below with
  | fit entry =>
    rw [entries_withFits_nil] at entry
    cases entry
  | other apart => exact ⟨_, apart, Pointer.under_text_append (List.cons_ne_nil _ _)⟩

/-! ### Warnings -/

/-- Picking less of a list. -/
lemma sublist_filterMap {α β : Type} {pick pick' : α → Option β}
    (less : ∀ a b, pick' a = some b → pick a = some b) (items : List α) :
    (items.filterMap pick').Sublist (items.filterMap pick) := by
  induction items with
  | nil => exact List.Sublist.refl _
  | cons a items ih =>
    cases picked : pick' a with
    | some b => simpa [picked, less a b picked] using ih
    | none =>
      rw [List.filterMap_cons_none picked]
      refine ih.trans ?_
      exact (List.sublist_cons_self a items).filterMap pick

namespace Coverage

/-- The more is in use, the less is not. -/
lemma unusedIn_sublist (subset : used ⊆ used') :
    (unusedIn m key used').Sublist (unusedIn m key used) := by
  refine sublist_filterMap (fun entry item made => ?_) _
  cases named : Mapping.id? entry.2 with
  | none => simp [named] at made
  | some id =>
    simp only [named, List.contains_iff_mem] at made ⊢
    split at made
    · cases made
    next fresh =>
      rw [if_neg fun old => fresh (subset old)]
      exact made

lemma unfitted_sublist (subset : used ⊆ used') :
    (unfitted doc key used' rule kind).Sublist (unfitted doc key used rule kind) :=
  (unusedIn_sublist subset).map _

lemma unusedItems_sublist (subset : used ⊆ used') :
    (unusedItems place m key used' rule kind).Sublist (unusedItems place m key used rule kind) :=
  (unusedIn_sublist subset).map _

/-- A coverage that uses more leaves less unused, in the same order. -/
lemma findings_sublist (subset : ∀ kind, c.used kind ⊆ c'.used kind)
    (products : c.products.isSome ↔ c'.products.isSome) :
    (c'.findings doc).Sublist (c.findings doc) := by
  have profiles : (unusedProfileItems doc c').Sublist (unusedProfileItems doc c) := by
    refine List.Sublist.flatMap_right _ fun entry _ => ?_
    exact ((unusedItems_sublist (subset .pain)).append (unusedItems_sublist (subset .gain))).append
      (unusedItems_sublist (subset .job))
  refine (((unfitted_sublist (subset .customerSegment)).append
    (unfitted_sublist (subset .valueProposition))).append profiles).append ?_
  have named : c.products.getD [] ⊆ c'.products.getD [] := subset .productService
  cases before : c.products with
  | none =>
    have after : c'.products = none := by simpa [before] using products
    rw [after]
  | some used =>
    obtain ⟨used', after⟩ := Option.isSome_iff_exists.1 (products.1 (by rw [before]; rfl))
    rw [before, after] at named
    rw [after]
    exact List.Sublist.flatMap_right _ fun entry _ => unusedItems_sublist named

end Coverage

/-- What fits use in some way, more fits use, too. -/
lemma ofList_flatMap_subset (within : Mapping.entries doc "fits" ⊆ Mapping.entries doc' "fits")
    (read : Mapping → List String) :
    IdSet.ofList (((Mapping.entries doc "fits").map (·.2)).flatMap read) ⊆
      IdSet.ofList (((Mapping.entries doc' "fits").map (·.2)).flatMap read) := by
  intro id used
  rw [IdSet.mem_ofList] at used ⊢
  obtain ⟨fit, member, found⟩ := List.mem_flatMap.1 used
  exact List.mem_flatMap.2 ⟨fit, List.map_subset _ within member, found⟩

/-- What fits use stays in use. -/
lemma used_subset (within : Mapping.entries doc "fits" ⊆ Mapping.entries doc' "fits") :
    (coverageOf doc g).used kind ⊆ (coverageOf doc' g).used kind := by
  cases g with
  | v1 =>
    intro id used
    refine Flat.mem_used_coverage.2 ?_
    cases Flat.mem_used_coverage.1 used with
    | segment place named => exact .segment (within place) named
    | proposition place named => exact .proposition (within place) named
    | target item place inner named => exact .target item (within place) inner named
    | through item place inner named => exact .through item (within place) inner named
  | v2 =>
    have mapped := ofList_flatMap_subset within Typed.mappedBy
    cases kind with
    | customerSegment => exact ofList_flatMap_subset within _
    | valueProposition => exact ofList_flatMap_subset within _
    | pain => exact mapped
    | gain => exact mapped
    | job => exact mapped
    | _ => exact List.Subset.refl _

lemma findings_coverageOf_sublist :
    ((coverageOf (appendFits doc more) g).findings (appendFits doc more)).Sublist
      ((coverageOf doc g).findings doc) := by
  have within : Mapping.entries doc "fits" ⊆ Mapping.entries (appendFits doc more) "fits" := by
    rw [entries_appendFits]
    exact List.subset_append_left _ _
  rw [← sameBesideFits_appendFits.findings_coverage_eq]
  refine Coverage.findings_sublist (fun kind => used_subset within) ?_
  rw [isSome_products_coverageOf, isSome_products_coverageOf]

/-! ### Reports -/

/-- The errors of the second report are those of the first one and, as one block between those of
the old fits and those of the other sections, those of the appended fits; its warnings are among
those of the first one, in the same order.  If there is no first report there is no second one, and
if only the first document has a report then an error of an appended fit shows an integer that is
too long. -/
inductive ReportsMore (g : Generation) (doc doc' : Mapping) :
    Except LongInteger Report → Except LongInteger Report → Prop where
  | both {r r' : Report} (before added after : List Issue) :
    r.errors = before ++ after →
    r'.errors = before ++ added ++ after →
    (∀ issue ∈ before, ∃ k < nextFit doc, Pointer.Under [.key "fits", .index k] issue.path) →
    (∀ issue ∈ added, ∃ k ≥ nextFit doc, Pointer.Under [.key "fits", .index k] issue.path) →
    (∀ issue ∈ after, ∃ key ≠ "fits", Pointer.Under [.key key] issue.path) →
    r'.warnings.Sublist r.warnings →
    ReportsMore g doc doc' (.ok r) (.ok r')
  | first {r : Report} {f : Finding} {k : Nat} :
    RefError doc' g f →
    f.isWritable = false →
    nextFit doc ≤ k →
    Pointer.Under [.key "fits", .index k] f.place.text →
    ReportsMore g doc doc' (.ok r) (.error .written)
  | neither : ReportsMore g doc doc' (.error .written) (.error .written)

lemma mem_referencesOf_appendFits :
    f ∈ referencesOf (appendFits doc more) g ↔
      f ∈ referencesOf doc g ∨
        f ∈ (laterFits doc more).flatMap (checkFit (Index.build doc g) g) := by
  rw [referencesOf_appendFits, referencesOf_blocks doc g, List.mem_append, List.mem_append,
    List.mem_append, or_right_comm]

/-- The errors of appended fits are below these. -/
lemma under_of_mem_laterFits
    (found : f ∈ (laterFits doc more).flatMap (checkFit (Index.build doc g) g)) :
    ∃ k ≥ nextFit doc, Pointer.Under [.key "fits", .index k] f.place.text := by
  have error := mem_referencesOf.1 (mem_referencesOf_appendFits.2 (.inr found))
  obtain ⟨⟨k, fit⟩, entry, found⟩ := List.mem_flatMap.1 found
  exact ⟨k, nextFit_le entry, under_of_mem_checkFit error found⟩

/-- The reports of both documents, if they have reports. -/
lemma reportsMore_report (more : List Value) :
    ReportsMore g doc (appendFits doc more) (.ok (report (.map doc) (some g)))
      (.ok (report (.map (appendFits doc more)) (some g))) := by
  refine .both
    (((Mapping.entries doc "fits").flatMap (checkFit (Index.build doc g) g)).map Finding.issue)
    (((laterFits doc more).flatMap (checkFit (Index.build doc g) g)).map Finding.issue)
    ((referencesOf (withFits doc []) g).map Finding.issue) ?_ ?_ ?_ ?_ ?_ ?_
  · rw [errors_report, Value.asMapping, referencesOf_blocks doc, List.map_append]
  · rw [errors_report, Value.asMapping, referencesOf_appendFits, List.map_append, List.map_append]
  · refine List.forall_mem_map.2 fun f found => ?_
    have error : RefError doc g f := by
      rw [← mem_referencesOf, referencesOf_blocks doc]
      exact List.mem_append_left _ found
    obtain ⟨⟨k, fit⟩, entry, found⟩ := List.mem_flatMap.1 found
    exact ⟨k, lt_nextFit entry, under_of_mem_checkFit error found⟩
  · exact List.forall_mem_map.2 fun f found => under_of_mem_laterFits found
  · exact List.forall_mem_map.2 fun f found => under_other (mem_referencesOf.1 found)
  · rw [warnings_report, warnings_report]
    exact findings_coverageOf_sublist.map Finding.issue

/-- Appending fits adds their errors, leaves all others, and takes warnings away at most. -/
theorem appended_conservative (doc : Mapping) (more : List Value) (g : Generation) :
    ReportsMore g doc (appendFits doc more) (run (.map doc) (some g))
      (run (.map (appendFits doc more)) (some g)) := by
  have errors : ∀ f, RefError (appendFits doc more) g f ↔ RefError doc g f ∨
      f ∈ (laterFits doc more).flatMap (checkFit (Index.build doc g) g) := by
    intro f
    rw [← mem_referencesOf, ← mem_referencesOf, mem_referencesOf_appendFits]
  obtain ⟨writable, ran⟩ | ⟨⟨f, error, unwritable⟩, failed⟩ := run_cases (.map doc) g
  · obtain ⟨-, ran'⟩ | ⟨⟨f, error, unwritable⟩, failed'⟩ := run_cases (.map (appendFits doc more)) g
    · rw [ran, ran']
      exact reportsMore_report more
    · rw [ran, failed']
      obtain error' | found := (errors f).1 error
      · cases unwritable.symm.trans (writable f error')
      · obtain ⟨k, late, under⟩ := under_of_mem_laterFits found
        exact .first error unwritable late under
  · have failed' : run (.map (appendFits doc more)) (some g) = .error .written :=
      run_of_unwritable ((errors f).2 (.inl error)) unwritable
    rw [failed, failed']
    exact .neither

/-- A document with one segment and no fits. -/
def fitless : Mapping := withFits (referenceTo 0).asMapping []

lemma appendFits_fitless (n : Int) :
    Value.map (appendFits fitless [.map (fitTo n)]) = referenceTo n := rfl

/-- An appended fit that refers to a long integer leaves the old warning unreported. -/
theorem appended_unreported :
    Mapping.get fitless "fits" = .list [] ∧ (∃ r, run (.map fitless) (some .v2) = .ok r) ∧
      ¬∃ r r' before added after, run (.map fitless) (some .v2) = .ok r ∧
        run (.map (appendFits fitless [.map (fitTo leastLong)])) (some .v2) = .ok r' ∧
        r.errors = before ++ after ∧ r'.errors = before ++ added ++ after ∧
        r'.warnings.Sublist r.warnings := by
  refine ⟨rfl, ⟨_, if_pos (by decide +kernel)⟩, ?_⟩
  intro ⟨r, r', _, _, _, _, ran', _⟩
  rw [appendFits_fitless] at ran'
  cases (run_referenceTo not_isWritableInteger_leastLong).symm.trans ran'

end BusinessModel.Lint
