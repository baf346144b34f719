import BusinessModel.Proofs.Lint.Growth
import BusinessModel.Proofs.Lint.Located

/-!
# Removing a segment

A document of the second generation without errors loses the declarations of a segment.  What
referred to the segment is then unresolved.  A fit that refers to other segments, too, still has a
scope, and what it maps to is looked up in these alone; a fit that refers to no other segment has
none, and nothing is looked up.  Nothing else changes.

* `Lint.withoutSegment` — a document without the declarations of a segment
* `Lint.segment?_withoutSegment` — the other segments are what they were
* `Lint.Dangling` — what a removed segment leaves behind
* `Lint.refError_withoutSegment_iff` — the errors of the document without the segment
* `Lint.errors_withoutSegment` — its report
-/

namespace BusinessModel.Lint

/-- A document without the entries that declare a segment. -/
def withoutSegment (doc : Mapping) (id : String) : Mapping :=
  Mapping.set doc (.str "customer_segments") (.list
    ((Mapping.get doc "customer_segments").asList.filter fun entry =>
      Mapping.id? entry.asMapping != some id))

/-- The segments that a fit refers to besides one. -/
def otherSegments (fit : Mapping) (id : String) : List Value :=
  (Mapping.relation fit "for" "customer_segments").filter fun ref => ref.str? != some id

/-- What a removed segment leaves behind. -/
inductive Dangling (doc : Mapping) (id : String) : Finding → Prop where
  /-- A reference to the segment. -/
  | reference {key relation rule i entry j} :
    Typed.Refers key relation "customer_segments" (.entity .customerSegment) rule →
    (i, entry) ∈ Mapping.entries doc key →
    (Mapping.relation entry relation "customer_segments")[j]? = some (.str id) →
    Dangling doc id
      ⟨rule, [.key key, .index i, .key relation, .key "customer_segments", .index j],
        .unresolved (.entity .customerSegment) (.str id)⟩
  /-- A profile item that a fit maps to: the fit refers to the segment and to other declared ones,
  and none of these lists the item under its kind. -/
  | item {i fit k mapping l r kind field rule} :
    (i, fit) ∈ Mapping.entries doc "fits" →
    .str id ∈ Mapping.relation fit "for" "customer_segments" →
    (∃ other ∈ otherSegments fit id, Names doc "customer_segments" other) →
    (Mapping.get fit "mappings").asList[k]? = some mapping →
    Typed.IsPair mapping l r →
    EntityKind.ofId? r = some kind →
    Typed.ProfileItem kind field rule →
    (∀ other ∈ otherSegments fit id, ¬Lists doc "customer_segments" field other (.str r)) →
    Dangling doc id
      ⟨rule, mappingPlace i k ++ [.index 1],
        .notInAny (.entity kind) r .customerSegment (otherSegments fit id)⟩

variable {doc fit entry : Mapping} {id other x key field : String} {i j k : Nat} {f : Finding}
  {ref owner item mapping : Value} {referent : Referent} {place : Pointer}

/-- Segments do not refer to anything. -/
lemma Typed.Refers.key_ne {key relation target : String} {referent : Referent} {rule : Rule}
    (refers : Typed.Refers key relation target referent rule) : key ≠ "customer_segments" := by
  cases refers <;> decide

lemma Typed.Refers.target_eq {key relation target : String} {rule : Rule}
    (refers : Typed.Refers key relation target (.entity .customerSegment) rule) :
    target = "customer_segments" := by
  cases refers <;> rfl

/-! ### What is still declared -/

lemma asList_withoutSegment :
    (Mapping.get (withoutSegment doc id) "customer_segments").asList =
      (Mapping.get doc "customer_segments").asList.filter fun entry =>
        Mapping.id? entry.asMapping != some id := by
  rw [withoutSegment, Mapping.get_set]
  rfl

lemma get_withoutSegment (apart : key ≠ "customer_segments") :
    Mapping.get (withoutSegment doc id) key = Mapping.get doc key :=
  Mapping.get_set_of_ne apart.symm

lemma entries_withoutSegment (apart : key ≠ "customer_segments") :
    Mapping.entries (withoutSegment doc id) key = Mapping.entries doc key :=
  Mapping.entries_congr (get_withoutSegment apart)

lemma names_withoutSegment_of_ne (apart : key ≠ "customer_segments") :
    Names (withoutSegment doc id) key ref ↔ Names doc key ref := by
  rw [Names, Names, Mapping.idsIn_congr (get_withoutSegment apart)]

lemma lists_withoutSegment_of_ne (apart : key ≠ "customer_segments") :
    Lists (withoutSegment doc id) key field owner item ↔ Lists doc key field owner item := by
  simp only [Lists, Declares, entries_withoutSegment apart]

/-- The declarations of the other segments are still there. -/
lemma declares_withoutSegment :
    Declares (withoutSegment doc id) "customer_segments" x entry ↔
      x ≠ id ∧ Declares doc "customer_segments" x entry := by
  rw [declares_iff, declares_iff, asList_withoutSegment, List.mem_filter, bne_iff_ne]
  refine ⟨?_, ?_⟩
  · rintro ⟨⟨listed, kept⟩, named⟩
    refine ⟨?_, listed, named⟩
    rintro rfl
    exact kept named
  · rintro ⟨apart, listed, named⟩
    refine ⟨⟨listed, fun removed => apart ?_⟩, named⟩
    exact Option.some.inj (named.symm.trans removed)

lemma names_withoutSegment :
    Names (withoutSegment doc id) "customer_segments" ref ↔
      ref ≠ .str id ∧ Names doc "customer_segments" ref := by
  simp only [Names, mem_idsIn, declares_withoutSegment, Value.str?_eq_some]
  refine ⟨?_, ?_⟩
  · rintro ⟨x, ⟨entry, apart, declares⟩, rfl⟩
    refine ⟨fun same => apart ?_, x, ⟨entry, declares⟩, rfl⟩
    cases same
    rfl
  · rintro ⟨apart, x, ⟨entry, declares⟩, rfl⟩
    refine ⟨x, ⟨entry, ?_, declares⟩, rfl⟩
    rintro rfl
    exact apart rfl

lemma lists_withoutSegment :
    Lists (withoutSegment doc id) "customer_segments" field owner item ↔
      owner ≠ .str id ∧ Lists doc "customer_segments" field owner item := by
  simp only [Lists, declares_withoutSegment]
  refine ⟨?_, ?_⟩
  · rintro ⟨x, entry, rfl, ⟨apart, declares⟩, named⟩
    refine ⟨fun same => apart ?_, x, entry, rfl, declares, named⟩
    cases same
    rfl
  · rintro ⟨apart, x, entry, rfl, declares, named⟩
    refine ⟨x, entry, rfl, ⟨?_, declares⟩, named⟩
    rintro rfl
    exact apart rfl

lemma linked_withoutSegment_of_ne {refs : List Value} (apart : key ≠ "customer_segments") :
    Typed.linked (withoutSegment doc id) key refs = Typed.linked doc key refs := by
  simp only [Typed.linked, names_withoutSegment_of_ne apart]

lemma outOfScope_withoutSegment_of_ne (apart : key ≠ "customer_segments") :
    Typed.OutOfScope (withoutSegment doc id) fit key field x ↔
      Typed.OutOfScope doc fit key field x := by
  simp only [Typed.OutOfScope, linked_withoutSegment_of_ne apart, lists_withoutSegment_of_ne apart]

/-- What named something else than the segment still does. -/
lemma resolves_withoutSegment :
    Resolves (withoutSegment doc id) referent ref ↔
      (referent = .entity .customerSegment → ref ≠ .str id) ∧ Resolves doc referent ref := by
  unfold Resolves
  split
  · simp only [names_withoutSegment, forall_const]
  · rw [names_withoutSegment_of_ne (by decide)]
    exact (and_iff_right nofun).symm
  · exact (and_iff_right (by simp_all)).symm
  · rw [names_withoutSegment_of_ne (by decide), names_withoutSegment_of_ne (by decide)]
    exact (and_iff_right nofun).symm

/-- The entries that declare another segment are the same, in the same order. -/
lemma declarations_withoutSegment (apart : other ≠ id) :
    declarations (withoutSegment doc id) "customer_segments" other =
      declarations doc "customer_segments" other := by
  rw [declarations, declarations, Mapping.map_snd_entries, Mapping.map_snd_entries,
    asList_withoutSegment, List.filterMap_filter, List.filter_filterMap, List.filter_filterMap]
  refine List.filterMap_congr fun v _ => ?_
  cases v with
  | map entry =>
    by_cases removed : Mapping.id? entry = some id
    · simp [Value.mapping?, Value.asMapping, Option.filter_some, removed, apart.symm]
    · simp [Value.mapping?, Value.asMapping, removed]
  | scalar | list | tuple | set => simp [Value.mapping?]

/-- Every other segment has the profile that it had. -/
lemma segment?_withoutSegment {g : Generation} (apart : ref ≠ .str id) :
    (Index.build (withoutSegment doc id) g).segment? ref = (Index.build doc g).segment? ref := by
  unfold Index.segment?
  split
  next other =>
    have different : other ≠ id := fun same => apart (congrArg Value.str same)
    show (Index.tabulate _ _ _ _).get? other = (Index.tabulate _ _ _ _).get? other
    rw [Index.get?_tabulate, Index.get?_tabulate, declarations_withoutSegment different]
  next => rfl

/-! ### A document without errors -/

section Clean

variable (clean : ∀ f, ¬Typed.RefError doc f)
include clean

/-- The segments that a fit links without the removed one are the others. -/
lemma linked_withoutSegment (place : (i, fit) ∈ Mapping.entries doc "fits") :
    Typed.linked (withoutSegment doc id) "customer_segments"
      (Mapping.relation fit "for" "customer_segments") = otherSegments fit id := by
  refine List.filter_congr fun ref member => ?_
  have named := Typed.resolves_of_clean clean .fitSegment place member
  rw [Bool.eq_iff_iff, decide_eq_true_iff, names_withoutSegment, bne_iff_ne, ne_eq, ne_eq,
    Value.str?_eq_some]
  exact and_iff_left named

/-- The kinds of a pair fit together. -/
lemma compatible_of_clean {l r : String} (place : (i, fit) ∈ Mapping.entries doc "fits")
    (position : (Mapping.get fit "mappings").asList[k]? = some mapping)
    (pair : Typed.IsPair mapping l r) : Typed.Compatible l r := by
  have noClash : ∀ kind wanted, ¬Typed.Clash l r kind wanted := by
    intro kind wanted clash
    exact clean _ (.mapping place position (.clash pair clash))
  refine ⟨noClash, ?_⟩
  by_contra noItem
  exact clean _ (.mapping place position (.notProfileItem pair noClash noItem))

/-- An item is out of scope without the segment if the fit refers to others and none of these lists
it. -/
lemma outOfScope_withoutSegment_iff (place : (i, fit) ∈ Mapping.entries doc "fits") :
    Typed.OutOfScope (withoutSegment doc id) fit "customer_segments" field x ↔
      otherSegments fit id ≠ [] ∧
        ∀ other ∈ otherSegments fit id, ¬Lists doc "customer_segments" field other (.str x) := by
  rw [Typed.OutOfScope, linked_withoutSegment clean place]
  refine and_congr_right fun _ => ⟨?_, ?_⟩
  · intro unlisted other member lists
    obtain ⟨member, apart⟩ := List.mem_filter.1 member
    refine unlisted other member (lists_withoutSegment.2 ⟨?_, lists⟩)
    rintro rfl
    simp [Value.str?] at apart
  · intro unlisted owner member lists
    obtain ⟨apart, lists⟩ := lists_withoutSegment.1 lists
    refine unlisted owner (List.mem_filter.2 ⟨member, bne_iff_ne.2 fun same => ?_⟩) lists
    exact apart (Value.str?_eq_some.1 same)

/-- A fit with an item that is out of scope without the segment refers to the segment. -/
lemma mem_segments_of_outOfScope {l r : String} {kind : EntityKind} {rule : Rule}
    (place : (i, fit) ∈ Mapping.entries doc "fits")
    (position : (Mapping.get fit "mappings").asList[k]? = some mapping)
    (pair : Typed.IsPair mapping l r) (compatible : Typed.Compatible l r)
    (known : EntityKind.ofId? r = some kind) (item : Typed.ProfileItem kind field rule)
    (outside : Typed.OutOfScope (withoutSegment doc id) fit "customer_segments" field r) :
    .str id ∈ Mapping.relation fit "for" "customer_segments" := by
  by_contra absent
  -- Without a reference to the segment the item was out of scope before.
  have others : otherSegments fit id = Mapping.relation fit "for" "customer_segments" := by
    refine List.filter_eq_self.2 fun ref member => bne_iff_ne.2 fun same => absent ?_
    rwa [← Value.str?_eq_some.1 same]
  have linked : Typed.linked doc "customer_segments"
      (Mapping.relation fit "for" "customer_segments") =
        Mapping.relation fit "for" "customer_segments" := by
    refine List.filter_eq_self.2 fun ref member => decide_eq_true ?_
    exact Typed.resolves_of_clean clean .fitSegment place member
  obtain ⟨nonempty, unlisted⟩ := (outOfScope_withoutSegment_iff clean place).1 outside
  rw [others] at nonempty unlisted
  refine clean _ (.mapping place position (.right pair compatible known item ⟨?_, unlisted⟩))
  rwa [linked]

/-- A fit refers to declared segments only. -/
lemma exists_other (place : (i, fit) ∈ Mapping.entries doc "fits")
    (others : otherSegments fit id ≠ []) :
    ∃ other ∈ otherSegments fit id, Names doc "customer_segments" other := by
  obtain ⟨other, member⟩ := List.exists_mem_of_ne_nil _ others
  have refers := List.mem_of_mem_filter member
  exact ⟨other, member, Typed.resolves_of_clean clean .fitSegment place refers⟩

/-- The errors of a document that has lost a segment are what the segment leaves behind. -/
lemma refError_withoutSegment_iff :
    Typed.RefError (withoutSegment doc id) f ↔ Dangling doc id f := by
  refine ⟨?_, ?_⟩
  · intro error
    cases error with
    | @unresolved key relation target referent rule i entry j ref refers place position
        unresolved =>
      rw [entries_withoutSegment refers.key_ne] at place
      have resolves := Typed.resolves_of_clean clean refers place (List.mem_of_getElem? position)
      rw [resolves_withoutSegment, and_iff_left resolves] at unresolved
      obtain ⟨rfl, isSegment⟩ := Classical.not_imp.1 unresolved
      obtain rfl := not_ne_iff.1 isSegment
      obtain rfl := refers.target_eq
      exact .reference refers place position
    | @mapping i fit k mapping _ place position error =>
      rw [entries_withoutSegment (by decide)] at place
      cases error with
      | malformed noPair => exact absurd (.mapping place position (.malformed noPair)) (clean _)
      | clash pair clash => exact absurd (.mapping place position (.clash pair clash)) (clean _)
      | notProfileItem pair noClash noItem =>
        exact absurd (.mapping place position (.notProfileItem pair noClash noItem)) (clean _)
      | left pair compatible known item outside =>
        rw [outOfScope_withoutSegment_of_ne (by decide)] at outside
        exact absurd (.mapping place position (.left pair compatible known item outside)) (clean _)
      | right pair compatible known item outside =>
        rw [linked_withoutSegment clean place]
        have named := mem_segments_of_outOfScope clean place position pair compatible known item
          outside
        obtain ⟨others, unlisted⟩ := (outOfScope_withoutSegment_iff clean place).1 outside
        exact .item place named (exists_other clean place others) position pair known item unlisted
  · intro dangling
    cases dangling with
    | @reference key _ _ i entry _ refers place position =>
      have place : (i, entry) ∈ Mapping.entries (withoutSegment doc id) key := by
        rwa [entries_withoutSegment refers.key_ne]
      refine .unresolved refers place position fun resolves => ?_
      exact (resolves_withoutSegment.1 resolves).1 rfl rfl
    | @item i fit k mapping l r kind field rule place named others position pair known item
        unlisted =>
      have compatible := compatible_of_clean clean place position pair
      obtain ⟨other, member, -⟩ := others
      have outside := (outOfScope_withoutSegment_iff clean place).2
        ⟨List.ne_nil_of_mem member, unlisted⟩
      have entry : (i, fit) ∈ Mapping.entries (withoutSegment doc id) "fits" := by
        rwa [entries_withoutSegment (by decide)]
      rw [← linked_withoutSegment clean place]
      exact .mapping entry position (.right pair compatible known item outside)

/-- What a removed segment leaves behind can be written. -/
lemma Dangling.isWritable (dangling : Dangling doc id f) : f.isWritable = true := by
  cases dangling with
  | reference => rfl
  | item place =>
    rw [← linked_withoutSegment clean place]
    exact Typed.isWritable_notInAny

end Clean

/-- A document without errors that loses a segment has the errors that the segment leaves behind,
each once and no others, and every other segment has the profile that it had. -/
theorem errors_withoutSegment (id : String)
    (passes : (run (.map doc) (some .v2)).map Report.passed = .ok true) :
    (∃ r, run (.map (withoutSegment doc id)) (some .v2) = .ok r ∧
      (r.errors.map Issue.path).Nodup ∧
      ∀ issue, issue ∈ r.errors ↔ ∃ f, Dangling doc id f ∧ f.issue = issue) ∧
    ∀ ref, ref ≠ .str id →
      (Index.build (withoutSegment doc id) .v2).segment? ref =
        (Index.build doc .v2).segment? ref := by
  have clean : ∀ f, ¬Typed.RefError doc f := map_passed_run.1 passes
  refine ⟨?_, fun ref apart => segment?_withoutSegment apart⟩
  obtain ⟨-, ran⟩ | ⟨⟨f, error, unwritable⟩, -⟩ := run_cases (.map (withoutSegment doc id)) .v2
  · refine ⟨_, ran, nodup_path_errors, fun issue => mem_errors.trans ?_⟩
    exact exists_congr fun f => and_congr_left fun _ => refError_withoutSegment_iff clean
  · have dangling := (refError_withoutSegment_iff clean).1 error
    cases unwritable.symm.trans (dangling.isWritable clean)

/-- A segment with a pain. -/
def painedSegment (id pain : String) : Value := .map [
  (.str "id", .str id),
  (.str "pains", .list [.map [(.str "id", .str pain)]])]

/-- A fit that refers to two segments and maps to a pain of the first one. -/
def sharedFit : Mapping := [
  (.str "for", .map [(.str "customer_segments", .list [.str "cs-a", .str "cs-b"])]),
  (.str "mappings", .list [.list [.str "ps-a", .str "pain-a"]])]

/-- A document with the fit and its segments. -/
def sharedModel : Mapping := [
  (.str "customer_segments",
    .list [painedSegment "cs-a" "pain-a", painedSegment "cs-b" "pain-b"]),
  (.str "fits", .list [.map sharedFit])]

/-- The removal leaves a fit behind that still has a scope, without the pain. -/
lemma dangling_sharedModel :
    Dangling sharedModel "cs-a" ⟨.fitPainRef, mappingPlace 0 0 ++ [.index 1],
      .notInAny (.entity .pain) "pain-a" .customerSegment (otherSegments sharedFit "cs-a")⟩ := by
  have place : (0, sharedFit) ∈ Mapping.entries sharedModel "fits" := List.mem_singleton.2 rfl
  have other : .str "cs-b" ∈ otherSegments sharedFit "cs-a" := List.mem_singleton.2 rfl
  have known : EntityKind.ofId? "pain-a" = some .pain := by decide +kernel
  refine .item place List.mem_cons_self ⟨_, other, by decide⟩ rfl .list known .pain ?_
  intro owner member
  obtain rfl := List.mem_singleton.1 member
  rw [lists_str]
  simp only [← mem_declarations]
  decide

/-- The pain of the segment is missing from the other one. -/
theorem errors_withoutSegment_sharedModel :
    (run (.map sharedModel) (some .v2)).map Report.passed = .ok true ∧
      ∃ r, run (.map (withoutSegment sharedModel "cs-a")) (some .v2) = .ok r ∧
        ∃ issue ∈ r.errors, issue.rule = "fit-pain-ref" ∧ issue.path = "/fits/0/mappings/0/1" := by
  have passes : (run (.map sharedModel) (some .v2)).map Report.passed = .ok true := by
    decide +kernel
  obtain ⟨⟨r, ran, -, errors⟩, -⟩ := errors_withoutSegment "cs-a" passes
  exact ⟨passes, r, ran, _, (errors _).2 ⟨_, dangling_sharedModel, rfl⟩, rfl, by decide +kernel⟩

end BusinessModel.Lint
