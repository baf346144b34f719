import BusinessModel.Proofs.Detection
import BusinessModel.Proofs.Graph.Equations
import BusinessModel.Proofs.Lint.Lossless

/-!
# Coverage and the connection graph

The linter warns about entities without fits by what fits name; the graph follows fits through its
layers.  In a valid document the two agree: fits have identifiers, references are texts, and no two
sections share an identifier, so that what a fit names can be read from the rows of the graph.

* `Graph.Agrees` — the warnings of a report agree with a graph
* `Graph.mem_used_segments_iff`, `Graph.isOrphaned_proposition_iff` — what fits say is in the rows
* `Graph.coverage_agrees` — the report and the graph of a valid document
-/

namespace BusinessModel.Graph

open Grammar
open Lint (Report)

/-- The warnings of a report about entities without fits agree with a graph: a segment is warned
about if and only if no fit serves it, a value proposition only if it serves no segment.  Value
propositions serve none if and only if all fits that name them name none, and segments serve
themselves. -/
structure Agrees (doc : Mapping) (r : Report) (g : Graph) : Prop where
  segment : ∀ i entry c, (i, entry) ∈ Mapping.entries doc "customer_segments" →
    Mapping.id? entry = some c →
    (r.WarnsAt .segmentNoFits [.key "customer_segments", .index i] ↔
      ∀ f ∈ Mapping.idsIn doc "fits", c ∉ g.reached f)
  proposition : ∀ issue ∈ r.warnings, issue.rule = Lint.Rule.vpNoFits.id →
    ∃ i entry v, (i, entry) ∈ Mapping.entries doc "value_propositions" ∧
      Mapping.id? entry = some v ∧
      issue.path = Pointer.text [.key "value_propositions", .index i] ∧ g.isOrphaned v = true
  orphaned : ∀ v ∈ Mapping.idsIn doc "value_propositions",
    (g.isOrphaned v = true ↔ ∀ i fit, (i, fit) ∈ Mapping.entries doc "fits" →
      .str v ∈ Mapping.relation fit "for" "value_propositions" →
      Mapping.relation fit "for" "customer_segments" = [])
  declared : ∀ c ∈ Mapping.idsIn doc "customer_segments", g.isOrphaned c = false

variable {doc fit : Mapping} {value : Value} {g : Graph} {id c v : String} {i : Nat} {ref : Value}

lemma isOrphaned_iff : g.isOrphaned id = true ↔ ∀ s, s ∉ g.reached id := by
  rw [isOrphaned, List.isEmpty_iff, List.eq_nil_iff_forall_not_mem]

/-- The fits that name a segment are those whose rows hold it. -/
lemma mem_used_segments_iff (h : Conforms (documentFields .v2) value.asMapping) :
    c ∈ (Lint.coverageOf value.asMapping .v2).used .customerSegment ↔
      ∃ f ∈ Mapping.idsIn value.asMapping "fits", c ∈ (build value).reached f := by
  refine Lint.Typed.mem_named.trans ⟨?_, ?_⟩
  · rintro ⟨i, fit, place, named⟩
    have listed : ("fits", .fit) ∈ sectionKinds := by simp [sectionKinds]
    obtain ⟨f, declares⟩ := exists_declares h listed place
    have spelled := ofId?_of_declares h listed declares
    exact ⟨f, mem_idsIn.2 ⟨fit, declares⟩, (mem_reached_iff h spelled).2 ⟨fit, declares, named⟩⟩
  · rintro ⟨f, declared, reached⟩
    obtain ⟨entry, declares⟩ := mem_idsIn.1 declared
    have spelled : EntityKind.ofId? f = some .fit :=
      ofId?_of_declares h (by simp [sectionKinds]) declares
    -- The row of the identifier holds what all fits with that identifier name.
    obtain ⟨fit, ⟨i, place, _⟩, named⟩ := (mem_reached_iff h spelled).1 reached
    exact ⟨i, fit, place, named⟩

/-- A value proposition is orphaned if the fits that name it name no segments. -/
lemma isOrphaned_proposition_iff (h : Conforms (documentFields .v2) value.asMapping)
    (declared : v ∈ Mapping.idsIn value.asMapping "value_propositions") :
    (build value).isOrphaned v = true ↔
      ∀ i fit, (i, fit) ∈ Mapping.entries value.asMapping "fits" →
        .str v ∈ Mapping.relation fit "for" "value_propositions" →
        Mapping.relation fit "for" "customer_segments" = [] := by
  obtain ⟨entry, declares⟩ := mem_idsIn.1 declared
  have spelled : EntityKind.ofId? v = some .valueProposition :=
    ofId?_of_declares h (by simp [sectionKinds]) declares
  rw [isOrphaned_iff]
  simp only [mem_reached_iff h spelled]
  refine ⟨?_, ?_⟩
  · intro none i fit place named
    refine List.eq_nil_iff_forall_not_mem.2 fun ref member => ?_
    have spells : IsId .customerSegment ref := isId_of_fit h (by simp [fitTargets]) place member
    obtain ⟨s, rfl, _⟩ := spells
    exact none s ⟨i, fit, place, named, member⟩
  · rintro empty s ⟨i, fit, place, named, reaches⟩
    rw [empty i fit place named] at reaches
    cases reaches

/-- A declared segment serves itself. -/
lemma isOrphaned_segment (h : Conforms (documentFields .v2) value.asMapping)
    (declared : c ∈ Mapping.idsIn value.asMapping "customer_segments") :
    (build value).isOrphaned c = false := by
  obtain ⟨entry, declares⟩ := mem_idsIn.1 declared
  have spelled : EntityKind.ofId? c = some .customerSegment :=
    ofId?_of_declares h (by simp [sectionKinds]) declares
  have itself : c ∈ (build value).reached c := (mem_reached_iff h spelled).2 ⟨declared, rfl⟩
  exact Bool.eq_false_iff.2 fun orphaned => isOrphaned_iff.1 orphaned c itself

/-- The report of a valid document and its graph agree on what has fits. -/
theorem coverage_agrees (value : Value) (accepted : Validation.Accepts value (some .v2)) :
    ∃ r, Lint.run value (some .v2) = .ok r ∧ Lint.run value none = .ok r ∧
      Agrees value.asMapping r (build value) := by
  have h : Conforms (documentFields .v2) value.asMapping := by
    obtain ⟨doc, rfl, conforms⟩ : IsDocument .v2 value := Validation.accepts_iff.1 accepted
    exact conforms
  have ran := Lint.run_of_accepts value .v2 accepted
  have detected : Lint.run value none = Lint.run value (some .v2) := by
    have stated := Generation.detect_eq_of_accepts accepted
    simp only [Lint.run, Lint.report, Lint.findingsOf, stated, Option.getD_none, Option.getD_some]
  refine ⟨_, ran, detected.trans ran, ?segment, ?proposition, ?orphaned, ?declared⟩
  case segment =>
    intro i entry c place named
    rw [Lint.warnsAt_iff .segment place named, mem_used_segments_iff h]
    simp only [not_exists, not_and]
  case proposition =>
    intro issue member warns
    obtain ⟨i, entry, v, place, named, here, outside⟩ :=
      Lint.exists_of_mem_warnings .proposition member warns
    refine ⟨i, entry, v, place, named, here, ?_⟩
    rw [isOrphaned_proposition_iff h (mem_idsIn.2 ⟨entry, i, place, named⟩)]
    intro j fit place' refers
    exact absurd (Lint.Typed.mem_named.2 ⟨j, fit, place', refers⟩) outside
  case orphaned => exact fun v => isOrphaned_proposition_iff h
  case declared => exact fun c => isOrphaned_segment h

/-- A stall whose fit for tea names no segments, with pies that no fit names. -/
def stall : Value :=
  .map [(.str "version", .str "2.0"),
    (.str "meta", .map [(.str "name", .str "Stall"), (.str "portfolio", .str "explore"),
      (.str "stage", .str "ideation")]),
    (.str "customer_segments", .list [
      .map [(.str "id", .str "cs-walkers"), (.str "name", .str "Walkers")],
      .map [(.str "id", .str "cs-offices"), (.str "name", .str "Offices")]]),
    (.str "value_propositions", .list [
      .map [(.str "id", .str "vp-tea"), (.str "name", .str "Tea")],
      .map [(.str "id", .str "vp-pie"), (.str "name", .str "Pie")],
      .map [(.str "id", .str "vp-soup"), (.str "name", .str "Soup")]]),
    (.str "fits", .list [fitEntry "fit-break" ["vp-tea"] [],
      fitEntry "fit-lunch" ["vp-soup"] ["cs-offices"]])]

theorem coverage_agrees_stall :
    Validation.Accepts stall (some .v2) ∧
      ∃ r, Lint.run stall (some .v2) = .ok r ∧ Lint.run stall none = .ok r ∧
        Agrees stall.asMapping r (build stall) := by
  have accepted : Validation.Accepts stall (some .v2) := Validation.accepts_iff_isValid.2 rfl
  exact ⟨accepted, coverage_agrees stall accepted⟩

end BusinessModel.Graph
