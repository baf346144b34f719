import BusinessModel.Proofs.Alike.Flat
import BusinessModel.Proofs.Alike.Typed

/-!
# Detection and reports of documents that are alike

Detection asks which keys a document has, and for the shape of its sections.  Reports of documents
that are alike differ in the wording of their messages only, and either both can be written or
neither can.

* `Likeness.detect_eq` — documents that are alike are of the same generation
* `Lint.Report.outline` — what a report says apart from its messages
* `Likeness.map_outline_run` — the reports of documents that are alike
-/

namespace BusinessModel

namespace Lint.Report

/-- What a report says apart from its messages: its generation and, issue by issue, the rule, the
severity and the path. -/
def outline (r : Report) : Generation × List (String × Severity × String) :=
  (r.generation, r.issues.map fun issue => (issue.rule, issue.severity, issue.path))

end Lint.Report

/-- Documents that are alike have findings that are, under the rules of either generation. -/
lemma Lint.findingsAlike_findings {σ : Renaming} {R : Value → Value → Prop} {m n : Mapping}
    (like : Likeness σ R) (h : SectionsAlike R m n) (g : Generation) :
    FindingsAlike R (findings m g) (findings n g) := by
  unfold findings
  rw [like.build_eq h g]
  cases g with
  | v1 => exact Flat.findingsAlike_findings like h
  | v2 => exact Typed.findingsAlike_findings like h

namespace Likeness

variable {σ : Renaming} {R : Value → Value → Prop} {v w : Value} {m n : Mapping}
  {g g' : Option Generation}

/-- Sections with related items give the same signal. -/
lemma sectionSignal_eq {row : String × List String} (like : Likeness σ R)
    (items : List.Forall₂ R (Mapping.get m row.1).asList (Mapping.get n row.1).asList) :
    Generation.sectionSignal n row = Generation.sectionSignal m row := by
  unfold Generation.sectionSignal
  generalize (Mapping.get m row.1).asList = xs at items
  generalize (Mapping.get n row.1).asList = ys at items
  cases items with
  | nil => rfl
  | @cons a b _ _ first _ =>
    cases a with
    | scalar s =>
      cases like.scalar first
      rfl
    | list xs =>
      obtain ⟨ys, rfl, _⟩ := like.list first
      rfl
    | tuple xs =>
      obtain ⟨ys, rfl, _⟩ := like.tuple first
      rfl
    | set ms =>
      obtain ⟨ns, rfl⟩ := like.set first
      rfl
    | map e =>
      obtain ⟨f, rfl, alike⟩ := like.map first
      have keys : Mapping.hasKey f = Mapping.hasKey e := funext (hasKey_eq alike)
      simp only [keys]

/-- The generation of a document is told by its version and the shapes of its sections. -/
lemma detect_eq (like : Likeness σ R) (h : SectionsAlike R m n)
    (version : Generation.stated? (Mapping.get n "version") =
      Generation.stated? (Mapping.get m "version"))
    (costs : (Mapping.get n "costs").isList = (Mapping.get m "costs").isList)
    (costStructure : (Mapping.get n "cost_structure").isMapping =
      (Mapping.get m "cost_structure").isMapping) :
    Generation.detect (.map n) = Generation.detect (.map m) := by
  have listed : ∀ row ∈ Generation.flatFields, row.1 ∈ sectionKeys := by decide
  have signals : ∀ rows : List (String × List String), (∀ row ∈ rows, row.1 ∈ sectionKeys) →
      rows.findSome? (Generation.sectionSignal n) =
        rows.findSome? (Generation.sectionSignal m) := by
    intro rows known
    induction rows with
    | nil => rfl
    | cons row rest ih =>
      rw [List.findSome?_cons, List.findSome?_cons,
        like.sectionSignal_eq (h.items row.1 (known row List.mem_cons_self)),
        ih fun row member => known row (List.mem_cons_of_mem _ member)]
  simp only [Generation.detect, Generation.ofShape?, version, costs, costStructure,
    signals _ listed]

/-- Reports of documents that are alike say the same apart from their messages, and can be written
or not alike. -/
lemma map_outline_run (like : Likeness σ R) (h : SectionsAlike R v.asMapping w.asMapping)
    (generation : g'.getD (Generation.detect w) = g.getD (Generation.detect v)) :
    (Lint.run w g').map Lint.Report.outline = (Lint.run v g).map Lint.Report.outline := by
  have found := Lint.findingsAlike_findings like h (g.getD (Generation.detect v))
  have writable : (Lint.findingsOf w g').all Lint.Finding.isWritable =
      (Lint.findingsOf v g).all Lint.Finding.isWritable := by
    unfold Lint.findingsOf
    rw [generation]
    generalize Lint.findings v.asMapping _ = fs at found
    generalize Lint.findings w.asMapping _ = gs at found
    induction found with
    | nil => rfl
    | cons first _ ih => rw [List.all_cons, List.all_cons, ih, first.isWritable_eq like]
  have outline : (Lint.report w g').outline = (Lint.report v g).outline := by
    unfold Lint.report Lint.Report.outline Lint.findingsOf
    rw [generation]
    refine congrArg (_, ·) ?_
    generalize Lint.findings v.asMapping _ = fs at found
    generalize Lint.findings w.asMapping _ = gs at found
    induction found with
    | nil => rfl
    | cons first _ ih =>
      simp only [List.map_cons] at ih ⊢
      rw [ih]
      simp only [Lint.Finding.issue, first.rule, first.place]
  unfold Lint.run
  rw [writable]
  split
  next => exact congrArg Except.ok outline
  next => rfl

end Likeness

end BusinessModel
