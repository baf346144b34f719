import BusinessModel.Lint.Report
import BusinessModel.Proofs.Index

/-!
# Resolved and unresolved references

What it takes for a reference to resolve is said here about the document alone, once for both
generations.  The findings about a list of references are then those references that do not resolve,
each at its own index.

* `Lint.Resolves` — a reference names what it should name
* `Lint.mem_unresolvedRefs` — the findings about a list of references
-/

namespace BusinessModel.Lint

variable {doc : Mapping} {g : Generation} {ref : Value} {f : Finding}

/-- A reference names an entity of the sections that it should point into. -/
def Resolves (doc : Mapping) : Referent → Value → Prop
  | .entity .customerSegment, ref => Names doc "customer_segments" ref
  | .entity .valueProposition, ref => Names doc "value_propositions" ref
  | .entity _, _ => False
  | .resourceOrActivity, ref => Names doc "key_resources" ref ∨ Names doc "key_activities" ref

lemma hasSegment_iff :
    (Index.build doc g).hasSegment ref = true ↔ Resolves doc (.entity .customerSegment) ref :=
  Index.hasSegment_build

lemma hasProposition_iff :
    (Index.build doc g).hasProposition ref = true ↔ Resolves doc (.entity .valueProposition) ref :=
  Index.hasProposition_build

lemma isResourceOrActivity_iff :
    (Index.build doc g).isResourceOrActivity ref = true ↔ Resolves doc .resourceOrActivity ref :=
  Index.isResourceOrActivity_build

/-- The findings about a list of references: one for every reference that is refused. -/
lemma mem_unresolvedRefs {refs : List Value} {resolves : Value → Bool} {rule : Rule}
    {place : Pointer} {referent : Referent} :
    f ∈ unresolvedRefs refs resolves rule place referent ↔
      ∃ j ref, refs[j]? = some ref ∧ resolves ref = false ∧
        f = ⟨rule, place ++ [.index j], .unresolved referent ref⟩ := by
  unfold unresolvedRefs
  rw [List.mem_filterMap]
  refine ⟨?_, ?_⟩
  · rintro ⟨⟨ref, j⟩, member, made⟩
    refine ⟨j, ref, List.mk_mem_zipIdx_iff_getElem?.1 member, ?_⟩
    cases h : resolves ref with
    | true => simp [h] at made
    | false =>
      simp only [h, Bool.false_eq_true, if_false, Option.some.injEq] at made
      exact ⟨rfl, made.symm⟩
  · rintro ⟨j, ref, place, refused, rfl⟩
    exact ⟨(ref, j), List.mk_mem_zipIdx_iff_getElem?.2 place, by simp [refused]⟩

end BusinessModel.Lint
