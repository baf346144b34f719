import BusinessModel.Proofs.Alike.Value
import BusinessModel.Proofs.Index

/-!
# The index of a document that is alike

The index of a document holds the identifiers that the document declares, and nothing else of it.
So a document that is alike has the same index under other names, and what its references resolve to
is the same under other names.

* `Likeness.build_eq` — the index of a document that is alike is the renamed one
* `Likeness.hasSegment_eq`, `Likeness.hasProposition_eq`, `Likeness.isResourceOrActivity_eq` —
  related references resolve together
* `Likeness.profilesIn_eq`, `Likeness.valueMapsIn_eq` — related references lead to the same items
-/

namespace BusinessModel

/-- The profile under other names. -/
def Profile.rename (σ : Renaming) (p : Profile) : Profile where
  jobs := p.jobs.map σ
  pains := p.pains.map σ
  gains := p.gains.map σ

/-- The value map under other names. -/
def ValueMap.rename (σ : Renaming) (m : ValueMap) : ValueMap where
  products := m.products.map σ
  relievers := m.relievers.map σ
  creators := m.creators.map σ

namespace Index

/-- The index under other names. -/
def rename (σ : Renaming) (index : Index) : Index where
  generation := index.generation
  segments := index.segments.rename σ (Profile.rename σ)
  propositions := index.propositions.rename σ (ValueMap.rename σ)
  resources := index.resources.map σ
  activities := index.activities.map σ

end Index

namespace Likeness

variable {σ : Renaming} {R : Value → Value → Prop} {v w : Value} {m n : Mapping}
  {vs ws : List Value} {index : Index}

section Build

variable {α : Type} {key : String} {declare : α → Mapping → α}

/-- The table of a section, when declarations that are alike are merged alike. -/
lemma tabulate_eq (like : Likeness σ R) (ren : α → α) (init : α)
    (items : List.Forall₂ R (Mapping.get m key).asList (Mapping.get n key).asList)
    (each : ∀ a {e f}, Alike R e f → declare (ren a) f = ren (declare a e)) :
    Index.tabulate n key (ren init) declare =
      (Index.tabulate m key init declare).rename σ ren := by
  apply foldl_eq_of_forall₂ (k := Table.rename σ ren) (s := []) (like.forall₂_entries items)
  intro t e f alike
  rw [like.id?_eq alike.2]
  cases Mapping.id? e.2 with
  | none => rfl
  | some id => exact Table.update_rename σ ren _ _ _ fun a => each a alike.2

/-- One more declaration of a profile. -/
lemma declare_profile_eq (like : Likeness σ R) (p : Profile) {e f : Mapping} (h : Alike R e f) :
    (p.rename σ).declare f = (p.declare e).rename σ := by
  have ids : ∀ field, Mapping.idsIn f field = (Mapping.idsIn e field).map σ :=
    fun field => like.idsIn_eq (like.forall₂_items h field)
  simp only [Profile.declare, Profile.rename, ids, IdSet.addAll_map]

/-- One more declaration of a value map. -/
lemma declare_valueMap_eq (like : Likeness σ R) (g : Generation) (p : ValueMap) {e f : Mapping}
    (h : Alike R e f) : (p.rename σ).declare g f = (p.declare g e).rename σ := by
  have ids : ∀ field, Mapping.idsIn f field = (Mapping.idsIn e field).map σ :=
    fun field => like.idsIn_eq (like.forall₂_items h field)
  cases g <;> simp only [ValueMap.declare, ValueMap.rename, ids, IdSet.addAll_map]

/-- The index of a document that is alike is the same under other names. -/
lemma build_eq (like : Likeness σ R) (h : SectionsAlike R m n) (g : Generation) :
    Index.build n g = (Index.build m g).rename σ := by
  have segments := like.tabulate_eq (Profile.rename σ) {}
    (h.items "customer_segments" (by simp [sectionKeys]))
    fun p _ _ alike => like.declare_profile_eq p alike
  have propositions := like.tabulate_eq (ValueMap.rename σ) {}
    (h.items "value_propositions" (by simp [sectionKeys]))
    fun p _ _ alike => like.declare_valueMap_eq g p alike
  have resources := like.idsIn_eq (h.items "key_resources" (by simp [sectionKeys]))
  have activities := like.idsIn_eq (h.items "key_activities" (by simp [sectionKeys]))
  unfold Index.build Index.rename
  congr 1
  · rw [resources, IdSet.ofList_map]
  · rw [activities, IdSet.ofList_map]

end Build

/-! ### What references resolve to -/

lemma segment?_eq (like : Likeness σ R) (h : R v w) :
    (index.rename σ).segment? w = (index.segment? v).map (Profile.rename σ) := by
  rw [Index.segment?_eq_bind, Index.segment?_eq_bind, like.str?_eq h]
  cases v.str? with
  | none => rfl
  | some id => exact Table.get?_rename σ (Profile.rename σ)

lemma valueMap?_eq (like : Likeness σ R) (h : R v w) :
    (index.rename σ).valueMap? w = (index.valueMap? v).map (ValueMap.rename σ) := by
  rw [Index.valueMap?_eq_bind, Index.valueMap?_eq_bind, like.str?_eq h]
  cases v.str? with
  | none => rfl
  | some id => exact Table.get?_rename σ (ValueMap.rename σ)

lemma hasSegment_eq (like : Likeness σ R) (h : R v w) :
    (index.rename σ).hasSegment w = index.hasSegment v := by
  unfold Index.hasSegment
  rw [like.segment?_eq h, Option.isSome_map]

lemma hasProposition_eq (like : Likeness σ R) (h : R v w) :
    (index.rename σ).hasProposition w = index.hasProposition v := by
  unfold Index.hasProposition
  rw [like.valueMap?_eq h, Option.isSome_map]

lemma isResourceOrActivity_eq (like : Likeness σ R) (h : R v w) :
    (index.rename σ).isResourceOrActivity w = index.isResourceOrActivity v := by
  rw [Index.isResourceOrActivity_eq_any, Index.isResourceOrActivity_eq_any, like.str?_eq h]
  cases v.str? with
  | none => rfl
  | some id => simp only [Option.map_some, Option.any_some, Index.rename, σ.contains_map]

lemma profilesIn_eq (like : Likeness σ R) (refs : List.Forall₂ R vs ws) {items : Profile → IdSet}
    (each : ∀ p : Profile, items (p.rename σ) = (items p).map σ) :
    (index.rename σ).profilesIn items ws = (index.profilesIn items vs).map σ := by
  apply foldl_eq_of_forall₂ (k := List.map σ) (s := []) refs
  intro found v w related
  rw [like.segment?_eq related]
  cases index.segment? v with
  | none => rfl
  | some profile => simp only [Option.map_some, each, IdSet.addAll_map]

lemma valueMapsIn_eq (like : Likeness σ R) (refs : List.Forall₂ R vs ws)
    {items : ValueMap → IdSet} (each : ∀ p : ValueMap, items (p.rename σ) = (items p).map σ) :
    (index.rename σ).valueMapsIn items ws = (index.valueMapsIn items vs).map σ := by
  apply foldl_eq_of_forall₂ (k := List.map σ) (s := []) refs
  intro found v w related
  rw [like.valueMap?_eq related]
  cases index.valueMap? v with
  | none => rfl
  | some valueMap => simp only [Option.map_some, each, IdSet.addAll_map]

end Likeness

end BusinessModel
