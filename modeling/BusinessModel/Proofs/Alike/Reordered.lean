import BusinessModel.Proofs.Alike.Graph
import BusinessModel.Proofs.Alike.Report

/-!
# Reordered documents

A document says the same whatever order the members of its mappings stand in.  A reordered document
has the same lists, and at any depth the same members in its mappings, in any order.

* `Value.Reordered` — values that differ in the order of members only
* `Mapping.get?_perm` — text keys are found wherever they stand
* `likeness_reordered` — reordered documents are alike, without any renaming
-/

namespace BusinessModel

/-- The text keys of a mapping, in order. -/
def Mapping.textKeys (m : Mapping) : List String :=
  m.filterMap fun member => (Value.scalar member.1).str?

/-- Values that differ in the order of the members of mappings only, at any depth.  No text is twice
a key of one mapping. -/
inductive Value.Reordered : Value → Value → Prop where
  | scalar {s} : Reordered (.scalar s) (.scalar s)
  | list {xs ys} : List.Forall₂ Reordered xs ys → Reordered (.list xs) (.list ys)
  | tuple {xs ys} : List.Forall₂ Reordered xs ys → Reordered (.tuple xs) (.tuple ys)
  | set {ms} : Reordered (.set ms) (.set ms)
  | map {m m' n : Mapping} :
    (Mapping.textKeys m).Nodup →
    m'.map (·.1) = m.map (·.1) →
    List.Forall₂ Reordered (m.map (·.2)) (m'.map (·.2)) →
    m'.Perm n →
    Reordered (.map m) (.map n)

variable {m m' n : Mapping} {key : String} {v w : Value}

namespace Mapping

lemma mem_textKeys : key ∈ textKeys m ↔ ∃ v, (.str key, v) ∈ m := by
  simp only [textKeys, List.mem_filterMap, Value.str?_eq_some]
  refine ⟨?_, ?_⟩
  · rintro ⟨⟨k, v⟩, member, text⟩
    cases text
    exact ⟨v, member⟩
  · rintro ⟨v, member⟩
    exact ⟨_, member, rfl⟩

/-- What stands under a key is a member with that key. -/
lemma mem_of_get? (found : get? m key = some v) : (.str key, v) ∈ m := by
  induction m with
  | nil => cases found
  | cons member rest ih =>
    obtain ⟨k, w⟩ := member
    unfold get? at found ih
    rw [List.lookup_cons] at found
    split at found
    next same =>
      cases found
      rw [beq_iff_eq.1 same]
      exact List.mem_cons_self
    next => exact List.mem_cons_of_mem _ (ih found)

/-- With distinct text keys, what stands under a key is the one member with that key. -/
lemma get?_eq_some_iff (distinct : (textKeys m).Nodup) :
    get? m key = some v ↔ (.str key, v) ∈ m := by
  refine ⟨mem_of_get?, ?_⟩
  intro member
  induction m with
  | nil => cases member
  | cons first rest ih =>
    obtain ⟨k, w⟩ := first
    unfold get? at *
    rw [List.lookup_cons]
    by_cases same : Scalar.str key = k
    · subst same
      have fresh : key ∉ textKeys rest := (List.nodup_cons.1 distinct).1
      rcases List.mem_cons.1 member with first | later
      · cases first
        rw [beq_self_eq_true]
      · exact absurd (mem_textKeys.2 ⟨v, later⟩) fresh
    · have passed : (Scalar.str key == k) = false := beq_eq_false_iff_ne.2 same
      have later : (Scalar.str key, v) ∈ rest := by
        rcases List.mem_cons.1 member with first | later
        · cases first
          exact absurd rfl same
        · exact later
      have distinct : (textKeys rest).Nodup :=
        distinct.sublist ((List.sublist_cons_self _ _).filterMap _)
      rw [passed]
      exact ih distinct later

/-- Text keys are found wherever they stand. -/
lemma get?_perm (distinct : (textKeys m).Nodup) (perm : m.Perm n) : get? n key = get? m key := by
  have distinct' : (textKeys n).Nodup := (perm.filterMap _).nodup_iff.1 distinct
  ext v
  rw [get?_eq_some_iff distinct, get?_eq_some_iff distinct', perm.mem_iff]

/-- The text keys of a mapping are those of its keys that are texts. -/
lemma textKeys_congr (keys : m'.map (·.1) = m.map (·.1)) : textKeys m' = textKeys m := by
  have ofKeys : ∀ m : Mapping, textKeys m =
      (m.map (·.1)).filterMap fun key => (Value.scalar key).str? := by
    intro m
    rw [List.filterMap_map]
    rfl
  rw [ofKeys, ofKeys, keys]

/-- Mappings with the same keys in the same order have related values under each of them. -/
lemma rel_get? {R : Value → Value → Prop} (keys : m'.map (·.1) = m.map (·.1))
    (values : List.Forall₂ R (m.map (·.2)) (m'.map (·.2))) :
    Option.Rel R (get? m key) (get? m' key) := by
  induction m generalizing m' with
  | nil =>
    cases List.map_eq_nil_iff.1 keys
    exact .none
  | cons member rest ih =>
    cases m' with
    | nil => cases keys
    | cons member' rest' =>
      obtain ⟨k, v⟩ := member
      obtain ⟨k', v'⟩ := member'
      simp only [List.map_cons, List.cons.injEq, List.forall₂_cons] at keys values
      obtain ⟨rfl, keys⟩ := keys
      obtain ⟨first, values⟩ := values
      have later := ih keys values
      unfold get? at *
      rw [List.lookup_cons, List.lookup_cons]
      split
      next => exact .some first
      next => exact later

end Mapping

namespace Value

lemma areEntriesWritable_eq_all :
    areEntriesWritable m = m.all fun member => member.1.isWritable && member.2.isWritable := by
  induction m with
  | nil => rfl
  | cons member rest ih =>
    obtain ⟨k, v⟩ := member
    rw [areEntriesWritable, ih, List.all_cons]

mutual

/-- Reordered values can be written or not alike. -/
lemma Reordered.isWritable_eq : ∀ {v w : Value}, Reordered v w → w.isWritable = v.isWritable
  | .scalar _, _, .scalar => rfl
  | .list _, _, .list items => Reordered.areItemsWritable_eq items
  | .tuple _, _, .tuple items => Reordered.areItemsWritable_eq items
  | .set _, _, .set => rfl
  | .map m, _, .map distinct keys values perm => by
    have moved := perm.all_eq (f := fun member => member.1.isWritable && member.2.isWritable)
    rw [isWritable, isWritable, areEntriesWritable_eq_all, ← moved, ← areEntriesWritable_eq_all]
    exact Reordered.areEntriesWritable_eq keys values

lemma Reordered.areItemsWritable_eq : ∀ {xs ys : List Value}, List.Forall₂ Reordered xs ys →
    areItemsWritable ys = areItemsWritable xs
  | [], _, .nil => rfl
  | x :: xs, _, .cons first rest => by
    rw [areItemsWritable, areItemsWritable, first.isWritable_eq, areItemsWritable_eq rest]

lemma Reordered.areEntriesWritable_eq : ∀ {m m' : Mapping}, m'.map (·.1) = m.map (·.1) →
    List.Forall₂ Reordered (m.map (·.2)) (m'.map (·.2)) →
    areEntriesWritable m' = areEntriesWritable m
  | [], [], _, _ => rfl
  | [], _ :: _, keys, _ => by cases keys
  | _ :: _, [], keys, _ => by cases keys
  | (k, v) :: rest, (k', v') :: rest', keys, values => by
    simp only [List.map_cons, List.cons.injEq, List.forall₂_cons] at keys values
    obtain ⟨rfl, keys⟩ := keys
    obtain ⟨first, values⟩ := values
    rw [areEntriesWritable, areEntriesWritable, first.isWritable_eq,
      areEntriesWritable_eq keys values]

end

/-- What the members of a reordered mapping hold under a text key is related. -/
lemma Reordered.rel_get? (distinct : (Mapping.textKeys m).Nodup)
    (keys : m'.map (·.1) = m.map (·.1))
    (values : List.Forall₂ Reordered (m.map (·.2)) (m'.map (·.2))) (perm : m'.Perm n)
    (key : String) : Option.Rel Reordered (Mapping.get? m key) (Mapping.get? n key) := by
  rw [Mapping.get?_perm (Mapping.textKeys_congr keys ▸ distinct) perm]
  exact Mapping.rel_get? keys values

end Value

open Value (Reordered)

/-- Reordered values are alike, without any renaming. -/
lemma likeness_reordered : Likeness .refl Reordered where
  null := .scalar
  scalar {s _} h := by
    cases h
    cases s <;> rfl
  list h := by
    cases h with
    | list items => exact ⟨_, rfl, items⟩
  tuple h := by
    cases h with
    | tuple items => exact ⟨_, rfl, items⟩
  set h := by
    cases h
    exact ⟨_, rfl⟩
  map h := by
    cases h with
    | map distinct keys values perm => exact ⟨_, rfl, Reordered.rel_get? distinct keys values perm⟩
  writable h := h.isWritable_eq

lemma Value.Reordered.sections (h : Reordered v w) :
    SectionsAlike Reordered v.asMapping w.asMapping :=
  (likeness_reordered.alike_asMapping h).sections likeness_reordered

/-- Reordered values state the same generation. -/
lemma Value.Reordered.stated?_eq (h : Reordered v w) :
    Generation.stated? w = Generation.stated? v := by
  cases h <;> rfl

/-- Reordered values are lists, or mappings, together. -/
lemma Value.Reordered.shape_eq (h : Reordered v w) :
    w.isList = v.isList ∧ w.isMapping = v.isMapping := by
  cases h <;> exact ⟨rfl, rfl⟩

/-- Reordered documents are of the same generation. -/
lemma Value.Reordered.detect_eq (h : Reordered v w) :
    Generation.detect w = Generation.detect v := by
  have sections := h.sections
  have members := likeness_reordered.alike_asMapping h
  cases h with
  | map =>
    apply likeness_reordered.detect_eq sections
    · exact (likeness_reordered.rel_get members "version").stated?_eq
    · exact (likeness_reordered.rel_get members "costs").shape_eq.1
    · exact (likeness_reordered.rel_get members "cost_structure").shape_eq.2
  | _ => rfl

/-- Without any renaming a graph stays what it is. -/
lemma Graph.rename_refl (g : Graph) : Graph.rename .refl g = g := by
  have rows : ∀ row : String × IdSet,
      (Renaming.refl row.1, row.2.map Renaming.refl) = row :=
    fun row => congrArg (row.1, ·) (List.map_id row.2)
  exact (congrArg (List.map · g) (funext rows)).trans (List.map_id g)

end BusinessModel
