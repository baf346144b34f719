import BusinessModel.Table
import Mathlib.Data.List.Nodup
import Mathlib.Tactic.Common

/-!
# Identifier sets and tables by their views

Every operation on `IdSet` is described by the members of its result, every operation on `Table` by
what `Table.get?` finds afterwards and by the keys in their order.  The two views meet in
`Table.keys_update`: updating a table inserts into the set of its keys.

* `IdSet.mem_addAll`, `IdSet.nodup_ofList` — sets hold what was put in, each once
* `IdSet.ofList_eq_eraseDups` — in order of first appearance
* `Table.get?_update`, `Table.keys_update` — an update touches one key, and adds it at the end
-/

namespace BusinessModel

namespace IdSet

variable {s t : IdSet} {x id : String} {ids others : List String}

/-- Inserting adds one member. -/
@[simp]
lemma mem_insert : x ∈ IdSet.insert s id ↔ x ∈ s ∨ x = id := by
  unfold IdSet.insert
  split
  next h =>
    have member : id ∈ s := by simpa using h
    refine ⟨?_, ?_⟩
    · exact Or.inl
    · rintro (h | rfl)
      · exact h
      · exact member
  next => simp

/-- A set keeps its members apart when one is inserted. -/
lemma nodup_insert (nodup : s.Nodup) : (IdSet.insert s id).Nodup := by
  unfold IdSet.insert
  split
  next => exact nodup
  next h =>
    have fresh : id ∉ s := by simpa using h
    rw [← List.concat_eq_append]
    exact nodup.concat fresh

/-- Inserting looks at the first member, then at the others. -/
lemma insert_cons :
    IdSet.insert (x :: s) id = if id = x then x :: s else x :: IdSet.insert s id := by
  unfold IdSet.insert
  by_cases h : id = x
  · simp [h]
  · by_cases member : id ∈ s <;> simp [h, member]

@[simp]
lemma addAll_nil : IdSet.addAll s [] = s := rfl

@[simp]
lemma addAll_cons : IdSet.addAll s (id :: ids) = IdSet.addAll (IdSet.insert s id) ids := rfl

/-- Adding two lists is adding them one after the other. -/
lemma addAll_append (more : List String) :
    IdSet.addAll s (ids ++ more) = IdSet.addAll (IdSet.addAll s ids) more :=
  List.foldl_append

/-- The members of a set with more added. -/
@[simp]
lemma mem_addAll : x ∈ IdSet.addAll s ids ↔ x ∈ s ∨ x ∈ ids := by
  induction ids generalizing s with
  | nil => simp
  | cons id ids ih => rw [addAll_cons, ih, mem_insert, List.mem_cons, or_assoc]

/-- A set keeps its members apart when more are added. -/
lemma nodup_addAll (nodup : s.Nodup) : (IdSet.addAll s ids).Nodup := by
  induction ids generalizing s with
  | nil => exact nodup
  | cons id ids ih => exact ih (nodup_insert nodup)

/-- A fold whose every step adds the members that `adds` describes. -/
lemma mem_foldl {β : Type} {step : IdSet → β → IdSet} (adds : β → Prop)
    (h : ∀ s b, x ∈ step s b ↔ x ∈ s ∨ adds b) {bs : List β} :
    x ∈ bs.foldl step s ↔ x ∈ s ∨ ∃ b ∈ bs, adds b := by
  induction bs generalizing s with
  | nil => simp
  | cons b bs ih => rw [List.foldl_cons, ih, h, List.exists_mem_cons_iff, or_assoc]

/-- The set of some identifiers holds exactly these. -/
@[simp]
lemma mem_ofList : x ∈ IdSet.ofList ids ↔ x ∈ ids := by
  simp [IdSet.ofList]

/-- The set of some identifiers holds each once. -/
lemma nodup_ofList : (IdSet.ofList ids).Nodup :=
  nodup_addAll List.nodup_nil

/-- What is added stands behind what is there. -/
lemma prefix_addAll : s <+: IdSet.addAll s ids := by
  induction ids generalizing s with
  | nil => exact List.prefix_rfl
  | cons id ids ih =>
    have first : s <+: IdSet.insert s id := by
      unfold IdSet.insert
      split
      · exact List.prefix_rfl
      · exact List.prefix_append _ _
    exact first.trans ih

lemma mem_sorted : x ∈ IdSet.sorted s ↔ x ∈ s := List.mem_mergeSort

lemma isEmpty_sorted : (IdSet.sorted s).isEmpty = s.isEmpty :=
  (List.mergeSort_perm _ _).isEmpty_eq

/-- The members of a set are sorted strictly, as there are no two of a kind. -/
lemma pairwise_sorted (nodup : s.Nodup) : (IdSet.sorted s).Pairwise (· < ·) := by
  have weakly : (IdSet.sorted s).Pairwise fun a b => decide (a ≤ b) = true := by
    apply List.pairwise_mergeSort
    · intro a b c first second
      exact decide_eq_true (String.le_trans (of_decide_eq_true first) (of_decide_eq_true second))
    · intro a b
      simpa using String.le_total a b
  have distinct : (IdSet.sorted s).Nodup := (List.mergeSort_perm _ _).nodup_iff.2 nodup
  refine weakly.imp₂ (fun a b le ne => ?_) distinct
  rw [← String.not_le]
  exact fun ge => ne (String.le_antisymm (of_decide_eq_true le) ge)

/-- Adding a set with one more member is adding the set and then the member. -/
lemma addAll_insert : IdSet.addAll s (IdSet.insert t id) = IdSet.insert (IdSet.addAll s t) id := by
  by_cases member : id ∈ t
  · have already : id ∈ IdSet.addAll s t := mem_addAll.2 (.inr member)
    simp [IdSet.insert, member, already]
  · have new : IdSet.insert t id = t ++ [id] := by simp [IdSet.insert, member]
    rw [new, addAll_append, addAll_cons, addAll_nil]

/-- Adding a set is adding what it was made of. -/
lemma addAll_addAll :
    IdSet.addAll s (IdSet.addAll t ids) = IdSet.addAll (IdSet.addAll s t) ids := by
  induction ids generalizing t with
  | nil => rfl
  | cons id ids ih => rw [addAll_cons, ih, addAll_insert, addAll_cons]

/-- What is added to a set goes behind its first member, unless it is that member. -/
lemma addAll_cons_left :
    IdSet.addAll (x :: s) ids = x :: IdSet.addAll s (ids.filter (!· == x)) := by
  induction ids generalizing s with
  | nil => rfl
  | cons id ids ih =>
    rw [addAll_cons, insert_cons, List.filter_cons]
    by_cases same : id = x
    · simp [same, ih]
    · simp [same, ih]

/-- The set of some identifiers is their list without repetitions. -/
lemma ofList_eq_eraseDups (ids : List String) : IdSet.ofList ids = ids.eraseDups := by
  match ids with
  | [] => rfl
  | id :: rest =>
    rw [List.eraseDups_cons, ← ofList_eq_eraseDups (rest.filter (!· == id))]
    exact addAll_cons_left
termination_by ids.length
decreasing_by exact Nat.lt_succ_of_le (List.length_filter_le _ _)

/-- The order of first appearance does not change when repetitions are left out. -/
lemma ofList_append_ofList :
    IdSet.ofList (ids ++ IdSet.ofList others) = IdSet.ofList (ids ++ others) := by
  unfold IdSet.ofList
  rw [addAll_append, addAll_addAll, addAll_nil, addAll_append]

end IdSet

namespace Table

open IdSet (insert_cons)

variable {α : Type} {t : Table α} {key k : String} {init v : α} {f : α → α}

@[simp]
lemma get?_nil : Table.get? ([] : Table α) key = none := rfl

lemma get?_cons {rest : Table α} :
    Table.get? ((k, v) :: rest) key = if key = k then some v else Table.get? rest key := by
  unfold Table.get?
  rw [List.lookup_cons]
  by_cases h : key = k
  · simp [h]
  · have different : (key == k) = false := by simpa using h
    rw [different, if_neg h]

/-- An update touches the value of its key only. -/
lemma get?_update :
    (Table.update t k init f).get? key =
      if key = k then some (f ((t.get? k).getD init)) else t.get? key := by
  induction t with
  | nil => simp only [Table.update, get?_cons, get?_nil, Option.getD_none]
  | cons row rest ih =>
    obtain ⟨k', v⟩ := row
    unfold Table.update
    split
    next h =>
      subst h
      rw [get?_cons, get?_cons, get?_cons, if_pos rfl, Option.getD_some]
      split <;> rfl
    next h =>
      have other : ¬k = k' := fun e => h e.symm
      rw [get?_cons, ih, get?_cons, get?_cons, if_neg other]
      by_cases e : key = k'
      · have : ¬key = k := fun e' => h (e.symm.trans e')
        rw [if_pos e, if_neg this, if_pos e]
      · rw [if_neg e, if_neg e]

/-- An update keeps the order of the keys; a new key comes last. -/
lemma keys_update : (Table.update t k init f).keys = IdSet.insert t.keys k := by
  induction t with
  | nil => rfl
  | cons row rest ih =>
    obtain ⟨k', v⟩ := row
    unfold Table.update
    split
    next h =>
      subst h
      exact (insert_cons.trans (if_pos rfl)).symm
    next h =>
      have other : ¬k = k' := fun e => h e.symm
      calc
        k' :: (Table.update rest k init f).keys
          = k' :: IdSet.insert (Table.keys rest) k := by rw [ih]
        _ = IdSet.insert (k' :: Table.keys rest) k := by rw [insert_cons, if_neg other]

/-- A table finds a value exactly for its keys. -/
lemma isSome_get? : (t.get? key).isSome ↔ key ∈ t.keys := by
  induction t with
  | nil => simp [Table.keys]
  | cons row rest ih =>
    obtain ⟨k, v⟩ := row
    have keys : Table.keys ((k, v) :: rest) = k :: Table.keys rest := rfl
    rw [get?_cons, keys, List.mem_cons]
    by_cases h : key = k
    · simp [h]
    · simp [h, ih]

/-- With distinct keys, a row of a table is what the table finds for its key. -/
lemma mem_iff_get? (nodup : t.keys.Nodup) : (key, v) ∈ t ↔ t.get? key = some v := by
  induction t with
  | nil => simp
  | cons row rest ih =>
    obtain ⟨k, w⟩ := row
    obtain ⟨fresh, nodup⟩ := List.nodup_cons.1 nodup
    rw [List.mem_cons, get?_cons, ih nodup]
    by_cases h : key = k
    · subst h
      have absent : Table.get? rest key = none := by
        by_contra found
        exact fresh (isSome_get?.1 (Option.isSome_iff_ne_none.2 found))
      simp [absent, eq_comm]
    · simp [h]

end Table

end BusinessModel
