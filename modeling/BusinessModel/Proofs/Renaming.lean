import BusinessModel.EntityKind
import BusinessModel.Proofs.Table
import Mathlib.Logic.Equiv.Basic

/-!
# Renamed identifiers

Identifiers carry a meaning by their kind alone: what else their text says is up to the author of a
document.  A renaming gives identifiers other names of the same kind, and sets and tables of
identifiers are built the same way under other names.

* `Renaming` — other names for identifiers
* `IdSet.ofList_map`, `IdSet.addAll_map` — sets of renamed identifiers
* `Table.update_rename`, `Table.get?_rename` — tables of renamed identifiers
-/

namespace BusinessModel

/-- Other names for identifiers: distinct names stay distinct, and every name keeps its kind. -/
structure Renaming where
  apply : String → String
  injective : Function.Injective apply
  ofId?_apply : ∀ id, EntityKind.ofId? (apply id) = EntityKind.ofId? id

namespace Renaming

instance : CoeFun Renaming fun _ => String → String := ⟨apply⟩

/-- Every identifier keeps its name. -/
def refl : Renaming where
  apply := id
  injective := Function.injective_id
  ofId?_apply _ := rfl

/-- Two identifiers of the same kind exchange their names. -/
def exchange (a b : String) (kind : EntityKind.ofId? a = EntityKind.ofId? b) : Renaming where
  apply := Equiv.swap a b
  injective := (Equiv.swap a b).injective
  ofId?_apply id := by
    rw [Equiv.swap_apply_def]
    split
    next same => rw [same, kind]
    next =>
      split
      next same => rw [same, kind]
      next => rfl

variable (σ : Renaming) {x y : String} {ids : List String}

@[simp]
lemma ofId?_eq : EntityKind.ofId? (σ x) = EntityKind.ofId? x := σ.ofId?_apply x

@[simp]
lemma apply_inj : σ x = σ y ↔ x = y := σ.injective.eq_iff

/-- A set of renamed identifiers has another name of what the set had, and nothing else. -/
@[simp]
lemma contains_map : (ids.map σ).contains (σ x) = ids.contains x := by
  rw [Bool.eq_iff_iff, List.contains_iff_mem, List.contains_iff_mem]
  exact List.mem_map_of_injective σ.injective

end Renaming

namespace IdSet

variable (σ : Renaming) {s : IdSet} {id : String} {ids : List String}

lemma insert_map : IdSet.insert (s.map σ) (σ id) = (IdSet.insert s id).map σ := by
  unfold IdSet.insert
  rw [σ.contains_map]
  split
  next => rfl
  next => rw [List.map_append, List.map_singleton]

lemma addAll_map : IdSet.addAll (s.map σ) (ids.map σ) = (IdSet.addAll s ids).map σ := by
  induction ids generalizing s with
  | nil => rfl
  | cons id ids ih => rw [List.map_cons, addAll_cons, insert_map, ih, addAll_cons]

lemma ofList_map : IdSet.ofList (ids.map σ) = (IdSet.ofList ids).map σ :=
  addAll_map σ (s := [])

end IdSet

namespace Table

variable {α : Type} (σ : Renaming) (f : α → α) {t : Table α} {key : String}

/-- The table with every key renamed, and `f` applied to every value. -/
def rename (t : Table α) : Table α :=
  t.map fun row => (σ row.1, f row.2)

lemma get?_rename : (rename σ f t).get? (σ key) = (t.get? key).map f := by
  induction t with
  | nil => rfl
  | cons row rest ih =>
    obtain ⟨k, v⟩ := row
    have first : rename σ f ((k, v) :: rest) = (σ k, f v) :: rename σ f rest := rfl
    simp only [first, get?_cons, σ.apply_inj, ih]
    split <;> rfl

/-- A renamed table is updated like the table itself, when the changes to the values agree. -/
lemma update_rename (init : α) (change change' : α → α)
    (agree : ∀ v, change' (f v) = f (change v)) :
    (rename σ f t).update (σ key) (f init) change' = rename σ f (t.update key init change) := by
  induction t with
  | nil => exact congrArg (fun v => [(σ key, v)]) (agree init)
  | cons row rest ih =>
    obtain ⟨k, v⟩ := row
    have first : rename σ f ((k, v) :: rest) = (σ k, f v) :: rename σ f rest := rfl
    simp only [first, Table.update, σ.apply_inj, ih, agree]
    split <;> rfl

end Table

end BusinessModel
