import BusinessModel.Proofs.Declared
import BusinessModel.Proofs.Pointer
import Std.Data.String.ToNat

/-!
# Following paths

The text of a pointer is a path: cut at its slashes it gives the names and positions that lead from
a document to one of its parts.  Steps whose names are words are written as they are and cannot be
taken for positions, so that a path through them leads to one place only.

* `Value.at?` — what a path leads to
* `Step.IsPlain`, `Pointer.IsPlain` — steps that are written as they are
* `Pointer.text_inj_of_plain` — their paths are told apart
* `Value.at?_text` — their paths lead where the steps do
-/

namespace BusinessModel

/-- What stands one step inside a value: a member of a mapping by its name, an item of a sequence by
its position. -/
def Value.part? : Value → String → Option Value
  | .map m, step => Mapping.get? m step
  | .list items, step | .tuple items, step => step.toNat?.bind fun i => items[i]?
  | _, _ => none

/-- The steps of a path. -/
def pathSteps (path : String) : List String :=
  ((path.toList.splitOn '/').drop 1).map String.ofList

/-- What a path leads to, if it leads anywhere. -/
def Value.at? (v : Value) (path : String) : Option Value :=
  (pathSteps path).foldlM Value.part? v

namespace Step

/-- A position, or a name of small letters and underscores. -/
def IsPlain : Step → Prop
  | .key name => name.toList ≠ [] ∧ ∀ c ∈ name.toList, c.isLower = true ∨ c = '_'
  | .index _ => True

instance (step : Step) : Decidable step.IsPlain :=
  match step with
  | .key name =>
    @instDecidableAnd _ _ (inferInstanceAs (Decidable (name.toList ≠ [])))
      (List.decidableBAll _ name.toList)
  | .index _ => inferInstanceAs (Decidable True)

variable {step other : Step} {i : Nat} {c : Char}

@[simp]
lemma isPlain_index : (Step.index i).IsPlain := trivial

lemma isDigit_of_mem_index (member : c ∈ (Step.index i).text.toList) : c.isDigit = true := by
  rw [text, Nat.toList_repr] at member
  exact Nat.isDigit_of_mem_toDigits (by decide) (by decide) member

/-- The characters of a plain step stand for themselves. -/
lemma IsPlain.escapeChar_eq (plain : step.IsPlain) (member : c ∈ step.text.toList) :
    Pointer.escapeChar c = [c] := by
  have other : c ≠ '~' ∧ c ≠ '/' := by
    cases step with
    | key name =>
      constructor
      all_goals
        rintro rfl
        exact absurd (plain.2 _ member) (by decide)
    | index i =>
      constructor
      all_goals
        rintro rfl
        exact absurd (isDigit_of_mem_index member) (by decide)
  rw [Pointer.escapeChar, if_neg other.1, if_neg other.2]

/-- A plain step is written as it is. -/
lemma IsPlain.escape_text (plain : step.IsPlain) : Pointer.escape step.text = step.text := by
  rw [Pointer.escape, List.flatMap_congr fun c member => plain.escapeChar_eq member,
    List.flatMap_singleton', String.ofList_toList]

/-- A plain name is no position. -/
lemma IsPlain.text_ne_index {name : String} (plain : (Step.key name).IsPlain) :
    (Step.key name).text ≠ (Step.index i).text := by
  intro same
  obtain ⟨c, rest, shape⟩ := List.exists_cons_of_ne_nil plain.1
  have member : c ∈ name.toList := shape ▸ List.mem_cons_self
  have digit : c.isDigit = true := isDigit_of_mem_index (i := i) (by rwa [← same])
  obtain lower | rfl := plain.2 c member
  · have low : 97 ≤ c.val.toNat :=
      UInt32.le_iff_toNat_le.1 (of_decide_eq_true (Bool.and_eq_true_iff.1 lower).1)
    have high : c.val.toNat ≤ 57 :=
      UInt32.le_iff_toNat_le.1 (of_decide_eq_true (Bool.and_eq_true_iff.1 digit).2)
    omega
  · exact absurd digit (by decide)

/-- Plain steps are told apart by their texts. -/
lemma IsPlain.text_inj (plain : step.IsPlain) (plain' : other.IsPlain)
    (same : step.text = other.text) : step = other := by
  cases step with
  | key name =>
    cases other with
    | key name' => exact congrArg Step.key same
    | index j => exact absurd same plain.text_ne_index
  | index i =>
    cases other with
    | key name' => exact absurd same.symm plain'.text_ne_index
    | index j => exact congrArg Step.index (index_text_inj same)

end Step

namespace Pointer

/-- All steps are plain. -/
def IsPlain (p : Pointer) : Prop := ∀ step ∈ p, step.IsPlain

variable {step : Step} {p q : Pointer}

@[simp]
lemma isPlain_nil : IsPlain [] := List.forall_mem_nil _

@[simp]
lemma isPlain_cons : IsPlain (step :: p) ↔ step.IsPlain ∧ IsPlain p := List.forall_mem_cons

/-- Plain pointers are told apart by the texts of their steps. -/
lemma IsPlain.map_text_inj (plain : p.IsPlain) (plain' : q.IsPlain)
    (same : p.map Step.text = q.map Step.text) : p = q := by
  induction p generalizing q with
  | nil => exact (List.map_eq_nil_iff.1 same.symm).symm
  | cons step p ih =>
    cases q with
    | nil => cases same
    | cons other q =>
      obtain ⟨head, tail⟩ := List.cons.inj same
      obtain ⟨first, rest⟩ := List.forall_mem_cons.1 plain
      obtain ⟨first', rest'⟩ := List.forall_mem_cons.1 plain'
      rw [first.text_inj first' head, ih rest rest' tail]

/-- Plain pointers are told apart by their paths. -/
lemma text_inj_of_plain (h : p ≠ []) (h' : q ≠ []) (plain : p.IsPlain) (plain' : q.IsPlain) :
    p.text = q.text ↔ p = q := by
  rw [text_inj h h']
  exact ⟨plain.map_text_inj plain', fun same => by rw [same]⟩

/-- The steps of the path of a plain pointer are those of the pointer. -/
lemma pathSteps_text (h : p ≠ []) (plain : p.IsPlain) : pathSteps p.text = p.map Step.text := by
  have cut : p.text.toList.splitOn '/' = [] :: (p.map Step.text).map fun s => (escape s).toList :=
    splitOn_ofTexts (by simpa using h)
  rw [pathSteps, cut, List.drop_one, List.tail_cons, List.map_map, List.map_map]
  refine List.map_congr_left fun step member => ?_
  rw [Function.comp_apply, Function.comp_apply, (plain step member).escape_text,
    String.ofList_toList]

end Pointer

/-- What the steps of a pointer lead to. -/
def Value.follow (v : Value) (p : Pointer) : Option Value :=
  (p.map Step.text).foldlM Value.part? v

namespace Value

variable {m entry : Mapping} {v x : Value} {p q : Pointer} {key field relation target : String}
  {i j : Nat} {items : List Value}

/-- The path of a plain pointer leads where its steps do. -/
lemma at?_text (h : p ≠ []) (plain : p.IsPlain) : v.at? p.text = v.follow p := by
  rw [at?, Pointer.pathSteps_text h plain, follow]

@[simp]
lemma follow_nil : v.follow [] = some v := rfl

lemma follow_cons {step : Step} :
    v.follow (step :: p) = (v.part? step.text).bind fun part => part.follow p := rfl

@[simp]
lemma follow_key : (Value.map m).follow (.key key :: p) =
    (Mapping.get? m key).bind fun v => v.follow p := rfl

@[simp]
lemma follow_index_list : (Value.list items).follow (.index i :: p) =
    items[i]?.bind fun v => v.follow p := by
  rw [follow_cons, part?, Step.text, Nat.toNat?_repr, Option.bind_some]

@[simp]
lemma follow_index_tuple : (Value.tuple items).follow (.index i :: p) =
    items[i]?.bind fun v => v.follow p := by
  rw [follow_cons, part?, Step.text, Nat.toNat?_repr, Option.bind_some]

/-- A field whose list has an item is there. -/
lemma get?_of_getElem?_asList (position : (Mapping.get m field).asList[j]? = some x) :
    ∃ items, Mapping.get? m field = some (.list items) ∧ items[j]? = some x := by
  unfold Mapping.get at position
  cases found : Mapping.get? m field with
  | none => simp [found, asList] at position
  | some v =>
    rw [found, Option.getD_some] at position
    cases v with
    | list items => exact ⟨items, rfl, position⟩
    | scalar | tuple | set | map => simp [asList] at position

/-- A field that holds a mapping is there. -/
lemma get?_of_asMapping_ne_nil (h : (Mapping.get m key).asMapping ≠ []) :
    Mapping.get? m key = some (.map (Mapping.get m key).asMapping) := by
  unfold Mapping.get at *
  cases found : Mapping.get? m key with
  | none => simp [found, asMapping] at h
  | some v =>
    rw [found, Option.getD_some] at h
    cases v with
    | map members => rfl
    | scalar | list | tuple | set => simp [asMapping] at h

/-- An item of a list is reached by the field of the list and its position. -/
lemma follow_asList (position : (Mapping.get m field).asList[j]? = some x) :
    (Value.map m).follow (.key field :: .index j :: p) = x.follow p := by
  obtain ⟨items, found, position⟩ := get?_of_getElem?_asList position
  simp only [follow_key, found, Option.bind_some, follow_index_list, position]

/-- An entry of a section is reached by the key of the section and its position. -/
lemma follow_entry (place : (i, entry) ∈ Mapping.entries m key) :
    (Value.map m).follow (.key key :: .index i :: p) = (Value.map entry).follow p :=
  follow_asList (mem_entries.1 place)

/-- An item that a mapping within a mapping lists is reached through both. -/
lemma follow_member
    (position : (Mapping.get (Mapping.get m key).asMapping field).asList[j]? = some x) :
    (Value.map m).follow (.key key :: .key field :: .index j :: p) = x.follow p := by
  have inner : Mapping.get? m key = some (.map (Mapping.get m key).asMapping) := by
    apply get?_of_asMapping_ne_nil
    intro empty
    rw [empty] at position
    cases position
  rw [follow_key, inner, Option.bind_some, follow_asList position]

/-- A reference under a relation is reached by the relation, the target and its position. -/
lemma follow_relation (position : (Mapping.relation m relation target)[j]? = some x) :
    (Value.map m).follow [.key relation, .key target, .index j] = some x :=
  follow_member position

/-- Pointers are followed one part after the other. -/
lemma follow_append (h : v.follow p = some x) : v.follow (p ++ q) = x.follow q := by
  unfold follow at *
  rw [List.map_append, List.foldlM_append, h]
  rfl

end Value

end BusinessModel
