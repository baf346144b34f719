import BusinessModel.Index
import BusinessModel.Proofs.Renaming
import BusinessModel.Value.Writable
import Mathlib.Data.List.Forall2
import Mathlib.Tactic.Common

/-!
# Documents that are alike but for the names in them

Two documents may differ in the identifiers that they use, and in anything that no accessor sees.  A
likeness is a relation between values that the accessors keep: what they read from related values is
related again, with every text renamed.  Whatever reads documents through the accessors alone, and
looks at identifiers for being equal and for their kind only, treats related documents alike.

* `Likeness` — a relation between values under which a renaming relates all that accessors read
* `Alike`, `SectionsAlike` — mappings whose members, or whose sections, are related
* `Likeness.forall₂_entries`, `Likeness.idsIn_eq` — sections of documents that are alike
-/

namespace BusinessModel

/-- The scalar with another name, if it is a text. -/
def Scalar.rename (σ : Renaming) : Scalar → Scalar
  | .str s => .str (σ s)
  | s => s

/-- What a relation between values has to keep for the accessors to keep it.  Mappings that are
related may be told apart by their keys in no other way than by looking a text key up. -/
structure Likeness (σ : Renaming) (R : Value → Value → Prop) : Prop where
  null : R .null .null
  scalar {s w} : R (.scalar s) w → w = .scalar (s.rename σ)
  list {xs w} : R (.list xs) w → ∃ ys, w = .list ys ∧ List.Forall₂ R xs ys
  tuple {xs w} : R (.tuple xs) w → ∃ ys, w = .tuple ys ∧ List.Forall₂ R xs ys
  set {ms w} : R (.set ms) w → ∃ ns, w = .set ns
  map {m w} : R (.map m) w →
    ∃ n, w = .map n ∧ ∀ key, Option.Rel R (Mapping.get? m key) (Mapping.get? n key)
  writable {v w} : R v w → w.isWritable = v.isWritable

/-- Two mappings hold related values under every text key. -/
def Alike (R : Value → Value → Prop) (m n : Mapping) : Prop :=
  ∀ key, Option.Rel R (Mapping.get? m key) (Mapping.get? n key)

/-- Two entries have the same index and are alike. -/
def EntriesAlike (R : Value → Value → Prop) (e f : Nat × Mapping) : Prop :=
  e.1 = f.1 ∧ Alike R e.2 f.2

/-- The sections of a document, in both generations, that are lists of entities. -/
def sectionKeys : List String :=
  ["customer_segments", "value_propositions", "fits", "channels", "customer_relationships",
    "revenue_streams", "key_resources", "key_activities", "key_partnerships", "costs"]

/-- Two documents have related items in every section, and cost structures that are alike. -/
structure SectionsAlike (R : Value → Value → Prop) (m n : Mapping) : Prop where
  items : ∀ key ∈ sectionKeys,
    List.Forall₂ R (Mapping.get m key).asList (Mapping.get n key).asList
  costStructure : Alike R (Mapping.get m "cost_structure").asMapping
    (Mapping.get n "cost_structure").asMapping

section Relations

variable {α β γ δ : Type} {R : α → β → Prop} {S : γ → δ → Prop} {xs : List α} {ys : List β}

/-- Related values stay related when absent ones are read as some related ones. -/
lemma rel_getD {a : Option α} {b : Option β} {x : α} {y : β} (h : Option.Rel R a b) (base : R x y) :
    R (a.getD x) (b.getD y) := by
  cases h with
  | none => exact base
  | some related => exact related

lemma isSome_eq_of_rel {a : Option α} {b : Option β} (h : Option.Rel R a b) :
    b.isSome = a.isSome := by
  cases h <;> rfl

/-- Functions that keep a relation keep it for values that may be absent. -/
lemma rel_option_map {a : Option α} {b : Option β} {f : α → γ} {g : β → δ} (h : Option.Rel R a b)
    (each : ∀ x y, R x y → S (f x) (g y)) : Option.Rel S (a.map f) (b.map g) := by
  cases h with
  | none => exact .none
  | some related => exact .some (each _ _ related)

lemma isEmpty_eq_of_forall₂ (h : List.Forall₂ R xs ys) : ys.isEmpty = xs.isEmpty := by
  cases h <;> rfl

lemma forall₂_zipIdx (h : List.Forall₂ R xs ys) :
    List.Forall₂ (fun a b => R a.1 b.1 ∧ a.2 = b.2) xs.zipIdx ys.zipIdx := by
  -- The induction needs every first index.
  have shifted : ∀ k, List.Forall₂ (fun a b => R a.1 b.1 ∧ a.2 = b.2) (xs.zipIdx k)
      (ys.zipIdx k) := by
    induction h with
    | nil => exact fun _ => .nil
    | cons first _ ih => exact fun k => .cons ⟨first, rfl⟩ (ih (k + 1))
  exact shifted 0

/-- The items of a fixed table contribute related lists. -/
lemma forall₂_flatMap_of_mem {f : α → List γ} {g : α → List δ}
    (each : ∀ a ∈ xs, List.Forall₂ S (f a) (g a)) :
    List.Forall₂ S (xs.flatMap f) (xs.flatMap g) := by
  induction xs with
  | nil => exact .nil
  | cons x xs ih =>
    apply List.rel_append
    · exact each x List.mem_cons_self
    · exact ih fun a listed => each a (List.mem_cons_of_mem x listed)

/-- What related items are optionally mapped to is the image of the other. -/
lemma filterMap_eq_of_forall₂ {f : α → Option γ} {g : β → Option γ} {k : γ → γ}
    (h : List.Forall₂ R xs ys) (each : ∀ a b, R a b → g b = (f a).map k) :
    ys.filterMap g = (xs.filterMap f).map k := by
  induction h with
  | nil => rfl
  | @cons a b _ _ first _ ih =>
    rw [List.filterMap_cons, List.filterMap_cons, each _ _ first, ih]
    cases f a <;> rfl

/-- What related items contribute is the image of the other. -/
lemma flatMap_eq_of_forall₂ {f : α → List γ} {g : β → List γ} {k : γ → γ}
    (h : List.Forall₂ R xs ys) (each : ∀ a b, R a b → g b = (f a).map k) :
    ys.flatMap g = (xs.flatMap f).map k := by
  induction h with
  | nil => rfl
  | cons first _ ih =>
    rw [List.flatMap_cons, List.flatMap_cons, List.map_append, each _ _ first, ih]

/-- A fold whose steps agree on related items agrees on their lists. -/
lemma foldl_eq_of_forall₂ {step : γ → α → γ} {step' : γ → β → γ} {k : γ → γ} {s : γ}
    (h : List.Forall₂ R xs ys) (each : ∀ s a b, R a b → step' (k s) b = k (step s a)) :
    ys.foldl step' (k s) = k (xs.foldl step s) := by
  induction h generalizing s with
  | nil => rfl
  | cons first _ ih => rw [List.foldl_cons, List.foldl_cons, each _ _ _ first, ih]

end Relations

namespace Likeness

variable {σ : Renaming} {R : Value → Value → Prop} {v w : Value} {m n : Mapping}
  {vs ws : List Value}

/-- The text of a related value is renamed. -/
lemma str?_eq (like : Likeness σ R) (h : R v w) : w.str? = v.str?.map σ := by
  -- Related values are of one kind, and only texts are texts.
  cases v with
  | scalar s =>
    cases like.scalar h
    cases s <;> rfl
  | list xs =>
    obtain ⟨ys, rfl, _⟩ := like.list h
    rfl
  | tuple xs =>
    obtain ⟨ys, rfl, _⟩ := like.tuple h
    rfl
  | set ms =>
    obtain ⟨ns, rfl⟩ := like.set h
    rfl
  | map m =>
    obtain ⟨n, rfl, _⟩ := like.map h
    rfl

/-- Related values list related items. -/
lemma forall₂_asList (like : Likeness σ R) (h : R v w) : List.Forall₂ R v.asList w.asList := by
  cases v with
  | scalar s =>
    cases like.scalar h
    exact .nil
  | list xs =>
    obtain ⟨ys, rfl, items⟩ := like.list h
    exact items
  | tuple xs =>
    obtain ⟨ys, rfl, _⟩ := like.tuple h
    exact .nil
  | set ms =>
    obtain ⟨ns, rfl⟩ := like.set h
    exact .nil
  | map m =>
    obtain ⟨n, rfl, _⟩ := like.map h
    exact .nil

/-- Of two related values both are mappings, which are alike then, or neither is. -/
lemma rel_mapping? (like : Likeness σ R) (h : R v w) :
    Option.Rel (Alike R) v.mapping? w.mapping? := by
  cases v with
  | scalar s =>
    cases like.scalar h
    exact .none
  | list xs =>
    obtain ⟨ys, rfl, _⟩ := like.list h
    exact .none
  | tuple xs =>
    obtain ⟨ys, rfl, _⟩ := like.tuple h
    exact .none
  | set ms =>
    obtain ⟨ns, rfl⟩ := like.set h
    exact .none
  | map m =>
    obtain ⟨n, rfl, members⟩ := like.map h
    exact .some members

lemma asMapping_eq_getD : v.asMapping = v.mapping?.getD [] := by
  cases v <;> rfl

lemma alike_nil : Alike R [] [] := fun _ => .none

lemma alike_asMapping (like : Likeness σ R) (h : R v w) : Alike R v.asMapping w.asMapping := by
  rw [asMapping_eq_getD, asMapping_eq_getD]
  exact rel_getD (like.rel_mapping? h) alike_nil

lemma eq_null_iff (like : Likeness σ R) (h : R v w) : w = .null ↔ v = .null := by
  cases v with
  | scalar s =>
    cases like.scalar h
    cases s <;> simp [Scalar.rename]
  | list xs =>
    obtain ⟨ys, rfl, _⟩ := like.list h
    simp
  | tuple xs =>
    obtain ⟨ys, rfl, _⟩ := like.tuple h
    simp
  | set ms =>
    obtain ⟨ns, rfl⟩ := like.set h
    simp
  | map m =>
    obtain ⟨n, rfl, _⟩ := like.map h
    simp

lemma all_isWritable_eq (like : Likeness σ R) (h : List.Forall₂ R vs ws) :
    ws.all Value.isWritable = vs.all Value.isWritable := by
  induction h with
  | nil => rfl
  | cons first _ ih => rw [List.all_cons, List.all_cons, like.writable first, ih]

/-! ### Members of mappings that are alike -/

lemma rel_get (like : Likeness σ R) (h : Alike R m n) (key : String) :
    R (Mapping.get m key) (Mapping.get n key) :=
  rel_getD (h key) like.null

lemma hasKey_eq (h : Alike R m n) (key : String) : Mapping.hasKey n key = Mapping.hasKey m key :=
  isSome_eq_of_rel (h key)

lemma id?_eq (like : Likeness σ R) (h : Alike R m n) :
    Mapping.id? n = (Mapping.id? m).map σ :=
  like.str?_eq (like.rel_get h "id")

lemma forall₂_items (like : Likeness σ R) (h : Alike R m n) (key : String) :
    List.Forall₂ R (Mapping.get m key).asList (Mapping.get n key).asList :=
  like.forall₂_asList (like.rel_get h key)

lemma forall₂_relation (like : Likeness σ R) (h : Alike R m n) (relation target : String) :
    List.Forall₂ R (Mapping.relation m relation target) (Mapping.relation n relation target) :=
  like.forall₂_items (like.alike_asMapping (like.rel_get h relation)) target

lemma texts_eq (like : Likeness σ R) (h : List.Forall₂ R vs ws) :
    Value.texts ws = (Value.texts vs).map σ :=
  filterMap_eq_of_forall₂ h fun _ _ related => like.str?_eq related

/-! ### Sections with related items -/

variable {key : String}
  (items : List.Forall₂ R (Mapping.get m key).asList (Mapping.get n key).asList)

include items

/-- The entries of sections with related items are alike, index by index. -/
lemma forall₂_entries (like : Likeness σ R) :
    List.Forall₂ (EntriesAlike R) (Mapping.entries m key) (Mapping.entries n key) := by
  apply List.rel_filterMap ?_ (forall₂_zipIdx items)
  rintro ⟨a, i⟩ ⟨b, j⟩ ⟨related, index⟩
  -- Both are skipped, if they are no mappings, or both stand at this index.
  cases index
  exact rel_option_map (like.rel_mapping? related) fun _ _ alike => ⟨rfl, alike⟩

/-- The identifiers of sections with related items are renamed, in the same order. -/
lemma idsIn_eq (like : Likeness σ R) : Mapping.idsIn n key = (Mapping.idsIn m key).map σ :=
  filterMap_eq_of_forall₂ (like.forall₂_entries items) fun _ _ alike => like.id?_eq alike.2

end Likeness

/-- Documents whose mappings are alike have sections that are. -/
lemma Alike.sections {σ : Renaming} {R : Value → Value → Prop} {m n : Mapping}
    (like : Likeness σ R) (h : Alike R m n) : SectionsAlike R m n where
  items key _ := like.forall₂_items h key
  costStructure := like.alike_asMapping (like.rel_get h "cost_structure")

end BusinessModel
