import BusinessModel.Index
import Mathlib.Data.List.Basic
import Mathlib.Tactic.Common

/-!
# What a document declares

The vocabulary in which documents are described without any table: the numbered entries of a
section, the entries that declare an identifier, the references that name a declared entity, and the
items that the declarations of an entity list.

* `Mapping.get_set`, `Mapping.get_set_of_ne` — reading a mapping with a key set
* `mem_entries` — entries are the mappings of a section at their own index
* `Declares`, `declarations` — the entries of a section with a given identifier
* `Names` — a reference is the text of a declared identifier
* `Lists` — an item is listed on some declaration of an owner
-/

namespace BusinessModel

variable {m doc entry : Mapping} {key field id x : String} {ref : Value}

lemma Value.mapping?_eq_some {v : Value} : v.mapping? = some entry ↔ v = .map entry := by
  cases v <;> simp [Value.mapping?]

lemma Value.str?_eq_some {v : Value} {s : String} : v.str? = some s ↔ v = .str s := by
  unfold Value.str?
  split
  next => simp
  next h =>
    refine ⟨?_, ?_⟩
    · intro impossible
      cases impossible
    · intro text
      exact absurd text (h s)

/-- A text is the same key as itself alone. -/
lemma Scalar.sameKey_str {k : Scalar} : k.sameKey (.str key) = true ↔ k = .str key := by
  cases k <;> simp [sameKey, toInt?]

namespace Mapping

variable {k : Scalar} {v : Value} {other : String}

lemma get?_cons : get? ((k, v) :: m) key = if k = .str key then some v else get? m key := by
  rw [get?, List.lookup_cons]
  by_cases same : k = .str key
  · rw [if_pos same, same, beq_self_eq_true]
  · rw [if_neg same, beq_false_of_ne fun found => same found.symm]
    rfl

lemma get?_set :
    get? (set m (.str key) v) other = if key = other then some v else get? m other := by
  induction m with
  | nil => simp [set, get?_cons]
  | cons entry m ih =>
    obtain ⟨k, w⟩ := entry
    unfold set
    split
    next same =>
      obtain rfl := Scalar.sameKey_str.1 same
      rw [get?_cons, get?_cons]
      by_cases asked : key = other <;> simp [asked]
    next different =>
      rw [Scalar.sameKey_str] at different
      rw [get?_cons, get?_cons, ih]
      by_cases found : k = .str other
      · have apart : key ≠ other := fun same => different (same ▸ found)
        rw [if_pos found, if_neg apart, if_pos found]
      · rw [if_neg found, if_neg found]

/-- What is set is read back. -/
lemma get_set : get (set m (.str key) v) key = v := by
  rw [get, get?_set, if_pos rfl, Option.getD_some]

lemma get_set_of_ne (h : key ≠ other) : get (set m (.str key) v) other = get m other := by
  rw [get, get?_set, if_neg h, get]

/-- Reading a mapping in which several keys were set one after another. -/
lemma get_foldl_set {keys : List String} {value : String → Value} :
    get (keys.foldl (fun m key => set m (.str key) (value key)) m) other =
      if other ∈ keys then value other else get m other := by
  induction keys generalizing m with
  | nil => simp
  | cons key rest ih =>
    rw [List.foldl_cons, ih]
    by_cases later : other ∈ rest
    · rw [if_pos later, if_pos (List.mem_cons_of_mem _ later)]
    · rw [if_neg later]
      by_cases now : other = key
      · rw [now, get_set, if_pos List.mem_cons_self]
      · rw [get_set_of_ne fun same => now same.symm, if_neg (by simp [now, later])]

/-- The entries of a section are read from its list alone. -/
lemma entries_congr (same : get m key = get doc key) : entries m key = entries doc key := by
  rw [entries, same, entries]

lemma idsIn_congr (same : get m key = get doc key) : idsIn m key = idsIn doc key := by
  rw [idsIn, entries_congr same, idsIn]

/-- The entries of a section without their numbers are the mappings of its list. -/
lemma map_snd_entries :
    (entries m key).map (·.2) = (get m key).asList.filterMap Value.mapping? := by
  have bare : ∀ item : Value × Nat,
      (item.1.mapping?.map fun entry => (item.2, entry)).map (·.2) = item.1.mapping? := by
    intro item
    rw [Option.map_map]
    exact Option.map_id'
  rw [entries, List.map_filterMap, funext bare]
  exact (List.filterMap_map (f := Prod.fst) (g := Value.mapping?)).symm.trans
    (by rw [List.zipIdx_map_fst])

end Mapping

/-- The texts among some values. -/
@[simp]
lemma Value.mem_texts {values : List Value} : x ∈ Value.texts values ↔ .str x ∈ values := by
  simp [Value.texts, Value.str?_eq_some]

/-- The entries of a section are its mappings, each with its own index. -/
lemma mem_entries {i : Nat} :
    (i, entry) ∈ Mapping.entries m key ↔ (Mapping.get m key).asList[i]? = some (.map entry) := by
  unfold Mapping.entries
  rw [List.mem_filterMap]
  refine ⟨?_, ?_⟩
  · rintro ⟨⟨v, j⟩, place, made⟩
    obtain ⟨entry', shape, same⟩ := Option.map_eq_some_iff.1 made
    cases same
    rw [← Value.mapping?_eq_some.1 shape]
    exact List.mk_mem_zipIdx_iff_getElem?.1 place
  · intro place
    exact ⟨(.map entry, i), List.mk_mem_zipIdx_iff_getElem?.2 place, rfl⟩

/-- An entry of a section declares an identifier. -/
def Declares (m : Mapping) (key id : String) (entry : Mapping) : Prop :=
  ∃ i, (i, entry) ∈ Mapping.entries m key ∧ Mapping.id? entry = some id

/-- The entries of a section that declare an identifier, in order. -/
def declarations (m : Mapping) (key id : String) : List Mapping :=
  ((Mapping.entries m key).map (·.2)).filter fun entry => Mapping.id? entry == some id

lemma mem_declarations : entry ∈ declarations m key id ↔ Declares m key id entry := by
  simp [declarations, Declares]

/-- The declarations of a section are its mappings with the identifier. -/
lemma declares_iff :
    Declares m key id entry ↔
      .map entry ∈ (Mapping.get m key).asList ∧ Mapping.id? entry = some id := by
  rw [List.mem_iff_getElem?]
  refine ⟨?_, ?_⟩
  · intro ⟨i, place, named⟩
    exact ⟨⟨i, mem_entries.1 place⟩, named⟩
  · intro ⟨⟨i, position⟩, named⟩
    exact ⟨i, mem_entries.2 position, named⟩

/-- The identifiers of a section are those that an entry declares. -/
lemma mem_idsIn : id ∈ Mapping.idsIn m key ↔ ∃ entry, Declares m key id entry := by
  simp only [Mapping.idsIn, List.mem_filterMap, Declares]
  refine ⟨?_, ?_⟩
  · rintro ⟨⟨i, entry⟩, place, named⟩
    exact ⟨entry, i, place, named⟩
  · rintro ⟨entry, i, place, named⟩
    exact ⟨(i, entry), place, named⟩

/-- A reference names an entity that a section declares. -/
def Names (m : Mapping) (key : String) (ref : Value) : Prop :=
  ∃ id ∈ Mapping.idsIn m key, ref.str? = some id

instance : Decidable (Names m key ref) :=
  inferInstanceAs (Decidable (∃ id ∈ Mapping.idsIn m key, ref.str? = some id))

@[simp]
lemma names_str : Names m key (.str id) ↔ id ∈ Mapping.idsIn m key := by
  simp [Names, Value.str?]

/-- Only texts name anything. -/
lemma Names.exists_str (names : Names m key ref) : ∃ id, ref = .str id := by
  obtain ⟨id, _, text⟩ := names
  exact ⟨id, Value.str?_eq_some.1 text⟩

/-- A value that is no text names nothing. -/
lemma not_names (h : ∀ id, ref = .str id → False) : ¬Names m key ref := by
  intro names
  obtain ⟨id, text⟩ := names.exists_str
  exact h id text

/-- Some declaration of the entity that `owner` names lists an item under `field`. -/
def Lists (doc : Mapping) (key field : String) (owner item : Value) : Prop :=
  ∃ id entry, owner = .str id ∧ Declares doc key id entry ∧ Names entry field item

lemma lists_str :
    Lists doc key field (.str id) (.str x) ↔
      ∃ entry, Declares doc key id entry ∧ x ∈ Mapping.idsIn entry field := by
  simp [Lists]

/-- Whoever lists an item is declared. -/
lemma Lists.names {owner item : Value} (lists : Lists doc key field owner item) :
    Names doc key owner := by
  obtain ⟨id, entry, rfl, declared, _⟩ := lists
  exact names_str.2 (mem_idsIn.2 ⟨entry, declared⟩)

/-- Only texts are listed. -/
lemma Lists.exists_str {owner item : Value} (lists : Lists doc key field owner item) :
    ∃ x, item = .str x := by
  obtain ⟨_, _, _, _, named⟩ := lists
  exact named.exists_str

end BusinessModel
