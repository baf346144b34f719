import BusinessModel.Proofs.Declared
import BusinessModel.Proofs.Table

/-!
# The index against the declarations of a document

Building an index folds every section into a table.  What the table then finds for an identifier is
the fold of that identifier's declarations alone, so that looking something up in the index says
something about the document.

* `Index.get?_tabulate`, `Index.keys_tabulate` — what the table of a section finds and lists
* `Index.hasSegment_build`, `Index.hasProposition_build`, `Index.isResourceOrActivity_build` — a
  reference resolves if and only if it names a declared entity
* `Index.mem_items_segment?`, `Index.mem_profilesIn_build`, and the same for value maps — an item is
  found if and only if a declaration lists it
-/

namespace BusinessModel

namespace Index

section Tabulate

variable {α : Type} {doc : Mapping} {key field id x : String} {init : α}
  {declare : α → Mapping → α}

/-- The value of an identifier after one more of its declarations. -/
def declareOnto (init : α) (declare : α → Mapping → α) (found : Option α) (entry : Mapping) :
    Option α :=
  some (declare (found.getD init) entry)

/-- A fold whose steps touch the identifiers of their entries only. -/
lemma get?_foldl {step : Table α → Nat × Mapping → Table α}
    (h : ∀ t entry, (step t entry).get? id =
      if Mapping.id? entry.2 = some id then declareOnto init declare (t.get? id) entry.2
      else t.get? id)
    {entries : List (Nat × Mapping)} {t : Table α} :
    (entries.foldl step t).get? id =
      ((entries.map (·.2)).filter fun entry => Mapping.id? entry == some id).foldl
        (declareOnto init declare) (t.get? id) := by
  induction entries generalizing t with
  | nil => rfl
  | cons entry rest ih =>
    rw [List.foldl_cons, ih, h, List.map_cons]
    by_cases named : Mapping.id? entry.2 = some id <;> simp [named]

/-- What the table of a section finds for an identifier is made from its declarations, in order. -/
lemma get?_tabulate :
    (tabulate doc key init declare).get? id =
      (declarations doc key id).foldl (declareOnto init declare) none := by
  refine get?_foldl fun t entry => ?_
  cases named : Mapping.id? entry.2 with
  | none => simp
  | some other =>
    by_cases same : id = other
    · subst same
      simp [Table.get?_update, declareOnto]
    · have different : ¬other = id := fun e => same e.symm
      simp [Table.get?_update, same, different]

/-- The keys of a fold whose steps add the identifiers of their entries. -/
lemma keys_foldl {step : Table α → Nat × Mapping → Table α}
    (h : ∀ t entry, (step t entry).keys = IdSet.addAll t.keys (Mapping.id? entry.2).toList)
    {entries : List (Nat × Mapping)} {t : Table α} :
    (entries.foldl step t).keys =
      IdSet.addAll t.keys (entries.filterMap fun entry => Mapping.id? entry.2) := by
  induction entries generalizing t with
  | nil => rfl
  | cons entry rest ih =>
    rw [List.foldl_cons, ih, h, ← IdSet.addAll_append, List.filterMap_cons]
    cases Mapping.id? entry.2 <;> rfl

/-- The table of a section lists what the section declares, in the order of first declarations. -/
lemma keys_tabulate :
    (tabulate doc key init declare).keys = IdSet.ofList (Mapping.idsIn doc key) := by
  refine keys_foldl fun t entry => ?_
  cases Mapping.id? entry.2 with
  | none => rfl
  | some id => exact Table.keys_update

/-- Declarations make a value unless there are none. -/
lemma isSome_foldl_declareOnto {entries : List Mapping} {found : Option α} :
    (entries.foldl (declareOnto init declare) found).isSome ↔
      found.isSome ∨ ∃ entry, entry ∈ entries := by
  induction entries generalizing found with
  | nil => simp
  | cons entry rest ih =>
    rw [List.foldl_cons, ih]
    simp [declareOnto]

/-- The table of a section finds exactly the identifiers that the section declares. -/
lemma isSome_get?_tabulate :
    ((tabulate doc key init declare).get? id).isSome ↔ id ∈ Mapping.idsIn doc key := by
  rw [get?_tabulate, isSome_foldl_declareOnto, mem_idsIn]
  simp [mem_declarations]

/-- `items` gathers what declarations list under `field`. -/
structure Gathers (init : α) (declare : α → Mapping → α) (items : α → IdSet) (field : String) :
    Prop where
  empty : items init = []
  step : ∀ p entry, items (declare p entry) = (items p).addAll (Mapping.idsIn entry field)

/-- The items of a value that declarations have made are those that one of them lists. -/
lemma Gathers.mem_foldl {items : α → IdSet} (gathers : Gathers init declare items field)
    {entries : List Mapping} {found : Option α} :
    (∃ p ∈ entries.foldl (declareOnto init declare) found, x ∈ items p) ↔
      (∃ p ∈ found, x ∈ items p) ∨ ∃ entry ∈ entries, x ∈ Mapping.idsIn entry field := by
  induction entries generalizing found with
  | nil => simp
  | cons entry rest ih =>
    rw [List.foldl_cons, ih]
    cases found with
    | none => simp [declareOnto, gathers.step, gathers.empty]
    | some p => simp [declareOnto, gathers.step, or_assoc]

/-- The items that the table of a section holds for an identifier. -/
lemma Gathers.mem_tabulate {items : α → IdSet} (gathers : Gathers init declare items field) :
    (∃ p ∈ (tabulate doc key init declare).get? id, x ∈ items p) ↔
      ∃ entry, Declares doc key id entry ∧ x ∈ Mapping.idsIn entry field := by
  rw [get?_tabulate, gathers.mem_foldl]
  simp [mem_declarations]

end Tabulate

lemma gathers_jobs : Gathers {} Profile.declare Profile.jobs "jobs" := ⟨rfl, fun _ _ => rfl⟩

lemma gathers_pains : Gathers {} Profile.declare Profile.pains "pains" := ⟨rfl, fun _ _ => rfl⟩

lemma gathers_gains : Gathers {} Profile.declare Profile.gains "gains" := ⟨rfl, fun _ _ => rfl⟩

lemma gathers_products (g : Generation) :
    Gathers {} (ValueMap.declare g) ValueMap.products "products_services" :=
  ⟨rfl, fun _ _ => rfl⟩

lemma gathers_relievers :
    Gathers {} (ValueMap.declare .v2) ValueMap.relievers "pain_relievers" :=
  ⟨rfl, fun _ _ => rfl⟩

lemma gathers_creators :
    Gathers {} (ValueMap.declare .v2) ValueMap.creators "gain_creators" :=
  ⟨rfl, fun _ _ => rfl⟩

section References

variable {index : Index} {ref : Value} {refs : List Value} {x : String}

/-- Segments are looked up by the text of a reference. -/
lemma segment?_eq_bind : index.segment? ref = ref.str?.bind index.segments.get? := by
  cases ref with
  | scalar s => cases s <;> rfl
  | _ => rfl

/-- Value propositions are looked up by the text of a reference. -/
lemma valueMap?_eq_bind : index.valueMap? ref = ref.str?.bind index.propositions.get? := by
  cases ref with
  | scalar s => cases s <;> rfl
  | _ => rfl

/-- Resources and activities are looked up by the text of a reference. -/
lemma isResourceOrActivity_eq_any : index.isResourceOrActivity ref =
    ref.str?.any fun id => index.resources.contains id || index.activities.contains id := by
  cases ref with
  | scalar s => cases s <;> rfl
  | _ => rfl

/-- The union over some references to segments holds the items of the segments they resolve to. -/
lemma mem_profilesIn {items : Profile → IdSet} :
    x ∈ index.profilesIn items refs ↔ ∃ ref ∈ refs, ∃ p ∈ index.segment? ref, x ∈ items p := by
  unfold profilesIn
  rw [IdSet.mem_foldl fun ref => ∃ p ∈ index.segment? ref, x ∈ items p]
  · simp only [List.not_mem_nil, false_or]
  · intro found ref
    cases h : index.segment? ref <;> simp

/-- The union over some references to value propositions holds the items of the value propositions
they resolve to. -/
lemma mem_valueMapsIn {items : ValueMap → IdSet} :
    x ∈ index.valueMapsIn items refs ↔ ∃ ref ∈ refs, ∃ m ∈ index.valueMap? ref, x ∈ items m := by
  unfold valueMapsIn
  rw [IdSet.mem_foldl fun ref => ∃ m ∈ index.valueMap? ref, x ∈ items m]
  · simp only [List.not_mem_nil, false_or]
  · intro found ref
    cases h : index.valueMap? ref <;> simp

end References

section Build

variable {doc : Mapping} {g : Generation} {ref : Value} {field x : String}

/-- A reference resolves to a segment if and only if it names a declared one. -/
lemma hasSegment_build :
    (build doc g).hasSegment ref = true ↔ Names doc "customer_segments" ref := by
  unfold hasSegment segment?
  split
  next id => exact isSome_get?_tabulate.trans names_str.symm
  next h => exact iff_of_false nofun (not_names h)

/-- A reference resolves to a value proposition if and only if it names a declared one. -/
lemma hasProposition_build :
    (build doc g).hasProposition ref = true ↔ Names doc "value_propositions" ref := by
  unfold hasProposition valueMap?
  split
  next id => exact isSome_get?_tabulate.trans names_str.symm
  next h => exact iff_of_false nofun (not_names h)

/-- A reference resolves to a resource or activity if and only if it names one of either. -/
lemma isResourceOrActivity_build :
    (build doc g).isResourceOrActivity ref = true ↔
      Names doc "key_resources" ref ∨ Names doc "key_activities" ref := by
  unfold isResourceOrActivity
  split
  next id => simp [build]
  next h =>
    refine iff_of_false nofun ?_
    rintro (names | names)
    · exact not_names h names
    · exact not_names h names

/-- The items of the segment that a reference resolves to are those that its declarations list. -/
lemma mem_items_segment? {items : Profile → IdSet}
    (gathers : Gathers {} Profile.declare items field) :
    (∃ p ∈ (build doc g).segment? ref, x ∈ items p) ↔
      Lists doc "customer_segments" field ref (.str x) := by
  unfold segment?
  split
  next id => exact gathers.mem_tabulate.trans lists_str.symm
  next h => exact iff_of_false (by simp) fun lists => not_names h lists.names

/-- The items of the value proposition that a reference resolves to are those that its declarations
list. -/
lemma mem_items_valueMap? {items : ValueMap → IdSet}
    (gathers : Gathers {} (ValueMap.declare g) items field) :
    (∃ p ∈ (build doc g).valueMap? ref, x ∈ items p) ↔
      Lists doc "value_propositions" field ref (.str x) := by
  unfold valueMap?
  split
  next id => exact gathers.mem_tabulate.trans lists_str.symm
  next h => exact iff_of_false (by simp) fun lists => not_names h lists.names

/-- The union over some references to segments holds what the declarations of these list. -/
lemma mem_profilesIn_build {items : Profile → IdSet} {refs : List Value}
    (gathers : Gathers {} Profile.declare items field) :
    x ∈ (build doc g).profilesIn items refs ↔
      ∃ ref ∈ refs, Lists doc "customer_segments" field ref (.str x) := by
  simp only [mem_profilesIn, mem_items_segment? gathers]

/-- The union over some references to value propositions holds what the declarations of these
list. -/
lemma mem_valueMapsIn_build {items : ValueMap → IdSet} {refs : List Value}
    (gathers : Gathers {} (ValueMap.declare g) items field) :
    x ∈ (build doc g).valueMapsIn items refs ↔
      ∃ ref ∈ refs, Lists doc "value_propositions" field ref (.str x) := by
  simp only [mem_valueMapsIn, mem_items_valueMap? gathers]

end Build

end Index

end BusinessModel
