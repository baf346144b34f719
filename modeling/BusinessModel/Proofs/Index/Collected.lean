import BusinessModel.Proofs.Graph.Closed
import BusinessModel.Proofs.Index

/-!
# What an index holds

The index of a document lists the declared segments and value propositions in the order of their
first declarations, and under each of them the items of all its declarations.  Unions over some
references collect the items of those that are declared.  As declarations merge wherever they stand,
the index of two documents that are joined section by section is the union of their indices.

* `Index.Collects` — an index holds what a document declares
* `Index.joined`, `Index.IsUnion` — joined documents, and the union of two indices
* `Index.build_collects` — what the index of a document holds, what its unions hold, and what the
  index of joined documents is
-/

namespace BusinessModel

/-- The items of two profiles. -/
def Profile.union (p q : Profile) : Profile where
  jobs := p.jobs.addAll q.jobs
  pains := p.pains.addAll q.pains
  gains := p.gains.addAll q.gains

/-- The items of two value maps. -/
def ValueMap.union (m n : ValueMap) : ValueMap where
  products := m.products.addAll n.products
  relievers := m.relievers.addAll n.relievers
  creators := m.creators.addAll n.creators

namespace Index

/-- Every entity of a table holds the items that its declarations list under a field. -/
def Holds {α : Type} (doc : Mapping) (key field : String) (t : Table α) (items : α → IdSet) :
    Prop :=
  ∀ id x, (∃ p ∈ t.get? id, x ∈ items p) ↔ Lists doc key field (.str id) (.str x)

/-- No entity of a table holds any item. -/
def HoldsNone {α : Type} (t : Table α) (items : α → IdSet) : Prop :=
  ∀ id, ∀ p ∈ t.get? id, items p = []

/-- An index holds what a document declares, read as a document of a generation. -/
structure Collects (doc : Mapping) (g : Generation) (index : Index) : Prop where
  generation : index.generation = g
  segments : index.segments.keys = (Mapping.idsIn doc "customer_segments").eraseDups
  hasSegment : ∀ ref, index.hasSegment ref = true ↔ Names doc "customer_segments" ref
  jobs : Holds doc "customer_segments" "jobs" index.segments Profile.jobs
  pains : Holds doc "customer_segments" "pains" index.segments Profile.pains
  gains : Holds doc "customer_segments" "gains" index.segments Profile.gains
  propositions : index.propositions.keys = (Mapping.idsIn doc "value_propositions").eraseDups
  hasProposition : ∀ ref, index.hasProposition ref = true ↔ Names doc "value_propositions" ref
  products : Holds doc "value_propositions" "products_services" index.propositions
    ValueMap.products
  relievers : match g with
    | .v1 => HoldsNone index.propositions ValueMap.relievers
    | .v2 => Holds doc "value_propositions" "pain_relievers" index.propositions ValueMap.relievers
  creators : match g with
    | .v1 => HoldsNone index.propositions ValueMap.creators
    | .v2 => Holds doc "value_propositions" "gain_creators" index.propositions ValueMap.creators
  resources : index.resources = (Mapping.idsIn doc "key_resources").eraseDups
  activities : index.activities = (Mapping.idsIn doc "key_activities").eraseDups

/-- A document with the entries of another one behind its own, in every section. -/
def joined (doc other : Mapping) : Mapping :=
  Graph.entitySections.foldl
    (fun m key => Mapping.set m (.str key)
      (.list ((Mapping.get doc key).asList ++ (Mapping.get other key).asList)))
    doc

/-- An index is the union of two others, key by key. -/
structure IsUnion (index other whole : Index) : Prop where
  generation : whole.generation = index.generation
  segments : whole.segments.keys = IdSet.addAll index.segments.keys other.segments.keys
  profile : ∀ id, whole.segments.get? id =
    Option.merge Profile.union (index.segments.get? id) (other.segments.get? id)
  propositions : whole.propositions.keys =
    IdSet.addAll index.propositions.keys other.propositions.keys
  valueMap : ∀ id, whole.propositions.get? id =
    Option.merge ValueMap.union (index.propositions.get? id) (other.propositions.get? id)
  resources : whole.resources = index.resources.addAll other.resources
  activities : whole.activities = index.activities.addAll other.activities

variable {α : Type} {init : α} {declare : α → Mapping → α} {join : α → α → α}
  {doc other : Mapping} {key field id x : String} {g : Generation} {index : Index}
  {refs : List Value}

/-! ### What is declared -/

lemma Gathers.holds {items : α → IdSet} (gathers : Gathers init declare items field) :
    Holds doc key field (tabulate doc key init declare) items :=
  fun _ _ => gathers.mem_tabulate.trans lists_str.symm

/-- What declarations do not touch stays as it was. -/
lemma holdsNone {items : α → IdSet} (empty : items init = [])
    (keeps : ∀ p entry, items (declare p entry) = items p) :
    HoldsNone (tabulate doc key init declare) items := by
  have none : ∀ entries : List Mapping, ∀ found : Option α, (∀ p ∈ found, items p = []) →
      ∀ p ∈ entries.foldl (declareOnto init declare) found, items p = [] := by
    intro entries
    induction entries with
    | nil => exact fun _ before => before
    | cons entry rest ih =>
      intro found before
      refine ih _ fun p made => ?_
      obtain rfl : declare (found.getD init) entry = p := Option.some.inj made
      rw [keeps]
      cases found with
      | none => exact empty
      | some p => exact before p rfl
  intro id p found
  rw [get?_tabulate] at found
  exact none _ _ (by simp) p found

lemma collects_build (doc : Mapping) (g : Generation) : Collects doc g (build doc g) where
  generation := rfl
  segments := keys_tabulate.trans (IdSet.ofList_eq_eraseDups _)
  hasSegment _ := hasSegment_build
  jobs := gathers_jobs.holds
  pains := gathers_pains.holds
  gains := gathers_gains.holds
  propositions := keys_tabulate.trans (IdSet.ofList_eq_eraseDups _)
  hasProposition _ := hasProposition_build
  products := (gathers_products g).holds
  relievers := match g with
    | .v1 => holdsNone rfl fun _ _ => rfl
    | .v2 => gathers_relievers.holds
  creators := match g with
    | .v1 => holdsNone rfl fun _ _ => rfl
    | .v2 => gathers_creators.holds
  resources := IdSet.ofList_eq_eraseDups _
  activities := IdSet.ofList_eq_eraseDups _

/-! ### Unions over references -/

/-- Only texts among some references resolve, to what is found for them. -/
lemma exists_bind_str?_iff {find : String → Option α} {holds : α → Prop} :
    (∃ ref ∈ refs, ∃ p ∈ ref.str?.bind find, holds p) ↔
      ∃ id, .str id ∈ refs ∧ ∃ p ∈ find id, holds p := by
  refine ⟨?_, ?_⟩
  · rintro ⟨ref, member, p, found, held⟩
    obtain ⟨id, text, found⟩ := Option.bind_eq_some_iff.1 found
    obtain rfl := Value.str?_eq_some.1 text
    exact ⟨id, member, p, found, held⟩
  · rintro ⟨id, member, p, found, held⟩
    exact ⟨.str id, member, p, found, held⟩

/-! ### Joined documents -/

lemma map_snd_entries_joined (isSection : key ∈ Graph.entitySections) :
    (Mapping.entries (joined doc other) key).map (·.2) =
      (Mapping.entries doc key).map (·.2) ++ (Mapping.entries other key).map (·.2) := by
  rw [Mapping.map_snd_entries, joined, Mapping.get_foldl_set, if_pos isSection]
  simp only [Value.asList, List.filterMap_append, Mapping.map_snd_entries]

/-- The identifiers of a joined section are those of both. -/
lemma idsIn_joined (isSection : key ∈ Graph.entitySections) :
    Mapping.idsIn (joined doc other) key = Mapping.idsIn doc key ++ Mapping.idsIn other key := by
  have bare : ∀ m, Mapping.idsIn m key =
      ((Mapping.entries m key).map (·.2)).filterMap Mapping.id? := fun m => by
    rw [List.filterMap_map]
    rfl
  simp only [bare, map_snd_entries_joined isSection, List.filterMap_append]

lemma declarations_joined (isSection : key ∈ Graph.entitySections) :
    declarations (joined doc other) key id =
      declarations doc key id ++ declarations other key id := by
  simp only [declarations, map_snd_entries_joined isSection, List.filter_append]

/-- `join` adds what another value gathered, as if its declarations had followed. -/
structure Joins (init : α) (declare : α → Mapping → α) (join : α → α → α) : Prop where
  init : ∀ p, join p init = p
  step : ∀ p q entry, join p (declare q entry) = declare (join p q) entry

lemma joins_profile : Joins {} Profile.declare Profile.union where
  init _ := rfl
  step p q entry := by
    simp only [Profile.union, Profile.declare, IdSet.addAll_addAll]

lemma joins_valueMap (g : Generation) : Joins {} (ValueMap.declare g) ValueMap.union where
  init _ := rfl
  step p q entry := by
    cases g <;> simp only [ValueMap.union, ValueMap.declare, IdSet.addAll_addAll]

namespace Joins

/-- Further declarations go to the second part of a join. -/
lemma foldl_some (joins : Joins init declare join) {entries : List Mapping} (p q : α) :
    entries.foldl (declareOnto init declare) (some (join p q)) =
      (entries.foldl (declareOnto init declare) (some q)).map (join p) := by
  induction entries generalizing q with
  | nil => rfl
  | cons entry rest ih =>
    rw [List.foldl_cons, List.foldl_cons]
    simp only [declareOnto, Option.getD_some, ← joins.step]
    exact ih _

/-- Declarations that follow others are joined to what these have made. -/
lemma foldl_append (joins : Joins init declare join) {entries more : List Mapping} :
    (entries ++ more).foldl (declareOnto init declare) none =
      Option.merge join (entries.foldl (declareOnto init declare) none)
        (more.foldl (declareOnto init declare) none) := by
  rw [List.foldl_append]
  cases entries.foldl (declareOnto init declare) none with
  | none => simp
  | some p =>
    cases more with
    | nil => simp
    | cons entry rest =>
      have first : declareOnto init declare (some p) entry =
          some (join p (declare init entry)) := by
        rw [joins.step, joins.init]
        rfl
      have made : ((entry :: rest).foldl (declareOnto init declare) none).isSome :=
        isSome_foldl_declareOnto.2 (.inr ⟨entry, List.mem_cons_self⟩)
      obtain ⟨q, made⟩ := Option.isSome_iff_exists.1 made
      rw [List.foldl_cons, first, joins.foldl_some, made]
      rw [List.foldl_cons] at made
      exact congrArg (Option.map (join p)) made

/-- The table of a joined section is the union of both tables. -/
lemma get?_tabulate_joined (joins : Joins init declare join)
    (isSection : key ∈ Graph.entitySections) :
    (tabulate (joined doc other) key init declare).get? id =
      Option.merge join ((tabulate doc key init declare).get? id)
        ((tabulate other key init declare).get? id) := by
  simp only [get?_tabulate, declarations_joined isSection, joins.foldl_append]

end Joins

/-- The set of identifiers of a joined section is the union of both sets. -/
lemma ofList_idsIn_joined (isSection : key ∈ Graph.entitySections) :
    IdSet.ofList (Mapping.idsIn (joined doc other) key) =
      (IdSet.ofList (Mapping.idsIn doc key)).addAll (IdSet.ofList (Mapping.idsIn other key)) := by
  rw [idsIn_joined isSection]
  simp only [IdSet.ofList, IdSet.addAll_append, IdSet.addAll_addAll, IdSet.addAll_nil]

lemma keys_tabulate_joined (isSection : key ∈ Graph.entitySections) :
    (tabulate (joined doc other) key init declare).keys =
      IdSet.addAll (tabulate doc key init declare).keys
        (tabulate other key init declare).keys := by
  simp only [keys_tabulate, ofList_idsIn_joined isSection]

lemma isUnion_build_joined (doc other : Mapping) (g : Generation) :
    IsUnion (build doc g) (build other g) (build (joined doc other) g) := by
  have segments : "customer_segments" ∈ Graph.entitySections := by decide
  have propositions : "value_propositions" ∈ Graph.entitySections := by decide
  have resources : "key_resources" ∈ Graph.entitySections := by decide
  have activities : "key_activities" ∈ Graph.entitySections := by decide
  constructor
  case generation => rfl
  case segments => simp only [build, keys_tabulate_joined segments]
  case profile => simp only [build, joins_profile.get?_tabulate_joined segments, implies_true]
  case propositions => simp only [build, keys_tabulate_joined propositions]
  case valueMap =>
    simp only [build, (joins_valueMap g).get?_tabulate_joined propositions, implies_true]
  case resources => simp only [build, ofList_idsIn_joined resources]
  case activities => simp only [build, ofList_idsIn_joined activities]

/-- The index of a document holds what the document declares, its segments in their order.  Unions
over references of any shape collect the items of the declared identifiers among them, whatever
their order and however often each is named.  The index of joined documents is the union of their
indices. -/
theorem build_collects (doc other : Value) (g : Generation) :
    Collects doc.asMapping g (build doc.asMapping g) ∧
      (build doc.asMapping g).segments.keys = Graph.segmentOrder doc ∧
      (∀ items refs x, x ∈ (build doc.asMapping g).profilesIn items refs ↔
        ∃ id, .str id ∈ refs ∧ ∃ p ∈ (build doc.asMapping g).segments.get? id, x ∈ items p) ∧
      (∀ items refs x, x ∈ (build doc.asMapping g).valueMapsIn items refs ↔
        ∃ id, .str id ∈ refs ∧ ∃ m ∈ (build doc.asMapping g).propositions.get? id, x ∈ items m) ∧
      IsUnion (build doc.asMapping g) (build other.asMapping g)
        (build (joined doc.asMapping other.asMapping) g) := by
  refine ⟨collects_build _ g, keys_tabulate, ?_, ?_, isUnion_build_joined _ _ g⟩
  · intro items refs x
    simp only [mem_profilesIn, segment?_eq_bind, exists_bind_str?_iff]
  · intro items refs x
    simp only [mem_valueMapsIn, valueMap?_eq_bind, exists_bind_str?_iff]

end Index

end BusinessModel
