import BusinessModel.Graph
import BusinessModel.Proofs.Declared
import BusinessModel.Proofs.Table

/-!
# The connection graph against the declarations of a document

Which segments an entity serves is first said by rules over the declarations of a document, without
layers.  Each operation on graphs is then described by what it does to a graph that is described by
a list of identifiers and a relation, and the layers of the graph put these descriptions together.

* `Graph.Serves` — the segments that an entity serves
* `Graph.Describes` — a graph has given entities and serves as a relation says
* `Graph.build_serves` — the connection graph of a document
-/

namespace BusinessModel

namespace Graph

/-- A fit leads from a value proposition that it names to a segment that it names. -/
def ThroughFit (doc : Mapping) (id s : String) : Prop :=
  ∃ i fit, (i, fit) ∈ Mapping.entries doc "fits" ∧
    .str id ∈ Mapping.relation fit "for" "value_propositions" ∧
    .str s ∈ Mapping.relation fit "for" "customer_segments"

/-- A key resource or a key activity leads to the segments of its value propositions. -/
def ThroughProposition (doc : Mapping) (id s : String) : Prop :=
  ∃ key ∈ ["key_resources", "key_activities"], ∃ entry, Declares doc key id entry ∧
    ∃ v, .str v ∈ Mapping.relation entry "for" "value_propositions" ∧ ThroughFit doc v s

/-- The segments that the entities of a document serve. -/
inductive Serves (doc : Mapping) : String → String → Prop where
  | itself {id entry} :
    Declares doc "customer_segments" id entry →
    Serves doc id id
  | fit {id s} :
    ThroughFit doc id s →
    Serves doc id s
  | named {key relation id entry s} :
    (key, relation) ∈ [("fits", "for"), ("channels", "for"), ("customer_relationships", "for"),
      ("revenue_streams", "from")] →
    Declares doc key id entry →
    .str s ∈ Mapping.relation entry relation "customer_segments" →
    Serves doc id s
  | proposition {id s} :
    ThroughProposition doc id s →
    Serves doc id s
  | means {key target id entry r s} :
    key ∈ ["key_partnerships", "costs"] →
    target ∈ ["key_resources", "key_activities"] →
    Declares doc key id entry →
    .str r ∈ Mapping.relation entry "for" target →
    ThroughProposition doc r s →
    Serves doc id s

/-- The identifiers of the entities of a document, layer by layer. -/
def entityIds (doc : Mapping) : List String :=
  Mapping.idsIn doc "customer_segments" ++ Mapping.idsIn doc "value_propositions" ++
    (Mapping.entries doc "fits").flatMap
      (fun fit => Value.texts (Mapping.relation fit.2 "for" "value_propositions")) ++
    ["fits", "channels", "customer_relationships", "revenue_streams", "key_resources",
      "key_activities", "key_partnerships", "costs"].flatMap (Mapping.idsIn doc)

/-- A graph has some entities, in order of first appearance, and tells the segments of each as a
relation does, each segment once. -/
structure Describes (g : Graph) (ids : List String) (serves : String → String → Prop) : Prop where
  keys : g.keys = IdSet.ofList ids
  mem {x s} : s ∈ g.reached x ↔ serves x s
  nodup x : (g.reached x).Nodup

variable {g layer : Graph} {doc : Mapping} {ids more : List String}
  {serves other : String → String → Prop} {key id x s : String} {found : List String}

namespace Describes

lemma congr (h : Describes g ids serves) (same : ∀ x s, serves x s ↔ other x s) :
    Describes g ids other :=
  ⟨h.keys, h.mem.trans (same _ _), h.nodup⟩

lemma empty : Describes [] [] fun _ _ => False :=
  ⟨rfl, by simp [reached], fun _ => List.nodup_nil⟩

/-- An update gives one entity other segments. -/
lemma update {f : IdSet → IdSet} (h : Describes g ids serves) (nodup : (f (g.reached id)).Nodup) :
    Describes (Table.update g id [] f) (ids ++ [id]) fun x s =>
      (x = id ∧ s ∈ f (g.reached id)) ∨ (x ≠ id ∧ serves x s) := by
  have reaches : ∀ x, Graph.reached (Table.update g id [] f) x =
      if x = id then f (g.reached id) else g.reached x := by
    intro x
    unfold reached
    rw [Table.get?_update]
    split <;> rfl
  refine ⟨?_, ?_, ?_⟩
  · rw [Table.keys_update, h.keys]
    exact (IdSet.addAll_append [id]).symm
  · intro x s
    rw [reaches]
    split
    next same => simp [same]
    next different => simp [different, h.mem]
  · intro x
    rw [reaches]
    split
    next => exact nodup
    next => exact h.nodup x

/-- More segments for one entity. -/
lemma reach (h : Describes g ids serves) :
    Describes (g.reach id found) (ids ++ [id]) fun x s => serves x s ∨ (x = id ∧ s ∈ found) := by
  have nodup : (IdSet.addAll (g.reached id) found).Nodup := IdSet.nodup_addAll (h.nodup id)
  refine (h.update (f := fun set => set.addAll found) nodup).congr fun x s => ?_
  by_cases same : x = id
  · simp [same, h.mem]
  · simp [same]

/-- A fold adds what each of its steps adds. -/
lemma foldl {β : Type} {step : Graph → β → Graph} (new : β → List String)
    (adds : β → String → String → Prop)
    (hstep : ∀ {g ids serves} b, Describes g ids serves →
      Describes (step g b) (ids ++ new b) fun x s => serves x s ∨ adds b x s)
    {bs : List β} (h : Describes g ids serves) :
    Describes (bs.foldl step g) (ids ++ bs.flatMap new) fun x s =>
      serves x s ∨ ∃ b ∈ bs, adds b x s := by
  induction bs generalizing g ids serves with
  | nil => simpa using h
  | cons b bs ih =>
    have more := ih (hstep b h)
    rw [List.append_assoc] at more
    exact more.congr fun x s => by rw [List.exists_mem_cons_iff, or_assoc]

/-- The same segments for several entities. -/
lemma reachAll {names : List String} (h : Describes g ids serves) :
    Describes (names.foldl (fun g id => g.reach id found) g) (ids ++ names) fun x s =>
      serves x s ∨ (x ∈ names ∧ s ∈ found) := by
  have added : Describes (names.foldl (fun g id => g.reach id found) g)
      (ids ++ names.flatMap fun id => [id]) fun x s =>
        serves x s ∨ ∃ id ∈ names, x = id ∧ s ∈ found :=
    foldl _ (fun id x s => x = id ∧ s ∈ found) (fun _ h => h.reach) h
  rw [List.flatMap_singleton'] at added
  exact added.congr fun x s => by simp

/-- A section adds, for each of its identifiers, what the declarations of that identifier serve. -/
lemma addSection {f : Mapping → List String} (h : Describes g ids serves) :
    Describes (Graph.addSection doc key f g) (ids ++ Mapping.idsIn doc key) fun x s =>
      serves x s ∨ ∃ entry, Declares doc key x entry ∧ s ∈ f entry := by
  unfold Graph.addSection Mapping.idsIn
  rw [List.filterMap_eq_flatMap_toList]
  refine (foldl (fun entry : Nat × Mapping => (Mapping.id? entry.2).toList)
    (fun entry x s => Mapping.id? entry.2 = some x ∧ s ∈ f entry.2) ?_ h).congr ?_
  · intro g ids serves entry h
    cases named : Mapping.id? entry.2 with
    | none => simpa using h
    | some id => exact h.reach.congr fun x s => by simp [eq_comm]
  · intro x s
    simp only [Declares, Prod.exists]
    refine or_congr_right ⟨?_, ?_⟩
    · rintro ⟨i, entry, place, named, served⟩
      exact ⟨entry, ⟨i, place, named⟩, served⟩
    · rintro ⟨entry, ⟨i, place, named⟩, served⟩
      exact ⟨i, entry, place, named, served⟩

/-- Several sections, one after the other. -/
lemma addSections {β : Type} {rows : List β} {key : β → String} {f : β → Mapping → List String}
    (h : Describes g ids serves) :
    Describes (rows.foldl (fun g row => Graph.addSection doc (key row) (f row) g) g)
      (ids ++ rows.flatMap fun row => Mapping.idsIn doc (key row)) fun x s =>
        serves x s ∨ ∃ row ∈ rows, ∃ entry, Declares doc (key row) x entry ∧ s ∈ f row entry :=
  foldl _ (fun row x s => ∃ entry, Declares doc (key row) x entry ∧ s ∈ f row entry)
    (fun _ h => h.addSection) h

/-- A row of a graph holds what its entity reaches. -/
lemma mem_iff_reached (h : Describes g ids serves) {set : IdSet} :
    (id, set) ∈ g ↔ id ∈ ids ∧ g.reached id = set := by
  have distinct : g.keys.Nodup := h.keys ▸ IdSet.nodup_ofList
  have known : (g.get? id).isSome ↔ id ∈ ids := by rw [Table.isSome_get?, h.keys, IdSet.mem_ofList]
  rw [Table.mem_iff_get? distinct, ← known, Graph.reached]
  cases g.get? id <;> simp

/-- An entity that reaches something is one of the graph. -/
lemma mem_of_reached (h : Describes g ids serves) (reaches : s ∈ g.reached id) : id ∈ ids := by
  rw [← IdSet.mem_ofList, ← h.keys, ← Table.isSome_get?]
  cases found : g.get? id with
  | none => simp [Graph.reached, found] at reaches
  | some set => rfl

/-- A merged graph serves what either graph serves. -/
lemma merge (h : Describes g ids serves) (hlayer : Describes layer more other) :
    Describes (Graph.merge g layer) (ids ++ more) fun x s => serves x s ∨ other x s := by
  have merged : Describes (Graph.merge g layer) (ids ++ layer.flatMap fun row => [row.1])
      fun x s => serves x s ∨ ∃ row ∈ layer, x = row.1 ∧ s ∈ row.2 :=
    foldl _ (fun (row : String × IdSet) x s => x = row.1 ∧ s ∈ row.2) (fun _ h => h.reach) h
  have keys : (layer.flatMap fun row => [row.1]) = IdSet.ofList more := by
    rw [← hlayer.keys]
    exact List.map_eq_flatMap.symm
  -- The keys of the layer are distinct, so its rows are what its entities reach.
  have rows : ∀ x s, (∃ row ∈ layer, x = row.1 ∧ s ∈ row.2) ↔ other x s := by
    intro x s
    rw [← hlayer.mem]
    refine ⟨?_, ?_⟩
    · rintro ⟨⟨_, set⟩, member, rfl, reaches⟩
      rw [(hlayer.mem_iff_reached.1 member).2]
      exact reaches
    · intro reaches
      exact ⟨(x, layer.reached x), hlayer.mem_iff_reached.2 ⟨hlayer.mem_of_reached reaches, rfl⟩,
        rfl, reaches⟩
  refine ⟨?_, (merged.congr fun x s => or_congr_right (rows x s)).mem, merged.nodup⟩
  rw [merged.keys, keys, IdSet.ofList_append_ofList]

end Describes

/-- The first layer: every declared segment serves itself. -/
lemma describes_segments : Describes (segments doc) (Mapping.idsIn doc "customer_segments")
    fun x s => x ∈ Mapping.idsIn doc "customer_segments" ∧ s = x := by
  have run : ∀ (new old : List String) (g : Graph), Describes g old (fun x s => x ∈ old ∧ s = x) →
      Describes (new.foldl (fun g id => g.update id [] fun _ => [id]) g) (old ++ new)
        fun x s => x ∈ old ++ new ∧ s = x := by
    intro new
    induction new with
    | nil =>
      intro old g h
      simpa using h
    | cons id rest ih =>
      intro old g h
      -- Here a segment loses what it had, so the step is not one that only adds.
      have step : Describes (g.update id [] fun _ => [id]) (old ++ [id])
          fun x s => x ∈ old ++ [id] ∧ s = x := by
        refine (h.update (List.nodup_singleton id)).congr fun x s => ?_
        by_cases same : x = id <;> simp [same]
      have all := ih (old ++ [id]) _ step
      rwa [List.append_assoc] at all
  exact run _ [] [] (Describes.empty.congr fun _ _ => by simp)

/-- The second layer: value propositions lead where the fits that name them do. -/
lemma describes_propositions :
    Describes (propositions doc)
      (Mapping.idsIn doc "value_propositions" ++ (Mapping.entries doc "fits").flatMap
        fun fit => refs fit.2 "for" "value_propositions") (ThroughFit doc) := by
  have declared : Describes (addSection doc "value_propositions" (fun _ => []) [])
      (Mapping.idsIn doc "value_propositions") fun _ _ => False :=
    Describes.empty.addSection.congr fun x s => by simp
  refine (Describes.foldl _ (fun (fit : Nat × Mapping) x s =>
    x ∈ refs fit.2 "for" "value_propositions" ∧ s ∈ refs fit.2 "for" "customer_segments")
    (fun _ h => h.reachAll) declared).congr fun x s => ?_
  simp [ThroughFit, refs]

/-- What an entry reaches through the entities that it refers to. -/
lemma mem_flatMap_reached {entry : Mapping} {relation target : String}
    (h : Describes layer ids serves) :
    s ∈ (refs entry relation target).flatMap layer.reached ↔
      ∃ r, .str r ∈ Mapping.relation entry relation target ∧ serves r s := by
  simp only [List.mem_flatMap, refs, Value.mem_texts, h.mem]

/-- The fourth layer: resources and activities lead where their value propositions do. -/
lemma describes_resources :
    Describes (resources doc (propositions doc))
      (["key_resources", "key_activities"].flatMap (Mapping.idsIn doc))
      (ThroughProposition doc) := by
  refine Describes.empty.addSections.congr fun x s => ?_
  simp only [mem_flatMap_reached describes_propositions, ThroughProposition, false_or]

/-- The fifth layer reads the fourth one and not the graph. -/
lemma mem_servedThrough {entry : Mapping} :
    s ∈ servedThrough (resources doc (propositions doc)) entry ↔
      ∃ target ∈ ["key_resources", "key_activities"], ∃ r,
        .str r ∈ Mapping.relation entry "for" target ∧ ThroughProposition doc r s := by
  rw [servedThrough, List.mem_flatMap]
  simp only [mem_flatMap_reached describes_resources]

/-- The graph of a document has its entities and tells what they serve. -/
lemma describes_build (value : Value) :
    Describes (build value) (entityIds value.asMapping) (Serves value.asMapping) := by
  have named : Describes (segmentSections.foldl
      (fun g row => addSection value.asMapping row.1
        (fun entry => refs entry row.2 "customer_segments") g)
      (merge (segments value.asMapping) (propositions value.asMapping))) _ _ :=
    (describes_segments.merge describes_propositions).addSections
  have all : Describes (build value) _ _ := (named.merge describes_resources).addSections
  refine ⟨all.keys.trans (congrArg IdSet.ofList ?_), fun {x s} => all.mem.trans ?_, all.nodup⟩
  · simp only [entityIds, segmentSections, refs, List.flatMap_cons, List.flatMap_nil,
      List.append_assoc, List.append_nil]
  · simp only [mem_servedThrough, refs, Value.mem_texts]
    refine ⟨?_, ?_⟩
    · rintro ((((⟨declared, rfl⟩ | through) | ⟨⟨key, relation⟩, listed, entry, declared, named⟩) |
        through) | ⟨key, listed, entry, declared, target, aimed, r, refers, through⟩)
      · obtain ⟨entry, declared⟩ := mem_idsIn.1 declared
        exact .itself declared
      · exact .fit through
      · exact .named listed declared named
      · exact .proposition through
      · exact .means listed aimed declared refers through
    · intro serves
      cases serves with
      | itself declared => exact .inl (.inl (.inl (.inl ⟨mem_idsIn.2 ⟨_, declared⟩, rfl⟩)))
      | fit through => exact .inl (.inl (.inl (.inr through)))
      | named listed declared named =>
        exact .inl (.inl (.inr ⟨(_, _), listed, _, declared, named⟩))
      | proposition through => exact .inl (.inr through)
      | means listed aimed declared refers through =>
        exact .inr ⟨_, listed, _, declared, _, aimed, _, refers, through⟩

/-- The connection graph of a document has a row for every entity, in order of first appearance, and
each row holds the segments that its entity serves. -/
theorem build_serves (value : Value) :
    (build value).keys = (entityIds value.asMapping).eraseDups ∧
      ∀ id segments, (id, segments) ∈ build value →
        segments.Nodup ∧ ∀ s, s ∈ segments ↔ Serves value.asMapping id s := by
  have h := describes_build value
  refine ⟨h.keys.trans (IdSet.ofList_eq_eraseDups _), fun id segments row => ?_⟩
  obtain ⟨_, rfl⟩ := h.mem_iff_reached.1 row
  exact ⟨h.nodup id, fun s => h.mem⟩

end Graph

end BusinessModel
