import BusinessModel.Graph
import BusinessModel.Proofs.Alike.Value

/-!
# The connection graph of a document that is alike

Every layer of the graph is a fold over the entries of sections, and puts identifiers into the rows
of identifiers without looking at what they say.  So each layer of a document that is alike is the
renamed layer, row by row and member by member in the same order.

* `Graph.rename` — a graph under other names
* `Graph.build_eq`, `Graph.segmentOrder_eq` — documents that are alike
-/

namespace BusinessModel.Graph

/-- The graph under other names: every entity and every segment is renamed, in the same order. -/
def rename (σ : Renaming) (g : Graph) : Graph :=
  Table.rename σ (List.map σ) g

variable {σ : Renaming} {R : Value → Value → Prop} {g layer : Graph} {v w : Value} {m n : Mapping}
  {e f : Mapping} {key id relation target : String} {found : List String}

lemma reach_rename :
    Graph.reach (rename σ g) (σ id) (found.map σ) = rename σ (g.reach id found) := by
  apply Table.update_rename σ (List.map σ) [] (fun set => IdSet.addAll set found)
    (fun set => IdSet.addAll set (found.map σ))
  exact fun _ => IdSet.addAll_map σ

lemma reached_rename : Graph.reached (rename σ g) (σ id) = (g.reached id).map σ := by
  unfold reached rename
  rw [Table.get?_rename]
  cases g.get? id <;> rfl

/-- The segments that renamed entities reach are those that the entities reach, renamed. -/
lemma flatMap_reached_rename :
    (found.map σ).flatMap (Graph.reached (rename σ g)) = (found.flatMap g.reached).map σ := by
  rw [List.flatMap_map, List.map_flatMap]
  exact congrArg found.flatMap (funext fun _ => reached_rename)

lemma merge_rename : merge (rename σ g) (rename σ layer) = rename σ (merge g layer) := by
  unfold merge
  induction layer generalizing g with
  | nil => rfl
  | cons row rest ih =>
    have first : rename σ (row :: rest) = (σ row.1, row.2.map σ) :: rename σ rest := rfl
    rw [first, List.foldl_cons, List.foldl_cons, reach_rename, ih]

lemma refs_eq (like : Likeness σ R) (h : Alike R e f) :
    refs f relation target = (refs e relation target).map σ :=
  like.texts_eq (like.forall₂_relation h relation target)

/-- A section adds the renamed segments to the renamed entities, when entries that are alike serve
the same segments under other names. -/
lemma addSection_eq {serves serves' : Mapping → List String} (like : Likeness σ R)
    (items : List.Forall₂ R (Mapping.get m key).asList (Mapping.get n key).asList)
    (same : ∀ {e f}, Alike R e f → serves' f = (serves e).map σ) :
    addSection n key serves' (rename σ g) = rename σ (addSection m key serves g) := by
  apply foldl_eq_of_forall₂ (k := rename σ) (like.forall₂_entries items)
  intro g e f alike
  rw [like.id?_eq alike.2, same alike.2]
  cases Mapping.id? e.2 with
  | none => rfl
  | some id => exact reach_rename

/-- Several sections, one after the other. -/
lemma addSections_eq {β : Type} {rows : List β} (key : β → String) (like : Likeness σ R)
    (h : SectionsAlike R m n) (listed : ∀ row ∈ rows, key row ∈ sectionKeys)
    (serves serves' : β → Mapping → List String)
    (same : ∀ row {e f}, Alike R e f → serves' row f = (serves row e).map σ) :
    rows.foldl (fun g row => addSection n (key row) (serves' row) g) (rename σ g) =
      rename σ (rows.foldl (fun g row => addSection m (key row) (serves row) g) g) := by
  induction rows generalizing g with
  | nil => rfl
  | cons row rest ih =>
    have first := addSection_eq (g := g) like (h.items _ (listed row List.mem_cons_self)) (same row)
    rw [List.foldl_cons, List.foldl_cons, first]
    apply ih
    exact fun row member => listed row (List.mem_cons_of_mem _ member)

/-! ### The layers -/

lemma segments_eq (like : Likeness σ R) (h : SectionsAlike R m n) :
    segments n = rename σ (segments m) := by
  have ids := like.idsIn_eq (h.items "customer_segments" (by simp [sectionKeys]))
  unfold segments
  rw [ids, List.foldl_map]
  change List.foldl _ (rename σ []) _ = _
  apply List.foldl_hom (rename σ)
  intro g id
  exact Table.update_rename σ (List.map σ) [] (fun _ => [id]) (fun _ => [σ id]) fun _ => rfl

lemma propositions_eq (like : Likeness σ R) (h : SectionsAlike R m n) :
    propositions n = rename σ (propositions m) := by
  have declared : addSection n "value_propositions" (fun _ => []) [] =
      rename σ (addSection m "value_propositions" (fun _ => []) []) :=
    addSection_eq (g := []) like (h.items "value_propositions" (by simp [sectionKeys]))
      fun _ => rfl
  unfold propositions
  rw [declared]
  apply foldl_eq_of_forall₂ (k := rename σ)
    (like.forall₂_entries (h.items "fits" (by simp [sectionKeys])))
  intro g e f alike
  rw [refs_eq like alike.2, refs_eq like alike.2, List.foldl_map]
  apply List.foldl_hom (rename σ)
  intro g id
  exact reach_rename

lemma resources_eq (like : Likeness σ R) (h : SectionsAlike R m n) {props : Graph} :
    resources n (rename σ props) = rename σ (resources m props) := by
  have listed : ∀ key ∈ ["key_resources", "key_activities"], key ∈ sectionKeys := by decide
  apply addSections_eq id (g := []) like h listed
    (fun _ e => (refs e "for" "value_propositions").flatMap props.reached)
    (fun _ f => (refs f "for" "value_propositions").flatMap (Graph.reached (rename σ props)))
  intro _ e f alike
  rw [refs_eq like alike, flatMap_reached_rename]

lemma servedThrough_eq (like : Likeness σ R) {through : Graph} (h : Alike R e f) :
    servedThrough (rename σ through) f = (servedThrough through e).map σ := by
  unfold servedThrough
  rw [List.map_flatMap]
  congr 1
  funext target
  rw [refs_eq like h, flatMap_reached_rename]

/-- The connection graph of a document that is alike is the same graph under other names. -/
lemma build_eq (like : Likeness σ R) (h : SectionsAlike R v.asMapping w.asMapping) :
    build w = rename σ (build v) := by
  have declared : merge (segments w.asMapping) (propositions w.asMapping) =
      rename σ (merge (segments v.asMapping) (propositions v.asMapping)) := by
    rw [segments_eq like h, propositions_eq like h, merge_rename]
  have through : resources w.asMapping (propositions w.asMapping) =
      rename σ (resources v.asMapping (propositions v.asMapping)) := by
    rw [propositions_eq like h, resources_eq like h]
  have listed : ∀ row ∈ segmentSections, row.1 ∈ sectionKeys := by decide
  have named := addSections_eq Prod.fst like h
    (g := merge (segments v.asMapping) (propositions v.asMapping)) listed
    (fun row e => refs e row.2 "customer_segments")
    (fun row f => refs f row.2 "customer_segments") fun row _ _ alike => refs_eq like alike
  unfold build
  simp only [declared, through]
  rw [named, merge_rename]
  exact addSections_eq id like h (by decide) (fun _ => servedThrough _)
    (fun _ => servedThrough _) fun _ _ _ alike => servedThrough_eq like alike

/-- The segments of a document that is alike are declared in the same order, under other names. -/
lemma segmentOrder_eq (like : Likeness σ R) (h : SectionsAlike R v.asMapping w.asMapping) :
    segmentOrder w = (segmentOrder v).map σ := by
  unfold segmentOrder
  rw [like.idsIn_eq (h.items "customer_segments" (by simp [sectionKeys])), IdSet.ofList_map]

end BusinessModel.Graph
