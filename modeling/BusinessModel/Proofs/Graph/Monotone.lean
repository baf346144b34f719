import BusinessModel.Proofs.Graph.Closed
import BusinessModel.Proofs.Lint.Growth

/-!
# Graphs of documents with other lists

The graph depends on which entries the sections of a document hold and on which references these
hold, and on nothing else about its lists.  Inserting values into sections or into lists of
references adds to the graph and takes nothing away; order and repetitions make no difference but to
the order of the keys.

* `Graph.ListsChange` — two documents differ in their sections and lists of references
* `Graph.Carries` — the entries of a document have counterparts that refer to no less
* `Carries.serves` — what is served stays served
* `Graph.build_monotone` — the graphs of documents with other lists
-/

namespace BusinessModel.Graph

open Lint (Inserted)

/-- How a value may change, given how the items of lists may. -/
abbrev Change := (Value → Value → Prop) → Value → Value → Prop

/-- A value that stays, or a list that holds the same items in any order and any number of times,
while `R` tells how the items may change. -/
inductive Reshuffled (R : Value → Value → Prop) : Value → Value → Prop where
  | same (v : Value) : Reshuffled R v v
  | list {items items' : List Value} :
    (∀ v ∈ items, ∃ v' ∈ items', R v v') →
    (∀ v' ∈ items', ∃ v ∈ items, R v v') →
    Reshuffled R (.list items) (.list items')

/-- A relation of an entry that stays, or whose lists of references change. -/
inductive LinksChange (C : Change) : Value → Value → Prop where
  | same (v : Value) : LinksChange C v v
  | lists {links links' : Mapping} :
    (∀ target, C Eq (Mapping.get links target) (Mapping.get links' target)) →
    LinksChange C (.map links) (.map links')

/-- The relations under which entries refer to others. -/
def relations : List String := ["for", "from"]

/-- An entry that stays, or whose lists of references change. -/
inductive EntryChange (C : Change) : Value → Value → Prop where
  | same (v : Value) : EntryChange C v v
  | references {entry entry' : Mapping} :
    (∀ relation ∈ relations,
      LinksChange C (Mapping.get entry relation) (Mapping.get entry' relation)) →
    (∀ key ∉ relations, Mapping.get entry key = Mapping.get entry' key) →
    EntryChange C (.map entry) (.map entry')

/-- Documents whose sections change, and the lists of references of their entries. -/
def ListsChange (C : Change) (doc doc' : Mapping) : Prop :=
  ∀ key, C (EntryChange C) (Mapping.get doc key) (Mapping.get doc' key)

/-- An entry of which another one has the identifier and all references. -/
structure Extends (entry entry' : Mapping) : Prop where
  id?_eq : Mapping.id? entry' = Mapping.id? entry
  references : ∀ relation ∈ relations, ∀ target,
    Mapping.relation entry relation target ⊆ Mapping.relation entry' relation target

/-- A document of which another one has all entries, with no less references. -/
def Carries (doc doc' : Mapping) : Prop :=
  ∀ key i entry, (i, entry) ∈ Mapping.entries doc key →
    ∃ i' entry', (i', entry') ∈ Mapping.entries doc' key ∧ Extends entry entry'

variable {C : Change} {R R' : Value → Value → Prop} {doc doc' entry : Mapping}
  {v v' value value' : Value} {key id s target : String}

/-! ### Changes that keep what is in lists -/

/-- What is in a list has a counterpart in the changed list. -/
def Keeps (C : Change) : Prop :=
  ∀ R v v' w, (∀ v, R v v) → C R v v' → w ∈ v.asList → ∃ w' ∈ v'.asList, R w w'

lemma keeps_inserted : Keeps Inserted :=
  fun _ _ _ _ refl inserted member => inserted.exists_mem refl member

lemma keeps_reshuffled : Keeps Reshuffled := by
  intro R v v' w refl reshuffled member
  cases reshuffled with
  | same => exact ⟨w, member, refl w⟩
  | list forth _ => exact forth w member

/-- A change of the lists of references leaves what the entry refers to. -/
lemma LinksChange.subset (keeps : Keeps C) (change : LinksChange C v v') :
    (Mapping.get v.asMapping target).asList ⊆ (Mapping.get v'.asMapping target).asList := by
  cases change with
  | same => exact List.Subset.refl _
  | lists lists =>
    intro ref member
    obtain ⟨_, member, rfl⟩ := keeps Eq _ _ ref (fun _ => rfl) (lists target) member
    exact member

lemma EntryChange.exists_extends (keeps : Keeps C) (change : EntryChange C (.map entry) v') :
    ∃ entry', v' = .map entry' ∧ Extends entry entry' := by
  cases change with
  | same => exact ⟨entry, rfl, rfl, fun _ _ _ => List.Subset.refl _⟩
  | @references _ entry' links others =>
    refine ⟨entry', rfl, ?_, fun relation listed target => (links relation listed).subset keeps⟩
    rw [Mapping.id?, Mapping.id?, others "id" (by decide)]

lemma ListsChange.carries (keeps : Keeps C) (change : ListsChange C doc doc') :
    Carries doc doc' := by
  intro key i entry place
  have member := List.mem_of_getElem? (mem_entries.1 place)
  obtain ⟨v', member, change⟩ := keeps _ _ _ _ .same (change key) member
  obtain ⟨entry', rfl, grown⟩ := change.exists_extends keeps
  obtain ⟨i', position⟩ := List.mem_iff_getElem?.1 member
  exact ⟨i', entry', mem_entries.2 position, grown⟩

/-! ### Reshuffled documents -/

/-- Reshuffling can be undone. -/
lemma Reshuffled.symm (reshuffled : Reshuffled R v v') (converse : ∀ v v', R v v' → R' v' v) :
    Reshuffled R' v' v := by
  cases reshuffled with
  | same => exact .same v
  | list forth back =>
    refine .list (fun w' member => ?_) fun w member => ?_
    · obtain ⟨w, member, related⟩ := back w' member
      exact ⟨w, member, converse w w' related⟩
    · obtain ⟨w', member, related⟩ := forth w member
      exact ⟨w', member, converse w w' related⟩

lemma LinksChange.symm (change : LinksChange Reshuffled v v') : LinksChange Reshuffled v' v := by
  cases change with
  | same => exact .same v
  | lists lists => exact .lists fun target => (lists target).symm fun _ _ => Eq.symm

lemma EntryChange.symm (change : EntryChange Reshuffled v v') : EntryChange Reshuffled v' v := by
  cases change with
  | same => exact .same v
  | references links others =>
    exact .references (fun relation listed => (links relation listed).symm)
      fun key other => (others key other).symm

lemma ListsChange.symm (change : ListsChange Reshuffled doc doc') :
    ListsChange Reshuffled doc' doc :=
  fun key => (change key).symm fun _ _ => EntryChange.symm

/-! ### What is served -/

namespace Carries

lemma exists_declares (carries : Carries doc doc') (declares : Declares doc key id entry) :
    ∃ entry', Declares doc' key id entry' ∧ Extends entry entry' := by
  obtain ⟨i, place, named⟩ := declares
  obtain ⟨i', entry', place', grown⟩ := carries key i entry place
  exact ⟨entry', ⟨i', place', grown.id?_eq.trans named⟩, grown⟩

lemma idsIn_subset (carries : Carries doc doc') :
    Mapping.idsIn doc key ⊆ Mapping.idsIn doc' key := by
  intro id declared
  obtain ⟨entry, declares⟩ := mem_idsIn.1 declared
  obtain ⟨entry', declares', -⟩ := carries.exists_declares declares
  exact mem_idsIn.2 ⟨entry', declares'⟩

lemma throughFit (carries : Carries doc doc') (through : ThroughFit doc id s) :
    ThroughFit doc' id s := by
  obtain ⟨i, fit, place, named, reaches⟩ := through
  obtain ⟨i', fit', place', grown⟩ := carries "fits" i fit place
  have refers := grown.references "for" List.mem_cons_self
  exact ⟨i', fit', place', refers _ named, refers _ reaches⟩

lemma throughProposition (carries : Carries doc doc') (through : ThroughProposition doc id s) :
    ThroughProposition doc' id s := by
  obtain ⟨key, listed, entry, declares, p, refers, through⟩ := through
  obtain ⟨entry', declares', grown⟩ := carries.exists_declares declares
  have refers' := grown.references "for" List.mem_cons_self _ refers
  exact ⟨key, listed, entry', declares', p, refers', carries.throughFit through⟩

/-- What an entity serves, it serves in a document that says no less. -/
lemma serves (carries : Carries doc doc') (serves : Serves doc id s) : Serves doc' id s := by
  cases serves with
  | itself declares =>
    obtain ⟨_, declares', -⟩ := carries.exists_declares declares
    exact .itself declares'
  | fit through => exact .fit (carries.throughFit through)
  | @named key relation _ entry _ listed declares named =>
    obtain ⟨entry', declares', grown⟩ := carries.exists_declares declares
    have related : ∀ row ∈ segmentSections, row.2 ∈ relations := by decide
    exact .named listed declares' (grown.references relation (related _ listed) _ named)
  | proposition through => exact .proposition (carries.throughProposition through)
  | means listed aimed declares refers through =>
    obtain ⟨entry', declares', grown⟩ := carries.exists_declares declares
    have refers' := grown.references "for" List.mem_cons_self _ refers
    exact .means listed aimed declares' refers' (carries.throughProposition through)

lemma entityIds_subset (carries : Carries doc doc') : entityIds doc ⊆ entityIds doc' := by
  intro id member
  obtain ⟨key, listed, declared⟩ | ⟨i, fit, place, named⟩ := mem_entityIds.1 member
  · exact mem_entityIds.2 (.inl ⟨key, listed, carries.idsIn_subset declared⟩)
  · obtain ⟨i', fit', place', grown⟩ := carries "fits" i fit place
    have named' := grown.references "for" List.mem_cons_self _ named
    exact mem_entityIds.2 (.inr ⟨i', fit', place', named'⟩)

end Carries

/-! ### Graphs -/

lemma nodup_keys_build (value : Value) : (build value).keys.Nodup := by
  rw [(describes_build value).keys]
  exact IdSet.nodup_ofList

/-- What a row holds is held by a row of the graph of a document that says no less. -/
lemma exists_row_of_carries {segments : IdSet} (carries : Carries value.asMapping value'.asMapping)
    (row : (id, segments) ∈ build value) :
    ∃ segments', (id, segments') ∈ build value' ∧ segments ⊆ segments' := by
  have described := describes_build value
  have described' := describes_build value'
  obtain ⟨known, rfl⟩ := described.mem_iff_reached.1 row
  have row' := described'.mem_iff_reached.2 ⟨carries.entityIds_subset known, rfl⟩
  refine ⟨_, row', fun s reached => ?_⟩
  exact described'.mem.2 (carries.serves (described.mem.1 reached))

/-- Inserting values into sections or lists of references keeps every key, and its set grows.  Order
and repetitions make no difference: the keys are the same in some order, and each has the same
set. -/
theorem build_monotone (value value' : Value) :
    (ListsChange Inserted value.asMapping value'.asMapping →
      ∀ id segments, (id, segments) ∈ build value →
        ∃ segments', (id, segments') ∈ build value' ∧ segments ⊆ segments') ∧
    (ListsChange Reshuffled value.asMapping value'.asMapping →
      (build value).keys.Perm (build value').keys ∧
        ∀ id segments, (id, segments) ∈ build value →
          ∃ segments', (id, segments') ∈ build value' ∧ segments.Perm segments') := by
  refine ⟨fun change id segments row => ?_, fun change => ⟨?_, fun id segments row => ?_⟩⟩
  · exact exists_row_of_carries (change.carries keeps_inserted) row
  · have carries := change.carries keeps_reshuffled
    have carries' := change.symm.carries keeps_reshuffled
    refine (List.perm_ext_iff_of_nodup (nodup_keys_build _) (nodup_keys_build _)).2 fun id => ?_
    rw [mem_keys_build, mem_keys_build]
    exact ⟨fun member => carries.entityIds_subset member,
      fun member => carries'.entityIds_subset member⟩
  · have described := describes_build value
    have described' := describes_build value'
    obtain ⟨_, row', subset⟩ := exists_row_of_carries (change.carries keeps_reshuffled) row
    obtain ⟨_, again, subset'⟩ := exists_row_of_carries (change.symm.carries keeps_reshuffled) row'
    -- All of these rows hold what is reached from the entity.
    obtain ⟨-, rfl⟩ := described.mem_iff_reached.1 row
    obtain ⟨-, rfl⟩ := described'.mem_iff_reached.1 row'
    obtain ⟨-, rfl⟩ := described.mem_iff_reached.1 again
    refine ⟨_, row', ?_⟩
    rw [List.perm_ext_iff_of_nodup (described.nodup id) (described'.nodup id)]
    exact fun s => ⟨fun reached => subset reached, fun reached => subset' reached⟩

/-! ### Changing lists -/

lemma ListsChange.of_set (refl : ∀ R v, C R v v)
    (change : C (EntryChange C) (Mapping.get doc key) v) :
    ListsChange C doc (Mapping.set doc (.str key) v) := by
  intro other
  by_cases same : key = other
  · rw [← same, Mapping.get_set]
    exact change
  · rw [Mapping.get_set_of_ne same]
    exact refl _ _

lemma EntryChange.of_set {links : Mapping} {relation : String} (refl : ∀ R v, C R v v)
    (listed : relation ∈ relations) (target : String)
    (read : Mapping.get entry relation = .map links)
    (change : C Eq (Mapping.get links target) v) :
    EntryChange C (.map entry)
      (.map (Mapping.set entry (.str relation) (.map (Mapping.set links (.str target) v)))) := by
  refine .references (fun other _ => ?_) fun other unlisted => ?_
  · by_cases same : relation = other
    · rw [← same, Mapping.get_set, read]
      refine .lists fun target' => ?_
      by_cases same : target = target'
      · rw [← same, Mapping.get_set]
        exact change
      · rw [Mapping.get_set_of_ne same]
        exact refl _ _
    · rw [Mapping.get_set_of_ne same]
      exact .same _
  · rw [Mapping.get_set_of_ne]
    rintro rfl
    exact unlisted listed

/-- The same items in any order and any number. -/
lemma Reshuffled.of_mem_iff {items items' : List Value} (refl : ∀ v, R v v)
    (same : ∀ v, v ∈ items ↔ v ∈ items') : Reshuffled R (.list items) (.list items') :=
  .list (fun v member => ⟨v, (same v).1 member, refl v⟩)
    fun v member => ⟨v, (same v).2 member, refl v⟩

/-- The bakery with other fits. -/
def bakeryWith (fits : List Value) : Value :=
  .map (Mapping.set bakery.asMapping (.str "fits") (.list fits))

/-- A fit of the bakery with other segments. -/
lemma entryChange_fitEntry {propositions segments segments' : List String}
    (refl : ∀ R v, C R v v)
    (change : C Eq (.list (segments.map .str)) (.list (segments'.map .str))) :
    EntryChange C (fitEntry id propositions segments) (fitEntry id propositions segments') := by
  have read : Mapping.get (fitEntry id propositions segments).asMapping "for" =
      .map [(.str "value_propositions", .list (propositions.map .str)),
        (.str "customer_segments", .list (segments.map .str))] := rfl
  exact .of_set refl List.mem_cons_self "customer_segments" read change

/-- The fits of the bakery, the first of them with given segments. -/
def bakeryFits (segments : List String) : List Value :=
  [fitEntry "fit-daily" ["vp-bread"] segments,
    fitEntry "fit-daily" ["vp-bread", "vp-cake"] ["cs-cafes\n"]]

/-- A fit is inserted into the bakery, and a segment into the first fit. -/
lemma inserted_bakery :
    ListsChange Inserted bakery.asMapping
      (bakeryWith (fitEntry "fit-new" ["vp-cake"] ["cs-regulars"] ::
        bakeryFits ["cs-cafes\n", "cs-regulars"])).asMapping := by
  refine .of_set (fun _ => .same) (.list (.cons_right (.cons ?_ (.cons (.same _) .nil))))
  exact entryChange_fitEntry (fun _ => .same) (.list (.cons_right (.cons rfl .nil)))

/-- The fits of the bakery are repeated in reverse order, with a segment that is named twice. -/
lemma reshuffled_bakery :
    ListsChange Reshuffled bakery.asMapping
      (bakeryWith ((bakeryFits ["cs-regulars", "cs-regulars"]).reverse ++
        bakeryFits ["cs-regulars"])).asMapping := by
  have twice : EntryChange Reshuffled (fitEntry "fit-daily" ["vp-bread"] ["cs-regulars"])
      (fitEntry "fit-daily" ["vp-bread"] ["cs-regulars", "cs-regulars"]) :=
    entryChange_fitEntry (fun _ => .same) (.of_mem_iff (fun _ => rfl) (by simp))
  refine .of_set (fun _ => .same) (.list (fun v member => ?_) fun v' member => ?_)
  · exact ⟨v, List.mem_append_right _ member, .same v⟩
  · obtain member | member := List.mem_append.1 member
    · obtain rfl | member := List.mem_cons.1 (List.mem_reverse.1 member)
      · exact ⟨_, List.mem_cons_self, twice⟩
      · exact ⟨v', List.mem_cons_of_mem _ member, .same v'⟩
    · exact ⟨v', member, .same v'⟩

/-- The graph of the bakery grows with its fits, and has the same keys when these are repeated. -/
theorem build_monotone_bakery :
    (∀ id segments, (id, segments) ∈ build bakery →
      ∃ segments', (id, segments') ∈ build (bakeryWith
          (fitEntry "fit-new" ["vp-cake"] ["cs-regulars"] ::
            bakeryFits ["cs-cafes\n", "cs-regulars"])) ∧ segments ⊆ segments') ∧
    (build bakery).keys.Perm (build (bakeryWith
      ((bakeryFits ["cs-regulars", "cs-regulars"]).reverse ++ bakeryFits ["cs-regulars"]))).keys :=
  ⟨(build_monotone bakery _).1 inserted_bakery, ((build_monotone bakery _).2 reshuffled_bakery).1⟩

end BusinessModel.Graph
