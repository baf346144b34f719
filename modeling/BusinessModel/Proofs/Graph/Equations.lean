import BusinessModel.Proofs.Graph.Closed
import BusinessModel.Proofs.Schema.Document

/-!
# The equations of the connection graph

The layers of the graph read tables that the graph itself does not show.  In a valid document every
identifier carries the kind of the section that declares it, and every reference that of its target.
No two layers then write to one entity, and what a layer read from a table can be read from the
graph, so that the rows of the graph are a solution of equations between them.

* `Graph.ServesAs` — what an entity of each kind serves
* `Graph.serves_iff` — with identifiers of their own, the entities of a kind serve just that
* `Graph.Solves` — the equations between the rows of a graph
* `Graph.build_solves` — the graph of a valid document solves them
-/

namespace BusinessModel.Graph

open EntityKind (ofId?)
open Grammar

variable {doc entry : Mapping} {key relation target id r s : String} {kind owner : EntityKind}
  {targets : List Typed.Target} {i : Nat} {ref : Value}

/-! ### Kinds of identifiers -/

/-- The kind of the entities that each section declares. -/
def sectionKinds : List (String × EntityKind) :=
  [("customer_segments", .customerSegment), ("value_propositions", .valueProposition),
    ("fits", .fit), ("channels", .channel), ("customer_relationships", .customerRelationship),
    ("revenue_streams", .revenueStream), ("key_resources", .keyResource),
    ("key_activities", .keyActivity), ("key_partnerships", .keyPartnership), ("costs", .cost)]

/-- The entries of each section are identified by the kind of the section. -/
lemma exists_entryFields (listed : (key, kind) ∈ sectionKinds) :
    ∃ fields, (key, fields) ∈ entryFields .v2 ∧ needs "id" (IsId kind) ∈ fields := by
  have all : ∀ row ∈ sectionKinds, ∃ described ∈ entryFields .v2,
      described.1 = row.1 ∧ needs "id" (IsId row.2) ∈ described.2 := by
    simp [sectionKinds, entryFields, Typed.customerSegment, Typed.valueProposition, Typed.fit,
      Typed.linked]
  obtain ⟨⟨_, fields⟩, member, rfl, identified⟩ := all _ listed
  exact ⟨fields, member, identified⟩

lemma ofId?_of_isId (spelled : IsId kind (.str id)) : ofId? id = some kind := by
  obtain ⟨_, same, spells⟩ := spelled.exists_ofId?
  cases same
  exact spells

/-- A declared identifier has the kind of its section. -/
lemma ofId?_of_declares (h : Conforms (documentFields .v2) doc)
    (listed : (key, kind) ∈ sectionKinds) (declared : Declares doc key id entry) :
    ofId? id = some kind := by
  obtain ⟨fields, described, identified⟩ := exists_entryFields listed
  exact h.ofId?_of_declares (mem_documentFields described) identified declared

/-- Entries have identifiers. -/
lemma exists_declares (h : Conforms (documentFields .v2) doc)
    (listed : (key, kind) ∈ sectionKinds) (place : (i, entry) ∈ Mapping.entries doc key) :
    ∃ id, Declares doc key id entry := by
  obtain ⟨fields, described, identified⟩ := exists_entryFields listed
  obtain ⟨id, found, _⟩ :=
    (h.conforms_of_mem_entries (mem_documentFields described) place).form_get identified
  exact ⟨id, i, place, Value.str?_eq_some.2 found⟩

/-- What the fits refer to. -/
def fitTargets : List Typed.Target :=
  [("value_propositions", .valueProposition), ("customer_segments", .customerSegment)]

/-- A fit refers to identifiers of the kind of the target. -/
lemma isId_of_fit (h : Conforms (documentFields .v2) doc) (aimed : (target, kind) ∈ fitTargets)
    (place : (i, entry) ∈ Mapping.entries doc "fits")
    (refers : ref ∈ Mapping.relation entry "for" target) : IsId kind ref := by
  have isFit : ("fits", Typed.fit) ∈ entryFields .v2 := by simp [entryFields]
  have relates : needs "for" (IsRecord Typed.fitReferences) ∈ Typed.fit := by simp [Typed.fit]
  have lists : needs target (IsListOf (IsId kind)) ∈ Typed.fitReferences := by
    simp only [fitTargets, List.mem_cons, Prod.mk.injEq, List.not_mem_nil, or_false] at aimed
    obtain ⟨rfl, rfl⟩ | ⟨rfl, rfl⟩ := aimed <;> simp [Typed.fitReferences]
  exact (h.conforms_of_mem_entries (mem_documentFields isFit) place).form_of_mem_relation relates
    lists refers

/-- A value proposition that a fit names has its kind. -/
lemma ofId?_of_fit (h : Conforms (documentFields .v2) doc)
    (place : (i, entry) ∈ Mapping.entries doc "fits")
    (named : .str id ∈ Mapping.relation entry "for" "value_propositions") :
    ofId? id = some .valueProposition :=
  ofId?_of_isId (isId_of_fit h List.mem_cons_self place named)

/-- What a linked entity refers to has the kind of the target. -/
lemma ofId?_of_linked (h : Conforms (documentFields .v2) doc)
    (listed : (key, Typed.linked owner [("for", targets)]) ∈ entryFields .v2)
    (aimed : (target, kind) ∈ targets) (declared : Declares doc key id entry)
    (refers : .str r ∈ Mapping.relation entry "for" target) : ofId? r = some kind := by
  obtain ⟨i, place, _⟩ := declared
  have relates : may "for" (IsRecord (Typed.references targets)) ∈
      Typed.linked owner [("for", targets)] := by simp [Typed.linked]
  have lists : may target (IsListOf (IsId kind)) ∈ Typed.references targets :=
    List.mem_map.2 ⟨_, aimed, rfl⟩
  exact ofId?_of_isId
    ((h.conforms_of_mem_entries (mem_documentFields listed) place).form_of_mem_relation relates
      lists refers)

/-- Resources and activities refer to value propositions. -/
lemma ofId?_of_means (h : Conforms (documentFields .v2) doc)
    (listed : key ∈ ["key_resources", "key_activities"]) (declared : Declares doc key id entry)
    (refers : .str r ∈ Mapping.relation entry "for" "value_propositions") :
    ofId? r = some .valueProposition := by
  have linked : ∃ owner, (key, Typed.linked owner [("for", [Typed.toPropositions])]) ∈
      entryFields .v2 := by
    simp only [List.mem_cons, List.not_mem_nil, or_false] at listed
    obtain rfl | rfl := listed
    · exact ⟨.keyResource, by simp [entryFields]⟩
    · exact ⟨.keyActivity, by simp [entryFields]⟩
  obtain ⟨owner, linked⟩ := linked
  exact ofId?_of_linked h linked List.mem_cons_self declared refers

/-- Partnerships and costs refer to resources and activities. -/
lemma ofId?_of_support (h : Conforms (documentFields .v2) doc)
    (listed : key ∈ ["key_partnerships", "costs"])
    (aimed : target ∈ ["key_resources", "key_activities"]) (declared : Declares doc key id entry)
    (refers : .str r ∈ Mapping.relation entry "for" target) :
    ofId? r = some .keyResource ∨ ofId? r = some .keyActivity := by
  have linked : ∃ owner, (key, Typed.linked owner
      [("for", [Typed.toResources, Typed.toActivities])]) ∈ entryFields .v2 := by
    simp only [List.mem_cons, List.not_mem_nil, or_false] at listed
    obtain rfl | rfl := listed
    · exact ⟨.keyPartnership, by simp [entryFields]⟩
    · exact ⟨.cost, by simp [entryFields]⟩
  obtain ⟨owner, linked⟩ := linked
  simp only [List.mem_cons, List.not_mem_nil, or_false] at aimed
  obtain rfl | rfl := aimed
  · exact .inl (ofId?_of_linked h linked (by simp [Typed.toResources]) declared refers)
  · exact .inr (ofId?_of_linked h linked (by simp [Typed.toActivities]) declared refers)

/-! ### What entities of a kind serve -/

/-- The entries of a section that declare an identifier name a segment. -/
def Named (doc : Mapping) (key relation id s : String) : Prop :=
  ∃ entry, Declares doc key id entry ∧
    .str s ∈ Mapping.relation entry relation "customer_segments"

/-- A partnership or a cost leads to the segments of its resources and activities. -/
def ThroughMeans (doc : Mapping) (id s : String) : Prop :=
  ∃ key ∈ ["key_partnerships", "costs"], ∃ entry, Declares doc key id entry ∧
    ∃ target ∈ ["key_resources", "key_activities"], ∃ r,
      .str r ∈ Mapping.relation entry "for" target ∧ ThroughProposition doc r s

/-- What an entity of each kind serves. -/
def ServesAs (doc : Mapping) : EntityKind → String → String → Prop
  | .customerSegment, id, s => id ∈ Mapping.idsIn doc "customer_segments" ∧ s = id
  | .valueProposition, id, s => ThroughFit doc id s
  | .fit, id, s => Named doc "fits" "for" id s
  | .channel, id, s => Named doc "channels" "for" id s
  | .customerRelationship, id, s => Named doc "customer_relationships" "for" id s
  | .revenueStream, id, s => Named doc "revenue_streams" "from" id s
  | .keyResource, id, s | .keyActivity, id, s => ThroughProposition doc id s
  | .keyPartnership, id, s | .cost, id, s => ThroughMeans doc id s
  | _, _, _ => False

lemma ServesAs.serves (serves : ServesAs doc kind id s) : Serves doc id s := by
  have named : ∀ {key relation}, (key, relation) ∈ segmentSections →
      Named doc key relation id s → Serves doc id s := by
    rintro key relation listed ⟨entry, declared, named⟩
    exact .named listed declared named
  have means : ThroughMeans doc id s → Serves doc id s := by
    rintro ⟨key, listed, entry, declared, target, aimed, r, refers, through⟩
    exact .means listed aimed declared refers through
  cases kind with
  | customerSegment =>
    obtain ⟨declared, rfl⟩ := serves
    obtain ⟨entry, declared⟩ := mem_idsIn.1 declared
    exact .itself declared
  | valueProposition => exact .fit serves
  | fit => exact named (by simp [segmentSections]) serves
  | channel => exact named (by simp [segmentSections]) serves
  | customerRelationship => exact named (by simp [segmentSections]) serves
  | revenueStream => exact named (by simp [segmentSections]) serves
  | keyResource | keyActivity => exact .proposition serves
  | keyPartnership | cost => exact means serves
  | productService | job | pain | gain | painReliever | gainCreator => exact serves.elim

/-- Whatever serves a segment does so as an entity of the kind that its identifier tells. -/
lemma exists_servesAs (h : Conforms (documentFields .v2) doc) (serves : Serves doc id s) :
    ∃ kind, ofId? id = some kind ∧ ServesAs doc kind id s := by
  cases serves with
  | itself declared =>
    exact ⟨.customerSegment, ofId?_of_declares h (by simp [sectionKinds]) declared,
      mem_idsIn.2 ⟨_, declared⟩, rfl⟩
  | fit through =>
    obtain ⟨i, fit, place, named, reaches⟩ := through
    exact ⟨.valueProposition, ofId?_of_fit h place named, i, fit, place, named, reaches⟩
  | @named key relation _ entry _ listed declared named =>
    have named : Named doc key relation id s := ⟨entry, declared, named⟩
    simp only [List.mem_cons, Prod.mk.injEq, List.not_mem_nil, or_false] at listed
    obtain ⟨rfl, rfl⟩ | ⟨rfl, rfl⟩ | ⟨rfl, rfl⟩ | ⟨rfl, rfl⟩ := listed
    · exact ⟨.fit, ofId?_of_declares h (by simp [sectionKinds]) declared, named⟩
    · exact ⟨.channel, ofId?_of_declares h (by simp [sectionKinds]) declared, named⟩
    · exact ⟨.customerRelationship, ofId?_of_declares h (by simp [sectionKinds]) declared, named⟩
    · exact ⟨.revenueStream, ofId?_of_declares h (by simp [sectionKinds]) declared, named⟩
  | proposition through =>
    obtain ⟨key, listed, entry, declared, reaches⟩ := through
    have through : ThroughProposition doc id s := ⟨key, listed, entry, declared, reaches⟩
    simp only [List.mem_cons, List.not_mem_nil, or_false] at listed
    obtain rfl | rfl := listed
    · exact ⟨.keyResource, ofId?_of_declares h (by simp [sectionKinds]) declared, through⟩
    · exact ⟨.keyActivity, ofId?_of_declares h (by simp [sectionKinds]) declared, through⟩
  | @means key target _ entry r _ listed aimed declared refers through =>
    have means : ThroughMeans doc id s :=
      ⟨key, listed, entry, declared, target, aimed, r, refers, through⟩
    simp only [List.mem_cons, List.not_mem_nil, or_false] at listed
    obtain rfl | rfl := listed
    · exact ⟨.keyPartnership, ofId?_of_declares h (by simp [sectionKinds]) declared, means⟩
    · exact ⟨.cost, ofId?_of_declares h (by simp [sectionKinds]) declared, means⟩

/-- An entity serves what entities of its kind do. -/
lemma serves_iff (h : Conforms (documentFields .v2) doc) (spelled : ofId? id = some kind) :
    Serves doc id s ↔ ServesAs doc kind id s := by
  refine ⟨?_, ServesAs.serves⟩
  intro serves
  -- An identifier tells one kind, so no other layer has written to this entity.
  obtain ⟨kind', spelled', serves⟩ := exists_servesAs h serves
  cases spelled.symm.trans spelled'
  exact serves

/-! ### Equations -/

/-- A graph has a row for an entity, and the row holds each of some segments once. -/
def HasRow (g : Graph) (id : String) (holds : String → Prop) : Prop :=
  ∃ segments, g.get? id = some segments ∧ segments.Nodup ∧ ∀ s, s ∈ segments ↔ holds s

/-- The rows of a graph are a solution of the equations of a document: a segment serves itself, a
value proposition the segments of all fits that name it, a resource or an activity what its value
propositions serve in the graph, a partnership or a cost what its resources and activities serve in
the graph, and all others the segments that their entries name. -/
structure Solves (doc : Mapping) (g : Graph) : Prop where
  segment : ∀ id ∈ Mapping.idsIn doc "customer_segments",
    g.get? id = some [id] ∧ g.isOrphaned id = false ∧ id ∉ g.orphaned
  proposition : ∀ id, (id ∈ Mapping.idsIn doc "value_propositions" ∨
      ∃ i fit, (i, fit) ∈ Mapping.entries doc "fits" ∧
        .str id ∈ Mapping.relation fit "for" "value_propositions") →
    HasRow g id fun s => ∃ i fit, (i, fit) ∈ Mapping.entries doc "fits" ∧
      .str id ∈ Mapping.relation fit "for" "value_propositions" ∧
        .str s ∈ Mapping.relation fit "for" "customer_segments"
  means : ∀ id, (∃ key ∈ ["key_resources", "key_activities"], id ∈ Mapping.idsIn doc key) →
    HasRow g id fun s => ∃ key ∈ ["key_resources", "key_activities"],
      ∃ entry, Declares doc key id entry ∧
        ∃ v, .str v ∈ Mapping.relation entry "for" "value_propositions" ∧ s ∈ g.reached v
  support : ∀ id, (∃ key ∈ ["key_partnerships", "costs"], id ∈ Mapping.idsIn doc key) →
    HasRow g id fun s => ∃ key ∈ ["key_partnerships", "costs"],
      ∃ entry, Declares doc key id entry ∧ ∃ target ∈ ["key_resources", "key_activities"],
        ∃ r, .str r ∈ Mapping.relation entry "for" target ∧ s ∈ g.reached r
  named : ∀ key relation, (key, relation) ∈ segmentSections → ∀ id ∈ Mapping.idsIn doc key,
    HasRow g id fun s => ∃ entry, Declares doc key id entry ∧
      .str s ∈ Mapping.relation entry relation "customer_segments"

lemma HasRow.congr {g : Graph} {holds other : String → Prop} (row : HasRow g id holds)
    (same : ∀ s, holds s ↔ other s) : HasRow g id other := by
  obtain ⟨segments, found, nodup, mem⟩ := row
  exact ⟨segments, found, nodup, fun s => (mem s).trans (same s)⟩

/-- The row of an entity that serves nothing but itself. -/
lemma HasRow.get?_eq {g : Graph} (row : HasRow g id (· = id)) : g.get? id = some [id] := by
  obtain ⟨segments, found, nodup, mem⟩ := row
  have same : segments.Perm [id] := by
    rw [List.perm_ext_iff_of_nodup nodup (List.nodup_singleton id)]
    simpa using mem
  rw [found, List.perm_singleton.1 same]

variable {value : Value}

lemma hasRow_build (known : id ∈ entityIds value.asMapping) :
    HasRow (build value) id (Serves value.asMapping id) := by
  have described := describes_build value
  have some_row : ((build value).get? id).isSome := by
    rw [Table.isSome_get?, described.keys]
    exact IdSet.mem_ofList.2 known
  obtain ⟨segments, found⟩ := Option.isSome_iff_exists.1 some_row
  have reached : (build value).reached id = segments := by
    rw [reached, found]
    rfl
  exact ⟨segments, found, reached ▸ described.nodup id, fun s => reached ▸ described.mem⟩

/-- In a valid document, an entity has the row of its kind. -/
lemma hasRow_servesAs (h : Conforms (documentFields .v2) value.asMapping)
    (known : id ∈ entityIds value.asMapping) (spelled : ofId? id = some kind) :
    HasRow (build value) id (ServesAs value.asMapping kind id) :=
  (hasRow_build known).congr fun _ => serves_iff h spelled

lemma mem_entityIds_of_mem_idsIn (listed : (key, kind) ∈ sectionKinds)
    (declared : id ∈ Mapping.idsIn doc key) : id ∈ entityIds doc := by
  have all : ∀ row ∈ sectionKinds, row.1 ∈ entitySections := by decide
  exact mem_entityIds.2 (.inl ⟨key, all _ listed, declared⟩)

/-- In a valid document, a declared entity has the row of the kind of its section. -/
lemma hasRow_of_declared (h : Conforms (documentFields .v2) value.asMapping) (kind : EntityKind)
    (listed : (key, kind) ∈ sectionKinds) (declared : id ∈ Mapping.idsIn value.asMapping key) :
    HasRow (build value) id (ServesAs value.asMapping kind id) := by
  obtain ⟨entry, declares⟩ := mem_idsIn.1 declared
  exact hasRow_servesAs h (mem_entityIds_of_mem_idsIn listed declared)
    (ofId?_of_declares h listed declares)

/-- In a valid document, the graph tells what an entity of a kind serves. -/
lemma mem_reached_iff (h : Conforms (documentFields .v2) value.asMapping)
    (spelled : ofId? id = some kind) :
    s ∈ (build value).reached id ↔ ServesAs value.asMapping kind id s :=
  (describes_build value).mem.trans (serves_iff h spelled)

lemma notMem_orphaned (row : (build value).get? id = some [s]) : id ∉ (build value).orphaned := by
  intro orphaned
  obtain ⟨⟨_, segments⟩, member, rfl⟩ := List.mem_map.1 orphaned
  obtain ⟨place, empty⟩ := List.mem_filter.1 member
  have distinct : (build value).keys.Nodup := (describes_build value).keys ▸ IdSet.nodup_ofList
  cases row.symm.trans ((Table.mem_iff_get? distinct).1 place)
  cases empty

/-- Resources and activities serve what the graph has for their value propositions. -/
lemma throughProposition_iff (h : Conforms (documentFields .v2) value.asMapping) :
    ThroughProposition value.asMapping id s ↔ ∃ key ∈ ["key_resources", "key_activities"],
      ∃ entry, Declares value.asMapping key id entry ∧
        ∃ v, .str v ∈ Mapping.relation entry "for" "value_propositions" ∧
          s ∈ (build value).reached v := by
  refine ⟨?_, ?_⟩
  · rintro ⟨key, listed, entry, declared, v, refers, through⟩
    have reached := (mem_reached_iff h (ofId?_of_means h listed declared refers)).2 through
    exact ⟨key, listed, entry, declared, v, refers, reached⟩
  · rintro ⟨key, listed, entry, declared, v, refers, reached⟩
    have through := (mem_reached_iff h (ofId?_of_means h listed declared refers)).1 reached
    exact ⟨key, listed, entry, declared, v, refers, through⟩

/-- Partnerships and costs serve what the graph has for their resources and activities. -/
lemma throughMeans_iff (h : Conforms (documentFields .v2) value.asMapping) :
    ThroughMeans value.asMapping id s ↔ ∃ key ∈ ["key_partnerships", "costs"],
      ∃ entry, Declares value.asMapping key id entry ∧
        ∃ target ∈ ["key_resources", "key_activities"],
          ∃ r, .str r ∈ Mapping.relation entry "for" target ∧ s ∈ (build value).reached r := by
  -- Resources and activities serve in one way, whichever of the two a reference names.
  have means : ∀ {r}, ofId? r = some .keyResource ∨ ofId? r = some .keyActivity →
      (s ∈ (build value).reached r ↔ ThroughProposition value.asMapping r s) := by
    rintro r (spelled | spelled)
    · exact mem_reached_iff h spelled
    · exact mem_reached_iff h spelled
  refine ⟨?_, ?_⟩
  · rintro ⟨key, listed, entry, declared, target, aimed, r, refers, through⟩
    have reached := (means (ofId?_of_support h listed aimed declared refers)).2 through
    exact ⟨key, listed, entry, declared, target, aimed, r, refers, reached⟩
  · rintro ⟨key, listed, entry, declared, target, aimed, r, refers, reached⟩
    have through := (means (ofId?_of_support h listed aimed declared refers)).1 reached
    exact ⟨key, listed, entry, declared, target, aimed, r, refers, through⟩

/-- The graph of a valid document solves the equations of the document. -/
theorem build_solves (value : Value) (accepted : Validation.Accepts value (some .v2)) :
    Solves value.asMapping (build value) := by
  have h : Conforms (documentFields .v2) value.asMapping := by
    obtain ⟨doc, rfl, conforms⟩ : IsDocument .v2 value := Validation.accepts_iff.1 accepted
    exact conforms
  refine ⟨?segment, ?proposition, ?means, ?support, ?named⟩
  case segment =>
    intro id declared
    have row : HasRow (build value) id (· = id) :=
      (hasRow_of_declared h .customerSegment (by simp [sectionKinds]) declared).congr fun s =>
        and_iff_right declared
    refine ⟨row.get?_eq, ?_, notMem_orphaned row.get?_eq⟩
    rw [isOrphaned, reached, row.get?_eq]
    rfl
  case proposition =>
    -- A fit can name a value proposition that is not declared; its kind is known all the same.
    rintro id (declared | ⟨i, fit, place, named⟩)
    · exact hasRow_of_declared h .valueProposition (by simp [sectionKinds]) declared
    · exact hasRow_servesAs h (mem_entityIds.2 (.inr ⟨i, fit, place, named⟩))
        (ofId?_of_fit h place named)
  case means =>
    rintro id ⟨key, listed, declared⟩
    have row : HasRow (build value) id (ThroughProposition value.asMapping id) := by
      simp only [List.mem_cons, List.not_mem_nil, or_false] at listed
      obtain rfl | rfl := listed
      · exact hasRow_of_declared h .keyResource (by simp [sectionKinds]) declared
      · exact hasRow_of_declared h .keyActivity (by simp [sectionKinds]) declared
    exact row.congr fun s => throughProposition_iff h
  case support =>
    rintro id ⟨key, listed, declared⟩
    have row : HasRow (build value) id (ThroughMeans value.asMapping id) := by
      simp only [List.mem_cons, List.not_mem_nil, or_false] at listed
      obtain rfl | rfl := listed
      · exact hasRow_of_declared h .keyPartnership (by simp [sectionKinds]) declared
      · exact hasRow_of_declared h .cost (by simp [sectionKinds]) declared
    exact row.congr fun s => throughMeans_iff h
  case named =>
    intro key relation listed id declared
    simp only [segmentSections, List.mem_cons, Prod.mk.injEq, List.not_mem_nil, or_false] at listed
    obtain ⟨rfl, rfl⟩ | ⟨rfl, rfl⟩ | ⟨rfl, rfl⟩ | ⟨rfl, rfl⟩ := listed
    · exact hasRow_of_declared h .fit (by simp [sectionKinds]) declared
    · exact hasRow_of_declared h .channel (by simp [sectionKinds]) declared
    · exact hasRow_of_declared h .customerRelationship (by simp [sectionKinds]) declared
    · exact hasRow_of_declared h .revenueStream (by simp [sectionKinds]) declared

theorem build_solves_bakery :
    Validation.Accepts bakery (some .v2) ∧ Solves bakery.asMapping (build bakery) := by
  have accepted : Validation.Accepts bakery (some .v2) := Validation.accepts_iff_isValid.2 rfl
  exact ⟨accepted, build_solves bakery accepted⟩

end BusinessModel.Graph
