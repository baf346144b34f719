import BusinessModel.Proofs.Graph
import BusinessModel.Proofs.Lint.Report

/-!
# Closed connection graphs

The linter looks references up in the index, the graph follows them through its own layers.  In a
document without errors the two agree: whatever the graph reaches is a declared segment, whatever it
knows is declared, and whatever an entry refers to is known to it.

* `Graph.mem_segments_of_serves` — only declared segments are served
* `Graph.Closed`, `Graph.build_closed` — the graph of a document that passes
-/

namespace BusinessModel.Graph

open Lint (Referent Rule Resolves)
open Lint.Typed (Refers RefError resolves_of_clean)

/-- The sections that declare entities. -/
def entitySections : List String :=
  ["customer_segments", "value_propositions", "fits", "channels", "customer_relationships",
    "revenue_streams", "key_resources", "key_activities", "key_partnerships", "costs"]

variable {doc entry : Mapping} {key relation target id s : String} {referent : Referent}
  {rule : Rule} {ref : Value} {i : Nat}

/-- Without errors fits lead to declared segments. -/
lemma mem_segments_of_throughFit (clean : ∀ f, ¬RefError doc f) (through : ThroughFit doc id s) :
    s ∈ Mapping.idsIn doc "customer_segments" := by
  obtain ⟨i, fit, place, _, named⟩ := through
  exact names_str.1 (resolves_of_clean clean .fitSegment place named)

/-- Without errors value propositions lead to declared segments. -/
lemma mem_segments_of_throughProposition (clean : ∀ f, ¬RefError doc f)
    (through : ThroughProposition doc id s) : s ∈ Mapping.idsIn doc "customer_segments" := by
  obtain ⟨key, _, entry, _, v, _, through⟩ := through
  exact mem_segments_of_throughFit clean through

/-- Wherever the graph reads segments, their references are checked. -/
lemma exists_refers_segments
    (listed : (key, relation) ∈ [("fits", "for"), ("channels", "for"),
      ("customer_relationships", "for"), ("revenue_streams", "from")]) :
    ∃ rule, Refers key relation "customer_segments" (.entity .customerSegment) rule := by
  simp only [List.mem_cons, Prod.mk.injEq, List.not_mem_nil, or_false] at listed
  obtain ⟨rfl, rfl⟩ | ⟨rfl, rfl⟩ | ⟨rfl, rfl⟩ | ⟨rfl, rfl⟩ := listed
  · exact ⟨_, .fitSegment⟩
  · exact ⟨_, .channelSegment⟩
  · exact ⟨_, .relationshipSegment⟩
  · exact ⟨_, .streamSegment⟩

/-- Without errors only declared segments are served. -/
lemma mem_segments_of_serves (clean : ∀ f, ¬RefError doc f) (serves : Serves doc id s) :
    s ∈ Mapping.idsIn doc "customer_segments" := by
  cases serves with
  | itself declared => exact mem_idsIn.2 ⟨_, declared⟩
  | fit through => exact mem_segments_of_throughFit clean through
  | named listed declared named =>
    obtain ⟨rule, refers⟩ := exists_refers_segments listed
    obtain ⟨i, place, _⟩ := declared
    exact names_str.1 (resolves_of_clean clean refers place named)
  | proposition through => exact mem_segments_of_throughProposition clean through
  | means _ _ _ _ through => exact mem_segments_of_throughProposition clean through

/-- The entities of a document are declared, or named as a value proposition by a fit. -/
lemma mem_entityIds :
    id ∈ entityIds doc ↔ (∃ key ∈ entitySections, id ∈ Mapping.idsIn doc key) ∨
      ∃ i fit, (i, fit) ∈ Mapping.entries doc "fits" ∧
        .str id ∈ Mapping.relation fit "for" "value_propositions" := by
  simp only [entityIds, entitySections, List.mem_append, List.mem_flatMap, Value.mem_texts,
    Prod.exists, List.exists_mem_cons_iff]
  rw [or_right_comm, or_assoc (a := id ∈ Mapping.idsIn doc "customer_segments")]

/-- Without errors every entity of a document is declared. -/
lemma exists_declares_of_mem_entityIds (clean : ∀ f, ¬RefError doc f)
    (member : id ∈ entityIds doc) : ∃ key ∈ entitySections, ∃ entry, Declares doc key id entry := by
  obtain ⟨key, listed, declared⟩ | ⟨i, fit, place, named⟩ := mem_entityIds.1 member
  · exact ⟨key, listed, mem_idsIn.1 declared⟩
  · -- The linter has looked up what the graph takes from the fit.
    have declared := names_str.1 (resolves_of_clean clean .fitProposition place named)
    exact ⟨"value_propositions", by simp [entitySections], mem_idsIn.1 declared⟩

/-- What a section declares is an entity of the document. -/
lemma mem_entityIds_of_names (listed : key ∈ entitySections) (names : Names doc key ref) :
    ∃ id ∈ entityIds doc, ref = .str id := by
  obtain ⟨id, declared, text⟩ := names
  exact ⟨id, mem_entityIds.2 (.inl ⟨key, listed, declared⟩), Value.str?_eq_some.1 text⟩

/-- What a reference should name is an entity of the document. -/
lemma mem_entityIds_of_resolves (refers : Refers key relation target referent rule)
    (resolves : Resolves doc referent ref) : ∃ id ∈ entityIds doc, ref = .str id := by
  cases refers
  case fitSegment | channelSegment | relationshipSegment | streamSegment =>
    exact mem_entityIds_of_names (by simp [entitySections]) resolves
  case fitProposition | channelProposition | streamProposition | resourceProposition |
      activityProposition =>
    exact mem_entityIds_of_names (by simp [entitySections]) resolves
  case partnershipResource | partnershipActivity | costResource | costActivity =>
    obtain names | names := resolves
    · exact mem_entityIds_of_names (by simp [entitySections]) names
    · exact mem_entityIds_of_names (by simp [entitySections]) names

lemma mem_keys_build {value : Value} :
    id ∈ (build value).keys ↔ id ∈ entityIds value.asMapping := by
  rw [(describes_build value).keys, IdSet.mem_ofList]

/-- The graph of a document reaches declared segments only, all its keys are declared, and every
reference that is checked is one of its keys. -/
structure Closed (value : Value) : Prop where
  reached : ∀ id segments, (id, segments) ∈ build value →
    ∀ s ∈ segments, s ∈ segmentOrder value
  declared : ∀ id ∈ (build value).keys,
    ∃ key ∈ entitySections, ∃ entry, Declares value.asMapping key id entry
  known : ∀ key relation target referent rule, Refers key relation target referent rule →
    ∀ i entry, (i, entry) ∈ Mapping.entries value.asMapping key →
      ∀ ref ∈ Mapping.relation entry relation target,
        ∃ id ∈ (build value).keys, ref = .str id

/-- The graph of a document without errors is closed. -/
theorem build_closed (value : Value)
    (passed : (Lint.run value (some .v2)).map Lint.Report.passed = .ok true) : Closed value where
  reached := by
    intro id segments row s member
    obtain ⟨_, rfl⟩ := (describes_build value).mem_iff_reached.1 row
    have serves : Serves value.asMapping id s := (describes_build value).mem.1 member
    exact IdSet.mem_ofList.2 (mem_segments_of_serves (Lint.map_passed_run.1 passed) serves)
  declared := by
    intro id member
    exact exists_declares_of_mem_entityIds (Lint.map_passed_run.1 passed) (mem_keys_build.1 member)
  known := by
    intro key relation target referent rule refers i entry place ref member
    have resolves := resolves_of_clean (Lint.map_passed_run.1 passed) refers place member
    obtain ⟨id, known, rfl⟩ := mem_entityIds_of_resolves refers resolves
    exact ⟨id, mem_keys_build.2 known, rfl⟩

/-- A named entity that refers to others under a relation. -/
def linkedEntry (id relation : String) (targets : List (String × List String)) : Value :=
  .map [(.str "id", .str id), (.str "name", .str id),
    (.str relation, .map (targets.map fun target =>
      (.str target.1, .list (target.2.map .str))))]

/-- A fit of some value propositions with some segments. -/
def fitEntry (id : String) (propositions segments : List String) : Value :=
  .map [(.str "id", .str id),
    (.str "for", .map [(.str "value_propositions", .list (propositions.map .str)),
      (.str "customer_segments", .list (segments.map .str))])]

/-- A bakery with entities of all kinds, some of them declared twice. -/
def bakery : Value :=
  .map [(.str "version", .str "2.0"),
    (.str "meta", .map [(.str "name", .str "Bakery"), (.str "portfolio", .str "exploit"),
      (.str "stage", .str "grow")]),
    (.str "customer_segments", .list [
      .map [(.str "id", .str "cs-regulars"), (.str "name", .str "Regulars")],
      .map [(.str "id", .str "cs-cafes\n"), (.str "name", .str "Cafes")]]),
    (.str "value_propositions", .list [
      .map [(.str "id", .str "vp-bread"), (.str "name", .str "Bread")],
      .map [(.str "id", .str "vp-cake"), (.str "name", .str "Cake")]]),
    (.str "fits", .list [fitEntry "fit-daily" ["vp-bread"] ["cs-regulars"],
      fitEntry "fit-daily" ["vp-bread", "vp-cake"] ["cs-cafes\n"]]),
    (.str "channels", .list [linkedEntry "ch-shop" "for"
      [("value_propositions", ["vp-bread"]), ("customer_segments", ["cs-regulars"])]]),
    (.str "customer_relationships", .list [linkedEntry "cr-card" "for"
      [("customer_segments", ["cs-regulars"])]]),
    (.str "revenue_streams", .list [linkedEntry "rs-sales" "from"
      [("customer_segments", ["cs-cafes\n"])]]),
    (.str "key_resources", .list [linkedEntry "kr-oven" "for"
      [("value_propositions", ["vp-cake"])]]),
    (.str "key_activities", .list [
      linkedEntry "ka-baking" "for" [("value_propositions", ["vp-bread"])],
      linkedEntry "ka-baking" "for" [("value_propositions", ["vp-cake"])]]),
    (.str "key_partnerships", .list [linkedEntry "kp-mill" "for"
      [("key_activities", ["ka-baking"])]]),
    (.str "costs", .list [linkedEntry "cost-power" "for"
      [("key_resources", ["kr-oven"]), ("key_activities", [])]])]

theorem build_closed_bakery :
    (Lint.run bakery (some .v2)).map Lint.Report.passed = .ok true ∧ Closed bakery :=
  ⟨rfl, build_closed bakery rfl⟩

end BusinessModel.Graph
