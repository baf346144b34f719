import BusinessModel.Proofs.Graph.Closed
import BusinessModel.Proofs.Lint.Located
import BusinessModel.Proofs.Schema.Document

/-!
# Valid documents under the linter

The linter reads documents tolerantly: it takes what is ill-typed for empty, skips entries that are
no mappings, and accepts a resource wherever it accepts an activity.  In a valid document nothing is
ill-typed and nothing is skipped, every reference has the kind that its position demands, and a
resource or an activity is looked up in the section of its own kind after all.

* `Lint.EntryList`, `Lint.ReferenceList`, `Lint.Nested` — what the linter reads
* `Lint.Lossless` — a report that has missed nothing
* `Lint.run_lossless` — the report of a valid document
-/

namespace BusinessModel.Lint

open Grammar

/-! ### What the linter reads -/

/-- The lists of items that value propositions declare. -/
def valueMapLists : Generation → List String
  | .v1 => ["products_services"]
  | .v2 => ["products_services", "pain_relievers", "gain_creators"]

/-- The lists of entries in a document: the mapping around each, its key, and whether its entries
have identifiers. -/
inductive EntryList (doc : Mapping) : Generation → Mapping → String → Bool → Prop where
  | entities {g key} : key ∈ (entryFields g).map (·.1) → EntryList doc g doc key true
  | profile {g i segment key} :
    (i, segment) ∈ Mapping.entries doc "customer_segments" →
    key ∈ ["jobs", "pains", "gains"] →
    EntryList doc g segment key true
  | valueMap {g i proposition key} :
    (i, proposition) ∈ Mapping.entries doc "value_propositions" →
    key ∈ valueMapLists g →
    EntryList doc g proposition key true
  | fit {i fit key target kind field rule} :
    Flat.FitItem key target kind field rule →
    (i, fit) ∈ Mapping.entries doc "fits" →
    EntryList doc .v1 fit key false
  | cost {costs} :
    Mapping.get? doc "cost_structure" = some (.map costs) →
    EntryList doc .v1 costs "major_costs" false

/-- The lists of references in a document, and those of the mappings of its fits. -/
inductive ReferenceList (doc : Mapping) : Generation → Mapping → String → Prop where
  | listed {key field referent rule i entry} :
    Flat.Refers key field referent rule →
    (i, entry) ∈ Mapping.entries doc key →
    ReferenceList doc .v1 entry field
  | cost {costs i entry} :
    Mapping.get? doc "cost_structure" = some (.map costs) →
    (i, entry) ∈ Mapping.entries costs "major_costs" →
    ReferenceList doc .v1 entry "linked_to"
  | through {key target kind field rule i fit k entry} :
    Flat.FitItem key target kind field rule →
    (i, fit) ∈ Mapping.entries doc "fits" →
    (k, entry) ∈ Mapping.entries fit key →
    ReferenceList doc .v1 entry "through"
  | linked {key relation target referent rule i entry targets} :
    Typed.Refers key relation target referent rule →
    (i, entry) ∈ Mapping.entries doc key →
    Mapping.get? entry relation = some (.map targets) →
    ReferenceList doc .v2 targets target
  | mappings {i fit} :
    (i, fit) ∈ Mapping.entries doc "fits" →
    ReferenceList doc .v2 fit "mappings"

/-- The fields around lists that should hold a mapping. -/
inductive Nested (doc : Mapping) : Generation → Mapping → String → Prop where
  | cost : Nested doc .v1 doc "cost_structure"
  | relation {key relation target referent rule i entry} :
    Typed.Refers key relation target referent rule →
    (i, entry) ∈ Mapping.entries doc key →
    Nested doc .v2 entry relation

/-! ### What it should find -/

/-- A list of entries is read in full: it is a list, and each of its items is an entry at its own
index, with an identifier where it should have one. -/
structure Visited (m : Mapping) (key : String) (identified : Bool) : Prop where
  list : ∀ v, Mapping.get? m key = some v → v.isList = true
  entry : ∀ i item, (Mapping.get m key).asList[i]? = some item →
    ∃ entry, item = .map entry ∧ (i, entry) ∈ Mapping.entries m key ∧
      (identified = true → ∃ id, Mapping.id? entry = some id)

/-- The kinds that the identifiers at a position may have. -/
inductive Demands : Referent → EntityKind → Prop where
  | entity {kind} : Demands (.entity kind) kind
  | resource : Demands .resourceOrActivity .keyResource
  | activity : Demands .resourceOrActivity .keyActivity

/-- The sections of resources and of activities. -/
inductive MeansSection : EntityKind → String → Prop where
  | resource : MeansSection .keyResource "key_resources"
  | activity : MeansSection .keyActivity "key_activities"

/-- A report that has missed nothing: what the linter reads is as it should be, so that no entry is
skipped; every reference has a kind that its position demands; and a reference to a resource or an
activity is reported if and only if the section of its own kind does not declare it. -/
structure Lossless (doc : Mapping) (g : Generation) (r : Report) : Prop where
  visited : ∀ m key identified, EntryList doc g m key identified → Visited m key identified
  lists : ∀ m key v, ReferenceList doc g m key → Mapping.get? m key = some v → v.isList = true
  nested : ∀ m key v, Nested doc g m key → Mapping.get? m key = some v → v.isMapping = true
  pairs : ∀ issue ∈ r.issues, issue.rule ≠ Rule.fitMappingMalformed.id
  errors : ∀ issue ∈ r.errors, ∃ rule place, issue.rule = rule.id ∧ issue.path = place.text ∧
    ((∃ referent ref, Reference doc g rule place referent ref) ∨
      g = .v2 ∧ ∃ i k side, place = mappingPlace i k ++ side)
  kinds : ∀ rule place referent ref, Reference doc g rule place referent ref →
    ∃ id kind, ref = .str id ∧ EntityKind.ofId? id = some kind ∧ Demands referent kind
  means : ∀ rule place id, Reference doc g rule place .resourceOrActivity (.str id) →
    ∃ kind key, EntityKind.ofId? id = some kind ∧ MeansSection kind key ∧
      ((∃ issue ∈ r.issues, issue.rule = rule.id ∧ issue.path = place.text) ↔
        id ∉ Mapping.idsIn doc key)

variable {doc m entry fit : Mapping} {value mapping ref : Value} {g : Generation} {f : Finding}
  {key field relation target id : String} {rule : Rule} {place : Pointer} {referent : Referent}
  {kind : EntityKind} {identified : Bool} {fields inner : List Field} {needed : Bool}
  {form : Value → Prop} {i j : Nat}

/-! ### Reading valid documents -/

/-- What stands at a position, by what it should name. -/
def referentForm : Referent → Value → Prop
  | .entity kind => IsId kind
  | .resourceOrActivity => IsMeansId

lemma exists_demands (h : referentForm referent ref) :
    ∃ id kind, ref = .str id ∧ EntityKind.ofId? id = some kind ∧ Demands referent kind := by
  cases referent with
  | entity kind =>
    obtain ⟨id, text, spelled⟩ := IsId.exists_ofId? h
    exact ⟨id, kind, text, spelled, .entity⟩
  | resourceOrActivity =>
    obtain resource | activity := h
    · obtain ⟨id, text, spelled⟩ := resource.exists_ofId?
      exact ⟨id, _, text, spelled, .resource⟩
    · obtain ⟨id, text, spelled⟩ := activity.exists_ofId?
      exact ⟨id, _, text, spelled, .activity⟩

/-- A list of records is read in full. -/
lemma visited_of_conforms (h : Conforms fields m)
    (listed : ⟨key, needed, IsListOfRecords inner⟩ ∈ fields)
    (named : identified = true → ∃ kind, needs "id" (IsId kind) ∈ inner) :
    Visited m key identified where
  list := by
    intro v found
    obtain ⟨xs, rfl, _⟩ := h.form _ listed v found
    rfl
  entry := by
    intro i item position
    obtain ⟨entry, rfl, conforms⟩ := h.form_of_mem_asList listed (List.mem_of_getElem? position)
    refine ⟨entry, rfl, mem_entries.2 position, ?_⟩
    intro isIdentified
    obtain ⟨kind, identifies⟩ := named isIdentified
    obtain ⟨id, text, _⟩ := (conforms.form_get identifies).exists_ofId?
    exact ⟨id, Value.str?_eq_some.2 text⟩

/-- The entries of every section begin with their identifiers. -/
lemma exists_id_of_mem_entryFields (listed : (key, fields) ∈ entryFields g) :
    ∃ kind, needs "id" (IsId kind) ∈ fields := by
  have first : ∀ {kind : EntityKind} {rest : List Field},
      ∃ kind', needs "id" (IsId kind') ∈ needs "id" (IsId kind) :: rest :=
    ⟨_, List.mem_cons_self⟩
  have all : ∀ row ∈ entryFields g, ∃ kind, needs "id" (IsId kind) ∈ row.2 := by
    cases g with
    | v1 =>
      simp only [entryFields, List.forall_mem_cons]
      exact ⟨first, first, first, first, first, first, first, first, first, List.forall_mem_nil _⟩
    | v2 =>
      simp only [entryFields, List.forall_mem_cons]
      exact ⟨first, first, first, first, first, first, first, first, first, first,
        List.forall_mem_nil _⟩
  exact all _ listed

/-- The items of customer profiles. -/
lemma exists_profile_fields (g : Generation) (listed : key ∈ ["jobs", "pains", "gains"]) :
    ∃ fields inner kind, ("customer_segments", fields) ∈ entryFields g ∧
      may key (IsListOfRecords inner) ∈ fields ∧ needs "id" (IsId kind) ∈ inner := by
  simp only [List.mem_cons, List.not_mem_nil, or_false] at listed
  cases g with
  | v1 =>
    refine ⟨Flat.customerSegment, ?_⟩
    obtain rfl | rfl | rfl := listed
    · exact ⟨Flat.job, .job, by simp [entryFields, Flat.customerSegment, Flat.job]⟩
    · exact ⟨Flat.pain, .pain, by simp [entryFields, Flat.customerSegment, Flat.pain]⟩
    · exact ⟨Flat.gain, .gain, by simp [entryFields, Flat.customerSegment, Flat.gain]⟩
  | v2 =>
    refine ⟨Typed.customerSegment, ?_⟩
    obtain rfl | rfl | rfl := listed
    · exact ⟨Typed.profileItem .job, .job,
        by simp [entryFields, Typed.customerSegment, Typed.profileItem]⟩
    · exact ⟨Typed.profileItem .pain, .pain,
        by simp [entryFields, Typed.customerSegment, Typed.profileItem]⟩
    · exact ⟨Typed.profileItem .gain, .gain,
        by simp [entryFields, Typed.customerSegment, Typed.profileItem]⟩

/-- The items of value maps. -/
lemma exists_valueMap_fields (listed : key ∈ valueMapLists g) :
    ∃ fields inner kind, ("value_propositions", fields) ∈ entryFields g ∧
      may key (IsListOfRecords inner) ∈ fields ∧ needs "id" (IsId kind) ∈ inner := by
  cases g with
  | v1 =>
    cases List.mem_singleton.1 listed
    exact ⟨Flat.valueProposition, Flat.productService, .productService,
      by simp [entryFields, Flat.valueProposition, Flat.productService]⟩
  | v2 =>
    refine ⟨Typed.valueProposition, ?_⟩
    simp only [valueMapLists, List.mem_cons, List.not_mem_nil, or_false] at listed
    obtain rfl | rfl | rfl := listed
    · exact ⟨Typed.valueMapItem .productService, .productService,
        by simp [entryFields, Typed.valueProposition, Typed.valueMapItem]⟩
    · exact ⟨Typed.valueMapItem .painReliever, .painReliever,
        by simp [entryFields, Typed.valueProposition, Typed.valueMapItem]⟩
    · exact ⟨Typed.valueMapItem .gainCreator, .gainCreator,
        by simp [entryFields, Typed.valueProposition, Typed.valueMapItem]⟩

/-- The lists of a fit of the first generation. -/
lemma Flat.FitItem.mem_fields {kind : EntityKind} (item : FitItem key target kind field rule) :
    may key (IsListOfRecords (Flat.fitItem target kind)) ∈ Flat.fit := by
  cases item <;> simp [Flat.fit]

/-- The lists of references in entries of the first generation. -/
lemma Flat.Refers.exists_fields (refers : Refers key field referent rule) :
    ∃ fields, (key, fields) ∈ entryFields .v1 ∧
      may field (IsListOf (referentForm referent)) ∈ fields := by
  cases refers with
  | channelSegment => exact ⟨Flat.channel, by simp [entryFields, Flat.channel, referentForm]⟩
  | streamSegment =>
    exact ⟨Flat.revenueStream, by simp [entryFields, Flat.revenueStream, referentForm]⟩
  | resourceProposition =>
    exact ⟨Flat.keyResource, by simp [entryFields, Flat.keyResource, referentForm]⟩
  | activityProposition =>
    exact ⟨Flat.keyActivity, by simp [entryFields, Flat.keyActivity, referentForm]⟩
  | partnershipMeans =>
    exact ⟨Flat.keyPartnership, by simp [entryFields, Flat.keyPartnership, referentForm]⟩

/-- The single references in entries of the first generation. -/
lemma Flat.RefersOnce.exists_fields (refers : RefersOnce key field referent rule) :
    ∃ fields, (key, fields) ∈ entryFields .v1 ∧ needs field (referentForm referent) ∈ fields := by
  cases refers with
  | fitProposition | fitSegment => exact ⟨Flat.fit, by simp [entryFields, Flat.fit, referentForm]⟩
  | relationshipSegment =>
    exact ⟨Flat.customerRelationship,
      by simp [entryFields, Flat.customerRelationship, referentForm]⟩

/-- The lists of references under the relations of entries of the second generation. -/
lemma Typed.Refers.exists_fields (refers : Refers key relation target referent rule) :
    ∃ fields targets kind needed needed', (key, fields) ∈ entryFields .v2 ∧
      ⟨relation, needed, IsRecord targets⟩ ∈ fields ∧
        ⟨target, needed', IsListOf (IsId kind)⟩ ∈ targets ∧ Demands referent kind := by
  -- All sections but that of fits describe linked entities.
  have linked : ∀ (row : Nat) {owner relations targets kind},
      (entryFields .v2)[row]? = some (key, Grammar.Typed.linked owner relations) →
      (relation, targets) ∈ relations → (target, kind) ∈ targets → Demands referent kind →
      ∃ fields targets kind needed needed', (key, fields) ∈ entryFields .v2 ∧
        ⟨relation, needed, IsRecord targets⟩ ∈ fields ∧
          ⟨target, needed', IsListOf (IsId kind)⟩ ∈ targets ∧ Demands referent kind := by
    intro row owner relations targets kind listed relates aimed demands
    exact ⟨_, Grammar.Typed.references targets, kind, false, false, List.mem_of_getElem? listed,
      List.mem_append_right _ (List.mem_map.2 ⟨_, relates, rfl⟩),
      List.mem_map.2 ⟨_, aimed, rfl⟩, demands⟩
  cases refers with
  | fitProposition =>
    exact ⟨Typed.fit, Typed.fitReferences, _, true, true, by simp [entryFields],
      by simp [Typed.fit, needs], .head _, .entity⟩
  | fitSegment =>
    exact ⟨Typed.fit, Typed.fitReferences, _, true, true, by simp [entryFields],
      by simp [Typed.fit, needs], .tail _ (.head _), .entity⟩
  | channelProposition => exact linked 3 rfl (.head _) (.head _) .entity
  | channelSegment => exact linked 3 rfl (.head _) (.tail _ (.head _)) .entity
  | relationshipSegment => exact linked 4 rfl (.head _) (.head _) .entity
  | streamSegment => exact linked 5 rfl (.head _) (.head _) .entity
  | streamProposition => exact linked 5 rfl (.tail _ (.head _)) (.head _) .entity
  | resourceProposition => exact linked 6 rfl (.head _) (.head _) .entity
  | activityProposition => exact linked 7 rfl (.head _) (.head _) .entity
  | partnershipResource => exact linked 8 rfl (.head _) (.head _) .resource
  | partnershipActivity => exact linked 8 rfl (.head _) (.tail _ (.head _)) .activity
  | costResource => exact linked 9 rfl (.head _) (.head _) .resource
  | costActivity => exact linked 9 rfl (.head _) (.tail _ (.head _)) .activity

/-! ### Nothing is skipped -/

/-- The costs of a valid document. -/
lemma conforms_costs {costs : Mapping} (h : Conforms (documentFields .v1) doc)
    (found : Mapping.get? doc "cost_structure" = some (.map costs)) :
    Conforms Flat.costStructure costs := by
  have listed : may "cost_structure" (IsRecord Flat.costStructure) ∈ documentFields .v1 := by
    simp [documentFields, singleFields]
  obtain ⟨_, same, conforms⟩ := h.form _ listed _ found
  cases same
  exact conforms

lemma mem_costStructure :
    may "major_costs" (IsListOfRecords Flat.majorCost) ∈ Flat.costStructure := by
  simp [Flat.costStructure]

lemma mem_majorCost : may "linked_to" (IsListOf IsMeansId) ∈ Flat.majorCost := by
  simp [Flat.majorCost]

lemma mem_documentFields_fits : may "fits" (IsListOfRecords Flat.fit) ∈ documentFields .v1 :=
  mem_documentFields (by simp [entryFields])

lemma mem_fit_mappings : may "mappings" (IsListOf IsPair) ∈ Typed.fit := by simp [Typed.fit]

/-- All entries of a valid document are read. -/
lemma EntryList.visited (h : Conforms (documentFields g) doc)
    (reads : EntryList doc g m key identified) : Visited m key identified := by
  cases reads with
  | entities listed =>
    obtain ⟨⟨_, fields⟩, described, rfl⟩ := List.mem_map.1 listed
    exact visited_of_conforms h (mem_documentFields described) fun _ =>
      exists_id_of_mem_entryFields described
  | profile place listed =>
    obtain ⟨fields, inner, kind, described, lists, named⟩ := exists_profile_fields g listed
    exact visited_of_conforms (h.conforms_of_mem_entries (mem_documentFields described) place) lists
      fun _ => ⟨kind, named⟩
  | valueMap place listed =>
    obtain ⟨fields, inner, kind, described, lists, named⟩ := exists_valueMap_fields listed
    exact visited_of_conforms (h.conforms_of_mem_entries (mem_documentFields described) place) lists
      fun _ => ⟨kind, named⟩
  | fit item place =>
    exact visited_of_conforms (h.conforms_of_mem_entries mem_documentFields_fits place)
      item.mem_fields nofun
  | cost found => exact visited_of_conforms (conforms_costs h found) mem_costStructure nofun

lemma isList_of_conforms {v : Value} (h : Conforms fields m)
    (listed : ⟨key, needed, IsListOf form⟩ ∈ fields) (found : Mapping.get? m key = some v) :
    v.isList = true := by
  obtain ⟨xs, rfl, _⟩ := h.form _ listed v found
  rfl

/-- All lists of references of a valid document are lists. -/
lemma ReferenceList.isList {v : Value} (h : Conforms (documentFields g) doc)
    (reads : ReferenceList doc g m key) (found : Mapping.get? m key = some v) :
    v.isList = true := by
  cases reads with
  | listed refers place =>
    obtain ⟨fields, described, lists⟩ := refers.exists_fields
    exact isList_of_conforms (h.conforms_of_mem_entries (mem_documentFields described) place) lists
      found
  | cost costs place =>
    have conforms := (conforms_costs h costs).conforms_of_mem_entries mem_costStructure place
    exact isList_of_conforms conforms mem_majorCost found
  | through item fit entry =>
    have conforms := (h.conforms_of_mem_entries mem_documentFields_fits fit).conforms_of_mem_entries
      item.mem_fields entry
    exact isList_of_conforms conforms (List.mem_cons_of_mem _ List.mem_cons_self) found
  | linked refers place relates =>
    obtain ⟨fields, targets, kind, _, _, described, lists, aimed, _⟩ := refers.exists_fields
    have conforms := h.conforms_of_mem_entries (mem_documentFields described) place
    obtain ⟨_, same, conforms⟩ := conforms.form _ lists _ relates
    cases same
    exact isList_of_conforms conforms aimed found
  | mappings place =>
    have described : ("fits", Typed.fit) ∈ entryFields .v2 := by simp [entryFields]
    have conforms := h.conforms_of_mem_entries (mem_documentFields described) place
    exact isList_of_conforms conforms mem_fit_mappings found

/-- What lists stand in is a mapping. -/
lemma Nested.isMapping {v : Value} (h : Conforms (documentFields g) doc)
    (reads : Nested doc g m key) (found : Mapping.get? m key = some v) : v.isMapping = true := by
  cases reads with
  | cost =>
    have listed : may "cost_structure" (IsRecord Flat.costStructure) ∈ documentFields .v1 := by
      simp [documentFields, singleFields]
    obtain ⟨_, rfl, _⟩ := h.form _ listed _ found
    rfl
  | relation refers place =>
    obtain ⟨fields, targets, kind, _, _, described, lists, _, _⟩ := refers.exists_fields
    have conforms := h.conforms_of_mem_entries (mem_documentFields described) place
    obtain ⟨_, rfl, _⟩ := conforms.form _ lists _ found
    rfl

/-! ### Kinds of references -/

/-- The references of a valid document of the first generation have the kinds that they should. -/
lemma Flat.Reference.hasForm (h : Conforms (documentFields .v1) doc)
    (reference : Reference doc rule place referent ref) : referentForm referent ref := by
  cases reference with
  | listed refers entry position =>
    obtain ⟨fields, described, lists⟩ := refers.exists_fields
    exact (h.conforms_of_mem_entries (mem_documentFields described) entry).form_of_mem_asList lists
      (List.mem_of_getElem? position)
  | cost entry position =>
    have costs : Mapping.get? doc "cost_structure" =
        some (.map (Mapping.get doc "cost_structure").asMapping) := by
      apply Value.get?_of_asMapping_ne_nil
      intro empty
      rw [empty] at entry
      cases entry
    have conforms := (conforms_costs h costs).conforms_of_mem_entries mem_costStructure entry
    exact conforms.form_of_mem_asList mem_majorCost (List.mem_of_getElem? position)
  | single refers entry =>
    obtain ⟨fields, described, holds⟩ := refers.exists_fields
    exact (h.conforms_of_mem_entries (mem_documentFields described) entry).form_get holds
  | streamValue entry present =>
    have described : ("revenue_streams", Flat.revenueStream) ∈ entryFields .v1 := by
      simp [entryFields]
    have holds : may "for_value" (IsId .valueProposition) ∈ Flat.revenueStream := by
      simp [Flat.revenueStream]
    have conforms := h.conforms_of_mem_entries (mem_documentFields described) entry
    obtain absent | spelled := conforms.get_cases holds
    · exact absurd absent present
    · exact spelled
  | target item fit entry =>
    have conforms := (h.conforms_of_mem_entries mem_documentFields_fits fit).conforms_of_mem_entries
      item.mem_fields entry
    exact conforms.form_get List.mem_cons_self
  | through item fit entry position =>
    have conforms := (h.conforms_of_mem_entries mem_documentFields_fits fit).conforms_of_mem_entries
      item.mem_fields entry
    exact conforms.form_of_mem_asList (List.mem_cons_of_mem _ List.mem_cons_self)
      (List.mem_of_getElem? position)

/-- The references of a valid document have kinds that their positions demand. -/
lemma Reference.exists_demands (h : Conforms (documentFields g) doc)
    (reference : Reference doc g rule place referent ref) :
    ∃ id kind, ref = .str id ∧ EntityKind.ofId? id = some kind ∧ Demands referent kind := by
  cases g with
  | v1 => exact Lint.exists_demands (Flat.Reference.hasForm h reference)
  | v2 =>
    cases reference with
    | linked refers entry position =>
      obtain ⟨fields, targets, kind, _, _, described, lists, aimed, demands⟩ := refers.exists_fields
      have conforms := h.conforms_of_mem_entries (mem_documentFields described) entry
      obtain ⟨id, text, spelled⟩ := (conforms.form_of_mem_relation lists aimed
        (List.mem_of_getElem? position)).exists_ofId?
      exact ⟨id, kind, text, spelled, demands⟩

/-! ### Errors of valid documents -/

lemma Reference.isText (h : Conforms (documentFields g) doc)
    (reference : Reference doc g rule place referent ref) : IsText ref := by
  obtain ⟨id, _, text, _⟩ := reference.exists_demands h
  exact ⟨id, text⟩

lemma isWritable_of_shown (h : ∀ v ∈ f.fault.shown, IsText v) : f.isWritable = true := by
  refine List.all_eq_true.2 fun v shown => ?_
  obtain ⟨s, rfl⟩ := h v shown
  rfl

/-- The errors of a valid document of the first generation show texts only. -/
lemma Flat.RefError.isWritable (h : Conforms (documentFields .v1) doc) (error : RefError doc f) :
    f.isWritable = true := by
  have text : ∀ {rule place referent ref}, Reference doc rule place referent ref → IsText ref :=
    fun reference => Reference.isText (g := .v1) h reference
  refine isWritable_of_shown ?_
  cases error with
  | unresolved refers entry position =>
    exact List.forall_mem_singleton.2 (text (.listed refers entry position))
  | cost entry position => exact List.forall_mem_singleton.2 (text (.cost entry position))
  | single refers entry => exact List.forall_mem_singleton.2 (text (.single refers entry))
  | streamValue entry present =>
    exact List.forall_mem_singleton.2 (text (.streamValue entry present))
  | target item fit entry names =>
    exact List.forall_mem_cons.2
      ⟨text (.target item fit entry), List.forall_mem_singleton.2 names.exists_str⟩
  | through item fit entry position names =>
    exact List.forall_mem_cons.2
      ⟨text (.through item fit entry position), List.forall_mem_singleton.2 names.exists_str⟩

/-- An error about a pair is not about its form, and shows texts only. -/
lemma Typed.MappingError.of_isPair {l r : String} (error : MappingError doc fit place mapping f)
    (pair : Typed.IsPair mapping l r) :
    f.rule ≠ .fitMappingMalformed ∧ f.isWritable = true := by
  have owners : ∀ {key refs}, ∀ v ∈ Typed.linked doc key refs, IsText v := by
    intro key refs v member
    have names : Names doc key v := by simpa using List.of_mem_filter member
    exact names.exists_str
  cases error with
  | malformed noPair => exact absurd pair (noPair l r)
  | clash | notProfileItem => exact ⟨by simp, rfl⟩
  | left _ _ _ item => exact ⟨by cases item <;> simp, isWritable_of_shown owners⟩
  | right _ _ _ item => exact ⟨by cases item <;> simp, isWritable_of_shown owners⟩

/-- The errors of a valid document can be written, and its mappings are pairs. -/
lemma RefError.of_conforms (h : Conforms (documentFields g) doc) (error : RefError doc g f) :
    f.rule ≠ .fitMappingMalformed ∧ f.isWritable = true := by
  cases g with
  | v1 =>
    refine ⟨?_, Flat.RefError.isWritable h error⟩
    intro malformed
    obtain ⟨_, _, reference, _⟩ := Flat.RefError.exists_reference error
    have named := reference.referent?_eq
    rw [malformed] at named
    cases named
  | v2 =>
    cases error with
    | unresolved refers entry position =>
      refine ⟨by cases refers <;> simp, isWritable_of_shown (List.forall_mem_singleton.2 ?_)⟩
      exact Reference.isText (g := .v2) h (.linked refers entry position)
    | mapping entry position error =>
      have described : ("fits", Typed.fit) ∈ entryFields .v2 := by simp [entryFields]
      have conforms := h.conforms_of_mem_entries (mem_documentFields described) entry
      obtain ⟨l, r, rfl⟩ :=
        conforms.form_of_mem_asList mem_fit_mappings (List.mem_of_getElem? position)
      exact error.of_isPair .list

/-! ### Resources and activities -/

/-- The identifiers of resources and of activities. -/
lemma MeansSection.exists_fields (g : Generation) (means : MeansSection kind key) :
    ∃ fields, (key, fields) ∈ entryFields g ∧ needs "id" (IsId kind) ∈ fields := by
  cases g with
  | v1 =>
    cases means with
    | resource => exact ⟨Flat.keyResource, by simp [entryFields], .head _⟩
    | activity => exact ⟨Flat.keyActivity, by simp [entryFields], .head _⟩
  | v2 =>
    cases means with
    | resource => exact ⟨_, List.mem_of_getElem? (i := 6) rfl, .head _⟩
    | activity => exact ⟨_, List.mem_of_getElem? (i := 7) rfl, .head _⟩

/-- What a section of a valid document declares has the kind of the section. -/
lemma MeansSection.ofId?_eq (h : Conforms (documentFields g) doc) (means : MeansSection kind key)
    (declared : id ∈ Mapping.idsIn doc key) : EntityKind.ofId? id = some kind := by
  obtain ⟨fields, described, identified⟩ := means.exists_fields g
  obtain ⟨entry, declares⟩ := mem_idsIn.1 declared
  exact h.ofId?_of_declares (mem_documentFields described) identified declares

/-- In a valid document, a resource or an activity is declared by the section of its own kind if by
any. -/
lemma resolves_iff_of_means (h : Conforms (documentFields g) doc) (means : MeansSection kind key)
    (spelled : EntityKind.ofId? id = some kind) :
    Resolves doc .resourceOrActivity (.str id) ↔ id ∈ Mapping.idsIn doc key := by
  have own : ∀ {kind' key'}, MeansSection kind' key' → id ∈ Mapping.idsIn doc key' →
      kind' = kind := by
    intro kind' key' means' declared
    exact Option.some.inj ((means'.ofId?_eq h declared).symm.trans spelled)
  rw [Resolves, names_str, names_str]
  cases means with
  | resource => exact or_iff_left fun declared => nomatch own .activity declared
  | activity => exact or_iff_right fun declared => nomatch own .resource declared

/-- Errors of the rules about resources and activities are about references to them. -/
lemma RefError.exists_means (error : RefError doc g f)
    (means : f.rule.referent? = some .resourceOrActivity) :
    ∃ ref, Reference doc g f.rule f.place .resourceOrActivity ref ∧
      ¬Resolves doc .resourceOrActivity ref := by
  have only : ∀ {referent ref}, Reference doc g f.rule f.place referent ref →
      referent = .resourceOrActivity :=
    fun reference => Option.some.inj (reference.referent?_eq.symm.trans means)
  cases g with
  | v1 =>
    cases error with
    | unresolved refers entry position unresolved =>
      have reference := Flat.Reference.listed refers entry position
      cases only reference
      exact ⟨_, reference, unresolved⟩
    | cost entry position unresolved => exact ⟨_, .cost entry position, unresolved⟩
    | single refers => cases refers <;> cases means
    | streamValue => cases means
    | target item => cases item <;> cases means
    | through => cases means
  | v2 =>
    cases error with
    | unresolved refers entry position unresolved =>
      have reference := Typed.Reference.linked refers entry position
      cases only reference
      exact ⟨_, reference, unresolved⟩
    | mapping _ _ error =>
      cases error with
      | malformed | clash | notProfileItem => cases means
      | left _ _ _ item => cases item <;> cases means
      | right _ _ _ item => cases item <;> cases means

/-- A reference to a resource or an activity that is not declared is an error. -/
lemma Reference.exists_refError (reference : Reference doc g rule place .resourceOrActivity ref)
    (unresolved : ¬Resolves doc .resourceOrActivity ref) :
    ∃ f, RefError doc g f ∧ f.rule = rule ∧ f.place = place := by
  cases g with
  | v1 =>
    cases reference with
    | listed refers entry position =>
      exact ⟨_, Flat.RefError.unresolved refers entry position unresolved, rfl, rfl⟩
    | cost entry position => exact ⟨_, Flat.RefError.cost entry position unresolved, rfl, rfl⟩
    | single refers => cases refers
  | v2 =>
    cases reference with
    | linked refers entry position =>
      exact ⟨_, Typed.RefError.unresolved refers entry position unresolved, rfl, rfl⟩

/-- A reference to a resource or an activity is reported if and only if it is not declared. -/
lemma Reference.reported_iff
    (reference : Reference value.asMapping g rule place .resourceOrActivity ref) :
    (∃ issue ∈ (report value (some g)).issues, issue.rule = rule.id ∧ issue.path = place.text) ↔
      ¬Resolves value.asMapping .resourceOrActivity ref := by
  have means := reference.referent?_eq
  refine ⟨?_, ?_⟩
  · rintro ⟨_, member, ruled, there⟩
    obtain ⟨f, found, rfl⟩ := mem_issues.1 member
    obtain rfl := Rule.id_injective ruled
    obtain error | unused := mem_findings.1 found
    · obtain ⟨ref', reference', unresolved⟩ := error.exists_means means
      -- The paths of the two references are one, so they are one reference.
      have same : f.place = place := (Pointer.text_inj_of_plain reference'.ne_nil reference.ne_nil
        reference'.plain reference.plain).1 there
      rw [same] at reference'
      rwa [reference.stands.eq_getD, ← reference'.stands.eq_getD]
    · cases unused with
      | entity entity => cases entity <;> cases means
      | item item => cases item <;> cases means
  · intro unresolved
    obtain ⟨f, error, rfl, rfl⟩ := reference.exists_refError unresolved
    exact ⟨f.issue, mem_issues.2 ⟨f, mem_findings.2 (.inl error), rfl⟩, rfl, rfl⟩

/-! ### Reports of valid documents -/

/-- A valid document has a report. -/
lemma run_of_accepts (value : Value) (g : Generation)
    (accepted : Validation.Accepts value (some g)) :
    run value (some g) = .ok (report value (some g)) := by
  obtain ⟨doc, rfl, h⟩ := Validation.accepts_iff.1 accepted
  obtain ⟨_, ran⟩ | ⟨⟨f, error, unwritable⟩, _⟩ := run_cases (.map doc) g
  · exact ran
  · exact absurd (error.of_conforms h).2 (by simp [unwritable])

/-- A valid document has a report, and the report has missed nothing. -/
theorem run_lossless (value : Value) (g : Generation)
    (accepted : Validation.Accepts value (some g)) :
    ∃ r, run value (some g) = .ok r ∧ Lossless value.asMapping g r := by
  have ran := run_of_accepts value g accepted
  obtain ⟨doc, rfl, h⟩ := Validation.accepts_iff.1 accepted
  refine ⟨report (.map doc) (some g), ran, ?visited, ?lists, ?nested, ?pairs, ?errors, ?kinds,
    ?means⟩
  case visited => exact fun m key identified reads => reads.visited h
  case lists => exact fun m key v reads found => reads.isList h found
  case nested => exact fun m key v reads found => reads.isMapping h found
  case pairs =>
    intro issue member malformed
    obtain ⟨f, found, rfl⟩ := mem_issues.1 member
    have rule : f.rule = .fitMappingMalformed := Rule.id_injective malformed
    obtain error | unused := mem_findings.1 found
    · exact (error.of_conforms h).1 rule
    · exact absurd unused.severity (by simp [rule, Rule.severity, Rule.isCoverage])
  case errors =>
    intro issue member
    obtain ⟨f, error, rfl⟩ := mem_errors.1 member
    refine ⟨f.rule, f.place, rfl, rfl, ?_⟩
    obtain ⟨referent, ref, reference, _⟩ | ⟨v2, i, _, k, _, _, _, error⟩ :=
      error.reference_or_mapping
    · exact .inl ⟨referent, ref, reference⟩
    · obtain ⟨side, _, place, _⟩ := error.exists_node
      exact .inr ⟨v2, i, k, side, place⟩
  case kinds => exact fun rule place referent ref reference => reference.exists_demands h
  case means =>
    intro rule place id reference
    obtain ⟨_, kind, same, spelled, demands⟩ := reference.exists_demands h
    cases same
    have means : ∃ key, MeansSection kind key := by
      cases demands with
      | resource => exact ⟨_, .resource⟩
      | activity => exact ⟨_, .activity⟩
    obtain ⟨key, means⟩ := means
    exact ⟨kind, key, spelled, means,
      reference.reported_iff.trans (not_congr (resolves_iff_of_means h means spelled))⟩

/-- A kiosk of the first generation.  Its partnership names an activity that is not declared. -/
def kiosk : Value :=
  .map [(.str "version", .str "1.0"),
    (.str "meta", .map [(.str "name", .str "Kiosk"), (.str "portfolio", .str "explore"),
      (.str "stage", .str "validation")]),
    (.str "customer_segments", .list [.map [(.str "id", .str "cs-commuters"),
      (.str "name", .str "Commuters"),
      (.str "pains", .list [.map [(.str "id", .str "pain-queue"),
        (.str "description", .str "Queues")]])]]),
    (.str "value_propositions", .list [.map [(.str "id", .str "vp-coffee"),
      (.str "name", .str "Coffee"),
      (.str "products_services", .list [.map [(.str "id", .str "ps-cup"),
        (.str "type", .str "product"), (.str "description", .str "Cup")]])]]),
    (.str "fits", .list [.map [(.str "id", .str "fit-morning"),
      (.str "value_proposition", .str "vp-coffee"), (.str "customer_segment", .str "cs-commuters"),
      (.str "pain_relievers", .list [.map [(.str "pain", .str "pain-queue"),
        (.str "through", .list [.str "ps-cup"])]])]]),
    (.str "key_resources", .list [.map [(.str "id", .str "kr-machine"),
      (.str "name", .str "Machine"), (.str "type", .str "physical")]]),
    (.str "key_partnerships", .list [.map [(.str "id", .str "kp-roaster"),
      (.str "name", .str "Roaster"), (.str "type", .str "supplier"),
      (.str "motivation", .str "optimization"),
      (.str "provides", .list [.str "kr-machine", .str "ka-roasting"])]]),
    (.str "cost_structure", .map [(.str "type", .str "cost_driven"),
      (.str "major_costs", .list [.map [(.str "name", .str "Rent"), (.str "type", .str "fixed"),
        (.str "linked_to", .list [.str "kr-machine"])]])])]

theorem run_lossless_kiosk_bakery :
    (Validation.Accepts kiosk (some .v1) ∧
        ∃ r, run kiosk (some .v1) = .ok r ∧ Lossless kiosk.asMapping .v1 r) ∧
      Validation.Accepts Graph.bakery (some .v2) ∧
        ∃ r, run Graph.bakery (some .v2) = .ok r ∧ Lossless Graph.bakery.asMapping .v2 r := by
  have flat : Validation.Accepts kiosk (some .v1) := Validation.accepts_iff_isValid.2 rfl
  have typed : Validation.Accepts Graph.bakery (some .v2) := Validation.accepts_iff_isValid.2 rfl
  exact ⟨⟨flat, run_lossless kiosk .v1 flat⟩, typed, run_lossless Graph.bakery .v2 typed⟩

end BusinessModel.Lint
