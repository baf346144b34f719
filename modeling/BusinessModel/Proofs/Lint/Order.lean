import BusinessModel.Proofs.Lint.Report
import Mathlib.Data.List.Lex

/-!
# The order of issues

Issues stand in the order of the document as it is documented: errors before warnings, errors by
section, entry and field, and warnings by what they are about.  Where a field comes among those
beside it is told by a table of names; an item of a list comes where its number says.  Each check
reports in that order below its own place, and checks are put together at the step where their
places part.

* `Lint.fieldOrder` — the fields of each part of a document in their order
* `Pointer.ranks`, `Finding.position` — where a place and a finding come
* `Lint.Ascends` — findings below a place, in order
* `InTurn.ascends`, `Ascends.numbered` — how checks are put together
* `Lint.ascending_findings` — all findings about a document are in order
* `Lint.nodup_place_findings` — no two of them are at one place
-/

namespace BusinessModel

namespace Pointer

variable {order : List String → List String} {above : List String} {p q place here there : Pointer}

/-- The names that a place goes through, without its numbers. -/
def names (p : Pointer) : List String :=
  p.filterMap fun
    | .key name => some name
    | .index _ => none

/-- Where each step of a place comes among the steps beside it, given the order of the names in each
part of a document. -/
def ranks (order : List String → List String) : List String → Pointer → List Nat
  | _, [] => []
  | above, .key name :: rest => (order above).idxOf name :: ranks order (above ++ [name]) rest
  | above, .index i :: rest => i :: ranks order above rest

lemma ranks_append :
    ranks order above (p ++ q) = ranks order above p ++ ranks order (above ++ p.names) q := by
  induction p generalizing above with
  | nil => simp [ranks, names]
  | cons step rest ih => cases step <;> simp [ranks, names, ih]

lemma length_ranks : (ranks order above p).length = p.length := by
  induction p generalizing above with
  | nil => rfl
  | cons step rest ih => cases step <;> simp [ranks, ih]

/-- Numbers of the same length that are told apart stay in order, whatever comes behind them. -/
lemma append_lt_append {a b : List Nat} (less : a < b) (length : a.length = b.length)
    (c d : List Nat) : a ++ c < b ++ d := by
  induction a generalizing b with
  | nil =>
    cases b with
    | nil => cases less
    | cons => cases length
  | cons i a ih =>
    cases b with
    | nil => cases length
    | cons j b =>
      rw [List.cons_lt_cons_iff] at less
      obtain smaller | ⟨same, later⟩ := less
      · exact List.cons_lt_cons_iff.2 (.inl smaller)
      · exact List.cons_lt_cons_iff.2 (.inr ⟨same, ih later (Nat.succ.inj length)⟩)

/-- Places are in order if they part at steps that are. -/
lemma ranks_lt_ranks (less : ranks order place.names p < ranks order place.names q)
    (length : p.length = q.length) (below : place ++ p <+: here) (below' : place ++ q <+: there) :
    ranks order [] here < ranks order [] there := by
  obtain ⟨rest, rfl⟩ := below
  obtain ⟨rest', rfl⟩ := below'
  simp only [List.append_assoc, ranks_append (p := place), ranks_append (p := p),
    ranks_append (p := q), List.nil_append]
  apply List.Lex.append_left
  exact append_lt_append less (by rw [length_ranks, length_ranks, length]) _ _

end Pointer

namespace Lint

/-- The fields of each part of a document, in the order in which they are checked.  A part is told
by the names above it. -/
def fieldOrder : Generation → List String → List String
  | .v1, [] => ["fits", "channels", "customer_relationships", "revenue_streams", "key_resources",
      "key_activities", "key_partnerships", "cost_structure"]
  | .v2, [] => ["fits", "channels", "customer_relationships", "revenue_streams", "key_resources",
      "key_activities", "key_partnerships", "costs"]
  | .v1, ["fits"] => ["value_proposition", "customer_segment", "pain_relievers", "gain_creators",
      "job_addressers"]
  | .v1, ["fits", _] => ["pain", "gain", "job", "through"]
  | .v1, ["revenue_streams"] => ["from_segments", "for_value"]
  | .v2, ["fits"] => ["for", "mappings"]
  | .v2, ["fits", "for"] => ["value_propositions", "customer_segments"]
  | .v2, ["revenue_streams"] => ["from", "for"]
  | .v2, [_, "for"] => ["customer_segments", "value_propositions", "key_resources",
      "key_activities"]
  | _, ["customer_segments"] => ["pains", "gains", "jobs"]
  | _, _ => []

/-- The parts of a report in which rules are reported: errors, segments and value propositions
without fits, items of segments, and products. -/
def Rule.part : Rule → Nat
  | .segmentNoFits => 1
  | .vpNoFits => 2
  | .painNeverRelieved | .gainNeverCreated | .jobNeverAddressed => 3
  | .productServiceNeverUsed => 4
  | _ => 0

/-- Where a finding comes in a report. -/
def Finding.position (g : Generation) (f : Finding) : List Nat :=
  f.rule.part :: Pointer.ranks (fieldOrder g) [] f.place

/-- The places of some findings lie below a place, and are in order. -/
structure Ascends (g : Generation) (place : Pointer) (found : List Finding) : Prop where
  below : ∀ f ∈ found, place <+: f.place
  ascending : found.Pairwise fun f f' =>
    Pointer.ranks (fieldOrder g) [] f.place < Pointer.ranks (fieldOrder g) [] f'.place

namespace Ascends

variable {α : Type} {g : Generation} {place path p : Pointer} {paths others : List Pointer}
  {found more : List Finding} {f : Finding} {rows : List α} {check : α → List Finding}

lemma nil : Ascends g place [] := ⟨List.forall_mem_nil _, .nil⟩

lemma singleton (below : place <+: f.place) : Ascends g place [f] := by
  refine ⟨fun f' member => ?_, List.pairwise_singleton _ _⟩
  rw [List.mem_singleton.1 member]
  exact below

/-- What is known further down is known further up. -/
lemma lift (h : Ascends g (place ++ p) found) : Ascends g place found :=
  ⟨fun f member => (List.prefix_append _ _).trans (h.below f member), h.ascending⟩

end Ascends

/-- Findings that are put together of findings below some paths, path by path. -/
inductive InTurn (g : Generation) (place : Pointer) : List Pointer → List Finding → Prop where
  | nil : InTurn g place [] []
  | one (path : Pointer) {found : List Finding} :
    Ascends g (place ++ path) found →
    InTurn g place [path] found
  | append {paths others : List Pointer} {found more : List Finding} :
    InTurn g place paths found →
    InTurn g place others more →
    InTurn g place (paths ++ others) (found ++ more)

section

variable {α : Type} {g : Generation} {place : Pointer} {paths : List Pointer}
  {found : List Finding} {f : Finding} {rows : List α} {check : α → List Finding}

lemma InTurn.flatMap (path : α → Pointer)
    (h : ∀ row ∈ rows, Ascends g (place ++ path row) (check row)) :
    InTurn g place (rows.map path) (rows.flatMap check) := by
  induction rows with
  | nil => exact .nil
  | cons row rows ih =>
    obtain ⟨first, rest⟩ := List.forall_mem_cons.1 h
    exact .append (.one (path row) first) (ih rest)

lemma InTurn.exists_path (h : InTurn g place paths found) (member : f ∈ found) :
    ∃ path ∈ paths, place ++ path <+: f.place := by
  induction h with
  | nil => cases member
  | one path ascends => exact ⟨path, List.mem_singleton_self _, ascends.below f member⟩
  | append _ _ first second =>
    obtain member | member := List.mem_append.1 member
    · obtain ⟨path, listed, below⟩ := first member
      exact ⟨path, List.mem_append_left _ listed, below⟩
    · obtain ⟨path, listed, below⟩ := second member
      exact ⟨path, List.mem_append_right _ listed, below⟩

/-- Findings below paths that part in order are in order. -/
lemma InTurn.ascends (h : InTurn g place paths found) (names : List String)
    (here : place.names = names) (n : Nat) (length : ∀ path ∈ paths, path.length = n)
    (ordered : (paths.map (Pointer.ranks (fieldOrder g) names)).Pairwise (· < ·)) :
    Ascends g place found := by
  subst here
  refine ⟨fun f member => ?_, ?_⟩
  · obtain ⟨path, -, below⟩ := h.exists_path member
    exact (List.prefix_append _ _).trans below
  · induction h with
    | nil => exact .nil
    | one _ ascends => exact ascends.ascending
    | append first second ih ih' =>
      obtain ⟨length, length'⟩ := List.forall_mem_append.1 length
      rw [List.map_append, List.pairwise_append] at ordered
      obtain ⟨ordered, ordered', between⟩ := ordered
      rw [List.pairwise_append]
      refine ⟨ih length ordered, ih' length' ordered', fun f member f' member' => ?_⟩
      -- The two findings are below different paths, at which their places part.
      obtain ⟨path, listed, below⟩ := first.exists_path member
      obtain ⟨path', listed', below'⟩ := second.exists_path member'
      have less := between _ (List.mem_map_of_mem listed) _ (List.mem_map_of_mem listed')
      exact Pointer.ranks_lt_ranks less ((length _ listed).trans (length' _ listed').symm) below
        below'

/-- One check of each of some items in the order of their numbers. -/
lemma Ascends.numbered (index : α → Nat)
    (h : ∀ row ∈ rows, Ascends g (place ++ [.index (index row)]) (check row))
    (ordered : (rows.map index).Pairwise (· < ·)) : Ascends g place (rows.flatMap check) := by
  apply (InTurn.flatMap (fun row => [.index (index row)]) h).ascends place.names rfl 1
  · exact List.forall_mem_map.2 fun _ _ => rfl
  · rw [List.pairwise_map] at ordered
    rw [List.map_map, List.pairwise_map]
    exact ordered.imp fun less => List.cons_lt_cons_iff.2 (.inl less)

end

/-! ### Numbered items -/

/-- Leaving items out leaves out their numbers. -/
lemma sublist_map_filterMap {α β : Type} {pick : α → Option β} {before : α → Nat} {after : β → Nat}
    (keeps : ∀ a b, pick a = some b → after b = before a) {items : List α} :
    ((items.filterMap pick).map after).Sublist (items.map before) := by
  induction items with
  | nil => exact List.Sublist.refl _
  | cons a items ih =>
    cases picked : pick a with
    | none => simpa [picked] using ih.cons _
    | some b => simpa [picked, keeps a b picked] using ih

variable {doc m entry : Mapping} {g : Generation} {index : Index} {place : Pointer} {rule : Rule}
  {kind : EntityKind} {referent : Referent} {key field : String} {used : IdSet}
  {resolves : Value → Bool} {i : Nat}

lemma ascending_index_zipIdx {α : Type} (items : List α) :
    (items.zipIdx.map Prod.snd).Pairwise (· < ·) := by
  rw [List.zipIdx_map_snd]
  exact List.pairwise_lt_range' 1

lemma ascending_index_entries : ((Mapping.entries m key).map (·.1)).Pairwise (· < ·) := by
  refine List.Pairwise.sublist (sublist_map_filterMap ?_) (ascending_index_zipIdx _)
  rintro ⟨v, i⟩ entry made
  obtain ⟨_, _, rfl⟩ := Option.map_eq_some_iff.1 made
  rfl

lemma ascending_index_unusedIn :
    ((Coverage.unusedIn m key used).map (·.1)).Pairwise (· < ·) := by
  have entries : ((Mapping.entries m key).map (·.1)).Pairwise (· < ·) := ascending_index_entries
  refine entries.sublist (sublist_map_filterMap ?_)
  rintro entry item made
  split at made
  · split at made
    · cases made
    · cases made
      rfl
  · cases made

/-- A check of the entries of a section. -/
lemma Ascends.entries (place : Pointer) {check : Nat × Mapping → List Finding}
    (h : ∀ i entry, Ascends g (place ++ [.key key, .index i]) (check (i, entry))) :
    Ascends g (place ++ [.key key]) ((Mapping.entries m key).flatMap check) := by
  apply Ascends.numbered Prod.fst _ ascending_index_entries
  intro entry _
  rw [List.append_assoc]
  exact h entry.1 entry.2

/-- At most one finding about each of some items. -/
lemma Ascends.numbered_filterMap {refs : List Value} {pick : Value × Nat → Option Finding}
    (h : ∀ item f, pick item = some f → place ++ [.index item.2] <+: f.place) :
    Ascends g place (refs.zipIdx.filterMap pick) := by
  rw [List.filterMap_eq_flatMap_toList]
  apply Ascends.numbered Prod.snd _ (ascending_index_zipIdx refs)
  intro item _
  cases picked : pick item with
  | none => exact .nil
  | some f => exact .singleton (h item f picked)

lemma ascends_unresolvedRefs {refs : List Value} :
    Ascends g place (unresolvedRefs refs resolves rule place referent) := by
  apply Ascends.numbered_filterMap
  intro item f made
  split at made
  · cases made
  · cases made
    exact List.prefix_rfl

/-! ### The second generation -/

namespace Typed

variable {link : Link} {row : String × List Link} {scope : Scope} {mapping : Value}

lemma ascends_checkLink :
    Ascends g [.key key, .index i, .key link.relation, .key link.target.key]
      (checkLink index key (i, entry) link) :=
  ascends_unresolvedRefs

/-- The links of a section stand in the order of their fields. -/
lemma ascends_checkSection (listed : row ∈ links) :
    Ascends .v2 [.key row.1] (checkSection doc index row) := by
  have ordered : ∀ row ∈ links, ((row.2.map fun link =>
      [.key link.relation, .key link.target.key]).map
        (Pointer.ranks (fieldOrder .v2) [row.1])).Pairwise (· < ·) := by decide
  apply Ascends.entries []
  intro i entry
  refine InTurn.ascends (.flatMap (fun link : Link => [.key link.relation, .key link.target.key])
    fun _ _ => ascends_checkLink) [row.1] rfl 2 ?_ (ordered row listed)
  exact List.forall_mem_map.2 fun _ _ => rfl

lemma ascends_checkLeft {left : String} :
    Ascends g (place ++ [.index 0]) (checkLeft index scope place left) := by
  unfold checkLeft
  split
  · exact .nil
  · split
    · exact .nil
    · split
      · exact .nil
      · exact .singleton List.prefix_rfl

lemma ascends_checkRight {right : String} :
    Ascends g (place ++ [.index 1]) (checkRight index scope place right) := by
  unfold checkRight
  split
  · exact .nil
  · split
    · exact .nil
    · split
      · exact .nil
      · exact .singleton List.prefix_rfl

/-- A mapping has one error about itself, or at most one about each of its sides. -/
lemma ascends_checkMapping : Ascends g place (checkMapping index scope place mapping) := by
  unfold checkMapping
  split
  · exact .singleton List.prefix_rfl
  · split
    · exact .singleton (List.prefix_append _ _)
    · refine InTurn.ascends (.append (.one [.index 0] ascends_checkLeft)
        (.one [.index 1] ascends_checkRight)) place.names rfl 1 (by simp) ?_
      simp only [Pointer.ranks, List.map_cons, List.map_nil, List.cons_append, List.nil_append]
      decide

lemma ascends_checkFit : Ascends .v2 [.key "fits", .index i] (checkFit index (i, entry)) := by
  have named : ∀ link ∈ fitLinks, link.relation = "for" := by decide
  have links : InTurn .v2 [.key "fits", .index i, .key "for"]
      (fitLinks.map fun link => [.key link.target.key])
      (fitLinks.flatMap (checkLink index "fits" (i, entry))) := by
    refine .flatMap _ fun link listed => ?_
    have checked : Ascends .v2 [.key "fits", .index i, .key link.relation, .key link.target.key]
        (checkLink index "fits" (i, entry) link) := ascends_checkLink
    rwa [named link listed] at checked
  have mappings : Ascends .v2 [.key "fits", .index i, .key "mappings"]
      ((Mapping.get entry "mappings").asList.zipIdx.flatMap fun item =>
        checkMapping index (Scope.ofFit index entry)
          [.key "fits", .index i, .key "mappings", .index item.2] item.1) :=
    .numbered Prod.snd (fun _ _ => ascends_checkMapping) (ascending_index_zipIdx _)
  have linked := links.ascends ["fits", "for"] rfl 1 (by decide) (by decide)
  exact InTurn.ascends (.append (.one [.key "for"] linked) (.one [.key "mappings"] mappings))
    ["fits"] rfl 1 (by decide) (by decide)

lemma ascends_references : Ascends .v2 [] (references doc index) := by
  have fits : Ascends .v2 [.key "fits"] ((Mapping.entries doc "fits").flatMap (checkFit index)) :=
    Ascends.entries [] fun _ _ => ascends_checkFit
  have sections : InTurn .v2 [] (links.map fun row => [.key row.1])
      (links.flatMap (checkSection doc index)) :=
    .flatMap _ fun row listed => ascends_checkSection listed
  exact InTurn.ascends (.append (.one [.key "fits"] fits) sections) [] rfl 1 (by decide) (by decide)

end Typed

/-! ### The first generation -/

namespace Flat

variable {ref segment proposition : Value} {list : FitList} {profile : Option Profile}
  {valueMap : Option ValueMap}

lemma ascends_checkRef : Ascends g place (checkRef ref resolves rule place referent) := by
  unfold checkRef
  split
  · exact .nil
  · exact .singleton List.prefix_rfl

lemma ascends_checkField :
    Ascends g (place ++ [.key field]) (checkField entry field resolves rule place referent) :=
  ascends_unresolvedRefs

lemma ascends_checkTarget :
    Ascends g (place ++ [.key list.target]) (checkTarget profile segment list place entry) := by
  unfold checkTarget
  split
  · exact .nil
  · dsimp only
    split
    · exact .nil
    · exact .singleton List.prefix_rfl

lemma ascends_checkThrough :
    Ascends g (place ++ [.key "through"]) (checkThrough valueMap proposition place entry) := by
  unfold checkThrough
  split
  · exact .nil
  · apply Ascends.numbered_filterMap
    intro item f made
    split at made
    · cases made
    · cases made
      simp

/-- The entries of a list of a fit have their target first. -/
lemma ascends_checkFitList (listed : list ∈ fitLists) :
    Ascends .v1 [.key "fits", .index i, .key list.key] (checkFitList index (i, entry) list) := by
  have ordered : ∀ list ∈ fitLists, ([[.key list.target], [.key "through"]].map
      (Pointer.ranks (fieldOrder .v1) ["fits", list.key])).Pairwise (· < ·) := by decide
  apply Ascends.entries [.key "fits", .index i]
  intro k item
  exact InTurn.ascends (.append (.one [.key list.target] ascends_checkTarget)
    (.one [.key "through"] ascends_checkThrough)) ["fits", list.key] rfl 1 (by simp)
      (ordered list listed)

lemma ascends_checkFit : Ascends .v1 [.key "fits", .index i] (checkFit index (i, entry)) := by
  have lists : InTurn .v1 [.key "fits", .index i] (fitLists.map fun list => [.key list.key])
      (fitLists.flatMap (checkFitList index (i, entry))) :=
    .flatMap _ fun list listed => ascends_checkFitList listed
  exact InTurn.ascends (.append (.append (.one [.key "value_proposition"] ascends_checkRef)
    (.one [.key "customer_segment"] ascends_checkRef)) lists) ["fits"] rfl 1 (by decide) (by decide)

lemma ascends_checkSection :
    Ascends g [.key key] (checkSection doc key field resolves rule referent) := by
  apply Ascends.entries []
  intro i entry
  exact Ascends.lift (p := [.key field]) ascends_checkField

lemma ascends_checkRelationships :
    Ascends g [.key "customer_relationships"] (checkRelationships doc index) := by
  apply Ascends.entries []
  intro i entry
  exact Ascends.lift (p := [.key "segment"]) ascends_checkRef

lemma ascends_checkRevenueStreams :
    Ascends .v1 [.key "revenue_streams"] (checkRevenueStreams doc index) := by
  apply Ascends.entries []
  intro i entry
  refine InTurn.ascends (.append (.one [.key "from_segments"] ascends_checkField)
    (.one [.key "for_value"] ?_)) ["revenue_streams"] rfl 1 (by decide) (by decide)
  dsimp only
  split
  · exact .nil
  · exact ascends_checkRef

lemma ascends_checkCosts : Ascends g [.key "cost_structure"] (checkCosts doc index) := by
  have costs : Ascends g ([.key "cost_structure"] ++ [.key "major_costs"]) (checkCosts doc index) :=
    Ascends.entries _ fun i _ => Ascends.lift (p := [.key "linked_to"]) ascends_checkField
  exact costs.lift

lemma ascends_references : Ascends .v1 [] (references doc index) := by
  have fits : Ascends .v1 [.key "fits"] ((Mapping.entries doc "fits").flatMap (checkFit index)) :=
    Ascends.entries [] fun _ _ => ascends_checkFit
  refine InTurn.ascends (.append (.append (.append (.append (.append (.append (.append
    (.one [.key "fits"] fits)
    (.one [.key "channels"] ascends_checkSection))
    (.one [.key "customer_relationships"] ascends_checkRelationships))
    (.one [.key "revenue_streams"] ascends_checkRevenueStreams))
    (.one [.key "key_resources"] ascends_checkSection))
    (.one [.key "key_activities"] ascends_checkSection))
    (.one [.key "key_partnerships"] ascends_checkSection))
    (.one [.key "cost_structure"] ascends_checkCosts)) [] rfl 1 ?_ ?_
  · decide
  · decide

end Flat

/-! ### Coverage -/

namespace Coverage

variable {c : Coverage} {finding : Nat × String → Finding}

/-- One finding for each entry that is not in use. -/
lemma ascends_unusedIn
    (h : ∀ item, (finding item).place = place ++ [.key key, .index item.1]) :
    Ascends g (place ++ [.key key]) ((unusedIn m key used).map finding) := by
  rw [List.map_eq_flatMap]
  apply Ascends.numbered Prod.fst _ ascending_index_unusedIn
  intro item _
  exact .singleton (by simp [h])

lemma ascends_unfitted : Ascends g [.key key] (unfitted doc key used rule kind) :=
  show Ascends g ([] ++ [.key key]) (unfitted doc key used rule kind) from
    ascends_unusedIn fun _ => rfl

lemma ascends_unusedItems :
    Ascends g (place ++ [.key key]) (unusedItems place m key used rule kind) :=
  ascends_unusedIn fun _ => rfl

lemma ascends_unusedProfileItems :
    Ascends g [.key "customer_segments"] (unusedProfileItems doc c) := by
  have ordered : ∀ g, ([[.key "pains"], [.key "gains"], [.key "jobs"]].map
      (Pointer.ranks (fieldOrder g) ["customer_segments"])).Pairwise (· < ·) := by
    intro g
    cases g <;> decide
  apply Ascends.entries []
  intro i entry
  exact InTurn.ascends (.append (.append (.one [.key "pains"] ascends_unusedItems)
    (.one [.key "gains"] ascends_unusedItems)) (.one [.key "jobs"] ascends_unusedItems))
      ["customer_segments"] rfl 1 (by decide) (ordered g)

lemma ascends_unusedProducts :
    Ascends g [.key "value_propositions"] (unusedProducts doc used) := by
  apply Ascends.entries []
  intro i entry
  exact Ascends.lift (p := [.key "products_services"]) ascends_unusedItems

end Coverage

/-! ### Documents -/

variable {f : Finding}

lemma ascends_referencesOf : Ascends g [] (referencesOf doc g) := by
  cases g with
  | v1 => exact Flat.ascends_references
  | v2 => exact Typed.ascends_references

/-- Findings of the later parts of a report, in order. -/
structure Rises (g : Generation) (n : Nat) (found : List Finding) : Prop where
  late : ∀ f ∈ found, n ≤ f.rule.part
  ascending : found.Pairwise fun f f' => f.position g < f'.position g

lemma Rises.nil {n : Nat} : Rises g n [] := ⟨List.forall_mem_nil _, .nil⟩

/-- One part of a report before the later ones: within it, places tell the order. -/
lemma Rises.append {n : Nat} {found more : List Finding} (h : Ascends g place found)
    (same : ∀ f ∈ found, f.rule.part = n) (later : Rises g (n + 1) more) :
    Rises g n (found ++ more) := by
  refine ⟨?_, List.pairwise_append.2 ⟨?_, later.ascending, fun f member f' member' => ?_⟩⟩
  · refine List.forall_mem_append.2 ⟨fun f member => (same f member).ge, fun f member => ?_⟩
    exact Nat.le_of_succ_le (later.late f member)
  · refine h.ascending.imp_of_mem fun {f f'} member member' less => ?_
    exact List.cons_lt_cons_iff.2 (.inr ⟨(same f member).trans (same f' member').symm, less⟩)
  · refine List.cons_lt_cons_iff.2 (.inl ?_)
    rw [same f member]
    exact later.late f' member'

lemma RefError.part (error : RefError doc g f) : f.rule.part = 0 := by
  have errors : ∀ rule : Rule, rule.severity = .error → rule.part = 0 := by
    intro rule
    cases rule <;> decide
  exact errors f.rule error.severity

namespace Coverage

variable {c : Coverage}

lemma rule_of_mem_unfitted (found : f ∈ unfitted doc key used rule kind) : f.rule = rule := by
  obtain ⟨i, entry, id, -, -, -, rfl⟩ := mem_unfitted.1 found
  rfl

lemma rule_of_mem_unusedItems (found : f ∈ unusedItems place m key used rule kind) :
    f.rule = rule := by
  obtain ⟨j, item, id, -, -, -, rfl⟩ := mem_unusedItems.1 found
  rfl

lemma part_of_mem_unusedProfileItems (found : f ∈ unusedProfileItems doc c) :
    f.rule.part = 3 := by
  obtain ⟨entry, -, found⟩ := List.mem_flatMap.1 found
  simp only [List.mem_append, or_assoc] at found
  obtain found | found | found := found
  all_goals
    rw [rule_of_mem_unusedItems found]
    rfl

lemma part_of_mem_unusedProducts (found : f ∈ unusedProducts doc used) : f.rule.part = 4 := by
  obtain ⟨entry, -, found⟩ := List.mem_flatMap.1 found
  rw [rule_of_mem_unusedItems found]
  rfl

lemma rises_findings (c : Coverage) : Rises g 1 (c.findings doc) := by
  have products : ∀ used, Rises g 4 (unusedProducts doc used) := by
    intro used
    have last := Rises.append (g := g) (n := 4) ascends_unusedProducts
      (fun f (found : f ∈ unusedProducts doc used) => part_of_mem_unusedProducts found) .nil
    rwa [List.append_nil] at last
  unfold findings
  rw [List.append_assoc, List.append_assoc]
  refine .append ascends_unfitted (fun f found => ?_) (.append ascends_unfitted (fun f found => ?_)
    (.append ascends_unusedProfileItems (fun f => part_of_mem_unusedProfileItems) ?_))
  · rw [rule_of_mem_unfitted found]
    rfl
  · rw [rule_of_mem_unfitted found]
    rfl
  · cases c.products with
    | none => exact .nil
    | some used => exact products used

end Coverage

/-- The findings about a document are in order. -/
lemma ascending_findings :
    (findings doc g).Pairwise fun f f' => f.position g < f'.position g := by
  rw [findings_eq]
  exact (Rises.append ascends_referencesOf (fun f found => (mem_referencesOf.1 found).part)
    (Coverage.rises_findings _)).ascending

/-- The part of a report that a place belongs to. -/
def partAt : Pointer → Nat
  | [.key "customer_segments", _] => 1
  | [.key "value_propositions", _] => 2
  | .key "customer_segments" :: _ => 3
  | .key "value_propositions" :: _ => 4
  | _ => 0

lemma RefError.partAt_place (error : RefError doc g f) : partAt f.place = 0 := by
  cases g with
  | v1 =>
    cases error with
    | unresolved refers => cases refers <;> rfl
    | single refers => cases refers <;> rfl
    | cost | streamValue | target | through => rfl
  | v2 =>
    cases error with
    | unresolved refers => cases refers <;> rfl
    | mapping _ _ error => cases error <;> rfl

lemma part_of_mem_findings (found : f ∈ findings doc g) : f.rule.part = partAt f.place := by
  obtain error | unused := mem_findings.1 found
  · rw [error.part, error.partAt_place]
  · cases unused with
    | entity entity => cases entity <;> rfl
    | item item => cases item <;> rfl

/-- The findings about a document have distinct places. -/
lemma nodup_place_findings : ((findings doc g).map Finding.place).Nodup := by
  refine List.pairwise_map.2 (ascending_findings.imp_of_mem ?_)
  intro f f' member member' less same
  have positions : f.position g = f'.position g := by
    rw [Finding.position, Finding.position, part_of_mem_findings member,
      part_of_mem_findings member', same]
  rw [positions] at less
  exact List.lt_irrefl _ less

end Lint

end BusinessModel
