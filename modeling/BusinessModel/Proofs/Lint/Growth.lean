import BusinessModel.Proofs.Lint.Side
import Mathlib.Data.List.Forall2

/-!
# Declaring more

Inserting values into the lists in which a document declares its segments and value propositions, or
into the lists of their items, breaks no reference that resolves.  What is declared once stays
declared, and so do the items of an entity.  The errors are not monotone, though: when a fit refers
to nothing that is declared on one of its sides, nothing is looked up in that side, and a
declaration can bring such errors out.

* `Lint.Grows` — a document with values inserted into its declarations
* `Grows.resolves`, `Grows.lists` — what resolves or is listed still does or is
* `Lint.Unmasked` — what a declaration can bring out
* `Lint.Stems`, `RefError.stems` — where the errors of the grown document come from
* `Lint.ErrorsGrow`, `Lint.errors_of_grows` — the reports of the two documents
-/

namespace BusinessModel.Lint

/-- The sections that declare the entities of the sides of fits. -/
def entityKeys : List String := ["value_propositions", "customer_segments"]

/-- The lists of items that these entities have. -/
def itemKeys : List String :=
  ["jobs", "pains", "gains", "products_services", "pain_relievers", "gain_creators"]

/-- A value that stays, or a list into which values are inserted anywhere while `R` tells how those
that were there may change. -/
inductive Inserted (R : Value → Value → Prop) : Value → Value → Prop where
  | same (v : Value) : Inserted R v v
  | list {items items' : List Value} :
    List.SublistForall₂ R items items' → Inserted R (.list items) (.list items')

/-- A declaration that stays, or into whose lists of items values are inserted. -/
inductive EntityGrows : Value → Value → Prop where
  | same (v : Value) : EntityGrows v v
  | items {entry entry' : Mapping} :
    (∀ key ∈ itemKeys, Inserted Eq (Mapping.get entry key) (Mapping.get entry' key)) →
    (∀ key ∉ itemKeys, Mapping.get entry key = Mapping.get entry' key) →
    EntityGrows (.map entry) (.map entry')

/-- A document into whose declarations values are inserted. -/
structure Grows (doc doc' : Mapping) : Prop where
  sections : ∀ side : Side,
    Inserted EntityGrows (Mapping.get doc side.key) (Mapping.get doc' side.key)
  elsewhere : ∀ key ∉ entityKeys, Mapping.get doc key = Mapping.get doc' key

variable {doc doc' entry entry' fit : Mapping} {g : Generation} {side : Side} {i : Nat}
  {f : Finding} {ref owner item v v' w : Value} {R : Value → Value → Prop}
  {key field id x : String} {referent : Referent}

/-! ### What is declared -/

/-- What was in a list is still there. -/
lemma Inserted.exists_mem (inserted : Inserted R v v') (refl : ∀ v, R v v) (member : w ∈ v.asList) :
    ∃ w' ∈ v'.asList, R w w' := by
  cases inserted with
  | same => exact ⟨w, member, refl w⟩
  | list sublist =>
    have kept : ∀ {items items' : List Value}, List.SublistForall₂ R items items' →
        w ∈ items → ∃ w' ∈ items', R w w' := by
      intro items items' sublist member
      induction sublist with
      | nil => cases member
      | cons related _ ih =>
        obtain rfl | member := List.mem_cons.1 member
        · exact ⟨_, List.mem_cons_self, related⟩
        · obtain ⟨w', member, related⟩ := ih member
          exact ⟨w', List.mem_cons_of_mem _ member, related⟩
      | cons_right _ ih =>
        obtain ⟨w', member, related⟩ := ih member
        exact ⟨w', List.mem_cons_of_mem _ member, related⟩
    exact kept sublist member

/-- An item of a list is still one. -/
lemma mem_idsIn_of_inserted
    (inserted : Inserted Eq (Mapping.get entry key) (Mapping.get entry' key))
    (member : x ∈ Mapping.idsIn entry key) : x ∈ Mapping.idsIn entry' key := by
  obtain ⟨item, declares⟩ := mem_idsIn.1 member
  obtain ⟨listed, named⟩ := declares_iff.1 declares
  obtain ⟨_, listed, rfl⟩ := inserted.exists_mem (fun _ => rfl) listed
  exact mem_idsIn.2 ⟨item, declares_iff.2 ⟨listed, named⟩⟩

namespace Grows

/-- A declaration is still there, and its items are, too. -/
lemma exists_declares (grows : Grows doc doc') (declares : Declares doc side.key id entry) :
    ∃ entry', Declares doc' side.key id entry' ∧
      ∀ key ∈ itemKeys, ∀ x ∈ Mapping.idsIn entry key, x ∈ Mapping.idsIn entry' key := by
  obtain ⟨listed, named⟩ := declares_iff.1 declares
  obtain ⟨_, listed, grown⟩ := (grows.sections side).exists_mem .same listed
  cases grown with
  | same => exact ⟨entry, declares_iff.2 ⟨listed, named⟩, fun _ _ _ member => member⟩
  | @items _ entry' items others =>
    have same : Mapping.id? entry' = Mapping.id? entry := by
      rw [Mapping.id?, Mapping.id?, others "id" (by decide)]
    refine ⟨entry', declares_iff.2 ⟨listed, same.trans named⟩, fun key isItem x member => ?_⟩
    exact mem_idsIn_of_inserted (items key isItem) member

lemma names (grows : Grows doc doc') (side : Side) (named : Names doc side.key ref) :
    Names doc' side.key ref := by
  obtain ⟨id, declared, text⟩ := named
  obtain ⟨entry, declares⟩ := mem_idsIn.1 declared
  obtain ⟨entry', declares', -⟩ := grows.exists_declares declares
  exact ⟨id, mem_idsIn.2 ⟨entry', declares'⟩, text⟩

lemma lists (grows : Grows doc doc') (side : Side) (isItem : field ∈ itemKeys)
    (lists : Lists doc side.key field owner item) : Lists doc' side.key field owner item := by
  obtain ⟨id, entry, rfl, declares, x, member, text⟩ := lists
  obtain ⟨entry', declares', items⟩ := grows.exists_declares declares
  exact ⟨id, entry', rfl, declares', x, items field isItem x member, text⟩

lemma entries_eq (grows : Grows doc doc') (other : key ∉ entityKeys) :
    Mapping.entries doc' key = Mapping.entries doc key := by
  rw [Mapping.entries, Mapping.entries, grows.elsewhere key other]

lemma names_iff (grows : Grows doc doc') (other : key ∉ entityKeys) :
    Names doc' key ref ↔ Names doc key ref := by
  rw [Names, Names, Mapping.idsIn, Mapping.idsIn, grows.entries_eq other]

/-- What resolves still does. -/
lemma resolves (grows : Grows doc doc') (resolves : Resolves doc referent ref) :
    Resolves doc' referent ref := by
  unfold Resolves at resolves
  split at resolves
  · exact grows.names .segments resolves
  · exact grows.names .propositions resolves
  · exact resolves.elim
  · exact resolves.imp (grows.names_iff (by decide)).2 (grows.names_iff (by decide)).2

end Grows

/-! ### Where errors come from -/

/-- A fit refers to a declared entity of a side. -/
def LinksTo (doc fit : Mapping) (side : Side) : Generation → Prop
  | .v1 => Names doc side.key (Mapping.get fit side.field)
  | .v2 => ∃ ref ∈ Mapping.relation fit "for" side.key, Names doc side.key ref

/-- A rule and a path that a declaration can bring out: they are about something looked up in a side
of a fit, and the fit refers to a declared entity of that side in the second document only. -/
inductive Unmasked (g : Generation) (doc doc' : Mapping) (rule path : String) : Prop where
  | lookup (side : Side) {i : Nat} {fit : Mapping} :
    (i, fit) ∈ Mapping.entries doc "fits" →
    rule ∈ (side.scopedRules g).map Rule.id →
    (scopedPlace i g).Under path →
    ¬LinksTo doc fit side g →
    LinksTo doc' fit side g →
    Unmasked g doc doc' rule path

/-- Where an error of a grown document comes from. -/
inductive Stems (g : Generation) (doc doc' : Mapping) (f : Finding) : Prop where
  /-- It was an error before. -/
  | kept : RefError doc g f → Stems g doc doc' f
  /-- It was one before, when fewer of the entities that it shows were declared. -/
  | reworded {old : Finding} :
    RefError doc g old → old.rule = f.rule → old.place = f.place → f.isWritable = true →
    Stems g doc doc' f
  | unmasked : Unmasked g doc doc' f.rule.id f.place.text → Stems g doc doc' f

lemma Unmasked.of_place {rule : Rule} (step : Step) (rest : Pointer)
    (place : (i, fit) ∈ Mapping.entries doc "fits") (looked : rule ∈ side.scopedRules g)
    (before : ¬LinksTo doc fit side g) (after : LinksTo doc' fit side g) :
    Unmasked g doc doc' rule.id (scopedPlace i g ++ step :: rest).text := by
  refine .lookup side place (List.mem_map_of_mem looked) (Pointer.under_text_append ?_) before after
  cases g <;> exact List.cons_ne_nil _ _

/-- Names have a text. -/
lemma isWritable_of_names (named : Names doc key ref) : ref.isWritable = true := by
  obtain ⟨id, rfl⟩ := named.exists_str
  rfl

namespace Flat

lemma Refers.notMem_entityKeys {key field : String} {referent : Referent} {rule : Rule}
    (refers : Refers key field referent rule) : key ∉ entityKeys := by
  cases refers <;> decide

lemma RefersOnce.notMem_entityKeys {key field : String} {referent : Referent} {rule : Rule}
    (refers : RefersOnce key field referent rule) : key ∉ entityKeys := by
  cases refers <;> decide

lemma FitItem.mem_itemKeys {key target field : String} {kind : EntityKind} {rule : Rule}
    (item : FitItem key target kind field rule) : field ∈ itemKeys := by
  cases item <;> decide

lemma RefError.stems (grows : Grows doc doc') (error : RefError doc' f) :
    Stems .v1 doc doc' f := by
  cases error with
  | unresolved refers place position unresolved =>
    rw [grows.entries_eq refers.notMem_entityKeys] at place
    exact .kept (.unresolved refers place position (unresolved ∘ grows.resolves))
  | cost place position unresolved =>
    rw [← grows.elsewhere "cost_structure" (by decide)] at place
    exact .kept (.cost place position (unresolved ∘ grows.resolves))
  | single refers place unresolved =>
    rw [grows.entries_eq refers.notMem_entityKeys] at place
    exact .kept (.single refers place (unresolved ∘ grows.resolves))
  | streamValue place present unresolved =>
    rw [grows.entries_eq (by decide)] at place
    exact .kept (.streamValue place present (unresolved ∘ grows.resolves))
  | @target key target kind field rule i fit k entry item place inner declared unlisted =>
    rw [grows.entries_eq (by decide)] at place
    by_cases before : LinksTo doc fit .segments .v1
    · exact .kept (.target item place inner before
        (unlisted ∘ grows.lists .segments item.mem_itemKeys))
    · exact .unmasked (.of_place (.key key) [.index k, .key target] place item.mem_scopedRules
        before declared)
  | @through key target kind field rule i fit k entry t ref item place inner position declared
      unlisted =>
    rw [grows.entries_eq (by decide)] at place
    by_cases before : LinksTo doc fit .propositions .v1
    · exact .kept (.through item place inner position before
        (unlisted ∘ grows.lists .propositions (by decide)))
    · exact .unmasked (.of_place (.key key) [.index k, .key "through", .index t] place
        (List.mem_singleton_self _) before declared)

end Flat

namespace Typed

lemma Refers.notMem_entityKeys {key relation target : String} {referent : Referent} {rule : Rule}
    (refers : Refers key relation target referent rule) : key ∉ entityKeys := by
  cases refers <;> decide

lemma ValueMapItem.mem_itemKeys {kind : EntityKind} {field : String} {rule : Rule}
    (item : ValueMapItem kind field rule) : field ∈ itemKeys := by
  cases item <;> decide

lemma ProfileItem.mem_itemKeys {kind : EntityKind} {field : String} {rule : Rule}
    (item : ProfileItem kind field rule) : field ∈ itemKeys := by
  cases item <;> decide

lemma linksTo_iff :
    LinksTo doc fit side .v2 ↔ linked doc side.key (Mapping.relation fit "for" side.key) ≠ [] := by
  rw [linked, ne_eq, List.filter_eq_nil_iff]
  simp only [LinksTo, decide_eq_true_eq, not_forall, not_not, exists_prop]

/-- What is out of scope was so before, if the fit had a scope. -/
lemma OutOfScope.of_grows (grows : Grows doc doc') (isItem : field ∈ itemKeys)
    (before : LinksTo doc fit side .v2) (outside : OutOfScope doc' fit side.key field id) :
    OutOfScope doc fit side.key field id := by
  refine ⟨linksTo_iff.1 before, fun owner member => ?_⟩
  exact outside.2 owner member ∘ grows.lists side isItem

/-- The entities that an error about a scope shows have a text. -/
lemma isWritable_notInAny {rule : Rule} {place : Pointer} {kind : EntityKind} {refs : List Value}
    {referent : Referent} :
    Finding.isWritable ⟨rule, place, .notInAny referent id kind (linked doc key refs)⟩ = true := by
  apply List.all_eq_true.2
  intro ref member
  obtain ⟨-, named⟩ := List.mem_filter.1 member
  exact isWritable_of_names (of_decide_eq_true named)

lemma RefError.stems (grows : Grows doc doc') (error : RefError doc' f) :
    Stems .v2 doc doc' f := by
  cases error with
  | unresolved refers place position unresolved =>
    rw [grows.entries_eq refers.notMem_entityKeys] at place
    exact .kept (.unresolved refers place position (unresolved ∘ grows.resolves))
  | @mapping i fit k mapping _ place position error =>
    rw [grows.entries_eq (by decide)] at place
    cases error with
    | malformed noPair => exact .kept (.mapping place position (.malformed noPair))
    | clash pair clash => exact .kept (.mapping place position (.clash pair clash))
    | notProfileItem pair noClash noItem =>
      exact .kept (.mapping place position (.notProfileItem pair noClash noItem))
    | left pair compatible known item outside =>
      by_cases before : LinksTo doc fit .propositions .v2
      · have outside := OutOfScope.of_grows grows item.mem_itemKeys before outside
        exact .reworded (.mapping place position (.left pair compatible known item outside)) rfl rfl
          isWritable_notInAny
      · exact .unmasked (.of_place (.index k) [.index 0] place item.mem_scopedRules before
          (linksTo_iff.2 outside.1))
    | right pair compatible known item outside =>
      by_cases before : LinksTo doc fit .segments .v2
      · have outside := OutOfScope.of_grows grows item.mem_itemKeys before outside
        exact .reworded (.mapping place position (.right pair compatible known item outside)) rfl
          rfl isWritable_notInAny
      · exact .unmasked (.of_place (.index k) [.index 1] place item.mem_scopedRules before
          (linksTo_iff.2 outside.1))

end Typed

lemma RefError.stems (grows : Grows doc doc') (error : RefError doc' g f) : Stems g doc doc' f := by
  cases g with
  | v1 => exact Flat.RefError.stems grows error
  | v2 => exact Typed.RefError.stems grows error

/-! ### Reports -/

lemma isWritable_of_resolves (resolves : Resolves doc referent ref) : ref.isWritable = true := by
  unfold Resolves at resolves
  split at resolves
  · exact isWritable_of_names resolves
  · exact isWritable_of_names resolves
  · exact resolves.elim
  · exact resolves.elim isWritable_of_names isWritable_of_names

/-- What cannot be written is no text, and names nothing. -/
lemma not_resolves_of_unwritable {rule : Rule} {place : Pointer}
    (unwritable : Finding.isWritable ⟨rule, place, .unresolved referent ref⟩ = false) :
    ¬Resolves doc referent ref := by
  intro resolves
  simp [Finding.isWritable, Fault.shown, isWritable_of_resolves resolves] at unwritable

lemma not_lists_of_unwritable {rule : Rule} {place : Pointer} {kind : EntityKind}
    (unwritable : Finding.isWritable ⟨rule, place, .notIn referent item kind owner⟩ = false) :
    ¬Lists doc key field owner item := by
  intro lists
  obtain ⟨x, rfl⟩ := lists.exists_str
  have named : owner.isWritable = true := isWritable_of_names lists.names
  simp [Finding.isWritable, Fault.shown, named, Value.isWritable, Scalar.isWritable] at unwritable

lemma Flat.RefError.persists (grows : Grows doc doc') (error : RefError doc f)
    (unwritable : f.isWritable = false) : RefError doc' f := by
  cases error with
  | unresolved refers place position =>
    rw [← grows.entries_eq refers.notMem_entityKeys] at place
    exact .unresolved refers place position (not_resolves_of_unwritable unwritable)
  | cost place position =>
    rw [grows.elsewhere "cost_structure" (by decide)] at place
    exact .cost place position (not_resolves_of_unwritable unwritable)
  | single refers place =>
    rw [← grows.entries_eq refers.notMem_entityKeys] at place
    exact .single refers place (not_resolves_of_unwritable unwritable)
  | streamValue place present =>
    rw [← grows.entries_eq (by decide)] at place
    exact .streamValue place present (not_resolves_of_unwritable unwritable)
  | target item place inner declared =>
    rw [← grows.entries_eq (by decide)] at place
    exact .target item place inner (grows.names .segments declared)
      (not_lists_of_unwritable unwritable)
  | through item place inner position declared =>
    rw [← grows.entries_eq (by decide)] at place
    exact .through item place inner position (grows.names .propositions declared)
      (not_lists_of_unwritable unwritable)

lemma Typed.RefError.persists (grows : Grows doc doc') (error : RefError doc f)
    (unwritable : f.isWritable = false) : RefError doc' f := by
  cases error with
  | unresolved refers place position =>
    rw [← grows.entries_eq refers.notMem_entityKeys] at place
    exact .unresolved refers place position (not_resolves_of_unwritable unwritable)
  | mapping place position error =>
    rw [← grows.entries_eq (by decide)] at place
    cases error with
    | malformed noPair => exact .mapping place position (.malformed noPair)
    | clash => cases unwritable
    | notProfileItem => cases unwritable
    | left => cases unwritable.symm.trans isWritable_notInAny
    | right => cases unwritable.symm.trans isWritable_notInAny

/-- What leaves a document without a report is still there when more is declared. -/
lemma RefError.persists (grows : Grows doc doc') (error : RefError doc g f)
    (unwritable : f.isWritable = false) : RefError doc' g f := by
  cases g with
  | v1 => exact Flat.RefError.persists grows error unwritable
  | v2 => exact Typed.RefError.persists grows error unwritable

/-- A fit that refers to nothing declared, while another document declares something that it refers
to, has an unresolved reference. -/
lemma exists_refError (place : (i, fit) ∈ Mapping.entries doc "fits")
    (before : ¬LinksTo doc fit side g) (after : LinksTo doc' fit side g) :
    ∃ f, RefError doc g f := by
  cases g with
  | v1 =>
    cases side with
    | propositions => exact ⟨_, Flat.RefError.single .fitProposition place before⟩
    | segments => exact ⟨_, Flat.RefError.single .fitSegment place before⟩
  | v2 =>
    obtain ⟨ref, member, -⟩ := after
    obtain ⟨j, position⟩ := List.mem_iff_getElem?.1 member
    have unresolved : ¬Names doc side.key ref := fun named => before ⟨ref, member, named⟩
    cases side with
    | propositions => exact ⟨_, Typed.RefError.unresolved .fitProposition place position unresolved⟩
    | segments => exact ⟨_, Typed.RefError.unresolved .fitSegment place position unresolved⟩

/-- Every error of the report of the second document is at the path of an error of the first one
with the same rule, or is brought out.  If only the first document has a report, then an error that
is brought out in the second one shows an integer that is too long. -/
inductive ErrorsGrow (g : Generation) (doc doc' : Mapping) :
    Except LongInteger Report → Except LongInteger Report → Prop where
  | both {r r' : Report} :
    (∀ issue ∈ r'.errors,
      (∃ old ∈ r.errors, old.rule = issue.rule ∧ old.path = issue.path) ∨
        Unmasked g doc doc' issue.rule issue.path) →
    ErrorsGrow g doc doc' (.ok r) (.ok r')
  | first {r : Report} {f : Finding} :
    RefError doc' g f → f.isWritable = false → Unmasked g doc doc' f.rule.id f.place.text →
    ErrorsGrow g doc doc' (.ok r) (.error .written)
  | neither : ErrorsGrow g doc doc' (.error .written) (.error .written)

/-- Declaring more brings out errors about what fits look up in entities that were not declared
before, and no other errors.  A document that passes still does. -/
theorem errors_of_grows (grows : Grows doc doc') :
    ErrorsGrow g doc doc' (run (.map doc) (some g)) (run (.map doc') (some g)) ∧
      ((run (.map doc) (some g)).map Report.passed = .ok true →
        (run (.map doc') (some g)).map Report.passed = .ok true) := by
  refine ⟨?_, fun passes => ?_⟩
  · obtain ⟨writable, ran⟩ | ⟨⟨f, error, unwritable⟩, failed⟩ := run_cases (.map doc) g
    · obtain ⟨-, ran'⟩ | ⟨⟨f, error, unwritable⟩, failed'⟩ := run_cases (.map doc') g
      · rw [ran, ran']
        refine .both fun issue member => ?_
        obtain ⟨f, error, rfl⟩ := mem_errors.1 member
        cases error.stems grows with
        | kept error => exact .inl ⟨f.issue, mem_errors.2 ⟨f, error, rfl⟩, rfl, rfl⟩
        | @reworded old error rule place =>
          exact .inl ⟨old.issue, mem_errors.2 ⟨old, error, rfl⟩, congrArg Rule.id rule,
            congrArg Pointer.text place⟩
        | unmasked unmasked => exact .inr unmasked
      · rw [ran, failed']
        cases error.stems grows with
        | kept error => cases unwritable.symm.trans (writable f error)
        | reworded _ _ _ shown => cases unwritable.symm.trans shown
        | unmasked unmasked => exact .first error unwritable unmasked
    · rw [failed, run_of_unwritable (error.persists grows unwritable) unwritable]
      exact .neither
  · rw [map_passed_run] at passes ⊢
    intro f error
    cases error.stems grows with
    | kept error => exact passes f error
    | reworded error => exact passes _ error
    | unmasked unmasked =>
      obtain ⟨side, place, _, _, before, after⟩ := unmasked
      obtain ⟨f, error⟩ := exists_refError place before after
      exact passes f error

/-- Inserting values into a section anywhere is declaring more. -/
lemma grows_set (side : Side) {items items' : List Value}
    (listed : Mapping.get doc side.key = .list items) (sublist : items.Sublist items') :
    Grows doc (Mapping.set doc (.str side.key) (.list items')) := by
  have : Std.Refl EntityGrows := ⟨.same⟩
  refine ⟨fun other => ?_, fun key other => ?_⟩
  · by_cases same : side = other
    · rw [← same, listed, Mapping.get_set]
      exact .list sublist.sublistForall₂
    · rw [Mapping.get_set_of_ne fun found => same (Side.key_injective found)]
      exact .same _
  · have apart : side.key ≠ key := by
      rintro rfl
      cases side <;> exact other (by decide)
    exact (Mapping.get_set_of_ne apart).symm

/-- A document with some fits and no segments. -/
def segmentless (fits : List Value) : Mapping :=
  [(.str "customer_segments", .list []), (.str "fits", .list fits)]

/-- A fit that refers to a segment and to one of its pains. -/
def painfulFit : Value := .map [
  (.str "for", .map [(.str "customer_segments", .list [.str "cs-a"])]),
  (.str "mappings", .list [.list [.str "ps-a", .str "pain-a"]])]

/-- A document with the same fits and a segment that has no pains. -/
def withSegment (fits : List Value) : Mapping :=
  Mapping.set (segmentless fits) (.str "customer_segments")
    (.list [.map [(.str "id", .str "cs-a")]])

lemma grows_withSegment (fits : List Value) : Grows (segmentless fits) (withSegment fits) :=
  grows_set .segments rfl (List.nil_sublist _)

/-- The pain is looked for as soon as the segment is declared. -/
theorem errors_of_grows_withSegment :
    (∃ r r', run (.map (segmentless [painfulFit])) (some .v2) = .ok r ∧
      run (.map (withSegment [painfulFit])) (some .v2) = .ok r' ∧
      ∀ issue ∈ r'.errors, (∃ old ∈ r.errors, old.rule = issue.rule ∧ old.path = issue.path) ∨
        Unmasked .v2 (segmentless [painfulFit]) (withSegment [painfulFit]) issue.rule issue.path) ∧
      (run (.map (withSegment [])) (some .v2)).map Report.passed = .ok true := by
  refine ⟨?_, (errors_of_grows (grows_withSegment [])).2 (by decide +kernel)⟩
  have ran : run (.map (segmentless [painfulFit])) (some .v2) =
      .ok (report (.map (segmentless [painfulFit])) (some .v2)) := if_pos (by decide +kernel)
  have ran' : run (.map (withSegment [painfulFit])) (some .v2) =
      .ok (report (.map (withSegment [painfulFit])) (some .v2)) := if_pos (by decide +kernel)
  have reports := (errors_of_grows (g := .v2) (grows_withSegment [painfulFit])).1
  rw [ran, ran'] at reports
  cases reports with
  | both each => exact ⟨_, _, ran, ran', each⟩

end BusinessModel.Lint
