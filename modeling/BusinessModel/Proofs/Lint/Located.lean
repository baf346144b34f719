import BusinessModel.Proofs.Lint.Order
import BusinessModel.Proofs.Lint.Position

/-!
# Issues and what they are about

The path of an issue leads to what the issue is about: to a reference, to a mapping of a fit or a
side of it, or to an entity or item that is not in use.  A single reference of the first generation
may be missing; the path then leads to the mapping that lacks it.  No two issues share a path.

* `Lint.About` — what a fault is about
* `Lint.Leads` — what a path leads to
* `Lint.issues_located` — every issue of a report has a path of its own to what it is about
-/

namespace BusinessModel.Lint

/-- What a fault is about. -/
inductive About : Fault → Value → Prop where
  | unresolved {referent ref} : About (.unresolved referent ref) ref
  | notIn {referent ref owner ownerId} : About (.notIn referent ref owner ownerId) ref
  | notInAny {referent id owner ownerIds} : About (.notInAny referent id owner ownerIds) (.str id)
  | notAPair {mapping} : About (.notAPair mapping) mapping
  | incompatible {mapping l r kind wanted} :
    Typed.IsPair mapping l r →
    About (.incompatible l r kind wanted) mapping
  | notAProfileItem {l r} : About (.notAProfileItem l r) (.str r)
  | noFits {entry kind id} : Mapping.id? entry = some id → About (.noFits kind id) (.map entry)
  | unused {entry kind id} : Mapping.id? entry = some id → About (.unused kind id) (.map entry)

/-- What a path leads to.  Where a mapping lacks a single reference, the path of that reference
leads to nothing, which reads as null. -/
inductive Leads (value : Value) : Generation → String → Value → Prop where
  | there {g path node} : value.at? path = some node → Leads value g path node
  | lacking {above name m} :
    MayLack above name →
    value.at? above.text = some (.map m) →
    Mapping.get? m name = none →
    Leads value .v1 (Pointer.text (above ++ [.key name])) .null

/-- A finding is about a part of a document: the path of its issue leads there, and so does the
message, if it is about a reference. -/
structure Located (value : Value) (g : Generation) (f : Finding) (node : Value) : Prop where
  leads : Leads value g f.issue.path node
  about : About f.fault node
  shows : f.rule.severity = .error → ¬MappingRule f.rule → ∃ referent rest,
    f.rule.referent? = some referent ∧
      f.issue.message = s!"{referent.label} '{node.display}' does not exist" ++ rest

variable {doc fit m : Mapping} {value mapping node : Value} {g : Generation} {f : Finding}
  {place above : Pointer} {referent : Referent} {ref : Value} {rule : Rule} {fault : Fault}
  {name : String} {inUse : EntityKind → String → Prop} {i k : Nat}

/-! ### References -/

lemma Fault.about_of_reference? (h : fault.reference? = some (referent, ref)) :
    About fault ref := by
  cases fault with
  | unresolved | notIn | notInAny =>
    cases h
    constructor
  | notAPair | incompatible | notAProfileItem | noFits | unused => cases h

/-- A fault that is about a reference is about nothing else. -/
lemma About.eq_of_reference? (about : About fault node)
    (h : fault.reference? = some (referent, ref)) : node = ref := by
  cases about with
  | unresolved | notIn | notInAny =>
    cases h
    rfl
  | notAPair | incompatible | notAProfileItem | noFits | unused => cases h

/-- The message about a reference begins with what it should name and how it is written. -/
lemma Fault.message_of_reference? (h : fault.reference? = some (referent, ref)) :
    ∃ rest, fault.message = s!"{referent.label} '{ref.display}' does not exist" ++ rest := by
  have cut : "' does not exist in " = "' does not exist" ++ " in " := by simp
  cases fault with
  | unresolved referent ref =>
    cases h
    refine ⟨"", ?_⟩
    exact (String.append_empty (s := s!"{referent.label} '{ref.display}' does not exist")).symm
  | notIn _ _ owner ownerId =>
    cases h
    refine ⟨s!" in {owner.label} '{ownerId.display}'", ?_⟩
    unfold message
    simp only [cut, String.append_assoc]
    rfl
  | notInAny _ _ owner ownerIds =>
    cases h
    refine ⟨s!" in {owner.label}(s) " ++
      commaSeparated (ownerIds.map fun id => s!"'{id.display}'"), ?_⟩
    unfold message
    simp only [cut, String.append_assoc]
    rfl
  | notAPair | incompatible | notAProfileItem | noFits | unused => cases h

/-! ### Mappings -/

/-- The sides of a pair are reached by their positions. -/
lemma Typed.IsPair.follow {l r : String} (pair : IsPair mapping l r) :
    mapping.follow [.index 0] = some (.str l) ∧ mapping.follow [.index 1] = some (.str r) := by
  cases pair <;> simp

/-- The place of an error about a mapping leads to the mapping or to a side of it. -/
lemma Typed.MappingError.exists_node (error : MappingError doc fit place mapping f) :
    ∃ side node, f.place = place ++ side ∧ side.IsPlain ∧ mapping.follow side = some node ∧
      About f.fault node := by
  cases error with
  | malformed =>
    exact ⟨[], _, (List.append_nil _).symm, Pointer.isPlain_nil, Value.follow_nil, .notAPair⟩
  | clash pair =>
    exact ⟨[], _, (List.append_nil _).symm, Pointer.isPlain_nil, Value.follow_nil,
      .incompatible pair⟩
  | notProfileItem pair => exact ⟨_, _, rfl, by simp, pair.follow.2, .notAProfileItem⟩
  | left pair => exact ⟨_, _, rfl, by simp, pair.follow.1, .notInAny⟩
  | right pair => exact ⟨_, _, rfl, by simp, pair.follow.2, .notInAny⟩

/-- Errors about sides of a mapping other than their kinds are about references. -/
lemma Typed.MappingError.exists_reference? (error : MappingError doc fit place mapping f)
    (other : ¬MappingRule f.rule) :
    ∃ referent ref, f.rule.referent? = some referent ∧
      f.fault.reference? = some (referent, ref) := by
  cases error with
  | malformed => exact absurd .malformed other
  | clash | notProfileItem => exact absurd .mismatch other
  | left _ _ _ item => cases item <;> exact ⟨_, _, rfl, rfl⟩
  | right _ _ _ item => cases item <;> exact ⟨_, _, rfl, rfl⟩

/-! ### Findings -/

/-- Where a finding is, in steps: they are plain and lead to what it is about. -/
structure Arrives (doc : Mapping) (g : Generation) (f : Finding) (node : Value) : Prop where
  ne_nil : f.place ≠ []
  plain : f.place.IsPlain
  stands : Stands doc g f.place node
  about : About f.fault node

lemma RefError.exists_arrives (error : RefError doc g f) : ∃ node, Arrives doc g f node := by
  obtain ⟨_, ref, reference, faulty⟩ | ⟨rfl, i, fit, k, mapping, entry, position, error⟩ :=
    error.reference_or_mapping
  · exact ⟨ref, reference.ne_nil, reference.plain, reference.stands,
      Fault.about_of_reference? faulty⟩
  · obtain ⟨side, node, place, plain, reached, about⟩ := error.exists_node
    refine ⟨node, ?_, ?_, .there ?_, about⟩
    · simp [place, mappingPlace]
    · have above : (mappingPlace i k).IsPlain := by
        simp only [mappingPlace, Pointer.isPlain_cons, Step.isPlain_index, Pointer.isPlain_nil]
        decide
      rw [place]
      exact List.forall_mem_append.2 ⟨above, plain⟩
    · have mapped : (Value.map doc).follow (mappingPlace i k) = some mapping := by
        rw [mappingPlace, Value.follow_entry entry, Value.follow_asList position, Value.follow_nil]
      rw [place, Value.follow_append mapped, reached]

lemma Unused.exists_arrives (unused : Unused doc g inUse f) : ∃ node, Arrives doc g f node := by
  cases unused with
  | entity kinds entry named =>
    refine ⟨_, by simp, ?_, .there (Value.follow_entry entry), .noFits named⟩
    cases kinds <;> simp <;> decide
  | item kinds owner entry named =>
    refine ⟨_, by simp, ?_, .there ?_, .unused named⟩
    · cases kinds <;> simp <;> decide
    · rw [Value.follow_entry owner, Value.follow_entry entry, Value.follow_nil]

lemma exists_arrives (found : f ∈ findings doc g) : ∃ node, Arrives doc g f node :=
  (mem_findings.1 found).elim RefError.exists_arrives Unused.exists_arrives

/-- Errors other than those about the form and the kinds of mappings are about references. -/
lemma RefError.exists_reference? (error : RefError doc g f) (other : ¬MappingRule f.rule) :
    ∃ referent ref, f.rule.referent? = some referent ∧
      f.fault.reference? = some (referent, ref) := by
  obtain ⟨referent, ref, reference, faulty⟩ | ⟨_, _, _, _, _, _, _, error⟩ :=
    error.reference_or_mapping
  · exact ⟨referent, ref, reference.referent?_eq, faulty⟩
  · exact error.exists_reference? other

/-! ### Paths -/

lemma MayLack.ne_nil (lacks : MayLack above name) : above ≠ [] := by cases lacks <;> simp

lemma MayLack.plain (lacks : MayLack above name) : above.IsPlain := by
  cases lacks with
  | single refers => cases refers <;> simp <;> decide
  | target item => cases item <;> simp <;> decide

/-- A path leads where its steps do. -/
lemma Stands.leads (stands : Stands doc g place node) (h : place ≠ []) (plain : place.IsPlain) :
    Leads (.map doc) g place.text node := by
  cases stands with
  | there reached => exact .there (by rw [Value.at?_text h plain, reached])
  | lacking first lacks shape reached absent null =>
    subst first shape null
    exact .lacking lacks (by rw [Value.at?_text lacks.ne_nil lacks.plain, reached]) absent

lemma findings_nil : findings [] g = [] := by cases g <;> rfl

/-- Only mappings have findings. -/
lemma eq_map_of_mem_findings (found : f ∈ findings value.asMapping g) :
    value = .map value.asMapping := by
  cases value with
  | map m => rfl
  | scalar | list | tuple | set =>
    change f ∈ findings [] g at found
    rw [findings_nil] at found
    cases found

/-- Every finding is about a part of the document. -/
lemma exists_located (found : f ∈ findings value.asMapping g) : ∃ node, Located value g f node := by
  obtain ⟨node, arrives⟩ := exists_arrives found
  refine ⟨node, ?_, arrives.about, ?_⟩
  · rw [eq_map_of_mem_findings found]
    exact arrives.stands.leads arrives.ne_nil arrives.plain
  · intro isError other
    obtain error | unused := mem_findings.1 found
    · obtain ⟨referent, ref, names, faulty⟩ := error.exists_reference? other
      obtain ⟨rest, begins⟩ := Fault.message_of_reference? faulty
      rw [arrives.about.eq_of_reference? faulty]
      exact ⟨referent, rest, names, begins⟩
    · exact absurd (isError.symm.trans unused.severity) nofun

/-- No two findings have one path. -/
lemma nodup_path_findings : ((findings doc g).map fun f => f.place.text).Nodup := by
  have places : ((findings doc g).map Finding.place).Nodup := nodup_place_findings
  have texts : ((findings doc g).map Finding.place).map Pointer.text =
      (findings doc g).map fun f => f.place.text := List.map_map
  rw [← texts]
  refine places.map_on ?_
  rintro _ member _ member' same
  obtain ⟨f, found, rfl⟩ := List.mem_map.1 member
  obtain ⟨f', found', rfl⟩ := List.mem_map.1 member'
  obtain ⟨_, arrives⟩ := exists_arrives found
  obtain ⟨_, arrives'⟩ := exists_arrives found'
  exact (Pointer.text_inj_of_plain arrives.ne_nil arrives'.ne_nil arrives.plain arrives'.plain).1
    same

/-- No two errors of a report have one path. -/
lemma nodup_path_errors : ((report value (some g)).errors.map Issue.path).Nodup := by
  have errors : (report value (some g)).errors.Sublist ((findings value.asMapping g).map
      Finding.issue) := List.filter_sublist
  have paths : ((findings value.asMapping g).map Finding.issue).map Issue.path =
      (findings value.asMapping g).map fun f => f.place.text := List.map_map
  refine List.Nodup.sublist (errors.map Issue.path) ?_
  rw [paths]
  exact nodup_path_findings

/-- Every issue of a report has a path of its own, which leads to what the issue is about.  There is
no report if and only if a reference error shows an integer that is too long. -/
theorem issues_located (value : Value) (g : Generation) :
    match run value (some g) with
    | .ok r =>
      (∀ f, RefError value.asMapping g f → f.isWritable = true) ∧
        (r.issues.map Issue.path).Nodup ∧
        ∀ issue ∈ r.issues, ∃ f node,
          (RefError value.asMapping g f ∨ Unused value.asMapping g (InUse value.asMapping r g) f) ∧
            f.issue = issue ∧ Located value g f node
    | .error fault =>
      fault = .written ∧ ∃ f, RefError value.asMapping g f ∧ f.isWritable = false := by
  obtain ⟨writable, ran⟩ | ⟨unwritable, failed⟩ := run_cases value g
  · rw [ran]
    refine ⟨writable, ?_, ?_⟩
    · have paths : (report value (some g)).issues.map Issue.path =
          (findings value.asMapping g).map fun f => f.place.text := List.map_map
      rw [paths]
      exact nodup_path_findings
    · intro issue member
      obtain ⟨f, found, rfl⟩ := mem_issues.1 member
      obtain ⟨node, located⟩ := exists_located found
      refine ⟨f, node, ?_, rfl, located⟩
      exact (mem_findings.1 found).imp_right (Unused.congr fun _ _ => mem_used_coverageOf).1
  · rw [failed]
    exact ⟨rfl, unwritable⟩

end BusinessModel.Lint
