import BusinessModel.Proofs.Lint.InUse
import BusinessModel.Proofs.Lint.Report
import BusinessModel.Proofs.Pointer

/-!
# Warnings of a report

Coverage decides for itself which mappings of a fit count.  Its decision is that of the references:
a mapping counts if and only if the same report finds no fault with its form or its kinds.  With
that, the warnings of a report are what the fits of its document leave unused.

* `Rule.id_injective` — rules are told apart by their names
* `Report.Accepts` — a report finds no fault with a mapping
* `Lint.accepts_report_iff` — accepted mappings are the compatible pairs
* `Lint.coverage_warnings_iff` — the warnings of a report
* `Lint.warnsAt_iff` — which entities a report warns about
-/

namespace BusinessModel.Lint

/-- Rules are told apart by their names. -/
lemma Rule.id_injective : Function.Injective Rule.id := by
  have listed : ∀ rule : Rule, rule ∈ Rule.all := by
    intro rule
    cases rule <;> decide
  have distinct : (Rule.all.map Rule.id).Nodup := by decide +kernel
  intro a b same
  exact List.inj_on_of_nodup_map distinct (listed a) (listed b) same

/-- The place of a mapping of a fit. -/
def mappingPlace (i k : Nat) : Pointer :=
  [.key "fits", .index i, .key "mappings", .index k]

/-- The rules about the form and the kinds of a mapping. -/
inductive MappingRule : Rule → Prop where
  | malformed : MappingRule .fitMappingMalformed
  | mismatch : MappingRule .fitMappingTypeMismatch

lemma MappingRule.severity {rule : Rule} (kinds : MappingRule rule) : rule.severity = .error := by
  cases kinds <;> rfl

/-- A report finds no fault with the form and the kinds of a mapping, be it with the whole mapping
or with a side of it. -/
def Report.Accepts (r : Report) (i k : Nat) : Prop :=
  ∀ issue ∈ r.issues, ∀ rule, MappingRule rule → issue.rule = rule.id →
    ∀ side, issue.path ≠ Pointer.text (mappingPlace i k ++ side)

/-- What the fits of a document use, given its report. -/
def InUse (doc : Mapping) (r : Report) : Generation → EntityKind → String → Prop
  | .v1 => Flat.InUse doc
  | .v2 => Typed.InUse doc r.Accepts

variable {doc fit : Mapping} {value mapping : Value} {g : Generation} {f : Finding} {i j k l : Nat}
  {place side other : Pointer} {rule path : String}

/-- Issues at a mapping are at no other mapping. -/
lemma mappingPlace_inj
    (same : Pointer.text (mappingPlace i k ++ side) = Pointer.text (mappingPlace j l ++ other)) :
    i = j ∧ k = l := by
  have steps := (Pointer.text_inj (by simp [mappingPlace]) (by simp [mappingPlace])).1 same
  simp only [mappingPlace, List.cons_append, List.map_cons, List.cons.injEq] at steps
  exact ⟨Step.index_text_inj steps.2.1, Step.index_text_inj steps.2.2.2.1⟩

namespace Typed

/-- Faults with the form or the kinds of a mapping are found where it is no compatible pair. -/
lemma MappingError.not_compatible (error : MappingError doc fit place mapping f)
    (kinds : MappingRule f.rule) :
    (∃ side, f.place = place ++ side) ∧ ¬∃ l r, IsPair mapping l r ∧ Compatible l r := by
  cases error with
  | malformed noPair =>
    refine ⟨⟨[], (List.append_nil _).symm⟩, ?_⟩
    rintro ⟨l, r, pair, _⟩
    exact noPair l r pair
  | clash pair clash =>
    refine ⟨⟨[], (List.append_nil _).symm⟩, ?_⟩
    rintro ⟨l, r, pair', compatible⟩
    cases (pair?_eq_some.2 pair).symm.trans (pair?_eq_some.2 pair')
    exact compatible.1 _ _ clash
  | notProfileItem pair _ noItem =>
    refine ⟨⟨_, rfl⟩, ?_⟩
    rintro ⟨l, r, pair', compatible⟩
    cases (pair?_eq_some.2 pair).symm.trans (pair?_eq_some.2 pair')
    exact noItem compatible.2
  | left _ _ _ item => cases item <;> cases kinds
  | right _ _ _ item => cases item <;> cases kinds

/-- A mapping that is no compatible pair has a fault in its form or its kinds. -/
lemma exists_mappingError (incompatible : ¬∃ l r, IsPair mapping l r ∧ Compatible l r) :
    ∃ f, MappingError doc fit place mapping f ∧ MappingRule f.rule ∧
      ∃ side, f.place = place ++ side := by
  by_cases pair : ∃ l r, IsPair mapping l r
  · obtain ⟨l, r, pair⟩ := pair
    by_cases clash : ∃ kind wanted, Clash l r kind wanted
    · obtain ⟨kind, wanted, clash⟩ := clash
      exact ⟨_, .clash pair clash, .mismatch, [], (List.append_nil _).symm⟩
    · have noClash : ∀ kind wanted, ¬Clash l r kind wanted := by
        intro kind wanted found
        exact clash ⟨kind, wanted, found⟩
      have noItem : ¬IsProfileItem r := by
        intro item
        exact incompatible ⟨l, r, pair, noClash, item⟩
      exact ⟨_, .notProfileItem pair noClash noItem, .mismatch, _, rfl⟩
  · have noPair : ∀ l r, ¬IsPair mapping l r := by
      intro l r found
      exact pair ⟨l, r, found⟩
    exact ⟨_, .malformed noPair, .malformed, [], (List.append_nil _).symm⟩

/-- Errors about the form or the kinds of a mapping come from a mapping. -/
lemma RefError.exists_mapping (error : RefError doc f) (kinds : MappingRule f.rule) :
    ∃ i fit k mapping, (i, fit) ∈ Mapping.entries doc "fits" ∧
      (Mapping.get fit "mappings").asList[k]? = some mapping ∧
      MappingError doc fit (mappingPlace i k) mapping f := by
  cases error with
  | unresolved refers => cases refers <;> cases kinds
  | mapping place position error => exact ⟨_, _, _, _, place, position, error⟩

end Typed

lemma mem_issues {issue : Issue} :
    issue ∈ (report value (some g)).issues ↔ ∃ f ∈ findings value.asMapping g, f.issue = issue :=
  List.mem_map

/-- A report accepts a mapping if and only if it is a compatible pair. -/
lemma accepts_report_iff (place : (i, fit) ∈ Mapping.entries value.asMapping "fits")
    (position : (Mapping.get fit "mappings").asList[k]? = some mapping) :
    (report value (some .v2)).Accepts i k ↔
      ∃ l r, Typed.IsPair mapping l r ∧ Typed.Compatible l r := by
  refine ⟨?_, ?_⟩
  · intro accepts
    by_contra incompatible
    obtain ⟨f, error, kinds, side, there⟩ := Typed.exists_mappingError incompatible
    have found : f ∈ findings value.asMapping .v2 :=
      mem_findings.2 (.inl (Typed.RefError.mapping place position error))
    refine accepts f.issue (mem_issues.2 ⟨f, found, rfl⟩) f.rule kinds rfl side ?_
    exact congrArg Pointer.text there
  · rintro compatible issue member rule kinds ruled side there
    obtain ⟨f, found, rfl⟩ := mem_issues.1 member
    obtain rfl := Rule.id_injective ruled
    cases mem_findings.1 found with
    | inl error =>
      obtain ⟨j, fit', k', mapping', place', position', error⟩ :=
        Typed.RefError.exists_mapping error kinds
      obtain ⟨⟨side', here⟩, incompatible⟩ := error.not_compatible kinds
      -- The texts of places are distinct, so the issue is about this mapping and no other.
      have same : Pointer.text (mappingPlace j k' ++ side') =
          Pointer.text (mappingPlace i k ++ side) := (congrArg Pointer.text here).symm.trans there
      obtain ⟨rfl, rfl⟩ := mappingPlace_inj same
      cases (mem_entries.1 place).symm.trans (mem_entries.1 place')
      cases position.symm.trans position'
      exact incompatible compatible
    | inr unused => exact absurd (kinds.severity.symm.trans unused.severity) nofun

/-- What fits use, in terms of the report. -/
lemma mem_used_coverageOf {kind : EntityKind} {id : String} :
    id ∈ (coverageOf value.asMapping g).used kind ↔
      InUse value.asMapping (report value (some g)) g kind id := by
  cases g with
  | v1 => exact Flat.mem_used_coverage
  | v2 =>
    exact Typed.mem_used_coverage fun i fit k mapping place position =>
      accepts_report_iff place position

/-- The warnings of a report are what the fits of its document leave unused. -/
lemma exists_warning_iff :
    (∃ issue ∈ (report value (some g)).warnings, issue.rule = rule ∧ issue.path = path) ↔
      ∃ f, Unused value.asMapping g (InUse value.asMapping (report value (some g)) g) f ∧
        f.rule.id = rule ∧ f.place.text = path := by
  simp only [mem_warnings, Unused.congr fun _ _ => mem_used_coverageOf]
  refine ⟨?_, ?_⟩
  · rintro ⟨_, ⟨f, unused, rfl⟩, same⟩
    exact ⟨f, unused, same⟩
  · rintro ⟨f, unused, same⟩
    exact ⟨f.issue, ⟨f, unused, rfl⟩, same⟩

/-- The warnings of a report are what the fits of its document leave unused, where the mappings that
count are those that the report accepts.  There is no report if and only if a reference error shows
an integer that is too long. -/
theorem coverage_warnings_iff (value : Value) (g : Generation) :
    match run value (some g) with
    | .ok r =>
      (∀ f, RefError value.asMapping g f → f.isWritable = true) ∧
        ∀ rule path, (∃ issue ∈ r.warnings, issue.rule = rule ∧ issue.path = path) ↔
          ∃ f, Unused value.asMapping g (InUse value.asMapping r g) f ∧
            f.rule.id = rule ∧ f.place.text = path
    | .error fault =>
      fault = .written ∧ ∃ f, RefError value.asMapping g f ∧ f.isWritable = false := by
  obtain ⟨writable, ran⟩ | ⟨unwritable, failed⟩ := run_cases value g
  · rw [ran]
    exact ⟨writable, fun rule path => exists_warning_iff⟩
  · rw [failed]
    exact ⟨rfl, unwritable⟩

/-- A segment without fits is not warned about in a document without a report. -/
theorem coverage_warnings_unreported :
    ¬∃ r, run (referenceTo leastLong) (some .v2) = .ok r ∧
      ∀ rule path, (∃ issue ∈ r.warnings, issue.rule = rule ∧ issue.path = path) ↔
        ∃ f, Unused (referenceTo leastLong).asMapping .v2
            (InUse (referenceTo leastLong).asMapping r .v2) f ∧
          f.rule.id = rule ∧ f.place.text = path := by
  rintro ⟨r, ran, _⟩
  cases (run_referenceTo not_isWritableInteger_leastLong).symm.trans ran

/-! ### Entities without fits -/

/-- A report warns of a rule at a place. -/
def Report.WarnsAt (r : Report) (rule : Rule) (place : Pointer) : Prop :=
  ∃ issue ∈ r.warnings, issue.rule = rule.id ∧ issue.path = place.text

section Entity

variable {key id : String} {kind : EntityKind} {rule : Rule} {issue : Issue} {entry : Mapping}

/-- A warning about an entity without fits is at an entry whose identifier no fit uses. -/
lemma exists_of_mem_warnings (entity : Entity key kind rule)
    (member : issue ∈ (report value (some g)).warnings) (warns : issue.rule = rule.id) :
    ∃ i entry id, (i, entry) ∈ Mapping.entries value.asMapping key ∧
      Mapping.id? entry = some id ∧ issue.path = Pointer.text [.key key, .index i] ∧
      id ∉ (coverageOf value.asMapping g).used kind := by
  obtain ⟨f, unused, rfl⟩ := mem_warnings.1 member
  have rule : f.rule = rule := Rule.id_injective warns
  cases unused with
  | entity entity' place named outside =>
    subst rule
    cases entity <;> cases entity' <;> exact ⟨_, _, _, place, named, rfl, outside⟩
  | item looked =>
    subst rule
    cases entity <;> cases looked

/-- A declared entity is warned about if and only if no fit uses it. -/
lemma warnsAt_iff (entity : Entity key kind rule)
    (place : (i, entry) ∈ Mapping.entries value.asMapping key)
    (named : Mapping.id? entry = some id) :
    (report value (some g)).WarnsAt rule [.key key, .index i] ↔
      id ∉ (coverageOf value.asMapping g).used kind := by
  refine ⟨?_, fun outside => ?_⟩
  · intro ⟨issue, member, warns, here⟩
    obtain ⟨j, entry', id', place', named', there, outside⟩ :=
      exists_of_mem_warnings entity member warns
    have steps := (Pointer.text_inj (by simp) (by simp)).1 (there.symm.trans here)
    simp only [List.map_cons, List.cons.injEq] at steps
    obtain rfl := Step.index_text_inj steps.2.1
    cases (mem_entries.1 place).symm.trans (mem_entries.1 place')
    cases named.symm.trans named'
    exact outside
  · exact ⟨_, mem_warnings.2 ⟨_, .entity entity place named outside, rfl⟩, rfl, rfl⟩

end Entity

end BusinessModel.Lint
