import BusinessModel.Proofs.Lint.Order

/-!
# The issues of a report

A report lists its errors and then its warnings, in the order of the document, each under a rule of
its generation and with the severity of that rule.  Every rule of a generation is one that some
document breaks.

* `Lint.appliesTo_of_mem_findings` — findings break rules of their generation
* `Lint.issues_eq` — errors come before warnings, and there is nothing else
* `Lint.brokenModel` — documents that break every rule of their generation
* `Lint.issues_ordered` — the issues of a report, their rules and their order
-/

namespace BusinessModel.Lint

variable {doc : Mapping} {value : Value} {g : Generation} {f : Finding} {rule : Rule}

/-! ### Rules -/

lemma Rule.mem_forGeneration : rule ∈ Rule.forGeneration g ↔ rule.appliesTo g = true := by
  have listed : rule ∈ Rule.all := by cases rule <;> decide
  simp only [Rule.forGeneration, List.mem_filter, listed, true_and]

/-- Reference errors break rules of their generation. -/
lemma RefError.appliesTo (error : RefError doc g f) : f.rule.appliesTo g = true := by
  cases g with
  | v1 =>
    cases error with
    | unresolved refers => cases refers <;> rfl
    | single refers => cases refers <;> rfl
    | cost | streamValue | through => rfl
    | target item => cases item <;> rfl
  | v2 =>
    cases error with
    | unresolved refers => cases refers <;> rfl
    | mapping _ _ error =>
      cases error with
      | malformed | clash | notProfileItem => rfl
      | left _ _ _ item => cases item <;> rfl
      | right _ _ _ item => cases item <;> rfl

lemma Unused.appliesTo {inUse : EntityKind → String → Prop} (unused : Unused doc g inUse f) :
    f.rule.appliesTo g = true := by
  cases unused with
  | entity entity => cases entity <;> cases g <;> rfl
  | item item => cases item <;> (try cases g) <;> rfl

lemma appliesTo_of_mem_findings (found : f ∈ findings doc g) : f.rule.appliesTo g = true := by
  obtain error | unused := mem_findings.1 found
  · exact error.appliesTo
  · exact unused.appliesTo

/-! ### Errors and warnings -/

/-- The issues of a severity are the findings under rules of that severity. -/
lemma ofSeverity_report (severity : Severity) :
    (report value (some g)).ofSeverity severity =
      ((referencesOf value.asMapping g).filter (·.rule.severity == severity) ++
        ((coverageOf value.asMapping g).findings value.asMapping).filter
          (·.rule.severity == severity)).map Finding.issue := by
  rw [← List.filter_append, ← findings_eq]
  exact List.filter_map

lemma severity_referencesOf : ∀ f ∈ referencesOf doc g, f.rule.severity = .error :=
  fun _ found => (mem_referencesOf.1 found).severity

lemma severity_coverageOf : ∀ f ∈ (coverageOf doc g).findings doc, f.rule.severity = .warning :=
  fun _ found => (mem_findings_coverageOf.1 found).severity

lemma errors_report :
    (report value (some g)).errors = (referencesOf value.asMapping g).map Finding.issue := by
  refine (ofSeverity_report .error).trans ?_
  rw [List.filter_eq_self.2 fun f found => by rw [severity_referencesOf f found]; rfl,
    List.filter_eq_nil_iff.2 fun f found => by rw [severity_coverageOf f found]; decide,
    List.append_nil]

lemma warnings_report :
    (report value (some g)).warnings =
      ((coverageOf value.asMapping g).findings value.asMapping).map Finding.issue := by
  refine (ofSeverity_report .warning).trans ?_
  rw [List.filter_eq_nil_iff.2 fun f found => by rw [severity_referencesOf f found]; decide,
    List.filter_eq_self.2 fun f found => by rw [severity_coverageOf f found]; rfl, List.nil_append]

/-- Errors come before warnings, and there is nothing else. -/
lemma issues_eq :
    (report value (some g)).issues =
      (report value (some g)).errors ++ (report value (some g)).warnings := by
  rw [errors_report, warnings_report, ← List.map_append, ← findings_eq]
  rfl

/-! ### Documents that break every rule -/

/-- A mapping of some texts. -/
def record (fields : List (String × Value)) : Value :=
  .map (fields.map fun field => (.str field.1, field.2))

/-- A list of texts. -/
def texts (items : List String) : Value := .list (items.map .str)

/-- A list of one item that declares an identifier. -/
def declaring (id : String) : Value := .list [record [("id", .str id)]]

/-- The segments and value propositions of a document, two of each: the first one has items, and the
second one has no fits. -/
def brokenEntities : List (String × Value) :=
  [("customer_segments", .list [
      record [("id", .str "cs-a"), ("pains", declaring "pain-a"), ("gains", declaring "gain-a"),
        ("jobs", declaring "job-a")],
      record [("id", .str "cs-b")]]),
    ("value_propositions", .list [
      record [("id", .str "vp-a"), ("products_services", declaring "ps-a")],
      record [("id", .str "vp-b")]])]

/-- A document that breaks every rule of its generation. -/
def brokenModel : Generation → Value
  | .v1 => record (brokenEntities ++
      [("fits", .list [
          record [("value_proposition", .str "vp-a"), ("customer_segment", .str "cs-a"),
            ("pain_relievers", .list [
              record [("pain", .str "pain-x"), ("through", texts ["ps-x"])]]),
            ("gain_creators", .list [record [("gain", .str "gain-x")]]),
            ("job_addressers", .list [record [("job", .str "job-x")]])],
          record [("value_proposition", .str "vp-x"), ("customer_segment", .str "cs-x")]]),
        ("channels", .list [record [("segments", texts ["cs-x"])]]),
        ("customer_relationships", .list [record [("segment", .str "cs-x")]]),
        ("revenue_streams", .list [
          record [("from_segments", texts ["cs-x"]), ("for_value", .str "vp-x")]]),
        ("key_resources", .list [record [("for_value", texts ["vp-x"])]]),
        ("key_activities", .list [record [("for_value", texts ["vp-x"])]]),
        ("key_partnerships", .list [record [("provides", texts ["kr-x"])]]),
        ("cost_structure", record [
          ("major_costs", .list [record [("linked_to", texts ["kr-x"])]])])])
  | .v2 =>
    let segments := ("customer_segments", texts ["cs-a", "cs-x"])
    let propositions := ("value_propositions", texts ["vp-a", "vp-x"])
    let linked (relation : String) (targets : List (String × Value)) : Value :=
      .list [record [(relation, record targets)]]
    record (brokenEntities ++
      [("fits", .list [
          record [("for", record [propositions, segments]),
            ("mappings", .list [texts [], texts ["pr-x", "gain-x"], texts ["pr-x", "pain-x"],
              texts ["gc-x", "gain-x"], texts ["ps-x", "job-x"]])]]),
        ("channels", linked "for" [segments, propositions]),
        ("customer_relationships", linked "for" [segments]),
        ("revenue_streams", .list [
          record [("from", record [segments]), ("for", record [propositions])]]),
        ("key_resources", linked "for" [propositions]),
        ("key_activities", linked "for" [propositions]),
        ("key_partnerships", linked "for" [("key_resources", texts ["kr-x"])]),
        ("costs", linked "for" [("key_activities", texts ["ka-x"])])])

lemma breaks_brokenModel (g : Generation) :
    ∀ rule ∈ Rule.forGeneration g, ∃ f ∈ findings (brokenModel g).asMapping g, f.rule = rule := by
  cases g <;> decide +kernel

lemma run_brokenModel (g : Generation) :
    run (brokenModel g) (some g) = .ok (report (brokenModel g) (some g)) := by
  apply if_pos
  cases g <;> decide +kernel

/-- Every rule of a generation is reported for some document. -/
lemma exists_reported (member : rule ∈ Rule.forGeneration g) :
    ∃ value r, run value (some g) = .ok r ∧ ∃ issue ∈ r.issues, issue.rule = rule.id := by
  obtain ⟨f, found, rfl⟩ := breaks_brokenModel g rule member
  exact ⟨_, _, run_brokenModel g, f.issue, List.mem_map_of_mem found, rfl⟩

/-! ### Reports -/

/-- The issues of a report are its errors and then its warnings, under rules of its generation, in
the order of the document.  There is no report if and only if a reference error shows an integer
that is too long.  Every rule of the generation is reported for some document. -/
theorem issues_ordered (value : Value) (g : Generation) :
    (match run value (some g) with
    | .ok r =>
      r.issues = r.errors ++ r.warnings ∧
        (∀ issue ∈ r.issues, ∃ rule ∈ Rule.forGeneration g,
          issue.rule = rule.id ∧ issue.severity = rule.severity) ∧
        r.issues = (findings value.asMapping g).map Finding.issue ∧
        (findings value.asMapping g).Pairwise fun f f' => f.position g < f'.position g
    | .error fault =>
      fault = .written ∧ ∃ f, RefError value.asMapping g f ∧ f.isWritable = false) ∧
    ∀ rule ∈ Rule.forGeneration g, ∃ other r, run other (some g) = .ok r ∧
      ∃ issue ∈ r.issues, issue.rule = rule.id := by
  refine ⟨?_, fun rule => exists_reported⟩
  obtain ⟨-, ran⟩ | ⟨unwritable, failed⟩ := run_cases value g
  · rw [ran]
    refine ⟨issues_eq, fun issue member => ?_, rfl, ascending_findings⟩
    obtain ⟨f, found, rfl⟩ := List.mem_map.1 member
    exact ⟨f.rule, Rule.mem_forGeneration.2 (appliesTo_of_mem_findings found), rfl, rfl⟩
  · rw [failed]
    exact ⟨rfl, unwritable⟩

end BusinessModel.Lint
