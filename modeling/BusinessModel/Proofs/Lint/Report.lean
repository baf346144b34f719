import BusinessModel.Proofs.Lint.Coverage
import BusinessModel.Proofs.Lint.Flat
import BusinessModel.Proofs.Lint.Typed

/-!
# Errors of a report

A document has a report unless one of its reference errors shows an integer that is too long to be
written.  The errors of the report are then the reference errors of its generation, no more and no
less.

* `Lint.RefError` — the reference errors of a document under the rules of a generation
* `Lint.run_cases` — when there is a report
* `Lint.map_passed_run` — when it holds no error
* `Lint.typed_errors_iff`, `Lint.flat_errors_iff` — the errors of a report
-/

namespace BusinessModel.Lint

/-- The reference errors of a document under the rules of a generation. -/
def RefError (doc : Mapping) : Generation → Finding → Prop
  | .v1 => Flat.RefError doc
  | .v2 => Typed.RefError doc

/-- The findings about the references of a document under the rules of a generation. -/
def referencesOf (doc : Mapping) : Generation → List Finding
  | .v1 => Flat.references doc (Index.build doc .v1)
  | .v2 => Typed.references doc (Index.build doc .v2)

/-- What the fits of a document use, under the rules of a generation. -/
def coverageOf (doc : Mapping) : Generation → Coverage
  | .v1 => Flat.coverage doc
  | .v2 => Typed.coverage doc

variable {doc : Mapping} {value : Value} {g : Generation} {f : Finding} {issue : Issue}
  {rule path : String}

lemma RefError.severity (error : RefError doc g f) : f.rule.severity = .error := by
  cases g with
  | v1 => exact Flat.RefError.severity error
  | v2 => exact Typed.RefError.severity error

/-- Only fits of the first generation name products. -/
lemma isSome_products_coverageOf : (coverageOf doc g).products.isSome ↔ g = .v1 := by
  cases g <;> simp [coverageOf, Flat.coverage, Typed.coverage]

/-- References come first, then coverage. -/
lemma findings_eq : findings doc g = referencesOf doc g ++ (coverageOf doc g).findings doc := by
  cases g <;> rfl

lemma mem_referencesOf : f ∈ referencesOf doc g ↔ RefError doc g f := by
  cases g with
  | v1 => exact Flat.mem_references
  | v2 => exact Typed.mem_references

lemma mem_findings_coverageOf :
    f ∈ (coverageOf doc g).findings doc ↔
      Unused doc g (fun kind id => id ∈ (coverageOf doc g).used kind) f :=
  Coverage.mem_findings isSome_products_coverageOf

/-- The findings about a document are its reference errors and what its fits leave unused. -/
lemma mem_findings :
    f ∈ findings doc g ↔
      RefError doc g f ∨ Unused doc g (fun kind id => id ∈ (coverageOf doc g).used kind) f := by
  rw [findings_eq, List.mem_append, mem_referencesOf, mem_findings_coverageOf]

lemma mem_ofSeverity {severity : Severity} :
    issue ∈ (report value (some g)).ofSeverity severity ↔
      ∃ f ∈ findings value.asMapping g, f.rule.severity = severity ∧ f.issue = issue := by
  simp only [Report.ofSeverity, report, findingsOf, Option.getD_some, List.mem_filter,
    List.mem_map, beq_iff_eq]
  refine ⟨?_, ?_⟩
  · rintro ⟨⟨f, found, rfl⟩, same⟩
    exact ⟨f, found, same, rfl⟩
  · rintro ⟨f, found, same, rfl⟩
    exact ⟨⟨f, found, rfl⟩, same⟩

/-- The errors of a report are the reference errors of its document. -/
lemma mem_errors :
    issue ∈ (report value (some g)).errors ↔
      ∃ f, RefError value.asMapping g f ∧ f.issue = issue := by
  refine mem_ofSeverity.trans ⟨?_, ?_⟩
  · rintro ⟨f, found, isError, rfl⟩
    cases mem_findings.1 found with
    | inl error => exact ⟨f, error, rfl⟩
    | inr unused => exact absurd (isError.symm.trans unused.severity) nofun
  · rintro ⟨f, error, rfl⟩
    exact ⟨f, mem_findings.2 (.inl error), error.severity, rfl⟩

/-- The warnings of a report are what the fits of its document leave unused. -/
lemma mem_warnings :
    issue ∈ (report value (some g)).warnings ↔
      ∃ f, Unused value.asMapping g
        (fun kind id => id ∈ (coverageOf value.asMapping g).used kind) f ∧ f.issue = issue := by
  refine mem_ofSeverity.trans ⟨?_, ?_⟩
  · rintro ⟨f, found, isWarning, rfl⟩
    cases mem_findings.1 found with
    | inl error => exact absurd (isWarning.symm.trans error.severity) nofun
    | inr unused => exact ⟨f, unused, rfl⟩
  · rintro ⟨f, unused, rfl⟩
    exact ⟨f, mem_findings.2 (.inr unused), unused.severity, rfl⟩

/-- There is a report if every reference error can be written, and none otherwise. -/
lemma run_cases (value : Value) (g : Generation) :
    ((∀ f, RefError value.asMapping g f → f.isWritable = true) ∧
        run value (some g) = .ok (report value (some g))) ∨
      ((∃ f, RefError value.asMapping g f ∧ f.isWritable = false) ∧
        run value (some g) = .error .written) := by
  -- What is unused shows identifiers only, so the reference errors alone decide.
  by_cases writable : ∀ f, RefError value.asMapping g f → f.isWritable = true
  · refine .inl ⟨writable, if_pos (List.all_eq_true.2 fun f found => ?_)⟩
    cases mem_findings.1 found with
    | inl error => exact writable f error
    | inr unused => exact unused.isWritable
  · simp only [not_forall, Bool.not_eq_true] at writable
    obtain ⟨f, error, unwritable⟩ := writable
    refine .inr ⟨⟨f, error, unwritable⟩, if_neg fun all => ?_⟩
    have shown := List.all_eq_true.1 all f (mem_findings.2 (.inl error))
    exact absurd shown (by simp [unwritable])

/-- A document passes if and only if it has no reference errors. -/
lemma map_passed_run :
    (run value (some g)).map Report.passed = .ok true ↔ ∀ f, ¬RefError value.asMapping g f := by
  have clean : (report value (some g)).passed = true ↔ ∀ f, ¬RefError value.asMapping g f := by
    rw [Report.passed, List.isEmpty_iff, List.eq_nil_iff_forall_not_mem]
    refine ⟨?_, ?_⟩
    · intro none f error
      exact none f.issue (mem_errors.2 ⟨f, error, rfl⟩)
    · intro none issue member
      obtain ⟨f, error, _⟩ := mem_errors.1 member
      exact none f error
  obtain ⟨_, ran⟩ | ⟨⟨f, error, _⟩, failed⟩ := run_cases value g
  · rw [ran, ← clean, Except.map, Except.ok.injEq]
  · rw [failed]
    exact iff_of_false nofun fun none => none f error

/-- An error that cannot be written leaves a document without a report. -/
lemma run_of_unwritable (error : RefError value.asMapping g f) (unwritable : f.isWritable = false) :
    run value (some g) = .error .written := by
  obtain ⟨writable, _⟩ | ⟨_, failed⟩ := run_cases value g
  · exact absurd (writable f error) (by simp [unwritable])
  · exact failed

/-- The rules and places of the errors of a report. -/
lemma exists_error_iff :
    (∃ issue ∈ (report value (some g)).errors, issue.rule = rule ∧ issue.path = path) ↔
      ∃ f, RefError value.asMapping g f ∧ f.rule.id = rule ∧ f.place.text = path := by
  simp only [mem_errors]
  refine ⟨?_, ?_⟩
  · rintro ⟨_, ⟨f, error, rfl⟩, same⟩
    exact ⟨f, error, same⟩
  · rintro ⟨f, error, same⟩
    exact ⟨f.issue, ⟨f, error, rfl⟩, same⟩

/-- A fit that refers to an integer, under the fields of either generation. -/
def fitTo (n : Int) : Mapping := [
  (.str "value_proposition", .int n),
  (.str "for", .map [(.str "value_propositions", .list [.int n])])]

/-- A document with one segment and a fit that refers to an integer. -/
def referenceTo (n : Int) : Value := .map [
  (.str "customer_segments", .list [.map [(.str "id", .str "cs-a")]]),
  (.str "fits", .list [.map (fitTo n)])]

/-- An unresolved reference to an integer that is too long cannot be written. -/
lemma not_isWritable_of_long {n : Int} (long : isWritableInteger n = false) (rule : Rule)
    (place : Pointer) (referent : Referent) :
    Finding.isWritable ⟨rule, place, .unresolved referent (.int n)⟩ = false := by
  simp [Finding.isWritable, Fault.shown, Value.isWritable, Scalar.isWritable, long]

/-- A reference to an integer that is too long leaves its document without a report. -/
lemma run_referenceTo {n : Int} (long : isWritableInteger n = false) :
    run (referenceTo n) (some g) = .error .written := by
  have place : (0, fitTo n) ∈ Mapping.entries (referenceTo n).asMapping "fits" :=
    List.mem_singleton.2 rfl
  have unresolved : ¬Resolves (referenceTo n).asMapping (.entity .valueProposition) (.int n) :=
    not_names nofun
  cases g with
  | v1 =>
    have error := Flat.RefError.single .fitProposition place unresolved
    exact run_of_unwritable (g := .v1) error (not_isWritable_of_long long _ _ _)
  | v2 =>
    have position : (Mapping.relation (fitTo n) "for" "value_propositions")[0]? = some (.int n) :=
      rfl
    have error := Typed.RefError.unresolved .fitProposition place position unresolved
    exact run_of_unwritable (g := .v2) error (not_isWritable_of_long long _ _ _)

/-- The least integer that is too long. -/
def leastLong : Int :=
  .ofNat (.pow 10 digitLimit)

lemma not_isWritableInteger_leastLong : isWritableInteger leastLong = false := by
  have size : ∀ n, (Int.ofNat n).natAbs = n := fun _ => rfl
  simp only [isWritableInteger, leastLong, size, Nat.lt_irrefl, decide_false]

/-- The errors of a report of the second generation are the reference errors of its document.  There
is no report if and only if one of them shows an integer that is too long. -/
theorem typed_errors_iff (value : Value) :
    match run value (some .v2) with
    | .ok r =>
      (∀ f, Typed.RefError value.asMapping f → f.isWritable = true) ∧
        ∀ rule path, (∃ issue ∈ r.errors, issue.rule = rule ∧ issue.path = path) ↔
          ∃ f, Typed.RefError value.asMapping f ∧ f.rule.id = rule ∧ f.place.text = path
    | .error fault =>
      fault = .written ∧ ∃ f, Typed.RefError value.asMapping f ∧ f.isWritable = false := by
  obtain ⟨writable, ran⟩ | ⟨unwritable, failed⟩ := run_cases value .v2
  · rw [ran]
    exact ⟨writable, fun rule path => exists_error_iff⟩
  · rw [failed]
    exact ⟨rfl, unwritable⟩

/-- An unresolved reference to a long integer is an error that no report holds. -/
theorem typed_errors_unreported :
    ¬∃ r, run (referenceTo leastLong) (some .v2) = .ok r ∧
      ∀ rule path, (∃ issue ∈ r.errors, issue.rule = rule ∧ issue.path = path) ↔
        ∃ f, Typed.RefError (referenceTo leastLong).asMapping f ∧
          f.rule.id = rule ∧ f.place.text = path := by
  rintro ⟨r, ran, _⟩
  cases (run_referenceTo not_isWritableInteger_leastLong).symm.trans ran

/-- The errors of a report of the first generation are the reference errors of its document.  There
is no report if and only if one of them shows an integer that is too long. -/
theorem flat_errors_iff (value : Value) :
    match run value (some .v1) with
    | .ok r =>
      (∀ f, Flat.RefError value.asMapping f → f.isWritable = true) ∧
        ∀ rule path, (∃ issue ∈ r.errors, issue.rule = rule ∧ issue.path = path) ↔
          ∃ f, Flat.RefError value.asMapping f ∧ f.rule.id = rule ∧ f.place.text = path
    | .error fault =>
      fault = .written ∧ ∃ f, Flat.RefError value.asMapping f ∧ f.isWritable = false := by
  obtain ⟨writable, ran⟩ | ⟨unwritable, failed⟩ := run_cases value .v1
  · rw [ran]
    exact ⟨writable, fun rule path => exists_error_iff⟩
  · rw [failed]
    exact ⟨rfl, unwritable⟩

/-- A single reference to a long integer is an error that no report holds. -/
theorem flat_errors_unreported :
    ¬∃ r, run (referenceTo leastLong) (some .v1) = .ok r ∧
      ∀ rule path, (∃ issue ∈ r.errors, issue.rule = rule ∧ issue.path = path) ↔
        ∃ f, Flat.RefError (referenceTo leastLong).asMapping f ∧
          f.rule.id = rule ∧ f.place.text = path := by
  rintro ⟨r, ran, _⟩
  cases (run_referenceTo not_isWritableInteger_leastLong).symm.trans ran

end BusinessModel.Lint
