import BusinessModel.EventLog
import BusinessModel.Proofs.Declared
import BusinessModel.Telemetry
import Mathlib.Data.List.Forall2

/-!
# What is told of a run

A run is told to the span that a tracer records and to the event log.  What an event or an entry
tells is read from the fields that it is written with, against the report that it is about.

* `SpanEvent.Tells`, `SpanEvent.SumsUp` — an event about one issue, and about all of them
* `SpanEvent.Recorded` — the events that a lint run leaves on a span
* `EventEntry.IsWritten` — an entry is written with all of its fields
* `EventEntry.Completes` — the entry about a lint run
* `EventEntry.Fails` — the entry about a failed validation
-/

namespace BusinessModel

namespace Lint.Report

variable {r : Report}

/-- The number of issues of one severity. -/
def count (r : Report) (severity : Severity) : Nat :=
  r.issues.countP fun issue => issue.severity == severity

lemma length_ofSeverity (severity : Severity) :
    (r.ofSeverity severity).length = r.count severity :=
  List.countP_eq_length_filter.symm

lemma passed_iff : r.passed = true ↔ ∀ issue ∈ r.issues, issue.severity ≠ .error := by
  simp [passed, errors, ofSeverity, List.filter_eq_nil_iff]

lemma passed_eq_false_iff : r.passed = false ↔ ∃ issue ∈ r.issues, issue.severity = .error := by
  rw [← Bool.not_eq_true, passed_iff]
  simp

end Lint.Report

namespace SpanEvent

variable {source event key : String} {attributes : Mapping} {e : SpanEvent} {issue : Lint.Issue}
  {r : Lint.Report}

/-- An event tells an issue. -/
structure Tells (e : SpanEvent) (issue : Lint.Issue) : Prop where
  name : e.name = "bmml.lint.issue"
  rule : Mapping.get? e.attributes "bmml.rule" = some (.str issue.rule)
  severity : Mapping.get? e.attributes "bmml.severity" = some (.str issue.severity.name)
  path : Mapping.get? e.attributes "bmml.path" = some (.str issue.path)
  message : Mapping.get? e.attributes "bmml.message" = some (.str issue.message)

/-- An event sums a report up. -/
structure SumsUp (e : SpanEvent) (r : Lint.Report) : Prop where
  name : e.name = "bmml.lint.complete"
  issues : Mapping.get? e.attributes "bmml.issue_count" = some (.int r.issues.length)
  errors : Mapping.get? e.attributes "bmml.error_count" = some (.int (r.count .error))
  warnings : Mapping.get? e.attributes "bmml.warning_count" = some (.int (r.count .warning))
  passed : Mapping.get? e.attributes "bmml.passed" = some (.bool r.passed)

/-- The events of a lint run tell its errors in order and then sum it up.  All of them name the
source, if it has a name. -/
inductive Recorded (source : String) (r : Lint.Report) : List SpanEvent → Prop where
  | intro {told summary} :
    List.Forall₂ Tells told (r.issues.filter fun issue => issue.severity == .error) →
    summary.SumsUp r →
    (r.passed = true ↔ ∀ e ∈ told ++ [summary], e.name ≠ "bmml.lint.issue") →
    (∀ e ∈ told ++ [summary], Mapping.get? e.attributes "bmml.source" =
      if source = "" then none else some (.str source)) →
    Recorded source r (told ++ [summary])

/-- Naming the source leaves the other attributes as they are. -/
lemma get?_about (other : key ≠ "bmml.source") :
    Mapping.get? (about source event attributes).attributes key = Mapping.get? attributes key := by
  unfold about
  dsimp only
  split
  · rfl
  · rw [Mapping.get?_set, if_neg other.symm]

lemma get?_source_about (absent : Mapping.get? attributes "bmml.source" = none) :
    Mapping.get? (about source event attributes).attributes "bmml.source" =
      if source = "" then none else some (.str source) := by
  unfold about
  by_cases unnamed : source = ""
  · rw [if_pos unnamed, if_pos (by rw [unnamed]; rfl), absent]
  · rw [if_neg unnamed, if_neg (by simpa using unnamed), Mapping.get?_set, if_pos rfl]

lemma tells_lintIssue : (lintIssue source issue).Tells issue where
  name := rfl
  rule := get?_about (by decide)
  severity := get?_about (by decide)
  path := get?_about (by decide)
  message := get?_about (by decide)

lemma sumsUp_lintComplete : (lintComplete source r).SumsUp r where
  name := rfl
  issues := get?_about (by decide)
  errors := (get?_about (by decide)).trans (by rw [← r.length_ofSeverity]; rfl)
  warnings := (get?_about (by decide)).trans (by rw [← r.length_ofSeverity]; rfl)
  passed := get?_about (by decide)

lemma mem_lintResult :
    e ∈ lintResult source r ↔
      (∃ issue ∈ r.errors, lintIssue source issue = e) ∨ e = lintComplete source r := by
  rw [lintResult, List.mem_append, List.mem_map, List.mem_singleton]

lemma recorded_lintResult : Recorded source r (lintResult source r) := by
  have told : List.Forall₂ Tells (r.errors.map (lintIssue source)) r.errors := by
    rw [List.forall₂_map_left_iff, List.forall₂_same]
    exact fun issue _ => tells_lintIssue
  refine .intro told sumsUp_lintComplete ?_ ?_
  · have silent : r.passed = true ↔ r.errors = [] := List.isEmpty_iff
    rw [silent]
    constructor
    · intro none e member
      rw [none] at member
      obtain rfl := List.mem_singleton.1 member
      exact sumsUp_lintComplete.name.trans_ne (by decide)
    · intro unnamed
      refine List.eq_nil_iff_forall_not_mem.2 fun issue member => ?_
      exact unnamed _ (mem_lintResult.2 (.inl ⟨issue, member, rfl⟩)) tells_lintIssue.name
  · intro e member
    obtain ⟨issue, _, rfl⟩ | rfl := mem_lintResult.1 member
    · exact get?_source_about rfl
    · exact get?_source_about rfl

end SpanEvent

/-- The fields that an entry is written with show all of it, but for a source without a name. -/
structure EventEntry.IsWritten (e : EventEntry) : Prop where
  level : Mapping.get? e.fields "level" = some (.str e.urgency.name)
  event : Mapping.get? e.fields "event" = some (.str e.event)
  service : Mapping.get? e.fields "service" = some (.str e.service)
  source : e.source ≠ "" → Mapping.get? e.fields "source" = some (.str e.source)
  details : ∀ key, key ∉ ["level", "event", "service", "source"] →
    Mapping.get? e.fields key = Mapping.get? e.details key

lemma EventEntry.isWritten (e : EventEntry) : e.IsWritten where
  level := rfl
  event := rfl
  service := rfl
  source named := by
    unfold fields
    rw [if_neg (by simpa using named)]
    rfl
  details key other := by
    simp only [List.mem_cons, List.not_mem_nil, or_false, not_or] at other
    obtain ⟨level, event, service, source⟩ := other
    unfold fields
    split
    · simp [Mapping.get?_cons, Ne.symm level, Ne.symm event, Ne.symm service]
    · simp [Mapping.get?_cons, Ne.symm level, Ne.symm event, Ne.symm service, Ne.symm source]

/-- An entry of the event log is about a lint run with a report. -/
structure EventEntry.Completes (e : EventEntry) (service source : String) (r : Lint.Report) :
    Prop where
  event : e.event = "lint.completed"
  service : e.service = service
  source : e.source = source
  errors : Mapping.get? e.details "error_count" = some (.int (r.count .error))
  warnings : Mapping.get? e.details "warning_count" = some (.int (r.count .warning))
  passed : Mapping.get? e.details "passed" = some (.bool r.passed)
  urgency : e.urgency = .warn ↔ ∃ issue ∈ r.issues, issue.severity = .error

lemma EventEntry.completes_lintCompleted {service source : String} {r : Lint.Report} :
    (lintCompleted service source r).Completes service source r where
  event := rfl
  service := rfl
  source := rfl
  errors := by rw [← r.length_ofSeverity]; rfl
  warnings := by rw [← r.length_ofSeverity]; rfl
  passed := rfl
  urgency := by
    rw [← Lint.Report.passed_eq_false_iff, lintCompleted]
    cases r.passed <;> simp

/-- An entry of the event log is about a validation that has found something. -/
structure EventEntry.Fails (e : EventEntry) (service source : String) (r : Validation.Report) :
    Prop where
  event : e.event = "validation.failed"
  service : e.service = service
  source : e.source = source
  urgency : e.urgency = .error
  version : Mapping.get? e.details "version" = some (.str r.generation.name)
  errors : Mapping.get? e.details "error_count" = some (.int r.issues.length)
  first : ∃ issue, r.issues.head? = some issue ∧
    Mapping.get? e.details "first_error" = some (.str issue.message)

lemma EventEntry.fails_validationFailed {service source : String} {r : Validation.Report}
    (invalid : r.valid = false) : (validationFailed service source r).Fails service source r where
  event := rfl
  service := rfl
  source := rfl
  urgency := rfl
  version := rfl
  errors := rfl
  first := by
    cases found : r.issues with
    | nil =>
      rw [Validation.Report.valid, found] at invalid
      cases invalid
    | cons issue rest =>
      refine ⟨issue, rfl, ?_⟩
      rw [validationFailed, found]
      rfl

end BusinessModel
