import BusinessModel.Proofs.Lint.Report
import BusinessModel.Proofs.Pointer.Decoded
import BusinessModel.Proofs.Schema.Violation

/-!
# Well-formed validation reports

A report of a document holds one issue for each violation of its schema, sorted, and every path in
it leads to the node that the issue is about.  The names in the packaged schemas are words, so that
paths need no escapes and only the whole document has the path of the root.

* `Validation.WellFormed` — the report of a document tells its violations
* `Validation.run_wellFormed` — reports are well formed, if there is one
-/

namespace BusinessModel

/-- A path leads from a document to a node; the path of the root leads to the document only. -/
inductive Value.Reaches (doc : Value) : String → Value → Prop where
  | root : Reaches doc "/" doc
  | below {path node} : path ≠ "/" → doc.at? path = some node → Reaches doc path node

namespace Pointer

variable {p : Pointer}

lemma text_nil : text [] = "/" := rfl

/-- Going down in plain steps leaves the root. -/
lemma IsPlain.text_eq_slash (plain : p.IsPlain) : p.text = "/" ↔ p = [] := by
  refine ⟨fun same => ?_, fun same => by rw [same, text_nil]⟩
  by_contra nonempty
  have steps := pathSteps_text nonempty plain
  rw [same, show pathSteps "/" = [""] by decide +kernel] at steps
  cases p with
  | nil => exact nonempty rfl
  | cons step rest =>
    obtain ⟨empty, _⟩ := List.cons.inj steps
    cases step with
    | key name => exact (isPlain_cons.1 plain).1.1 (by rw [← show "" = name from empty]; rfl)
    | index i =>
      have written : (Step.index i).text.toList ≠ [] := by
        rw [Step.text, Nat.toList_repr]
        exact Nat.toDigits_ne_nil
      exact written (by rw [← empty]; rfl)

end Pointer

namespace Validation

open Schema (Breaks Coded Fault)

variable {a b c issue : Issue} {doc node : Value} {g : Generation} {schema : Schema}
  {place : Pointer} {fault : Fault}

/-! ### The order of issues -/

namespace Issue

lemma le_iff : a.le b = true ↔ a.path < b.path ∨ a.path = b.path ∧ a.message ≤ b.message := by
  simp only [le, Bool.or_eq_true, Bool.and_eq_true, decide_eq_true_eq, beq_iff_eq]

lemma le_trans (before : a.le b = true) (after : b.le c = true) : a.le c = true := by
  rw [le_iff] at *
  obtain earlier | ⟨same, first⟩ := before
  · obtain later | ⟨same', _⟩ := after
    · exact .inl (String.lt_trans earlier later)
    · exact .inl (same' ▸ earlier)
  · obtain later | ⟨same', second⟩ := after
    · exact .inl (same ▸ later)
    · exact .inr ⟨same.trans same', String.le_trans first second⟩

lemma le_total (a b : Issue) : (a.le b || b.le a) = true := by
  rw [Bool.or_eq_true, le_iff, le_iff]
  by_cases earlier : a.path < b.path
  · exact .inl (.inl earlier)
  · by_cases later : b.path < a.path
    · exact .inr (.inl later)
    · have same : a.path = b.path :=
        String.le_antisymm (String.not_lt.1 later) (String.not_lt.1 earlier)
      obtain first | second := String.le_total a.message b.message
      · exact .inl (.inr ⟨same, first⟩)
      · exact .inr (.inr ⟨same.symm, second⟩)

end Issue

/-! ### Reports -/

/-- The report of a document tells the violations of the schema of a generation, each of them once
and in order, and where they are. -/
structure WellFormed (doc : Value) (g : Generation) (r : Report) : Prop where
  generation : r.generation = g
  perm : r.issues.Perm (((packaged g).violations doc).map Issue.ofViolation)
  complete : ∀ place node fault, Breaks (packaged g) doc place node fault →
    Issue.ofViolation ⟨place, fault⟩ ∈ r.issues
  sound : ∀ issue ∈ r.issues, ∃ place node fault, Breaks (packaged g) doc place node fault ∧
    issue = .ofViolation ⟨place, fault⟩ ∧ (issue.path = "/" ↔ place = []) ∧
    doc.Reaches issue.path node ∧ Coded issue.code node
  sorted : r.issues.Pairwise fun a b =>
    a.path < b.path ∨ a.path = b.path ∧ a.message ≤ b.message
  valid_iff : r.valid = true ↔ ∀ place node fault, ¬Breaks (packaged g) doc place node fault

lemma perm_ofSchema : (Report.ofSchema g schema doc).issues.Perm
    ((schema.violations doc).map Issue.ofViolation) :=
  List.mergeSort_perm _ _

lemma pairwise_ofSchema : (Report.ofSchema g schema doc).issues.Pairwise fun a b =>
    a.path < b.path ∨ a.path = b.path ∧ a.message ≤ b.message := by
  have sorted : (Report.ofSchema g schema doc).issues.Pairwise fun a b => a.le b = true :=
    @List.pairwise_mergeSort Issue Issue.le (fun _ _ _ => Issue.le_trans) Issue.le_total _
  exact sorted.imp Issue.le_iff.1

lemma isPlain_of_breaks (breaks : Breaks (packaged g) doc place node fault) : place.IsPlain :=
  breaks.isPlain (Schema.isPlain_stepNames g)

/-- The path of a violation leads to its node. -/
lemma reaches_of_breaks (breaks : Breaks (packaged g) doc place node fault) :
    doc.Reaches place.text node := by
  have plain := isPlain_of_breaks breaks
  have follow := breaks.follow
  by_cases root : place = []
  · subst root
    cases follow
    exact .root
  · refine .below (mt plain.text_eq_slash.1 root) ?_
    rw [Value.at?_text root plain, follow]

lemma wellFormed_ofSchema (doc : Value) (g : Generation) :
    WellFormed doc g (.ofSchema g (packaged g) doc) := by
  have complete : ∀ place node fault, Breaks (packaged g) doc place node fault →
      Issue.ofViolation ⟨place, fault⟩ ∈ (Report.ofSchema g (packaged g) doc).issues := by
    intro place node fault breaks
    exact perm_ofSchema.mem_iff.2 (List.mem_map_of_mem breaks.mem_violations)
  have exists_breaks : ∀ issue ∈ (Report.ofSchema g (packaged g) doc).issues,
      ∃ place node fault, Breaks (packaged g) doc place node fault ∧
        issue = .ofViolation ⟨place, fault⟩ := by
    intro issue member
    obtain ⟨⟨place, fault⟩, found, rfl⟩ := List.mem_map.1 (perm_ofSchema.mem_iff.1 member)
    obtain ⟨node, breaks⟩ := (Schema.orderless_packaged g).exists_breaks found
    exact ⟨place, node, fault, breaks, rfl⟩
  refine ⟨rfl, perm_ofSchema, complete, ?_, pairwise_ofSchema, ?_⟩
  · intro issue member
    obtain ⟨place, node, fault, breaks, rfl⟩ := exists_breaks issue member
    refine ⟨place, node, fault, breaks, rfl, ?_⟩
    rw [Issue.path_ofViolation]
    exact ⟨(isPlain_of_breaks breaks).text_eq_slash, reaches_of_breaks breaks, breaks.coded⟩
  · rw [Report.valid, List.isEmpty_iff, List.eq_nil_iff_forall_not_mem]
    constructor
    · intro none place node fault breaks
      exact none _ (complete place node fault breaks)
    · intro none issue member
      obtain ⟨place, node, fault, breaks, _⟩ := exists_breaks issue member
      exact none place node fault breaks

/-- There is a report if every violation can be written, and none otherwise. -/
lemma check_cases (doc : Value) (g : Generation) :
    ((∀ place node fault, Breaks (packaged g) doc place node fault →
          Schema.Violation.isWritable ⟨place, fault⟩ = true) ∧
        check g (packaged g) doc = .ok (.ofSchema g (packaged g) doc)) ∨
      ((∃ place node fault, Breaks (packaged g) doc place node fault ∧
          Schema.Violation.isWritable ⟨place, fault⟩ = false) ∧
        check g (packaged g) doc = .error .written) := by
  unfold check
  split
  next writable =>
    refine .inl ⟨fun place node fault breaks => ?_, rfl⟩
    exact List.all_eq_true.1 writable _ breaks.mem_violations
  next unwritable =>
    simp only [List.all_eq_true, not_forall, Bool.not_eq_true] at unwritable
    obtain ⟨⟨place, fault⟩, found, unwritable⟩ := unwritable
    obtain ⟨node, breaks⟩ := (Schema.orderless_packaged g).exists_breaks found
    exact .inr ⟨⟨place, node, fault, breaks, unwritable⟩, rfl⟩

/-- The report of a document is well formed, under a given generation as under its own.  There is no
report if and only if one of its violations shows an integer that is too long. -/
theorem run_wellFormed (doc : Value) (generation : Option Generation) :
    match run doc generation with
    | .ok r =>
      (∀ place node fault,
        Breaks (packaged (generation.getD (.detect doc))) doc place node fault →
          Schema.Violation.isWritable ⟨place, fault⟩ = true) ∧
        WellFormed doc (generation.getD (.detect doc)) r
    | .error problem =>
      problem = .written ∧ ∃ place node fault,
        Breaks (packaged (generation.getD (.detect doc))) doc place node fault ∧
          Schema.Violation.isWritable ⟨place, fault⟩ = false := by
  obtain ⟨writable, checked⟩ | ⟨unwritable, failed⟩ :=
    check_cases doc (generation.getD (.detect doc))
  · rw [run, checked]
    exact ⟨writable, wellFormed_ofSchema doc _⟩
  · rw [run, failed]
    exact ⟨rfl, unwritable⟩

/-- A long integer in place of a document is of the wrong type, which cannot be said. -/
lemma run_int {n : Int} (long : isWritableInteger n = false) :
    run (.int n) none = .error .written := by
  have breaks : Breaks (packaged .v1) (.int n) [] (.int n) (.wrongType (.int n) [.object]) :=
    .all List.mem_cons_self (.hasType (List.forall_mem_singleton.2 rfl))
  obtain ⟨writable, _⟩ | ⟨_, failed⟩ := check_cases (.int n) .v1
  · have shown := writable _ _ _ breaks
    simp [Schema.Violation.isWritable, Fault.shown, Value.isWritable, Scalar.isWritable, long]
      at shown
  · exact failed

/-- The violation of a document that is a long integer is in no report. -/
theorem no_report_leastLong :
    ¬∃ r, run (.int Lint.leastLong) none = .ok r ∧ WellFormed (.int Lint.leastLong) .v1 r := by
  rintro ⟨r, ran, _⟩
  cases (run_int Lint.not_isWritableInteger_leastLong).symm.trans ran

end Validation

end BusinessModel
