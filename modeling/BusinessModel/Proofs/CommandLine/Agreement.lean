import BusinessModel.Proofs.CommandLine.Verdict
import BusinessModel.Proofs.EventLog
import BusinessModel.Proofs.Json.Reader
import BusinessModel.Proofs.Lint.Lossless

/-!
# Validating and linting agree

A run that validates or lints a file says the same in four ways: by its exit code, by what it
prints, by the entry that it writes to the event log, and by the events that it leaves on a span.
What is printed as JSON is read back, and what is logged is read out of its fields; so runs of the
two commands agree with the report on the file, and with one another.

* `CommandLine.Ends`, `CommandLine.Refuses`, `CommandLine.EndsLint` — what a run is seen to come to
* `Concludes.channels` — the four ways, told apart
* `IsNew.concludes` — from a command once the log is set up to a run in a new process
* `CommandLine.Agree`, `CommandLine.fresh_agree` — the two commands agree on a file
-/

namespace BusinessModel.CommandLine

open BusinessModel.Action BusinessModel.Session

variable {s t : Session} {settings : Settings} {request : Request} {file : PathName}
  {content : Mapping} {report : Validation.Report} {lint : Lint.Report} {verdict : Verdict}
  {format : OutputFormat} {strict : Bool} {command : Command} {fault : Fault}
  {words : List String}

/-! ### The four ways -/

namespace Verdict

/-- The lines of problems on a verdict: the violations and the lint issues, each under a heading,
and an empty line between the two. -/
def remarks (verdict : Verdict) : List String :=
  let place (path : String) : String := if path = "/" then "(root)" else path
  let mark : Lint.Severity → String
    | .error => "✗"
    | .warning => "!"
    | .info => "i"
  let violations := verdict.violations.map fun violation =>
    "  " ++ place violation.path ++ ": " ++ violation.message
  let issues := verdict.issues.map fun issue =>
    "  " ++ mark issue.severity ++ " [" ++ issue.rule ++ "] " ++ place issue.path ++ ": " ++
      issue.message
  (if violations = [] then [] else "Validation errors:" :: violations) ++
    (if violations = [] ∨ issues = [] then [] else [""]) ++
      if issues = [] then [] else "Lint issues:" :: issues

lemma problems_eq_remarks : verdict.problems = verdict.remarks := by
  obtain ⟨success, generation, violations, issues⟩ := verdict
  cases violations with
  | nil =>
    cases issues with
    | nil => rfl
    | cons issue rest => rfl
  | cons violation others =>
    cases issues with
    | nil => rfl
    | cons issue rest => rfl

/-- The lines of results on a verdict. -/
def answer (verdict : Verdict) : OutputFormat → List String
  | .json => [Json.writeIndented verdict.json]
  | .text => if verdict.success then ["OK"] else []

/-- The lines of problems on a verdict as they are printed. -/
def complaints (verdict : Verdict) : OutputFormat → List String
  | .json => []
  | .text => verdict.remarks.map withoutControls

/-- A verdict as JSON can be read back. -/
lemma legible_json : Json.Legible verdict.json := by
  refine .object (by simp) ?_
  simp only [List.forall_mem_cons]
  refine ⟨.bool, .str, .list fun item among => ?_, .list fun item among => ?_, nofun⟩
  · obtain ⟨violation, _, rfl⟩ := List.mem_map.1 among
    exact .object (by simp) (by simp [Json.Legible.str])
  · obtain ⟨issue, _, rfl⟩ := List.mem_map.1 among
    exact .object (by simp) (by simp [Json.Legible.str])

/-- Only the remarks may lose control sequences on the way to a terminal. -/
lemma plain_notices :
    (verdict.notices format).map Notice.plain =
      (verdict.complaints format).map .complaint ++ (verdict.answer format).map .output := by
  cases format with
  | json => exact congrArg (fun line => [Notice.output line]) legible_json.withoutControls
  | text =>
    have done : withoutControls "OK" = "OK" := IsClear.withoutControls (by decide)
    unfold notices complaints answer
    rw [problems_eq_remarks, List.map_append, List.map_map, List.map_map]
    congr 1
    split
    · exact congrArg (fun line => [Notice.output line]) done
    · rfl

end Verdict

/-- What a run comes to that ends in a verdict: its exit code, and what it prints behind some
warnings.  As JSON, that is one object with all of the verdict; as text, a single word if it is a
success, and lines of problems. -/
structure Ends (outcome : Outcome Nat) (format : OutputFormat) (verdict : Verdict)
    (warnings : List String) : Prop where
  exit : outcome.result = .ok (if verdict.success then 0 else 1)
  json : format = .json → outcome.complaints = warnings ∧
    ∃ text, outcome.output = [text] ∧ Json.read text = .ok (.map
      [(.str "success", .bool verdict.success), (.str "version", .str verdict.generation.name),
        (.str "validation_errors", .list (verdict.violations.map fun violation =>
          .map [(.str "path", .str violation.path), (.str "message", .str violation.message)])),
        (.str "lint_issues", .list (verdict.issues.map fun issue =>
          .map [(.str "rule", .str issue.rule), (.str "severity", .str issue.severity.name),
            (.str "message", .str issue.message), (.str "path", .str issue.path)]))])
  text : format = .text →
    outcome.complaints = warnings ++ verdict.remarks.map withoutControls ∧
      outcome.output = if verdict.success then ["OK"] else []

/-- The four ways are told apart by the kinds of what is said. -/
lemma Concludes.channels {outcome : Outcome Nat} {code : Nat} {notices : List Notice}
    {warnings remarks answer : List String} {events : List EventEntry} {spans : List SpanEvent}
    (h : Concludes outcome code ((warnings.map Notice.complaint ++
      (spans.map Notice.span ++ events.map Notice.event ++ notices)).map Notice.plain))
    (printed : notices.map Notice.plain =
      remarks.map Notice.complaint ++ answer.map Notice.output) :
    outcome.output = answer ∧ outcome.complaints = warnings.map withoutControls ++ remarks ∧
      outcome.events = events ∧ outcome.spans = spans := by
  have said := h.said
  simp only [List.map_append, List.map_map, printed] at said
  refine ⟨?output, ?complaints, ?events, ?spans⟩
  case output =>
    rw [Outcome.output, ← filterMap_spoken fun _ => rfl, said]
    simp [List.filterMap_map, Function.comp_def, Notice.output?, Notice.plain]
  case complaints =>
    rw [Outcome.complaints, ← filterMap_spoken fun _ => rfl, said]
    simp [List.filterMap_map, Function.comp_def, Notice.complaint?, Notice.plain]
  case events =>
    rw [Outcome.events, ← filterMap_spoken fun _ => rfl, said]
    simp [List.filterMap_map, Function.comp_def, Notice.event?, Notice.plain]
  case spans =>
    rw [Outcome.spans, ← filterMap_spoken fun _ => rfl, said]
    simp [List.filterMap_map, Function.comp_def, Notice.span?, Notice.plain]

lemma Concludes.ends (verdict : Verdict) {outcome : Outcome Nat} {warnings : List String}
    {events : List EventEntry} {spans : List SpanEvent}
    (h : Concludes outcome (exitCode verdict.success)
      ((warnings.map Notice.complaint ++ account verdict format events spans).map Notice.plain)) :
    Ends outcome format verdict (warnings.map withoutControls) ∧ outcome.events = events ∧
      outcome.spans = spans := by
  obtain ⟨output, complaints, logged, left⟩ := h.channels Verdict.plain_notices
  refine ⟨⟨h.result, ?json, ?text⟩, logged, left⟩
  case json =>
    rintro rfl
    exact ⟨complaints.trans (List.append_nil _), _, output,
      Json.read_writeIndented Verdict.legible_json⟩
  case text =>
    rintro rfl
    exact ⟨complaints, output⟩

/-- A run ends in the violations of a file, which are logged. -/
structure Refuses (outcome : Outcome Nat) (format : OutputFormat) (file : PathName)
    (report : Validation.Report) (warnings : List String) : Prop where
  ends : Ends outcome format ⟨false, report.generation, report.issues, []⟩ warnings
  event : ∃ e, outcome.events = [e] ∧ e.IsWritten ∧ e.Fails "bmml" file.text report
  spans : outcome.spans = []

lemma Concludes.refuses {outcome : Outcome Nat} {warnings : List String}
    (h : Concludes outcome (exitCode false)
      ((warnings.map Notice.complaint ++
        account ⟨false, report.generation, report.issues, []⟩ format
          [.validationFailed serviceName file.text report] []).map Notice.plain))
    (invalid : report.valid = false) :
    Refuses outcome format file report (warnings.map withoutControls) := by
  obtain ⟨ends, logged, left⟩ := Concludes.ends ⟨false, report.generation, report.issues, []⟩ h
  refine ⟨ends, ⟨_, logged, EventEntry.isWritten _, ?_⟩, left⟩
  exact EventEntry.fails_validationFailed invalid

/-- A session at the start of a process: nothing has been read, no settings are in force and no log
is set up.  The settings that it is going to use can be created. -/
structure IsNew (s : Session) (settings : Settings) : Prop where
  documents : s.documents = []
  unset : s.settings = none
  log : s.log = .initial
  created : (createSettings [] s).result = .ok settings

/-- A session in which a command is performed: since the start of the process, settings have come in
force and the log has been set up. -/
structure IsSetUp (s t : Session) (settings : Settings) : Prop where
  inForce : ∃ serial, t.settings = some ⟨serial, settings⟩
  documents : t.documents = []
  validators : t.validators = s.validators
  log : t.log.events ≤ LogLevel.info.rank
  steady : s.Steady t

namespace IsNew

variable (isNew : IsNew s settings)
include isNew

/-- The log is set up before a command is performed. -/
lemma answerOrRun_eq (calls : Calls s words command request) :
    ∃ t, IsSetUp s t settings ∧ answerOrRun words s =
      { perform command request t with
        notices := (createSettings [] s).notices ++ (perform command request t).notices } := by
  have set :=
    (settingsInForce_of_none isNew.unset).trans (replaceSettings_of_ok isNew.created)
  have returned : (settingsInForce [] s).result = .ok ⟨s.nextSerial, settings⟩ := by rw [set]
  have ran := calls.answerOrRun_of_ok returned
  rw [set] at ran
  refine ⟨_, ⟨⟨_, settings_prepared returned⟩, ?_, ?_, Nat.min_le_right _ _,
    prepared_of_unrelated s ⟨s.nextSerial, settings⟩ unrelated_steady⟩, ran⟩
  · rw [prepared, set]
    exact isNew.documents
  · rw [prepared, set]

/-- A run shows nothing of its log before the command. -/
lemma run_eq :
    run words s = { answerOrRun words s with
      notices := (answerOrRun words s).notices.map Notice.plain
      session := { (answerOrRun words s).session with
        log := (answerOrRun words s).session.log.hidden } } := by
  have hidden : s.log.hidden = s.log := by
    rw [isNew.log]
    rfl
  unfold run
  rw [hidden]

/-- What a command comes to once the log is set up, a run comes to that calls it, behind warnings
about the environment file. -/
lemma concludes {code : Nat} {said : List Notice} (calls : Calls s words command request)
    (h : ∀ t, IsSetUp s t settings → Concludes (perform command request t) code said) :
    Concludes (run words s) code
      (((createSettings [] s).complaints.map Notice.complaint ++ said).map Notice.plain) := by
  obtain ⟨t, setUp, ran⟩ := isNew.answerOrRun_eq calls
  have warned : ∀ notice ∈ (createSettings [] s).notices, IsComplaint notice :=
    (says_createSettings s).2
  have ended := h t setUp
  rw [isNew.run_eq, ran]
  refine ⟨ended.result, ?_⟩
  rw [spoken_plain, spoken_append, ended.said, spoken_complaints warned]
  rfl

end IsNew

/-- A session at the start of a process whose settings name the schemas of the program, and in which
no schemas have been read either. -/
structure IsFresh (s : Session) (settings : Settings) : Prop where
  documents : s.documents = []
  validators : s.validators = []
  unset : s.settings = none
  log : s.log = .initial
  created : (createSettings [] s).result = .ok settings
  packaged : settings.schemaPath = none

/-- The report on a file that is read so, by the schemas of the program. -/
def reportOf (file : PathName) : Except Fault Mapping → Except Fault Validation.Report
  | .ok content => (Validation.run (.map content) none).mapError .longInteger
  | .error (.load (.missing _)) => .ok (.unreadable .v1 s!"File not found: {file.text}")
  | .error (.load (.malformed problem)) => .ok (.unreadable .v1 problem.message)
  | .error fault => .error fault

lemma validateFile_of_packaged (placed : (schemaPlace none s).result = .ok .packaged)
    (empty : s.validators = []) :
    (validateFile file none s).result = reportOf file (readMapping file s).result := by
  cases read : (readMapping file s).result with
  | ok content =>
    rw [validateFile_eq_of_read read]
    exact validate_of_packaged placed empty
  | error fault =>
    rw [validateFile_of_unread read]
    cases fault with
    | load reason => cases reason <;> rfl
    | _ => rfl

namespace IsFresh

variable (fresh : IsFresh s settings)
include fresh

/-- Schemas are those of the program. -/
lemma schemaPlace_eq : (schemaPlace none s).result = .ok .packaged := by
  rw [schemaPlace_none, settingsInForce_of_none fresh.unset, replaceSettings_of_ok fresh.created]
  exact congrArg Except.ok (placeOf_of_packaged fresh.packaged)

lemma validateFile_eq :
    (validateFile file none s).result = reportOf file (readMapping file s).result :=
  validateFile_of_packaged fresh.schemaPlace_eq fresh.validators

lemma isNew : IsNew s settings :=
  ⟨fresh.documents, fresh.unset, fresh.log, fresh.created⟩

/-- Where the log is set up, files are validated by the schemas of the program. -/
lemma ready (setUp : IsSetUp s t settings) : Ready t settings :=
  ⟨setUp.inForce, fresh.packaged, setUp.validators.trans fresh.validators, setUp.documents,
    setUp.log⟩

/-- Setting up the log does not change the report on a file. -/
lemma validateFile_of_setUp (setUp : IsSetUp s t settings) :
    (validateFile file none t).result = (validateFile file none s).result := by
  obtain ⟨serial, set⟩ := setUp.inForce
  have placed : (schemaPlace none t).result = .ok .packaged := by
    rw [schemaPlace_none_of_some set]
    exact congrArg Except.ok (placeOf_of_packaged fresh.packaged)
  rw [fresh.validateFile_eq, validateFile_of_packaged placed (fresh.ready setUp).validators,
    readMapping_of_steady setUp.steady]

/-- Without a report on its file, a run does not come to an end. -/
lemma run_of_error (other : command ≠ .graph) (calls : Calls s words command request)
    (failed : (validateFile request.file none s).result = .error fault) :
    (run words s).result = .error fault := by
  obtain ⟨t, setUp, ran⟩ := fresh.isNew.answerOrRun_eq calls
  rw [← fresh.validateFile_of_setUp setUp] at failed
  rw [fresh.isNew.run_eq, ran]
  exact (fresh.ready setUp).perform_of_error other failed

/-- A run ends in the report on a file that is not valid. -/
lemma run_of_invalid (other : command ≠ .graph) (calls : Calls s words command request)
    (reported : (validateFile request.file none s).result = .ok report)
    (invalid : report.valid = false) :
    Refuses (run words s) (request.format.getD settings.outputFormat) request.file report
      ((createSettings [] s).complaints.map withoutControls) := by
  refine Concludes.refuses (fresh.isNew.concludes calls fun t setUp => ?_) invalid
  rw [← fresh.validateFile_of_setUp setUp] at reported
  exact (fresh.ready setUp).perform_of_invalid other reported invalid

end IsFresh

/-- The file can be asked for by its name. -/
lemma calls_shopFile {bytes : List UInt8} {asked : Option OutputFormat}
    (files : s.files = filesWith bytes) (directory : s.directory = ["w"])
    (environment : s.environment = []) (h : strict = true → command = .lint) :
    Calls s (wordsFor command asked strict "m") command ⟨shopFile, asked, strict⟩ := by
  have there : s.files.find s.directory "m" = .ok (.file bytes) := by
    rw [files, directory, ← text_shopFile, find_shopFile]
  have file : PathName.ofText "m" = shopFile := by
    rw [PathName.ofText, isPart_m.parts]
    decide +kernel
  exact file ▸ calls_wordsFor (by rw [environment]; rfl) (by rw [there]; nofun)
    (by rw [there]; nofun) h

end BusinessModel.CommandLine
