import BusinessModel.Proofs.CommandLine.Lint
import BusinessModel.Proofs.Session.Spoken

/-!
# What validating and linting a file come to

A run that validates or lints a file ends in a verdict, and on its way there it writes an entry to
the event log and leaves events on a span.  All of it follows from the report on the file and from
the lint report on its content, whatever the format and however strict the run is.

* `CommandLine.Concludes` — how a run ends, and what has been said by then
* `CommandLine.account` — all that is said when a run ends in a verdict
* `Ready.perform_of_invalid`, `Ready.validateCommand`, `Ready.lintCommand_of_valid` — what the two
  commands come to once the log is set up
-/

namespace BusinessModel.CommandLine

open BusinessModel.Action BusinessModel.Session

variable {s t : Session} {settings : Settings} {request : Request} {file : PathName}
  {content : Mapping} {report : Validation.Report} {lint : Lint.Report} {verdict : Verdict}
  {format : OutputFormat} {strict : Bool} {source : String} {command : Command} {fault : Fault}
  {words : List String}

/-! ### How runs end -/

/-- A run ends with an exit code, after something has been said. -/
structure Concludes (outcome : Outcome Nat) (code : Nat) (said : List Notice) : Prop where
  result : outcome.result = .ok code
  said : spoken outcome.notices = said

section

variable {α : Type} {first : Action α} {next : α → Action Nat} {a : α} {code : Nat}
  {early late : List Notice}

/-- What comes first is said first. -/
lemma Concludes.bind (result : (first s).result = .ok a) (said : spoken (first s).notices = early)
    (h : Concludes (next a (first s).session) code late) :
    Concludes ((first >>= next) s) code (early ++ late) := by
  rw [bind_of_ok result]
  exact ⟨h.result, by rw [spoken_append, said, h.said]⟩

lemma Concludes.after_quiet (result : (first s).result = .ok a)
    (quiet : spoken (first s).notices = [])
    (h : Concludes (next a (first s).session) code late) :
    Concludes ((first >>= next) s) code late :=
  Concludes.bind result quiet h

lemma Concludes.after_silent (done : first s = ⟨[], t, .ok a⟩)
    (h : Concludes (next a t) code late) : Concludes ((first >>= next) s) code late := by
  rwa [bind_of_silent done]

end

/-- All that is said when a run ends in a verdict. -/
def account (verdict : Verdict) (format : OutputFormat) (events : List EventEntry)
    (spans : List SpanEvent) : List Notice :=
  spans.map .span ++ events.map .event ++ verdict.notices format

/-- The entry about a validation, if it has failed. -/
def violationEntries (source : String) (report : Validation.Report) : List EventEntry :=
  if report.valid then [] else [.validationFailed serviceName source report]

/-- The verdict of a lint run. -/
def lintVerdict (strict : Bool) (lint : Lint.Report) : Verdict :=
  ⟨succeeds strict lint, lint.generation, [], lint.issues⟩

/-- What is printed in the end is said. -/
lemma concludes_say {notices : List Notice} {code : Nat}
    (printed : ∀ notice ∈ notices, notice.isDiagnostic = false) :
    Concludes ((do
      say notices
      return code : Action Nat) s) code notices := by
  refine ⟨rfl, ?_⟩
  show spoken (notices ++ []) = _
  rw [List.append_nil, spoken_eq_self printed]

/-- A verdict is said in the end. -/
lemma concludes_verdict :
    Concludes ((do
      say (verdict.notices format)
      return exitCode verdict.success : Action Nat) s) (exitCode verdict.success)
        (verdict.notices format) := by
  apply concludes_say
  intro notice member
  cases format with
  | json =>
    cases List.mem_singleton.1 member
    rfl
  | text =>
    rcases List.mem_append.1 member with problem | answer
    · obtain ⟨_, _, rfl⟩ := List.mem_map.1 problem
      rfl
    · split at answer
      · cases List.mem_singleton.1 answer
        rfl
      · cases answer

/-! ### What is logged -/

/-- Events are written to the log whatever its level is. -/
lemma report_of_log (entry : EventEntry) (log : s.log.events ≤ LogLevel.info.rank) :
    Action.report entry s = ⟨[.event entry], s, .ok ()⟩ := by
  have logged : s.log.logs entry = true := by
    apply decide_eq_true
    apply Nat.le_trans log
    cases entry.urgency <;> decide
  unfold Action.report
  rw [if_pos logged]

lemma logViolations_of_log (log : s.log.events ≤ LogLevel.info.rank) :
    logViolations source report s =
      ⟨(violationEntries source report).map .event, s, .ok ()⟩ := by
  unfold logViolations violationEntries
  cases report.valid with
  | true => rfl
  | false => exact report_of_log _ log

/-- The entry about a failed validation is said, and nothing about another one. -/
lemma spoken_logViolations (log : s.log.events ≤ LogLevel.info.rank) :
    spoken (logViolations source report s).notices =
      (violationEntries source report).map .event := by
  rw [logViolations_of_log log, violationEntries]
  cases report.valid <;> rfl

/-- A session in which the log is set up and the settings name the schemas of the program, and in
which nothing has been read yet. -/
structure Ready (s : Session) (settings : Settings) : Prop where
  inForce : ∃ serial, s.settings = some ⟨serial, settings⟩
  packaged : settings.schemaPath = none
  validators : s.validators = []
  documents : s.documents = []
  log : s.log.events ≤ LogLevel.info.rank

/-- Validating a file keeps a schema, and says nothing. -/
lemma Ready.validateFile (ready : Ready s settings) (file : PathName) :
    ∃ validators, (Session.validateFile file none s).session = { s with validators } ∧
      spoken (Session.validateFile file none s).notices = [] := by
  obtain ⟨serial, set⟩ := ready.inForce
  cases read : (readMapping file s).result with
  | error fault =>
    rw [validateFile_of_unread read]
    exact ⟨s.validators, rfl, rfl⟩
  | ok content =>
    have placed := schemaPlace_none_of_some set
    obtain ⟨validators, -, validated⟩ := validate_some_of_ok (.map content)
      (Generation.detect (.map content)) (by rw [placed])
    have reports : (ofExcept (s.schemaFor (placeOf settings) (Generation.detect (.map content)))
        >>= reportOn (Generation.detect (.map content)) (.map content)).Quiet :=
      quiet_ofExcept.bind fun _ => quiet_reportOn
    rw [placed] at validated
    -- The generation is detected, which is noted before anything else.
    rw [validateFile_eq_of_read read, validate_eq]
    refine ⟨validators, ?_, ?_⟩
    · show (validate (.map content) (some (Generation.detect (.map content))) none s).session = _
      rw [validated]
    · show spoken ((noteDetection (.map content) s).notices ++
        (validate (.map content) (some (Generation.detect (.map content))) none s).notices) = _
      rw [validated, spoken_append, quiet_noteDetection]
      exact reports s

/-- Whatever follows when a file has been validated and the violations are logged. -/
lemma Ready.concludes_validated {next : Validation.Report → Action Nat} {code : Nat}
    {late : List Notice} (ready : Ready s settings)
    (reported : (Session.validateFile file none s).result = .ok report)
    (h : ∀ validators, Concludes (next report { s with validators }) code late) :
    Concludes ((do
      let validation ← Session.validateFile file none
      logViolations file.text validation
      next validation : Action Nat) s) code
        ((violationEntries file.text report).map .event ++ late) := by
  obtain ⟨validators, kept, quiet⟩ := ready.validateFile file
  have log : ({ s with validators } : Session).log.events ≤ LogLevel.info.rank := ready.log
  apply Concludes.after_quiet reported quiet
  rw [kept]
  apply Concludes.bind logViolations_result (spoken_logViolations log)
  rw [logViolations_of_log log]
  exact h validators

/-- Validating a file ends in its report. -/
lemma Ready.validateCommand (ready : Ready s settings)
    (reported : (Session.validateFile request.file none s).result = .ok report) :
    Concludes (CommandLine.validateCommand request s) (exitCode report.valid)
      (account ⟨report.valid, report.generation, report.issues, []⟩
        (request.format.getD settings.outputFormat)
        (violationEntries request.file.text report) []) := by
  obtain ⟨serial, set⟩ := ready.inForce
  apply ready.concludes_validated reported
  intro validators
  exact .after_silent (formatOf_of_some (s := { s with validators }) request set)
    concludes_verdict

/-- Lint a document and end in the verdict on it. -/
def answerLint (source : String) (format : OutputFormat) (strict : Bool) (doc : Document) :
    Action Nat := do
  let lint ← lintDocument doc
  traceLint source lint
  let verdict := lintVerdict strict lint
  say (verdict.notices format)
  return exitCode verdict.success

/-- A lint run finds out how to report before it validates its file. -/
lemma Ready.lintCommand {code : Nat} {late : List Notice} (ready : Ready s settings)
    (reported : (Session.validateFile request.file none s).result = .ok report)
    (h : ∀ validators, Concludes ((if !report.valid then do
        let verdict : Verdict := ⟨false, report.generation, report.issues, []⟩
        say (verdict.notices (request.format.getD settings.outputFormat))
        return exitCode false
      else
        withDocument request (answerLint request.file.text
          (request.format.getD settings.outputFormat)
          (request.strict || settings.failOnWarnings)) : Action Nat)
      { s with validators }) code late) :
    Concludes (CommandLine.lintCommand request s) code
      ((violationEntries request.file.text report).map .event ++ late) := by
  obtain ⟨serial, set⟩ := ready.inForce
  apply Concludes.after_silent (formatOf_of_some request set)
  apply Concludes.after_silent (settingsInForce_of_some set)
  exact ready.concludes_validated reported h

/-- Linting a file that is not valid ends in its report, too. -/
lemma Ready.lintCommand_of_invalid (ready : Ready s settings)
    (reported : (Session.validateFile request.file none s).result = .ok report)
    (invalid : report.valid = false) :
    Concludes (CommandLine.lintCommand request s) (exitCode false)
      (account ⟨false, report.generation, report.issues, []⟩
        (request.format.getD settings.outputFormat)
        (violationEntries request.file.text report) []) := by
  apply ready.lintCommand reported
  intro validators
  rw [invalid]
  exact concludes_verdict

/-- A file that can be read is loaded where nothing has been read yet. -/
lemma loadDocument_of_empty (empty : s.documents = [])
    (read : (readMapping file s).result = .ok content) :
    ∃ serial, (loadDocument file s).result =
        .ok ⟨serial, Document.ofMapping file.text content⟩ ∧
      (loadDocument file s).session.log = s.log ∧
      (loadDocument file s).session.settings = s.settings := by
  rcases loadDocument_cases file s with
    ⟨_, _, _, unread⟩ | ⟨_, _, _, found⟩ | ⟨kept, loaded, reads, after⟩
  · exact absurd read (unread content)
  · rw [empty] at found
    cases found
  · obtain ⟨other, read', value⟩ := reads.value
    cases read.symm.trans read'
    refine ⟨kept.serial, ?_, by rw [after], by rw [after]⟩
    rw [loaded, Document.ofMapping, ← value]

/-- Where nothing has been read yet, a run that loads its file goes on with the content of it. -/
lemma concludes_withDocument {next : Document → Action Nat} {code : Nat} {said : List Notice}
    (empty : s.documents = []) (read : (readMapping request.file s).result = .ok content)
    (h : ∀ t : Session, t.log = s.log → t.settings = s.settings →
      Concludes (next (.ofMapping request.file.text content) t) code said) :
    Concludes (withDocument request next s) code said := by
  obtain ⟨serial, loaded, log, set⟩ := loadDocument_of_empty empty read
  have found : (((fun kept => Sum.inl kept.value) <$> loadDocument request.file :
      Action (Document ⊕ String)) s).result =
        .ok (.inl (Document.ofMapping request.file.text content)) := map_of_ok loaded
  have loading : ((fun kept => Sum.inl kept.value) <$> loadDocument request.file :
      Action (Document ⊕ String)) s =
        ⟨(loadDocument request.file s).notices, (loadDocument request.file s).session, _⟩ :=
    map_apply
  unfold withDocument
  refine .after_quiet (by rw [orElseLoad_of_ok found, found]) ?_ ?_
  · rw [orElseLoad_of_ok found, loading]
    exact quiet_loadDocument s
  · rw [orElseLoad_of_ok found, loading]
    exact h _ log set

/-- Without a report on its file, neither command comes to an end. -/
lemma Ready.perform_of_error (ready : Ready s settings) (other : command ≠ .graph)
    (failed : (Session.validateFile request.file none s).result = .error fault) :
    (perform command request s).result = .error fault := by
  cases command with
  | graph => exact absurd rfl other
  | validate =>
    show (CommandLine.validateCommand request s).result = _
    unfold CommandLine.validateCommand
    rw [bind_of_error failed]
  | lint =>
    obtain ⟨serial, set⟩ := ready.inForce
    have formatted := formatOf_of_some request set
    have returned := settingsInForce_of_some set
    show (CommandLine.lintCommand request s).result = _
    unfold CommandLine.lintCommand
    rw [bind_of_silent formatted, bind_of_silent returned, bind_of_error failed]

/-- Both commands end in the report on a file that is not valid. -/
lemma Ready.perform_of_invalid (ready : Ready s settings) (other : command ≠ .graph)
    (reported : (Session.validateFile request.file none s).result = .ok report)
    (invalid : report.valid = false) :
    Concludes (perform command request s) (exitCode false)
      (account ⟨false, report.generation, report.issues, []⟩
        (request.format.getD settings.outputFormat)
        [.validationFailed serviceName request.file.text report] []) := by
  have entries : violationEntries request.file.text report =
      [.validationFailed serviceName request.file.text report] := by
    rw [violationEntries, invalid]
    rfl
  cases command with
  | graph => exact absurd rfl other
  | validate =>
    have ended := ready.validateCommand reported
    rwa [invalid, entries] at ended
  | lint =>
    have ended := ready.lintCommand_of_invalid reported invalid
    rwa [entries] at ended

end BusinessModel.CommandLine
