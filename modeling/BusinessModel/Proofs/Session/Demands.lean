import BusinessModel.Proofs.Session.Schemas

/-!
# Steps that ask for a schema

Some steps ask for the schema of a generation in a place: those that validate a document, and runs
that call a command for a file with one.  Nothing else is done to the kept schemas until they are
forgotten.

* `Session.Checks` — steps that validate a document
* `Session.Demands` — the schema that a step asks for
* `Demands.asked` — what such a step does to the kept schemas
* `Session.demands_or_same` — all other steps leave them alone, or forget them
-/

namespace BusinessModel

namespace Session

open BusinessModel.Action

variable {s t : Session} {place : SchemaPlace} {g : Generation} {generation : Option Generation}
  {directory : Option PathName} {doc : Value} {file : PathName} {content : Mapping}

/-! ### Runs of the program -/

section

variable {request : CommandLine.Request} {command : CommandLine.Command}
  {next : Document → Action Nat} {kept : Kept Settings} {words : List String}

lemma sameSchemas_loadDocument (file : PathName) (s : Session) :
    s.SameSchemas (loadDocument file s).session := by
  obtain ⟨_, _, same, _⟩ | ⟨_, _, same, _⟩ | ⟨_, _, _, after⟩ := loadDocument_cases file s
  · rw [same]
    exact .refl s
  · rw [same]
    exact .refl s
  · rw [after]
    exact ⟨rfl, rfl, rfl⟩

lemma sameSchemas_withDocument (h : ∀ doc t, SameSchemas t (next doc t).session) :
    s.SameSchemas (CommandLine.withDocument request next s).session := by
  unfold CommandLine.withDocument
  refine session_bind unrelated_sameSchemas ?_ fun loaded t => ?_
  · refine sameSchemas.orElseLoad (fun t => ?_) (fun fault => ?_) s
    · rw [map_apply]
      exact sameSchemas_loadDocument _ t
    · cases fault with
      | misfit => exact sameSchemas.fail
      | missing | malformed => exact sameSchemas.done
  · cases loaded with
    | inl doc => exact h doc t
    | inr reason => exact sameSchemas.giveUp t

lemma sameSchemas_graphCommand : s.SameSchemas (CommandLine.graphCommand request s).session := by
  refine sameSchemas_withDocument fun doc => ?_
  split
  · exact sameSchemas.giveUp
  · exact sameSchemas.bind sameSchemas.note fun _ => sameSchemas.bind sameSchemas.say fun _ =>
      sameSchemas.bind sameSchemas.report fun _ => sameSchemas.bind sameSchemas.formatOf fun _ =>
        sameSchemas.bind sameSchemas.say fun _ => sameSchemas.done

/-- Of all that a command does, only validating its file has to do with schemas. -/
lemma sameSchemas_perform (request : CommandLine.Request) (set : s.settings = some kept)
    (other : command ≠ .graph) :
    (validateFile request.file none s).session.SameSchemas
      (CommandLine.perform command request s).session := by
  cases command with
  | graph => exact absurd rfl other
  | validate =>
    refine session_behind .refl fun report => ?_
    exact sameSchemas.bind sameSchemas.logViolations fun _ =>
      sameSchemas.bind sameSchemas.formatOf fun _ => sameSchemas.bind sameSchemas.say fun _ =>
        sameSchemas.done
  | lint =>
    change (validateFile request.file none s).session.SameSchemas
      (CommandLine.lintCommand request s).session
    have formatted := CommandLine.formatOf_of_some request set
    unfold CommandLine.lintCommand
    rw [bind_of_silent formatted]
    dsimp only
    rw [bind_of_silent (settingsInForce_of_some set)]
    refine session_behind .refl fun report => ?_
    refine sameSchemas.bind sameSchemas.logViolations fun _ => ?_
    split
    · exact sameSchemas.bind sameSchemas.say fun _ => sameSchemas.done
    · exact fun t => sameSchemas_withDocument fun doc =>
        sameSchemas.bind sameSchemas.lintDocument fun _ =>
          sameSchemas.bind sameSchemas.traceLint fun _ => sameSchemas.bind sameSchemas.say fun _ =>
            sameSchemas.done

/-- A run that calls a command for a file asks for the schema of its content. -/
lemma asked_of_calls (calls : CommandLine.Calls s words command request) (other : command ≠ .graph)
    (read : (readMapping request.file s).result = .ok content)
    (placed : (schemaPlace none s).result = .ok place) :
    s.Asked place (Generation.detect (.map content))
      (CommandLine.answerOrRun words s).session := by
  rw [schemaPlace_none] at placed
  cases returned : (settingsInForce [] s).result with
  | error fault =>
    rw [returned] at placed
    cases placed
  | ok kept =>
    rw [returned] at placed
    cases placed
    have steady := CommandLine.prepared_of_unrelated s kept unrelated_steady
    have same := CommandLine.prepared_of_unrelated s kept unrelated_sameSchemas
    have set := CommandLine.settings_prepared returned
    rw [← readMapping_of_steady steady] at read
    have asked := asked_validate (.map content) none (by rw [schemaPlace_none_of_some set])
    rw [← validateFile_eq_of_read read] at asked
    rw [calls.answerOrRun_of_ok returned]
    exact (asked.before (sameSchemas_perform request set other)).after same

/-- A run that calls a command asks for a schema, or it leaves the kept ones alone. -/
lemma asks_or_same_of_calls (calls : CommandLine.Calls s words command request) :
    s.SameSchemas (CommandLine.answerOrRun words s).session ∨
      command ≠ .graph ∧ ∃ content place, (readMapping request.file s).result = .ok content ∧
        (schemaPlace none s).result = .ok place := by
  cases returned : (settingsInForce [] s).result with
  | error fault =>
    rw [calls.answerOrRun_of_error returned]
    exact .inl (sameSchemas.settingsInForce s)
  | ok kept =>
    have steady := CommandLine.prepared_of_unrelated s kept unrelated_steady
    have same := CommandLine.prepared_of_unrelated s kept unrelated_sameSchemas
    have set := CommandLine.settings_prepared returned
    rw [calls.answerOrRun_of_ok returned]
    by_cases other : command = .graph
    · subst other
      exact .inl (same.trans sameSchemas_graphCommand)
    · cases found : (readMapping request.file s).result with
      | ok content =>
        refine .inr ⟨other, content, placeOf kept.value, rfl, ?_⟩
        rw [schemaPlace_none, returned]
        rfl
      | error fault =>
        rw [← readMapping_of_steady steady] at found
        have performed := sameSchemas_perform request set other
        rw [validateFile_of_unread found] at performed
        exact .inl (same.trans performed)

end

/-! ### Steps -/

variable {step : Step} {words : List String} {changes : List VariableChange}
  {environment : Environment}

/-- A session at the start of a run with some variables. -/
def atRun (s : Session) (environment : Environment) : Session :=
  { s with environment, log := s.log.hidden }

lemma sameSchemas_atRun : s.SameSchemas (s.atRun environment) := ⟨rfl, rfl, rfl⟩

/-- After a run, the variables and the log are as they were. -/
lemma sameSchemas_run (words : List String)
    (bound : s.environment.changeAll changes = (environment, .ok ())) :
    (CommandLine.answerOrRun words (s.atRun environment)).session.SameSchemas
      (s.step (.run words changes)).session := by
  have ended : (s.step (.run words changes)).session =
      (withVariables changes (CommandLine.run words) s).session := bind_pure_session
  rw [ended, withVariables, bound]
  exact ⟨rfl, rfl, rfl⟩

lemma sameSchemas_run_of_error {problem : VariableProblem}
    (refused : s.environment.changeAll changes = (environment, .error problem)) :
    s.SameSchemas (s.step (.run words changes)).session := by
  have ended : (s.step (.run words changes)).session =
      (withVariables changes (CommandLine.run words) s).session := bind_pure_session
  rw [ended, withVariables, refused]
  exact ⟨rfl, rfl, rfl⟩

/-- Steps that validate a document, with the schema of a generation in a place. -/
inductive Checks (s : Session) : Step → Value → SchemaPlace → Generation → Prop where
  | validate {doc : Value} {generation : Option Generation} {directory : Option PathName}
      {place : SchemaPlace} :
    (schemaPlace directory s).result = .ok place →
    Checks s (.validate doc generation directory) doc place
      (generation.getD (Generation.detect doc))
  | validateFile {file : PathName} {generation : Option Generation} {content : Mapping}
      {place : SchemaPlace} :
    (readMapping file s).result = .ok content →
    (schemaPlace none s).result = .ok place →
    Checks s (.validateFile file generation) (.map content) place
      (generation.getD (Generation.detect (.map content)))

/-- The schema that a step asks for, by its place and its generation. -/
inductive Demands (s : Session) : Step → SchemaPlace → Generation → Prop where
  | checks {step : Step} {doc : Value} {place : SchemaPlace} {g : Generation} :
    Checks s step doc place g →
    Demands s step place g
  | log {service source : String} {doc : Value} {generation : Option Generation}
      {place : SchemaPlace} :
    (schemaPlace none s).result = .ok place →
    Demands s (.log service source (.validation doc generation)) place
      (generation.getD (Generation.detect doc))
  | run {words : List String} {changes : List VariableChange} {environment : Environment}
      {command : CommandLine.Command} {request : CommandLine.Request} {content : Mapping}
      {place : SchemaPlace} :
    s.environment.changeAll changes = (environment, .ok ()) →
    CommandLine.Calls (s.atRun environment) words command request →
    command ≠ .graph →
    (readMapping request.file (s.atRun environment)).result = .ok content →
    (schemaPlace none (s.atRun environment)).result = .ok place →
    Demands s (.run words changes) place (Generation.detect (.map content))

/-- A step that validates a document replies with the report, whatever schemas are kept. -/
lemma Checks.step_eq (checks : s.Checks step doc place g) :
    ∃ generation directory, generation.getD (Generation.detect doc) = g ∧
      (schemaPlace directory s).result = .ok place ∧ ∀ validators,
        let validated := Session.validate doc generation directory { s with validators }
        ({ s with validators } : Session).step step =
          ⟨validated.notices, validated.session, validated.result.map .report⟩ := by
  cases checks with
  | @validate _ generation directory _ placed =>
    exact ⟨generation, directory, rfl, placed, fun _ => bind_pure⟩
  | @validateFile file generation content _ read placed =>
    refine ⟨generation, none, rfl, placed, fun validators => ?_⟩
    have steady : s.Steady { s with validators } := ⟨⟨rfl, rfl, Nat.le_refl _⟩, rfl⟩
    have read' : (readMapping file { s with validators }).result = .ok content :=
      (readMapping_of_steady steady).trans read
    rw [← validateFile_eq_of_read read']
    exact bind_pure

lemma session_validate :
    (s.step (.validate doc generation directory)).session =
      (validate doc generation directory s).session :=
  bind_pure_session

lemma session_validateFile :
    (s.step (.validateFile file generation)).session = (validateFile file generation s).session :=
  bind_pure_session

/-- Writing to the log comes after the entry has been made. -/
lemma sameSchemas_log {service source : String} {subject : LogSubject} :
    (entryAbout service source subject s).session.SameSchemas
      (s.step (.log service source subject)).session :=
  session_behind .refl fun _ => sameSchemas.bind sameSchemas.report fun _ => sameSchemas.done

lemma session_entryAbout_validation {service source : String} :
    (entryAbout service source (.validation doc generation) s).session =
      (validate doc generation none s).session :=
  bind_pure_session

/-- What becomes of the kept schemas when a step asks for one. -/
lemma Demands.asked (demands : s.Demands step place g) : s.Asked place g (s.step step).session := by
  cases demands with
  | checks checks =>
    obtain ⟨generation, directory, rfl, placed, replied⟩ := checks.step_eq
    rw [show s.step step = _ from replied s.validators]
    exact asked_validate _ _ placed
  | log placed =>
    refine Asked.before ?_ sameSchemas_log
    rw [session_entryAbout_validation]
    exact asked_validate _ _ placed
  | run bound calls other read placed =>
    exact ((asked_of_calls calls other read placed).before (sameSchemas_run _ bound)).after
      sameSchemas_atRun

/-- Every step asks for a schema, forgets them all, or leaves the kept ones alone. -/
lemma demands_or_same (s : Session) (step : Step) :
    step = .forgetValidators ∨ (s.step step).session.validators = s.validators ∨
      ∃ place g, s.Demands step place g := by
  -- Most steps do something that has nothing to do with schemas, and reply.
  have small : ∀ {α : Type} {action : Action α} {reply : α → Reply},
      s.SameSchemas (action s).session →
        ((action >>= fun a => pure (reply a)) s).session.validators = s.validators := by
    intro α action reply same
    rw [bind_pure_session, same.validators]
  have files : ∀ {step}, ChangesFiles step →
      (s.step step).session.validators = s.validators := by
    intro step changes
    obtain ⟨files, changed⟩ := changes.session (s := s)
    rw [changed]
  cases step with
  | write => exact .inr (.inl (files .write))
  | delete => exact .inr (.inl (files .delete))
  | makeDirectory => exact .inr (.inl (files .makeDirectory))
  | setVariable => exact .inr (.inl (small (sameSchemas.changeVariable s)))
  | unsetVariable => exact .inr (.inl (small (sameSchemas.changeVariable s)))
  | load file => exact .inr (.inl (small (sameSchemas_loadDocument file s)))
  | loadText => exact .inr (.inl (small (sameSchemas.documentOfText s)))
  | read => exact .inr (.inl (small (sameSchemas.readMapping s)))
  | forgetDocuments => exact .inr (.inl rfl)
  | validateFile file generation =>
    refine .inr ?_
    rw [session_validateFile]
    cases read : (readMapping file s).result with
    | error fault =>
      rw [validateFile_of_unread read]
      exact .inl rfl
    | ok content =>
      cases placed : (schemaPlace none s).result with
      | error fault =>
        rw [validateFile_eq_of_read read]
        exact .inl (validate_of_error _ _ placed).2.validators
      | ok place => exact .inr ⟨_, _, .checks (.validateFile read placed)⟩
  | validate doc generation directory =>
    refine .inr ?_
    rw [session_validate]
    cases placed : (schemaPlace directory s).result with
    | error fault => exact .inl (validate_of_error _ _ placed).2.validators
    | ok place => exact .inr ⟨_, _, .checks (.validate placed)⟩
  | schemaTitle => exact .inr (.inl (small (sameSchemas.schemaTitle s)))
  | forgetValidators => exact .inl rfl
  | useSettings => exact .inr (.inl (small (sameSchemas.settingsInForce s)))
  | createSettings => exact .inr (.inl (small (sameSchemas.createSettings s)))
  | forgetSettings => exact .inr (.inl rfl)
  | logLevel => exact .inr (.inl (small (sameSchemas.settingsInForce s)))
  | configureLog => exact .inr (.inl (small (sameSchemas.setThresholds s)))
  | log service source subject =>
    cases subject with
    | lint doc generation =>
      have same : s.SameSchemas (entryAbout service source (.lint doc generation) s).session :=
        sameSchemas.bind sameSchemas.ofExcept (fun _ => sameSchemas.done) s
      exact .inr (.inl (same.trans sameSchemas_log).validators)
    | graph doc withOrphaned =>
      have same : s.SameSchemas (entryAbout service source (.graph doc withOrphaned) s).session :=
        .refl s
      exact .inr (.inl (same.trans sameSchemas_log).validators)
    | validation doc generation =>
      cases placed : (schemaPlace none s).result with
      | ok place => exact .inr (.inr ⟨_, _, .log placed⟩)
      | error fault =>
        have same := (validate_of_error doc generation placed).2
        rw [← session_entryAbout_validation] at same
        exact .inr (.inl ((same.trans sameSchemas_log).validators))
  | run words changes =>
    refine .inr ?_
    -- A run asks for a schema if its words call a command, and the file can be read.
    rcases bound : s.environment.changeAll changes with ⟨environment, made⟩
    cases made with
    | error problem => exact .inl (sameSchemas_run_of_error bound).validators
    | ok _ =>
      have ended := sameSchemas_run words bound
      obtain ⟨command, request, calls⟩ | same := CommandLine.calls_or_unrelated
        unrelated_sameSchemas (s.atRun environment) words
      · obtain same | ⟨other, content, place, read, placed⟩ := asks_or_same_of_calls calls
        · exact .inl ((sameSchemas_atRun.trans same).trans ended).validators
        · exact .inr ⟨_, _, .run bound calls other read placed⟩
      · exact .inl ((sameSchemas_atRun.trans same).trans ended).validators

end Session

end BusinessModel
