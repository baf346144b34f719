import BusinessModel.Proofs.Session.Demands

/-!
# Steps that ask for the settings in force

Some steps ask for the settings in force: those that return them, that look up the place of schemas
in them, or that run the program with words that name a command.  Whoever asks first has them
created, out of the environment and the environment file as they are at that time; to all other
steps they are nothing but what is kept.

* `Session.SameSettings` — the settings in force have stayed the same
* `Action.leaves` — once settings are in force, asking for them changes nothing
* `Session.Wants` — the steps that ask for settings, and the environment in which they ask
* `Session.Obtains`, `Wants.obtains` — what becomes of the settings in force when they do
* `Session.wants_or_same` — all other steps leave them alone, or forget them
-/

namespace BusinessModel

namespace Session

variable {s t u : Session}

/-- A later session with the same settings in force, in which no serial number is given again. -/
structure SameSettings (s t : Session) : Prop where
  settings : t.settings = s.settings
  serial : s.nextSerial ≤ t.nextSerial

lemma SameSettings.refl (s : Session) : s.SameSettings s := ⟨rfl, Nat.le_refl _⟩

lemma SameSettings.trans (h : s.SameSettings t) (h' : t.SameSettings u) : s.SameSettings u :=
  ⟨h'.settings.trans h.settings, Nat.le_trans h.serial h'.serial⟩

end Session

/-- An action leaves some settings in force. -/
def Action.Leaves {α : Type} (kept : Kept Settings) (action : Action α) : Prop :=
  ∀ s : Session, s.settings = some kept → s.SameSettings (action s).session

namespace Action

open BusinessModel.Session

variable {α : Type} {kept : Kept Settings}

lemma indifferent_sameSettings : Indifferent SameSettings where
  refl := .refl
  trans := .trans
  serial _ := ⟨rfl, Nat.le_succ _⟩
  environment _ _ := ⟨rfl, Nat.le_refl _⟩
  log _ _ := ⟨rfl, Nat.le_refl _⟩

lemma sameSettings : Builds fun action => ∀ s, SameSettings s (action s).session :=
  builds_session indifferent_sameSettings

lemma leaves : Builds (Leaves kept) := by
  apply builds_session (R := fun s t => s.settings = some kept → s.SameSettings t)
  exact {
    refl := fun s _ => .refl s
    trans := fun h h' set => (h set).trans (h' ((h set).settings.trans set))
    serial := fun s _ => indifferent_sameSettings.serial s
    environment := fun s environment _ => indifferent_sameSettings.environment s environment
    log := fun s log _ => indifferent_sameSettings.log s log }

lemma leaves_settingsInForce : (settingsInForce []).Leaves kept := by
  intro s set
  rw [settingsInForce_of_some set]
  exact .refl s

end Action

namespace Session

open BusinessModel.Action

variable {s t : Session} {overrides : Mapping} {generation : Option Generation} {g : Generation}
  {directory : Option PathName} {doc : Value} {file : PathName} {kept : Kept Settings}
  {fault : Fault}

/-! ### Documents and schemas -/

lemma sameSettings_loadDocument (file : PathName) (s : Session) :
    s.SameSettings (loadDocument file s).session := by
  obtain ⟨_, _, same, _⟩ | ⟨_, _, same, _⟩ | ⟨_, _, reads, after⟩ := loadDocument_cases file s
  · rw [same]
    exact .refl s
  · rw [same]
    exact .refl s
  · rw [after]
    exact ⟨rfl, Nat.le_succ_of_le reads.serial⟩

/-- Of all that is done to validate a document, only finding the place of schemas has to do with
settings. -/
lemma sameSettings_validate (doc : Value) (generation : Option Generation)
    (directory : Option PathName) (s : Session) :
    (schemaPlace directory s).session.SameSettings
      (validate doc generation directory s).session := by
  rw [validate_eq]
  cases placed : (schemaPlace directory s).result with
  | error fault =>
    rw [validate_some_of_error placed]
    exact .refl _
  | ok place =>
    obtain ⟨validators, -, validated⟩ := validate_some_of_ok doc
      (generation.getD (Generation.detect doc)) placed
    rw [validated]
    exact ⟨rfl, Nat.le_refl _⟩

/-- Without a directory that is given, finding the place of schemas is asking for settings. -/
lemma schemaPlace_none_session :
    (schemaPlace none s).session = (settingsInForce [] s).session := by
  unfold schemaPlace
  dsimp only
  cases returned : (settingsInForce [] s).result with
  | error fault => rw [bind_of_error returned]
  | ok kept =>
    rw [bind_of_ok returned]
    cases kept.value.schemaPath <;> rfl

lemma leaves_validate : (validate doc generation directory).Leaves kept := fun s set =>
  (leaves.schemaPlace leaves_settingsInForce s set).trans (sameSettings_validate _ _ _ s)

lemma leaves_validateFile : (validateFile file generation).Leaves kept := by
  apply leaves.bind leaves.readForReport
  intro read
  cases read with
  | inl content => exact leaves_validate
  | inr report => exact leaves.done

/-! ### Commands -/

section

variable {request : CommandLine.Request} {command : CommandLine.Command}
  {next : Document → Action Nat} {others : List String}

/-- The document of a request, or the reason why there is none. -/
lemma leaves_loaded :
    (orElseLoad ((fun kept => .inl kept.value) <$> loadDocument request.file) fun
      | .misfit m => fail (.load (.misfit m))
      | fault => done (.inr fault.message) : Action (Document ⊕ String)).Leaves kept := by
  have loads : (loadDocument request.file).Leaves kept := fun s _ => sameSettings_loadDocument _ s
  apply leaves.orElseLoad (leaves.map loads)
  intro fault
  cases fault with
  | misfit => exact leaves.fail
  | missing | malformed => exact leaves.done

lemma leaves_withDocument (h : ∀ doc, (next doc).Leaves kept) :
    (CommandLine.withDocument request next).Leaves kept := by
  refine leaves.bind leaves_loaded fun loaded => ?_
  cases loaded with
  | inl doc => exact h doc
  | inr reason => exact leaves.giveUp

lemma leaves_formatOf : (CommandLine.formatOf request).Leaves kept :=
  leaves.formatOf leaves_settingsInForce

lemma leaves_validateCommand : (CommandLine.validateCommand request).Leaves kept :=
  leaves.bind leaves_validateFile fun _ => leaves.bind leaves.logViolations fun _ =>
    leaves.bind leaves_formatOf fun _ => leaves.bind leaves.say fun _ => leaves.done

lemma leaves_graphCommand : (CommandLine.graphCommand request).Leaves kept := by
  refine leaves_withDocument fun doc => ?_
  split
  · exact leaves.giveUp
  · exact leaves.bind leaves.note fun _ => leaves.bind leaves.say fun _ =>
      leaves.bind leaves.report fun _ => leaves.bind leaves_formatOf fun _ =>
        leaves.bind leaves.say fun _ => leaves.done

lemma leaves_lintCommand : (CommandLine.lintCommand request).Leaves kept := by
  apply leaves.bind leaves_formatOf
  intro format
  apply leaves.bind leaves_settingsInForce
  intro settings
  apply leaves.bind leaves_validateFile
  intro validation
  apply leaves.bind leaves.logViolations
  intro _
  split
  · exact leaves.bind leaves.say fun _ => leaves.done
  · refine leaves_withDocument fun doc => ?_
    exact leaves.bind leaves.lintDocument fun _ => leaves.bind leaves.traceLint fun _ =>
      leaves.bind leaves.say fun _ => leaves.done

lemma leaves_perform : (CommandLine.perform command request).Leaves kept := by
  cases command with
  | graph => exact leaves_graphCommand
  | lint => exact leaves_lintCommand
  | validate => exact leaves_validateCommand

lemma leaves_runCommand : (CommandLine.runCommand command others).Leaves kept := by
  unfold CommandLine.runCommand
  cases CommandLine.Arguments.scan command.forms true others with
  | error problem => exact leaves.refuse
  | ok arguments =>
    dsimp only
    split
    · exact leaves.answerWith
    · apply leaves.bind leaves.requestOf
      intro made
      cases made with
      | error problem => exact leaves.refuse
      | ok request => exact leaves_perform

end

/-! ### Steps -/

variable {step : Step} {words : List String} {changes : List VariableChange}
  {environment : Environment} {α : Type}

/-- What becomes of the settings in force when they are asked for in an environment, with something
overridden or not. -/
inductive Obtains (s : Session) (overrides : Mapping) (environment : Environment)
    (outcome : Outcome α) : Prop where
  | shared {kept : Kept Settings} :
    overrides = [] →
    s.settings = some kept →
    s.SameSettings outcome.session →
    Obtains s overrides environment outcome
  | created {settings : Settings} :
    (overrides ≠ [] ∨ s.settings = none) →
    settingsFrom overrides environment s.envFile = .ok settings →
    outcome.session.settings = some ⟨s.nextSerial, settings⟩ →
    s.nextSerial < outcome.session.nextSerial →
    Obtains s overrides environment outcome
  | failed {fault : Fault} :
    (overrides ≠ [] ∨ s.settings = none) →
    settingsFrom overrides environment s.envFile = .error fault →
    outcome.result = .error fault →
    s.SameSettings outcome.session →
    Obtains s overrides environment outcome

/-- Asking for settings comes before other things, which leave them alone and are not done without
them. -/
lemma Obtains.before {β : Type} {outcome : Outcome α} {later : Outcome β}
    (h : s.Obtains overrides environment outcome)
    (same : outcome.session.SameSettings later.session)
    (failed : ∀ fault, outcome.result = .error fault → later.result = .error fault) :
    s.Obtains overrides environment later := by
  cases h with
  | shared plain set earlier => exact .shared plain set (earlier.trans same)
  | created due made settings serial =>
    exact .created due made (same.settings.trans settings) (Nat.lt_of_lt_of_le serial same.serial)
  | failed due unmade refused earlier =>
    exact .failed due unmade (failed _ refused) (earlier.trans same)

lemma obtains_settingsInForce :
    s.Obtains overrides s.environment (settingsInForce overrides s) := by
  cases settles overrides s with
  | shared plain set asked =>
    rw [asked]
    exact .shared plain set (.refl s)
  | created due made after =>
    refine .created due made ?_ ?_
    · rw [after]
    · rw [after]
      exact Nat.lt_succ_self _
  | failed due unmade same refused =>
    refine .failed due unmade refused ?_
    rw [same]
    exact .refl s

/-- The steps that ask for the settings in force, with what they override and the environment in
which they ask. -/
inductive Wants (s : Session) : Step → Mapping → Environment → Prop where
  | useSettings {overrides : Mapping} : Wants s (.useSettings overrides) overrides s.environment
  | logLevel : Wants s .logLevel [] s.environment
  | schemaTitle {g : Generation} : Wants s (.schemaTitle g none) [] s.environment
  | validate {doc : Value} {generation : Option Generation} :
    Wants s (.validate doc generation none) [] s.environment
  | validateFile {file : PathName} {generation : Option Generation} {content : Mapping} :
    (readMapping file s).result = .ok content →
    Wants s (.validateFile file generation) [] s.environment
  | log {service source : String} {doc : Value} {generation : Option Generation} :
    Wants s (.log service source (.validation doc generation)) [] s.environment
  | run {words : List String} {changes : List VariableChange} {environment : Environment}
      {command : CommandLine.Command} {others : List String} :
    s.environment.changeAll changes = (environment, .ok ()) →
    CommandLine.Names (s.atRun environment) words command others →
    Wants s (.run words changes) [] environment

lemma Obtains.bind {β : Type} {first : Action α} {next : α → Action β}
    (h : s.Obtains overrides environment (first s))
    (h' : ∀ a t, SameSettings t (next a t).session) :
    s.Obtains overrides environment ((first >>= next) s) := by
  apply h.before (session_behind .refl h')
  intro fault failed
  rw [bind_of_error failed]

/-- A reply is made of what was asked for. -/
lemma Obtains.reply {action : Action α} {reply : α → Reply}
    (h : s.Obtains overrides environment (action s)) :
    s.Obtains overrides environment ((action >>= fun a => pure (reply a)) s) :=
  h.bind fun _ => sameSettings.done

/-- Without a directory that is given, the place of schemas is not found without settings. -/
lemma schemaPlace_none_of_error (failed : (settingsInForce [] s).result = .error fault) :
    (schemaPlace none s).result = .error fault := by
  rw [schemaPlace_none, failed]
  rfl

lemma obtains_validate : s.Obtains [] s.environment (validate doc generation none s) := by
  apply obtains_settingsInForce.before
  · rw [← schemaPlace_none_session]
    exact sameSettings_validate _ _ _ s
  · intro fault failed
    exact (validate_of_error doc generation (schemaPlace_none_of_error failed)).1

/-- Behind the place of schemas, the title is looked up. -/
lemma sameSettings_schemaTitle (g : Generation) (directory : Option PathName) (s : Session) :
    (schemaPlace directory s).session.SameSettings (schemaTitle g directory s).session := by
  apply session_behind .refl
  intro place
  cases place with
  | packaged => exact sameSettings.done
  | directory path => exact sameSettings.bind sameSettings.readSchema fun _ => sameSettings.done

lemma obtains_schemaTitle : s.Obtains [] s.environment (schemaTitle g none s) := by
  apply obtains_settingsInForce.before
  · rw [← schemaPlace_none_session]
    exact sameSettings_schemaTitle g none s
  · intro fault failed
    unfold schemaTitle
    rw [bind_of_error (schemaPlace_none_of_error failed)]

/-- A run that names a command asks for settings before anything else. -/
lemma sameSettings_answerOrRun {command : CommandLine.Command} {others : List String}
    (names : CommandLine.Names s words command others) :
    (settingsInForce [] s).session.SameSettings (CommandLine.answerOrRun words s).session := by
  rw [names.answerOrRun_eq]
  cases returned : (settingsInForce [] s).result with
  | error fault =>
    rw [bind_of_eq_error (CommandLine.configureLog_of_error returned)]
    exact .refl _
  | ok kept =>
    rw [bind_of_eq_ok (CommandLine.configureLog_of_ok returned)]
    have ready := CommandLine.settings_prepared returned
    have same : (settingsInForce [] s).session.SameSettings (CommandLine.prepared s kept) :=
      ⟨rfl, Nat.le_refl _⟩
    exact same.trans (leaves_runCommand _ ready)

lemma obtains_answerOrRun {command : CommandLine.Command} {others : List String}
    (names : CommandLine.Names s words command others) :
    s.Obtains [] s.environment (CommandLine.answerOrRun words s) := by
  apply obtains_settingsInForce.before (sameSettings_answerOrRun names)
  intro fault failed
  rw [names.answerOrRun_eq, bind_of_eq_error (CommandLine.configureLog_of_error failed)]

/-- What is set around a run has nothing to do with settings. -/
lemma Obtains.of_atRun {other : Environment} {outcome : Outcome α}
    (h : (s.atRun environment).Obtains overrides other outcome) :
    s.Obtains overrides other outcome := by
  cases h with
  | shared plain set same => exact .shared plain set ⟨same.settings, same.serial⟩
  | created due made settings serial => exact .created due made settings serial
  | failed due unmade refused same => exact .failed due unmade refused ⟨same.settings, same.serial⟩

/-- What a run does, once its variables are set. -/
lemma step_run_of_ok (words : List String)
    (bound : s.environment.changeAll changes = (environment, .ok ())) :
    (s.step (.run words changes)).result =
        (CommandLine.answerOrRun words (s.atRun environment)).result.map .exit ∧
      (s.step (.run words changes)).notices =
        (CommandLine.answerOrRun words (s.atRun environment)).notices.map Notice.plain ∧
      (CommandLine.answerOrRun words (s.atRun environment)).session.SameSettings
        (s.step (.run words changes)).session := by
  have ended : s.step (.run words changes) =
      ⟨(withVariables changes (CommandLine.run words) s).notices,
        (withVariables changes (CommandLine.run words) s).session,
        (withVariables changes (CommandLine.run words) s).result.map .exit⟩ := bind_pure
  rw [ended, withVariables, bound]
  exact ⟨rfl, rfl, ⟨rfl, Nat.le_refl _⟩⟩

lemma sameSettings_run_of_error {problem : VariableProblem}
    (refused : s.environment.changeAll changes = (environment, .error problem)) :
    s.SameSettings (s.step (.run words changes)).session := by
  have ended : (s.step (.run words changes)).session =
      (withVariables changes (CommandLine.run words) s).session := bind_pure_session
  rw [ended, withVariables, refused]
  exact ⟨rfl, Nat.le_refl _⟩

/-- What becomes of the settings in force when a step asks for them. -/
lemma Wants.obtains (wants : s.Wants step overrides environment) :
    s.Obtains overrides environment (s.step step) := by
  cases wants with
  | useSettings => exact obtains_settingsInForce.reply
  | logLevel => exact obtains_settingsInForce.reply
  | schemaTitle => exact obtains_schemaTitle.reply
  | validate => exact obtains_validate.reply
  | validateFile read =>
    apply Obtains.reply
    rw [validateFile_eq_of_read read]
    exact obtains_validate
  | @log service source doc generation =>
    have made : s.Obtains [] s.environment
        (entryAbout service source (.validation doc generation) s) :=
      obtains_validate.bind fun _ => sameSettings.done
    exact made.bind fun entry => sameSettings.bind sameSettings.report fun _ => sameSettings.done
  | @run words changes environment command others bound names =>
    obtain ⟨result, -, same⟩ := step_run_of_ok words bound
    apply (obtains_answerOrRun names).of_atRun.before same
    intro fault failed
    rw [result, failed]
    rfl

/-- Every step asks for settings, forgets them, or leaves the ones in force alone. -/
lemma wants_or_same (s : Session) (step : Step) :
    step = .forgetSettings ∨ s.SameSettings (s.step step).session ∨
      ∃ overrides environment, s.Wants step overrides environment := by
  -- Most steps do something that has nothing to do with settings, and reply.
  have small : ∀ {α : Type} {action : Action α} {reply : α → Reply},
      s.SameSettings (action s).session →
        s.SameSettings ((action >>= fun a => pure (reply a)) s).session := by
    intro α action reply same
    rwa [bind_pure_session]
  have files : ∀ {step}, ChangesFiles step → s.SameSettings (s.step step).session := by
    intro step changes
    obtain ⟨files, changed⟩ := changes.session (s := s)
    rw [changed]
    exact ⟨rfl, Nat.le_refl _⟩
  have logs : ∀ {service source subject},
      s.SameSettings (entryAbout service source subject s).session →
        s.SameSettings (s.step (.log service source subject)).session := fun same =>
    same.trans (session_behind .refl fun _ =>
      sameSettings.bind sameSettings.report fun _ => sameSettings.done)
  cases step with
  | write => exact .inr (.inl (files .write))
  | delete => exact .inr (.inl (files .delete))
  | makeDirectory => exact .inr (.inl (files .makeDirectory))
  | setVariable => exact .inr (.inl (small (sameSettings.changeVariable s)))
  | unsetVariable => exact .inr (.inl (small (sameSettings.changeVariable s)))
  | load file => exact .inr (.inl (small (sameSettings_loadDocument file s)))
  | loadText => exact .inr (.inl (small (sameSettings.documentOfText s)))
  | read => exact .inr (.inl (small (sameSettings.readMapping s)))
  | forgetDocuments => exact .inr (.inl ⟨rfl, Nat.le_refl _⟩)
  | validateFile file generation =>
    cases read : (readMapping file s).result with
    | ok content => exact .inr (.inr ⟨_, _, .validateFile read⟩)
    | error fault =>
      refine .inr (.inl (small ?_))
      rw [validateFile_of_unread read]
      exact .refl s
  | validate doc generation directory =>
    cases directory with
    | none => exact .inr (.inr ⟨_, _, .validate⟩)
    | some path =>
      exact .inr (.inl (small (sameSettings_validate doc generation (some path) s)))
  | schemaTitle g directory =>
    cases directory with
    | none => exact .inr (.inr ⟨_, _, .schemaTitle⟩)
    | some path =>
      exact .inr (.inl (small (sameSettings_schemaTitle g (some path) s)))
  | forgetValidators => exact .inr (.inl ⟨rfl, Nat.le_refl _⟩)
  | useSettings => exact .inr (.inr ⟨_, _, .useSettings⟩)
  | createSettings => exact .inr (.inl (small (sameSettings.createSettings s)))
  | forgetSettings => exact .inl rfl
  | logLevel => exact .inr (.inr ⟨_, _, .logLevel⟩)
  | configureLog => exact .inr (.inl (small (sameSettings.setThresholds s)))
  | log service source subject =>
    cases subject with
    | lint => exact .inr (.inl (logs (sameSettings.bind sameSettings.ofExcept
        (fun _ => sameSettings.done) s)))
    | graph => exact .inr (.inl (logs (.refl s)))
    | validation => exact .inr (.inr ⟨_, _, .log⟩)
  | run words changes =>
    rcases bound : s.environment.changeAll changes with ⟨environment, made⟩
    cases made with
    | error problem => exact .inr (.inl (sameSettings_run_of_error bound))
    | ok _ =>
      obtain ⟨command, others, names⟩ | same := CommandLine.names_or_indifferent
        indifferent_sameSettings (s.atRun environment) words
      · exact .inr (.inr ⟨_, _, .run bound names⟩)
      · obtain ⟨-, -, ended⟩ := step_run_of_ok words bound
        have started : s.SameSettings (s.atRun environment) := ⟨rfl, Nat.le_refl _⟩
        exact .inr (.inl (started.trans (same.trans ended)))

end Session

end BusinessModel
