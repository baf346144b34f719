import BusinessModel.Proofs.Session.Consulted
import BusinessModel.Proofs.Session.SchemaHistory

/-!
# The settings of whole sessions

Which settings are in force is told by the steps before.  They are the ones that were created last
since settings were last forgotten, whatever has happened since to the environment and to the
environment file.  A step has them created if it overrides something, or if it asks for settings
while none are in force; they are made of what it overrides and of what it finds at that time, and
of nothing that was in force before.

* `Session.Creates` — a step has settings created
* `Session.LastCreated` — the last step that had, since settings were forgotten
* `Session.inForce_iff` — they are the ones in force
* `Session.SharesSettings`, `Session.initial_sharesSettings` — the settings that a session shares
-/

namespace BusinessModel

namespace Action

variable {α β : Type} {first : Action α} {next next' : α → Action β} {s : Session}
  {kept : Kept Settings}

/-- What follows an action that leaves settings in force may take them for granted. -/
lemma Leaves.bind_congr (h : first.Leaves kept) (set : s.settings = some kept)
    (same : ∀ a t, t.settings = some kept → next a t = next' a t) :
    (first >>= next) s = (first >>= next') s := by
  cases result : (first s).result with
  | error fault => rw [bind_of_error result, bind_of_error result]
  | ok a =>
    have still : (first s).session.settings = some kept := (h s set).settings.trans set
    rw [bind_of_ok result, bind_of_ok result, same a _ still]

end Action

/-! ### Requests -/

namespace CommandLine

open BusinessModel.Action BusinessModel.Session

variable {s : Session} {request : Request} {command : Command} {kept : Kept Settings}
  {next next' : Document → Action Nat}

/-- The request that asks for what settings say, where it asks for nothing else. -/
def Request.under (request : Request) (settings : Settings) : Request where
  file := request.file
  format := some (request.format.getD settings.outputFormat)
  strict := request.strict || settings.failOnWarnings

lemma withDocument_congr (set : s.settings = some kept)
    (same : ∀ doc t, t.settings = some kept → next doc t = next' doc t) :
    withDocument request next s = withDocument request next' s := by
  refine leaves_loaded.bind_congr set fun loaded t set => ?_
  cases loaded with
  | inl doc => exact same doc t set
  | inr reason => rfl

/-- Whatever a request does not ask for, the settings in force say. -/
lemma perform_under (command : Command) (request : Request) (set : s.settings = some kept) :
    perform command (request.under kept.value) s = perform command request s := by
  have answers : ∀ {α : Type} {next : OutputFormat → Action α} (t : Session),
      t.settings = some kept →
        (formatOf (request.under kept.value) >>= next) t = (formatOf request >>= next) t := by
    intro α next t set
    rw [bind_of_silent (formatOf_of_some _ set), bind_of_silent (formatOf_of_some _ set)]
    rfl
  cases command with
  | graph =>
    refine withDocument_congr set fun doc t set => ?_
    split
    · rfl
    · exact leaves.note.bind_congr set fun _ t set => leaves.say.bind_congr set fun _ t set =>
        leaves.report.bind_congr set fun _ t set => answers t set
  | lint =>
    have strict : ((request.under kept.value).strict || kept.value.failOnWarnings) =
        (request.strict || kept.value.failOnWarnings) := by
      change ((_ || _) || _) = _
      rw [Bool.or_assoc, Bool.or_self]
    change lintCommand (request.under kept.value) s = lintCommand request s
    unfold lintCommand
    rw [answers s set]
    refine leaves_formatOf.bind_congr set fun format t set => ?_
    rw [bind_of_silent (settingsInForce_of_some set), bind_of_silent (settingsInForce_of_some set),
      strict]
    rfl
  | validate =>
    refine leaves_validateFile.bind_congr set fun report t set => ?_
    exact leaves.logViolations.bind_congr set fun _ t set => answers t set

end CommandLine

namespace Session

open BusinessModel.Action

variable {s t : Session} {script before between rest : List Step} {step other : Step}
  {overrides : Mapping} {environment : Environment} {kept kept' : Kept Settings} {fault : Fault}
  {doc : Value} {generation : Option Generation} {g : Generation} {place : SchemaPlace}
  {directory : Option PathName} {file : PathName} {content : Mapping}

/-! ### What one step does -/

/-- A step has settings created: it overrides something, or it asks for settings while none are in
force, and nothing is wrong with what it finds. -/
inductive Creates (s : Session) (step : Step) (kept : Kept Settings) : Prop where
  | intro {overrides : Mapping} {environment : Environment} :
    s.Wants step overrides environment →
    (overrides ≠ [] ∨ s.settings = none) →
    settingsFrom overrides environment s.envFile = .ok kept.value →
    kept.serial = s.nextSerial →
    Creates s step kept

/-- Settings that are created are in force from then on. -/
lemma Creates.inForce (creates : s.Creates step kept) :
    (s.step step).session.settings = some kept ∧
      kept.serial < (s.step step).session.nextSerial := by
  obtain ⟨wants, due, made, serial⟩ := creates
  cases wants.obtains with
  | shared plain set _ =>
    obtain overriding | unset := due
    · exact absurd plain overriding
    · cases unset.symm.trans set
  | @created settings _ made' after later =>
    have same : kept = ⟨s.nextSerial, settings⟩ := by
      obtain ⟨_, _⟩ := kept
      cases made.symm.trans made'
      cases serial
      rfl
    rw [same]
    exact ⟨after, later⟩
  | failed _ unmade => cases made.symm.trans unmade

/-- A step forgets the settings in force, or has other ones created, or leaves them alone. -/
lemma creates_or_same (s : Session) (step : Step) :
    step = .forgetSettings ∨ (∃ kept, s.Creates step kept) ∨
      s.SameSettings (s.step step).session := by
  obtain forget | same | ⟨overrides, environment, wants⟩ := wants_or_same s step
  · exact .inl forget
  · exact .inr (.inr same)
  · cases wants.obtains with
    | shared _ _ same => exact .inr (.inr same)
    | created due made => exact .inr (.inl ⟨⟨s.nextSerial, _⟩, wants, due, made, rfl⟩)
    | failed _ _ _ same => exact .inr (.inr same)

/-- Where settings cannot be created, the step fails and leaves the ones in force alone. -/
lemma Wants.failed (wants : s.Wants step overrides environment)
    (due : overrides ≠ [] ∨ s.settings = none)
    (unmade : settingsFrom overrides environment s.envFile = .error fault) :
    (s.step step).result = .error fault ∧ (s.step step).session.settings = s.settings := by
  cases wants.obtains with
  | shared plain set _ =>
    obtain overriding | unset := due
    · exact absurd plain overriding
    · cases unset.symm.trans set
  | created _ made => cases made.symm.trans unmade
  | failed _ unmade' refused same =>
    cases unmade.symm.trans unmade'
    exact ⟨refused, same.settings⟩

/-! ### What several steps do -/

/-- Among the steps of a script, one has settings created, and from then on settings are not
forgotten and no other ones are created. -/
inductive LastCreated (s : Session) (script : List Step) (kept : Kept Settings) : Prop where
  | intro {before rest : List Step} {step : Step} :
    script = before ++ step :: rest →
    (s.after before).Creates step kept →
    .forgetSettings ∉ rest →
    (∀ early late other kept', rest = early ++ other :: late →
      ¬ (s.after (before ++ step :: early)).Creates other kept') →
    LastCreated s script kept

/-- Settings stay in force as long as they are not forgotten and no other ones are created. -/
lemma settings_after (set : s.settings = some kept) (remembered : .forgetSettings ∉ rest)
    (uncreated : ∀ early late other kept', rest = early ++ other :: late →
      ¬ (s.after early).Creates other kept') :
    (s.after rest).settings = some kept := by
  induction rest generalizing s with
  | nil => exact set
  | cons step rest ih =>
    obtain ⟨other, remembered⟩ := not_or.1 (mt List.mem_cons.2 remembered)
    rw [after_cons]
    refine ih ?_ remembered fun early late other kept' split => ?_
    · obtain forget | ⟨kept', creates⟩ | same := creates_or_same s step
      · exact absurd forget.symm other
      · exact absurd creates (uncreated [] rest step kept' rfl)
      · exact same.settings.trans set
    · have later := uncreated (step :: early) late other kept' (by rw [split, List.cons_append])
      rwa [after_cons] at later

lemma LastCreated.inForce (last : s.LastCreated script kept) :
    (s.after script).settings = some kept := by
  obtain @⟨before, rest, step, split, creates, remembered, uncreated⟩ := last
  rw [split, after_append, after_cons]
  refine settings_after creates.inForce.1 remembered fun early late other kept' split => ?_
  have later := uncreated early late other kept' split
  rwa [after_append, after_cons] at later

/-- Steps that leave the settings in force alone do not change which ones were created last. -/
lemma LastCreated.concat (last : s.LastCreated script kept) (remembered : step ≠ .forgetSettings)
    (uncreated : ∀ kept', ¬ (s.after script).Creates step kept') :
    s.LastCreated (script ++ [step]) kept := by
  obtain @⟨before, rest, first, split, creates, remembered', uncreated'⟩ := last
  refine .intro (by rw [split, List.append_assoc, List.cons_append]) creates ?_ ?_
  · simpa [remembered'] using remembered.symm
  · intro early late other kept' split'
    -- The step is the last one; whatever comes before it was there already.
    obtain rfl | ⟨late, last, rfl⟩ := List.eq_nil_or_concat late
    · obtain ⟨rfl, same⟩ := List.append_inj' split' rfl
      cases same
      rw [← split]
      exact uncreated kept'
    · rw [List.concat_eq_append, ← List.cons_append, ← List.append_assoc] at split'
      exact uncreated' early late other kept' (List.append_inj' split' rfl).1

lemma Creates.lastCreated (creates : (s.after script).Creates step kept) :
    s.LastCreated (script ++ [step]) kept := by
  refine .intro rfl creates List.not_mem_nil fun early late other kept' split => ?_
  cases (List.append_eq_nil_iff.1 split.symm).2

/-- Settings that are in force at the end, and were not at the start, are those that were created
last. -/
lemma lastCreated_of_inForce (absent : s.settings = none)
    (set : (s.after script).settings = some kept) : s.LastCreated script kept := by
  induction script using List.reverseRecOn with
  | nil => cases absent.symm.trans set
  | append_singleton script step ih =>
    rw [after_concat] at set
    by_cases creates : ∃ kept', (s.after script).Creates step kept'
    · obtain ⟨kept', creates⟩ := creates
      cases creates.inForce.1.symm.trans set
      exact creates.lastCreated
    · obtain rfl | created | same := creates_or_same (s.after script) step
      · cases set
      · exact absurd created creates
      · refine (ih (same.settings.symm.trans set)).concat ?_ (not_exists.1 creates)
        rintro rfl
        cases set

lemma inForce_iff (absent : s.settings = none) :
    (s.after script).settings = some kept ↔ s.LastCreated script kept :=
  ⟨lastCreated_of_inForce absent, LastCreated.inForce⟩

/-! ### What is returned and looked up -/

/-- The title of the schema of a generation in a place, as it is now. -/
def titleIn (s : Session) (place : SchemaPlace) (g : Generation) : Except Fault Value :=
  match place with
  | .packaged => .ok (.str (Validation.packagedTitle g))
  | .directory path => (readSchema path g s).result.map Schema.titleOf

lemma schemaTitle_result (placed : (schemaPlace directory s).result = .ok place) :
    (schemaTitle g directory s).result = s.titleIn place g := by
  have same : s.SameSchemas (schemaPlace directory s).session := sameSchemas.schemaPlace s
  unfold schemaTitle
  rw [bind_of_ok placed]
  cases place with
  | packaged => rfl
  | directory path =>
    dsimp only [titleIn]
    rw [bind_pure_result]
    have there : SameFile (.directory path) g s (schemaPlace directory s).session :=
      fun _ _ => by rw [same.files, same.directory]
    rw [readSchema_of_sameFile there]

/-- Who has asked for settings has been told which ones are in force. -/
lemma returned_of_sameSettings (same : (settingsInForce [] s).session.SameSettings t)
    (set : t.settings = some kept) : (settingsInForce [] s).result = .ok kept :=
  settingsInForce_result_iff.2 (same.settings.symm.trans set)

lemma placed_of_returned (returned : (settingsInForce [] s).result = .ok kept) :
    (schemaPlace none s).result = .ok (placeOf kept.value) := by
  rw [schemaPlace_none, returned]
  rfl

lemma result_useSettings_iff :
    (s.step (.useSettings [])).result = .ok (.settingsInForce kept) ↔
      (s.step (.useSettings [])).session.settings = some kept := by
  have replied : (s.step (.useSettings [])).result =
      (settingsInForce [] s).result.map .settingsInForce := bind_pure_result
  have ended : (s.step (.useSettings [])).session = (settingsInForce [] s).session :=
    bind_pure_session
  rw [replied, ended, ← settingsInForce_result_iff]
  exact map_eq_ok_iff Reply.settingsInForce.inj

/-- What overriding something returns has nothing to do with what was in force before. -/
lemma result_useSettings_of_overriding (overriding : overrides ≠ []) :
    (s.step (.useSettings overrides)).result =
      (settingsFrom overrides s.environment s.envFile).map fun settings =>
        .settingsInForce ⟨s.nextSerial, settings⟩ := by
  have replied : (s.step (.useSettings overrides)).result =
      (settingsInForce overrides s).result.map .settingsInForce := bind_pure_result
  rw [replied]
  cases settles overrides s with
  | shared plain => exact absurd plain overriding
  | created _ made _ returned =>
    rw [returned, made]
    rfl
  | failed _ unmade _ refused =>
    rw [refused, unmade]
    rfl

/-- Settings that are created aside are made of what is found at the time. -/
lemma step_createSettings (overrides : Mapping) (s : Session) (inForce : Option (Kept Settings)) :
    ({ s with settings := inForce } : Session).step (.createSettings overrides) =
      ⟨(s.step (.createSettings overrides)).notices, { s with settings := inForce },
        (settingsFrom overrides s.environment s.envFile).map .settings⟩ := by
  have replied : ∀ t : Session, t.step (.createSettings overrides) =
      ⟨(createSettings overrides t).notices, (createSettings overrides t).session,
        (createSettings overrides t).result.map .settings⟩ := fun _ => bind_pure
  rw [replied, replied, createSettings_of_any, createSettings_result]

/-! ### Who looks settings up -/

lemma result_logLevel (set : (s.step .logLevel).session.settings = some kept) :
    (s.step .logLevel).result = .ok (.logLevel kept.value.logLevel) := by
  have ended : (s.step .logLevel).session = (settingsInForce [] s).session := bind_pure_session
  rw [ended] at set
  exact map_of_ok (returned_of_sameSettings (.refl _) set)

lemma result_schemaTitle (set : (s.step (.schemaTitle g none)).session.settings = some kept) :
    (s.step (.schemaTitle g none)).result = (s.titleIn (placeOf kept.value) g).map .title := by
  have replied : (s.step (.schemaTitle g none)).result =
      (schemaTitle g none s).result.map .title := bind_pure_result
  have ended : (s.step (.schemaTitle g none)).session = (schemaTitle g none s).session :=
    bind_pure_session
  have same := sameSettings_schemaTitle g none s
  rw [schemaPlace_none_session] at same
  rw [ended] at set
  rw [replied, schemaTitle_result (placed_of_returned (returned_of_sameSettings same set))]

lemma placed_validate (set : (validate doc generation none s).session.settings = some kept) :
    (schemaPlace none s).result = .ok (placeOf kept.value) := by
  have same := sameSettings_validate doc generation none s
  rw [schemaPlace_none_session] at same
  exact placed_of_returned (returned_of_sameSettings same set)

/-- What a run does that calls a command, with the settings that are in force in the end. -/
lemma run_of_calls {words : List String} {changes : List VariableChange}
    {command : CommandLine.Command} {request : CommandLine.Request}
    (bound : s.environment.changeAll changes = (environment, .ok ()))
    (calls : CommandLine.Calls (s.atRun environment) words command request)
    (set : (s.step (.run words changes)).session.settings = some kept) :
    let ready := CommandLine.prepared (s.atRun environment) kept
    let performed := CommandLine.perform command (request.under kept.value) ready
    ready.settings = some kept ∧
      (schemaPlace none ready).result = .ok (placeOf kept.value) ∧
      (s.step (.run words changes)).result = performed.result.map .exit ∧
      (s.step (.run words changes)).notices =
        ((settingsInForce [] (s.atRun environment)).notices ++
          performed.notices).map Notice.plain := by
  obtain ⟨others, arguments, names, -⟩ := calls.names
  obtain ⟨result, notices, same⟩ := step_run_of_ok words bound
  have returned := returned_of_sameSettings ((sameSettings_answerOrRun names).trans same) set
  have ready := CommandLine.settings_prepared returned
  dsimp only
  rw [result, notices, calls.answerOrRun_of_ok returned, CommandLine.perform_under _ _ ready,
    schemaPlace_none_of_some ready]
  exact ⟨ready, rfl, rfl, rfl⟩

/-! ### Sessions -/

/-- How settings are shared over all that can be done in a session. -/
structure SharesSettings (s : Session) : Prop where
  /-- The settings in force are those that were created last. -/
  inForce : ∀ {script kept},
    (s.after script).settings = some kept ↔ s.LastCreated script kept
  /-- They are returned if nothing is overridden, which changes nothing if there are any. -/
  returned : ∀ {script kept},
    ((s.after script).step (.useSettings [])).result = .ok (.settingsInForce kept) ↔
      s.LastCreated (script ++ [.useSettings []]) kept
  shared : ∀ {script kept},
    s.LastCreated script kept →
    (s.after script).step (.useSettings []) =
      ⟨[], s.after script, .ok (.settingsInForce kept)⟩
  /-- Settings that are created later are other ones. -/
  renewed : ∀ {before between step step' kept kept'},
    (s.after before).Creates step kept →
    (s.after (before ++ step :: between)).Creates step' kept' →
    kept.serial < kept'.serial
  /-- If something is overridden, new ones are made of it, of the environment and of the environment
  file as they are then, and put in force. -/
  replaced : ∀ {script overrides},
    overrides ≠ [] →
    ((s.after script).step (.useSettings overrides)).result =
        (settingsFrom overrides (s.after script).environment (s.after script).envFile).map
          (fun settings => .settingsInForce ⟨(s.after script).nextSerial, settings⟩) ∧
      ∀ kept,
        ((s.after script).step (.useSettings overrides)).result = .ok (.settingsInForce kept) →
        s.LastCreated (script ++ [.useSettings overrides]) kept
  /-- Where settings cannot be created, the step that asks for them fails and leaves the ones in
  force, or that there are none. -/
  failed : ∀ {script step overrides environment fault},
    (s.after script).Wants step overrides environment →
    (overrides ≠ [] ∨ (s.after script).settings = none) →
    settingsFrom overrides environment (s.after script).envFile = .error fault →
    ((s.after script).step step).result = .error fault ∧
      (s.after (script ++ [step])).settings = (s.after script).settings
  /-- Settings that are created aside have nothing to do with the ones in force. -/
  aside : ∀ {script overrides settings},
    ({ s.after script with settings } : Session).step (.createSettings overrides) =
      ⟨((s.after script).step (.createSettings overrides)).notices,
        { s.after script with settings },
        (settingsFrom overrides (s.after script).environment (s.after script).envFile).map
          .settings⟩
  /-- Who asks for the level of the log, or for the place of schemas, is told what they say. -/
  level : ∀ {script kept},
    s.LastCreated (script ++ [.logLevel]) kept →
    ((s.after script).step .logLevel).result = .ok (.logLevel kept.value.logLevel)
  title : ∀ {script g kept},
    s.LastCreated (script ++ [.schemaTitle g none]) kept →
    ((s.after script).step (.schemaTitle g none)).result =
      ((s.after script).titleIn (placeOf kept.value) g).map .title
  validate : ∀ {script doc generation kept},
    s.LastCreated (script ++ [.validate doc generation none]) kept →
    (s.after script).Checks (.validate doc generation none) doc (placeOf kept.value)
      (generation.getD (Generation.detect doc))
  validateFile : ∀ {script file generation content kept},
    (readMapping file (s.after script)).result = .ok content →
    s.LastCreated (script ++ [.validateFile file generation]) kept →
    (s.after script).Checks (.validateFile file generation) (.map content) (placeOf kept.value)
      (generation.getD (Generation.detect (.map content)))
  /-- A run that calls a command performs it with the log set up as they say, and with the format,
  the strictness and the place of schemas that they name, where nothing else is asked for. -/
  run : ∀ {script words changes environment command request kept},
    (s.after script).environment.changeAll changes = (environment, .ok ()) →
    CommandLine.Calls ((s.after script).atRun environment) words command request →
    s.LastCreated (script ++ [.run words changes]) kept →
    let ready := CommandLine.prepared ((s.after script).atRun environment) kept
    let performed := CommandLine.perform command (request.under kept.value) ready
    ready.settings = some kept ∧
      (schemaPlace none ready).result = .ok (placeOf kept.value) ∧
      ((s.after script).step (.run words changes)).result = performed.result.map .exit ∧
      ((s.after script).step (.run words changes)).notices =
        ((settingsInForce [] ((s.after script).atRun environment)).notices ++
          performed.notices).map Notice.plain

/-- A session at its start shares settings as it should. -/
theorem initial_sharesSettings (directory : List String) (environment : Environment) :
    SharesSettings (initial directory environment) where
  inForce := inForce_iff rfl
  returned {script kept} := by
    rw [← inForce_iff rfl, after_concat]
    exact result_useSettings_iff
  shared {script kept} last := by
    change (settingsInForce [] >>= fun kept => pure (Reply.settingsInForce kept)) _ = _
    rw [bind_of_silent (settingsInForce_of_some last.inForce)]
    rfl
  renewed {before between step step' kept kept'} creates creates' := by
    obtain ⟨-, -, -, serial⟩ := creates'
    rw [serial, after_append, after_cons]
    exact Nat.lt_of_lt_of_le creates.inForce.2 (nextSerial_le_after _ _)
  replaced {script overrides} overriding := by
    have replied := result_useSettings_of_overriding
      (s := (initial directory environment).after script) overriding
    refine ⟨replied, fun kept returned => ?_⟩
    rw [replied] at returned
    cases made : settingsFrom overrides ((initial directory environment).after script).environment
        ((initial directory environment).after script).envFile with
    | error fault =>
      rw [made] at returned
      cases returned
    | ok settings =>
      rw [made] at returned
      cases returned
      exact Creates.lastCreated ⟨.useSettings, .inl overriding, made, rfl⟩
  failed wants due unmade := by
    rw [after_concat]
    exact wants.failed due unmade
  aside := step_createSettings _ _ _
  level last := by
    have set := last.inForce
    rw [after_concat] at set
    exact result_logLevel set
  title last := by
    have set := last.inForce
    rw [after_concat] at set
    exact result_schemaTitle set
  validate last := by
    have set := last.inForce
    rw [after_concat, session_validate] at set
    exact .validate (placed_validate set)
  validateFile read last := by
    have set := last.inForce
    rw [after_concat, session_validateFile, validateFile_eq_of_read read] at set
    exact .validateFile read (placed_validate set)
  run bound calls last := by
    have set := last.inForce
    rw [after_concat] at set
    exact run_of_calls bound calls set

end Session

end BusinessModel
