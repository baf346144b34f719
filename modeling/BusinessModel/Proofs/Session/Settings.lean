import BusinessModel.Proofs.Session.Composed

/-!
# The settings in force

Settings are put in force when they are first asked for, or when something is overridden.  Creating
them changes nothing and says nothing but what is wrong with the environment file.

* `Session.says_createSettings` — what is said when they are created
* `Session.createSettings_result` — what they are made of
* `Session.settingsInForce_of_some` — settings in force are returned as they are
* `Session.replaceSettings_of_ok` — other ones are put in force in their place
* `Session.Settles`, `Session.settles` — what asking for settings comes to
-/

namespace BusinessModel

namespace Session

open BusinessModel.Action

variable {s t : Session} {overrides : Mapping} {text : String} {kept : Kept Settings}
  {settings : Settings} {fault : Fault} {environment : Environment}

/-- Something that is said about what is wrong. -/
def IsComplaint (notice : Notice) : Prop := ∃ line, notice = .complaint line

lemma says_warnOfSkipped : (warnOfSkipped text).Says IsComplaint := by
  refine says_look fun s => ?_
  split
  · refine says_say fun notice said => ?_
    obtain ⟨_, _, rfl⟩ := List.mem_map.1 said
    exact ⟨_, rfl⟩
  · exact says_ofExcept

lemma says_envFileBindings : envFileBindings.Says IsComplaint := by
  refine says_look fun s => ?_
  split
  · split
    · exact says_ofExcept
    · exact says_warnOfSkipped.bind fun _ => says_ofExcept
  · exact says_ofExcept

lemma says_createSettings : (createSettings overrides).Says IsComplaint :=
  says_envFileBindings.bind fun _ s => says_ofExcept s

lemma createSettings_session : (createSettings overrides s).session = s :=
  (says_createSettings s).1

lemma replaceSettings_of_ok (created : (createSettings overrides s).result = .ok settings) :
    replaceSettings overrides s = ⟨(createSettings overrides s).notices,
      { s with settings := some ⟨s.nextSerial, settings⟩, nextSerial := s.nextSerial + 1 },
      .ok ⟨s.nextSerial, settings⟩⟩ := by
  unfold replaceSettings
  rw [bind_of_ok created, createSettings_session]
  exact congrArg (Outcome.mk · _ _) (List.append_nil _)

lemma replaceSettings_of_error (failed : (createSettings overrides s).result = .error fault) :
    replaceSettings overrides s = ⟨(createSettings overrides s).notices, s, .error fault⟩ := by
  unfold replaceSettings
  rw [bind_of_error failed, createSettings_session]

lemma settingsInForce_of_some (set : s.settings = some kept) :
    settingsInForce [] s = ⟨[], s, .ok kept⟩ := by
  unfold settingsInForce
  rw [current_bind, set]
  rfl

lemma settingsInForce_of_none (unset : s.settings = none) :
    settingsInForce overrides s = replaceSettings overrides s := by
  unfold settingsInForce
  rw [current_bind, unset]

/-- Settings that are returned are in force from then on. -/
lemma settings_settingsInForce (returned : (settingsInForce [] s).result = .ok kept) :
    (settingsInForce [] s).session.settings = some kept := by
  cases set : s.settings with
  | some other =>
    rw [settingsInForce_of_some set] at returned ⊢
    cases returned
    exact set
  | none =>
    rw [settingsInForce_of_none set] at returned ⊢
    cases created : (createSettings [] s).result with
    | error fault =>
      rw [replaceSettings_of_error created] at returned
      cases returned
    | ok settings =>
      rw [replaceSettings_of_ok created] at returned ⊢
      cases returned
      rfl

/-! ### What settings are made of -/

/-- What stands at the place of the environment file. -/
def envFile (s : Session) : Except FileProblem Entry := s.files.find s.directory envFileName

/-- The bindings of an environment file.  Nothing else that stands at its place has any. -/
def bindingsFrom (environment : Environment) :
    Except FileProblem Entry → Except Fault (List (String × Option String))
  | .ok (.file content) =>
    match Utf8.decodeFile content with
    | .error fault => .error (.settingsNotText fault)
    | .ok text => .ok (EnvFile.bindings environment (unmarked text))
  | _ => .ok []

/-- Settings out of what is overridden, an environment, and what stands at the place of the
environment file. -/
def settingsFrom (overrides : Mapping) (environment : Environment)
    (envFile : Except FileProblem Entry) : Except Fault Settings :=
  (bindingsFrom environment envFile).bind fun file =>
    (Settings.load ⟨overrides, environment, file⟩).mapError .settings

lemma envFileBindings_eq :
    envFileBindings s =
      (match s.envFile with
      | .ok (.file content) =>
        match Utf8.decodeFile content with
        | .error fault => fail (.settingsNotText fault)
        | .ok text => do
          warnOfSkipped (unmarked text)
          return EnvFile.bindings s.environment (unmarked text)
      | _ => done [] : Action (List (String × Option String))) s :=
  rfl

lemma warnOfSkipped_of_sameLog (log : t.log = s.log) :
    warnOfSkipped text t = ⟨(warnOfSkipped text s).notices, t, .ok ()⟩ := by
  rw [warnOfSkipped, current_bind, current_bind, log]
  cases s.log.letsWarn <;> rfl

lemma envFileBindings_result :
    (envFileBindings s).result = bindingsFrom s.environment s.envFile := by
  rw [envFileBindings_eq]
  cases s.envFile with
  | error => rfl
  | ok entry =>
    cases entry with
    | directory => rfl
    | file content =>
      dsimp only [bindingsFrom]
      cases Utf8.decodeFile content with
      | error fault => rfl
      | ok text =>
        -- Lines that are skipped are complained about, and that is all.
        dsimp only
        rw [bind_of_eq_ok (warnOfSkipped_of_sameLog rfl)]
        rfl

/-- Settings are made of nothing else: it does not matter what was overridden before. -/
lemma createSettings_result :
    (createSettings overrides s).result = settingsFrom overrides s.environment s.envFile := by
  have same : (envFileBindings s).session = s := (says_envFileBindings s).1
  have found := envFileBindings_result (s := s)
  rw [createSettings, settingsFrom, ← found]
  cases read : (envFileBindings s).result with
  | error fault =>
    rw [bind_of_error read]
    rfl
  | ok file =>
    rw [bind_of_ok read, same]
    rfl

/-- Creating settings does and says the same whatever is in force. -/
lemma createSettings_of_any (overrides : Mapping) (s : Session)
    (inForce : Option (Kept Settings)) :
    createSettings overrides { s with settings := inForce } =
      { createSettings overrides s with session := { s with settings := inForce } } := by
  have found : envFileBindings { s with settings := inForce } =
      { envFileBindings s with session := { s with settings := inForce } } := by
    have same : ({ s with settings := inForce } : Session).envFile = s.envFile := rfl
    rw [envFileBindings_eq, envFileBindings_eq, same]
    cases s.envFile with
    | error => rfl
    | ok entry =>
      cases entry with
      | directory => rfl
      | file content =>
        dsimp only
        cases Utf8.decodeFile content with
        | error fault => rfl
        | ok text =>
          dsimp only
          rw [bind_of_eq_ok (warnOfSkipped_of_sameLog (s := s) (t := s) rfl),
            bind_of_eq_ok
              (warnOfSkipped_of_sameLog (s := s) (t := { s with settings := inForce }) rfl)]
          rfl
  have same : (envFileBindings s).session = s := (says_envFileBindings s).1
  unfold createSettings
  cases read : (envFileBindings s).result with
  | error fault => rw [bind_of_error read, bind_of_error (by rw [found, read]), found]
  | ok file => rw [bind_of_ok read, bind_of_ok (by rw [found, read]), found, same]; rfl

/-! ### Asking for settings -/

/-- What asking for settings comes to: the ones in force are returned, unless something is
overridden; or else new ones are put in force, if they can be created. -/
inductive Settles (s : Session) (overrides : Mapping) (outcome : Outcome (Kept Settings)) :
    Prop where
  | shared {kept : Kept Settings} :
    overrides = [] →
    s.settings = some kept →
    outcome = ⟨[], s, .ok kept⟩ →
    Settles s overrides outcome
  | created {settings : Settings} :
    (overrides ≠ [] ∨ s.settings = none) →
    settingsFrom overrides s.environment s.envFile = .ok settings →
    outcome.session =
      { s with settings := some ⟨s.nextSerial, settings⟩, nextSerial := s.nextSerial + 1 } →
    outcome.result = .ok ⟨s.nextSerial, settings⟩ →
    Settles s overrides outcome
  | failed {fault : Fault} :
    (overrides ≠ [] ∨ s.settings = none) →
    settingsFrom overrides s.environment s.envFile = .error fault →
    outcome.session = s →
    outcome.result = .error fault →
    Settles s overrides outcome

lemma settingsInForce_of_due (due : overrides ≠ [] ∨ s.settings = none) :
    settingsInForce overrides s = replaceSettings overrides s := by
  obtain overriding | unset := due
  · rw [settingsInForce, current_bind]
    cases overrides with
    | nil => exact absurd rfl overriding
    | cons => cases s.settings <;> rfl
  · exact settingsInForce_of_none unset

lemma settles (overrides : Mapping) (s : Session) :
    s.Settles overrides (settingsInForce overrides s) := by
  have new : (overrides ≠ [] ∨ s.settings = none) →
      s.Settles overrides (settingsInForce overrides s) := by
    intro due
    have made : (createSettings overrides s).result = _ := createSettings_result
    rw [settingsInForce_of_due due]
    cases created : (createSettings overrides s).result with
    | error fault =>
      rw [replaceSettings_of_error created]
      exact .failed due (made.symm.trans created) rfl rfl
    | ok settings =>
      rw [replaceSettings_of_ok created]
      exact .created due (made.symm.trans created) rfl rfl
  cases overrides with
  | cons => exact new (.inl (List.cons_ne_nil _ _))
  | nil =>
    cases set : s.settings with
    | none => exact new (.inr set)
    | some kept => exact .shared rfl set (settingsInForce_of_some set)

/-- Settings are returned exactly if they are in force from then on. -/
lemma settingsInForce_result_iff :
    (settingsInForce [] s).result = .ok kept ↔
      (settingsInForce [] s).session.settings = some kept := by
  refine ⟨settings_settingsInForce, fun set => ?_⟩
  cases settles [] s with
  | shared _ set' asked =>
    rw [asked] at set ⊢
    cases set'.symm.trans set
    rfl
  | created _ _ after returned =>
    rw [after] at set
    cases set
    exact returned
  | failed due _ same _ =>
    rw [same] at set
    obtain overriding | unset := due
    · exact absurd rfl overriding
    · cases unset.symm.trans set

end Session

end BusinessModel
