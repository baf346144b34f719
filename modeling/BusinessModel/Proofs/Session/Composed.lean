import BusinessModel.Session.Step
import Mathlib.Tactic.Common

/-!
# How actions are put together

All that is done in a session is put together from a few small actions, one after the other.  What
holds of the small ones and carries over to what is built of them holds of everything that is built
of nothing else; so a property of actions is checked once for each small one, and not again for each
command of the program.

* `Action.bind_of_ok`, `Action.bind_of_error` — what one action after another one comes to
* `Action.Says` — an action that changes nothing
* `Action.Builds`, `Action.Composes` — a property that carries over, whether or not the actions that
  put settings in force have it
* `Action.builds_session`, `Action.composes_session` — such a property, about the session in the end
* `Action.composes_commutes` — such a property, about what an action has nothing to do with
* `Builds.lintDocument`, `Composes.settingsInForce` — what is built of the small actions
-/

namespace BusinessModel

namespace Action

variable {α β : Type} {first action : Action α} {next : α → Action β} {look : Session → Action α}
  {handle : LoadFault → Action α} {f : Session → Session} {s : Session} {a : α} {fault : Fault}

/-! ### One action after another -/

/-- What follows a success. -/
lemma bind_of_ok (h : (first s).result = .ok a) :
    (first >>= next) s = ⟨(first s).notices ++ (next a (first s).session).notices,
      (next a (first s).session).session, (next a (first s).session).result⟩ := by
  change andThen first next s = _
  simp only [andThen, h]

/-- Nothing follows a failure. -/
lemma bind_of_error (h : (first s).result = .error fault) :
    (first >>= next) s = ⟨(first s).notices, (first s).session, .error fault⟩ := by
  change andThen first next s = _
  simp only [andThen, h]

lemma bind_of_eq_ok {notices : List Notice} {t : Session} (h : first s = ⟨notices, t, .ok a⟩) :
    (first >>= next) s =
      ⟨notices ++ (next a t).notices, (next a t).session, (next a t).result⟩ := by
  rw [bind_of_ok (by rw [h]), h]

lemma bind_of_eq_error {notices : List Notice} {t : Session}
    (h : first s = ⟨notices, t, .error fault⟩) :
    (first >>= next) s = ⟨notices, t, .error fault⟩ := by
  rw [bind_of_error (by rw [h]), h]

/-- What follows a success about which nothing is said. -/
lemma bind_of_silent {t : Session} (h : first s = ⟨[], t, .ok a⟩) :
    (first >>= next) s = next a t :=
  bind_of_eq_ok h

/-- An action whose result is put into another form. -/
lemma bind_pure {g : α → β} :
    (action >>= fun a => pure (g a)) s =
      ⟨(action s).notices, (action s).session, (action s).result.map g⟩ := by
  cases result : (action s).result with
  | error fault => rw [bind_of_error result]; rfl
  | ok a =>
    rw [bind_of_ok result]
    exact congrArg (Outcome.mk · _ _) (List.append_nil _)

lemma bind_pure_session {g : α → β} :
    ((action >>= fun a => pure (g a)) s).session = (action s).session := by
  rw [bind_pure]

lemma bind_pure_result {g : α → β} :
    ((action >>= fun a => pure (g a)) s).result = (action s).result.map g := by
  rw [bind_pure]

lemma map_apply {g : α → β} :
    (g <$> action) s = ⟨(action s).notices, (action s).session, (action s).result.map g⟩ :=
  bind_pure

lemma map_of_ok {g : α → β} (h : (action s).result = .ok a) :
    ((g <$> action) s).result = .ok (g a) := by
  rw [map_apply, h]
  rfl

/-- What follows a look at the session. -/
lemma current_bind : (current >>= look) s = look s s := rfl

/-- What stands for a failure to load. -/
lemma orElseLoad_of_load {fault : LoadFault} (failed : (action s).result = .error (.load fault)) :
    action.orElseLoad handle s = ⟨(action s).notices ++ (handle fault (action s).session).notices,
      (handle fault (action s).session).session, (handle fault (action s).session).result⟩ := by
  simp only [Action.orElseLoad, failed]

/-- Nothing stands for anything else. -/
lemma orElseLoad_of_not_load (other : ∀ fault, (action s).result ≠ .error (.load fault)) :
    action.orElseLoad handle s = action s := by
  unfold Action.orElseLoad
  dsimp only
  split
  next fault failed => exact absurd failed (other fault)
  next => rfl

/-- Nothing stands for a success. -/
lemma orElseLoad_of_ok (h : (action s).result = .ok a) : action.orElseLoad handle s = action s :=
  orElseLoad_of_not_load fun fault failed => by cases h.symm.trans failed

/-- An action changes nothing, and all that it says is of some kind. -/
def Says (kind : Notice → Prop) (action : Action α) : Prop :=
  ∀ s, (action s).session = s ∧ ∀ notice ∈ (action s).notices, kind notice

section

variable {kind : Notice → Prop}

lemma says_ofExcept {result : Except Fault α} : (ofExcept result).Says kind := fun _ => ⟨rfl, nofun⟩

lemma says_say {notices : List Notice} (h : ∀ notice ∈ notices, kind notice) :
    (say notices).Says kind :=
  fun _ => ⟨rfl, h⟩

lemma says_note {level : LogLevel} {part text : String} (h : ∀ d, kind (.diagnostic d)) :
    (note level part text).Says kind := by
  refine fun s => ⟨rfl, fun notice said => ?_⟩
  unfold note at said
  dsimp only at said
  split at said
  · rw [List.mem_singleton.1 said]
    exact h _
  · cases said

lemma says_look {look : Session → Action α} (h : ∀ s, (look s).Says kind) :
    (current >>= look).Says kind :=
  fun s => h s s

lemma Says.bind (h : first.Says kind) (h' : ∀ a, (next a).Says kind) :
    (first >>= next).Says kind := by
  intro s
  obtain ⟨same, said⟩ := h s
  cases result : (first s).result with
  | error fault =>
    rw [bind_of_error result]
    exact ⟨same, said⟩
  | ok a =>
    rw [bind_of_ok result, same]
    obtain ⟨same', said'⟩ := h' a s
    exact ⟨same', fun notice member => (List.mem_append.1 member).elim (said notice) (said' notice)⟩

end

/-! ### Properties that carry over -/

/-- A property that all small actions have, but for those that put settings in force and those that
are about kept documents and schemas or about files, and that what is built of such actions has,
too. -/
structure Builds (P : ∀ {α : Type}, Action α → Prop) : Prop where
  ofExcept {α : Type} {result : Except Fault α} : P (Action.ofExcept result)
  say {notices : List Notice} : P (Action.say notices)
  note {level : LogLevel} {part text : String} : P (Action.note level part text)
  report {entry : EventEntry} : P (Action.report entry)
  keep {α : Type} {a : α} : P (Action.keep a)
  environment {environment : Environment} : P (change fun s => { s with environment })
  log {f : LogThresholds → LogThresholds} : P (change fun s => { s with log := f s.log })
  bind {α β : Type} {first : Action α} {next : α → Action β} :
    P first → (∀ a, P (next a)) → P (first >>= next)
  /-- Looking at the session, but not at what is kept. -/
  look {α : Type} {look : Session → Action α} :
    (∀ s documents validators, look { s with documents, validators } = look s) →
    (∀ s, P (look s)) → P (current >>= look)
  orElseLoad {α : Type} {action : Action α} {handle : LoadFault → Action α} :
    P action → (∀ fault, P (handle fault)) → P (action.orElseLoad handle)

/-- A property that the small actions that put settings in force have, too. -/
structure Composes (P : ∀ {α : Type}, Action α → Prop) : Prop extends Builds P where
  settings {settings : Option (Kept Settings)} : P (change fun s => { s with settings })

/-- What holds between a session and a later one in which other things have happened than to the
settings in force, to the files and to what is kept of them. -/
structure Indifferent (R : Session → Session → Prop) : Prop where
  refl (s : Session) : R s s
  trans {s t u : Session} : R s t → R t u → R s u
  serial (s : Session) : R s { s with nextSerial := s.nextSerial + 1 }
  environment (s : Session) (environment : Environment) : R s { s with environment }
  log (s : Session) (log : LogThresholds) : R s { s with log }

/-- What still holds if something has happened to the settings in force. -/
structure Unrelated (R : Session → Session → Prop) : Prop extends Indifferent R where
  settings (s : Session) (settings : Option (Kept Settings)) : R s { s with settings }

/-- What a second action does to the session, if it is reached. -/
lemma session_behind {R : Session → Session → Prop} (refl : ∀ t, R t t)
    (h : ∀ a t, R t (next a t).session) : R (first s).session ((first >>= next) s).session := by
  cases result : (first s).result with
  | error fault =>
    rw [bind_of_error result]
    exact refl _
  | ok a =>
    rw [bind_of_ok result]
    exact h a _

/-- What holds of the session after each of two actions holds after both. -/
lemma session_bind {R : Session → Session → Prop} (unrelated : Unrelated R)
    (h : R s (first s).session) (h' : ∀ a t, R t (next a t).session) :
    R s ((first >>= next) s).session :=
  unrelated.trans h (session_behind unrelated.refl h')

lemma builds_session {R : Session → Session → Prop} (indifferent : Indifferent R) :
    Builds fun action => ∀ s, R s (action s).session where
  ofExcept := indifferent.refl
  say := indifferent.refl
  note := indifferent.refl
  report := indifferent.refl
  keep := indifferent.serial
  environment s := indifferent.environment s _
  log s := indifferent.log s _
  bind h h' s := indifferent.trans (h s) (session_behind indifferent.refl h')
  look _ h s := h s s
  orElseLoad {_ action handle} h h' s := by
    by_cases load : ∃ fault, (action s).result = .error (.load fault)
    · obtain ⟨fault, failed⟩ := load
      rw [orElseLoad_of_load failed]
      exact indifferent.trans (h s) (h' fault _)
    · rw [orElseLoad_of_not_load (not_exists.1 load)]
      exact h s

lemma composes_session {R : Session → Session → Prop} (unrelated : Unrelated R) :
    Composes fun action => ∀ s, R s (action s).session where
  toBuilds := builds_session unrelated.toIndifferent
  settings s := unrelated.settings s _

/-- An action does and says the same when the session is changed before it instead of behind it. -/
def Commutes (f : Session → Session) (action : Action α) : Prop :=
  ∀ s, action (f s) = { action s with session := f (action s).session }

lemma Commutes.result (h : action.Commutes f) : (action (f s)).result = (action s).result := by
  rw [h]

lemma Commutes.bind (h : first.Commutes f) (h' : ∀ a, (next a).Commutes f) :
    (first >>= next).Commutes f := by
  intro s
  cases result : (first s).result with
  | error fault => rw [bind_of_error result, bind_of_error (h.result.trans result), h]
  | ok a => rw [bind_of_ok result, bind_of_ok (h.result.trans result), h, h' a]

lemma Commutes.orElseLoad (h : action.Commutes f) (h' : ∀ fault, (handle fault).Commutes f) :
    (action.orElseLoad handle).Commutes f := by
  intro s
  -- The result tells whether there is something to handle, and it is the same both times.
  by_cases load : ∃ fault, (action s).result = .error (.load fault)
  · obtain ⟨fault, failed⟩ := load
    rw [orElseLoad_of_load failed, orElseLoad_of_load (h.result.trans failed), h, h' fault]
  · have other := not_exists.1 load
    have other' : ∀ fault, (action (f s)).result ≠ .error (.load fault) := by
      rw [h.result]
      exact other
    rw [orElseLoad_of_not_load other, orElseLoad_of_not_load other', h]

end Action

/-- The session with some other kept documents and schemas. -/
def Session.refill
    (documents : List (List String × Kept Document) → List (List String × Kept Document))
    (validators : List ((SchemaPlace × Generation) × Schema) →
      List ((SchemaPlace × Generation) × Schema)) (s : Session) : Session :=
  { s with documents := documents s.documents, validators := validators s.validators }

/-- The report on a document, once there is a schema. -/
def Session.reportOn (g : Generation) (doc : Value) (schema : Schema) :
    Action Validation.Report := do
  let report ← Action.ofExcept ((Validation.check g schema doc).mapError .longInteger)
  if !report.valid then
    Action.note .debug "bmml.validator"
      s!"Validation failed for {g.name} document: {report.issues.length} error(s)"
  return report

namespace Action

/-- Where nothing but small actions is done, it does not matter what is kept. -/
lemma composes_commutes
    (documents : List (List String × Kept Document) → List (List String × Kept Document))
    (validators : List ((SchemaPlace × Generation) × Schema) →
      List ((SchemaPlace × Generation) × Schema)) :
    Composes (Commutes (Session.refill documents validators)) where
  ofExcept _ := rfl
  say _ := rfl
  note _ := rfl
  report _ := rfl
  keep _ := rfl
  settings _ := rfl
  environment _ := rfl
  log _ := rfl
  bind := Commutes.bind
  look {_ look} same h s := by
    -- The action that follows is chosen by the changed session, but not by what is kept there.
    change look (s.refill documents validators) (s.refill documents validators) = _
    rw [h _ s, Session.refill, same]
    rfl
  orElseLoad := Commutes.orElseLoad

namespace Builds

variable {P : ∀ {α : Type}, Action α → Prop} (builds : Builds P) {α : Type} {action : Action α}
include builds

lemma done {a : α} : P (Action.done a) :=
  show P (Action.ofExcept (.ok a)) from builds.ofExcept

lemma fail {fault : Fault} : P (Action.fail fault : Action α) :=
  show P (Action.ofExcept (.error fault)) from builds.ofExcept

lemma map {β : Type} {g : α → β} (h : P action) : P (g <$> action) :=
  builds.bind h fun _ => builds.done

/-! ### Documents, settings and schemas as they are now -/

variable {path : PathName} {overrides : Mapping} {text : String} {generation : Option Generation}
  {g : Generation} {directory : Option PathName} {doc : Value}

lemma noteDetection : P (Session.noteDetection doc) := by
  unfold Session.noteDetection
  split
  · exact builds.note
  · exact builds.done

lemma readMapping : P (Session.readMapping path) := by
  refine builds.look (fun _ _ _ => rfl) fun s => ?_
  dsimp only
  split
  · exact builds.fail
  · exact builds.fail
  · exact builds.ofExcept

lemma documentOfText : P (Session.documentOfText text) :=
  builds.bind builds.ofExcept fun _ => builds.keep

lemma warnOfSkipped : P (Session.warnOfSkipped text) := by
  refine builds.look (fun _ _ _ => rfl) fun s => ?_
  split
  · exact builds.say
  · exact builds.done

lemma envFileBindings : P Session.envFileBindings := by
  refine builds.look (fun _ _ _ => rfl) fun s => ?_
  split
  · split
    · exact builds.fail
    · exact builds.bind builds.warnOfSkipped fun _ => builds.done
  · exact builds.done

lemma createSettings : P (Session.createSettings overrides) :=
  builds.bind builds.envFileBindings fun _ =>
    builds.look (fun _ _ _ => rfl) fun _ => builds.ofExcept

lemma schemaPlace (inForce : P (Session.settingsInForce [])) :
    P (Session.schemaPlace directory) := by
  unfold Session.schemaPlace
  split
  · exact builds.done
  · refine builds.bind inForce fun kept => ?_
    split
    · exact builds.done
    · exact builds.done

lemma readSchema : P (Session.readSchema text g) := by
  refine builds.look (fun _ _ _ => rfl) fun s => ?_
  dsimp only
  split
  · exact builds.fail
  · exact builds.fail
  · split
    · exact builds.fail
    · exact builds.ofExcept

lemma schemaTitle (inForce : P (Session.settingsInForce [])) :
    P (Session.schemaTitle g directory) := by
  refine builds.bind (builds.schemaPlace inForce) fun place => ?_
  split
  · exact builds.done
  · exact builds.bind builds.readSchema fun _ => builds.done

lemma schemaIn {place : SchemaPlace} : P (Session.schemaIn place g) := by
  unfold Session.schemaIn
  split
  · exact builds.done
  · exact builds.bind builds.readSchema fun _ => builds.ofExcept

lemma reportOn {schema : Schema} : P (Session.reportOn g doc schema) := by
  refine builds.bind builds.ofExcept fun report => ?_
  split
  · exact builds.bind builds.note fun _ => builds.done
  · exact builds.done

lemma unreadableReport {fault : LoadFault} :
    P (Session.unreadableReport path generation fault) := by
  cases fault with
  | missing | malformed => exact builds.done
  | misfit => exact builds.fail

lemma readForReport : P (Action.orElseLoad (Sum.inl <$> Session.readMapping path)
    fun fault => Sum.inr <$> Session.unreadableReport path generation fault) :=
  builds.orElseLoad (builds.map builds.readMapping) fun _ =>
    builds.map builds.unreadableReport

lemma changeVariable {wanted : VariableChange} : P (Session.changeVariable wanted) :=
  builds.look (fun _ _ _ => rfl) fun _ =>
    builds.bind builds.ofExcept fun _ => builds.environment

lemma setThresholds {level : String} : P (Session.configureLog level) :=
  builds.bind (builds.log (f := fun log => log.configure level)) fun _ =>
    builds.look (fun _ _ _ => rfl) fun _ => builds.done

/-! ### What the program does around loading -/

section

variable {request : CommandLine.Request} {arguments : CommandLine.Arguments}
  {usage help reason source name : String} {problem : CommandLine.UsageProblem}
  {lines others : List String} {report : Validation.Report}

lemma refuse : P (CommandLine.refuse usage help problem) := by
  have complain : P (do
      Action.say [.complaint s!"Error: {problem.message}"]
      return 2) := builds.bind builds.say fun _ => builds.done
  unfold CommandLine.refuse
  split
  · exact builds.bind builds.say fun _ => complain
  · exact complain

lemma answerWith : P (CommandLine.answerWith lines) :=
  builds.bind builds.say fun _ => builds.done

lemma giveUp : P (CommandLine.giveUp reason) :=
  builds.bind builds.say fun _ => builds.done

lemma requestOf : P (CommandLine.requestOf arguments) := by
  unfold CommandLine.requestOf
  split
  · exact builds.done
  · exact builds.done
  · refine builds.look (fun _ _ _ => rfl) fun s => ?_
    split
    · exact builds.fail
    · exact builds.done
    · split
      · exact builds.done
      · exact builds.done

lemma formatOf (inForce : P (Session.settingsInForce [])) :
    P (CommandLine.formatOf request) := by
  unfold CommandLine.formatOf
  split
  · exact builds.done
  · exact builds.bind inForce fun _ => builds.done

lemma logViolations : P (CommandLine.logViolations source report) := by
  unfold CommandLine.logViolations
  split
  · exact builds.done
  · exact builds.report

lemma lintDocument {doc : Document} : P (CommandLine.lintDocument doc) :=
  builds.bind builds.note fun _ => builds.bind builds.ofExcept fun _ =>
    builds.bind builds.note fun _ => builds.done

lemma traceLint {report : Lint.Report} : P (CommandLine.traceLint source report) := by
  have traced : P (do
      Action.say ((SpanEvent.lintResult source report).map .span)
      Action.report (.lintCompleted serviceName source report)) :=
    builds.bind builds.say fun _ => builds.report
  unfold CommandLine.traceLint
  split
  · exact builds.bind builds.note fun _ => traced
  · exact builds.bind builds.note fun _ => traced

lemma refuseName : P (CommandLine.refuseName name others) := by
  unfold CommandLine.refuseName
  split
  · exact builds.refuse
  · split
    · exact builds.answerWith
    · exact builds.refuse

lemma configureLog (inForce : P (Session.settingsInForce [])) : P CommandLine.configureLog :=
  builds.bind inForce fun settings =>
    builds.log (f := fun log => log.configure settings.value.logLevel.name)

lemma answerShell : P (CommandLine.answerShell name) := by
  unfold CommandLine.answerShell
  split
  · exact builds.done
  · exact builds.answerWith
  · refine builds.look (fun _ _ _ => rfl) fun s => ?_
    exact builds.bind builds.ofExcept fun _ => builds.answerWith

end

end Builds

namespace Composes

variable {P : ∀ {α : Type}, Action α → Prop} (composes : Composes P) {overrides : Mapping}
  {directory : Option PathName} {g : Generation} {request : CommandLine.Request}
include composes

lemma replaceSettings : P (Session.replaceSettings overrides) :=
  composes.bind composes.createSettings fun _ => composes.bind composes.keep fun _ =>
    composes.bind composes.settings fun _ => composes.done

lemma settingsInForce : P (Session.settingsInForce overrides) := by
  refine composes.look (fun _ _ _ => rfl) fun s => ?_
  split
  · exact composes.done
  · exact composes.replaceSettings

lemma schemaPlace : P (Session.schemaPlace directory) :=
  composes.toBuilds.schemaPlace composes.settingsInForce

lemma schemaTitle : P (Session.schemaTitle g directory) :=
  composes.toBuilds.schemaTitle composes.settingsInForce

lemma formatOf : P (CommandLine.formatOf request) :=
  composes.toBuilds.formatOf composes.settingsInForce

lemma configureLog : P CommandLine.configureLog :=
  composes.toBuilds.configureLog composes.settingsInForce

end Composes

end Action

end BusinessModel
