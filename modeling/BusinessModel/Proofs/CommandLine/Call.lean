import BusinessModel.Proofs.Session.Detached
import BusinessModel.Proofs.Session.Settings

/-!
# Calls of commands

Among all that a run of the program may be asked for, some words call a command for a file.  Such a
run sets up the log and performs the command; every other run has nothing to do with what is kept.

* `CommandLine.Names`, `Names.answerOrRun_eq` — some words name a command
* `CommandLine.Calls` — some words call a command with a request
* `Calls.answerOrRun_of_ok`, `Calls.answerOrRun_of_error` — what the run comes to
* `CommandLine.names_or_indifferent`, `CommandLine.calls_or_unrelated` — what other runs come to
* `CommandLine.calls_wordsFor` — every command can be called for every file
-/

namespace BusinessModel.CommandLine

open BusinessModel.Action BusinessModel.Session

variable {s t : Session} {words others : List String} {command : Command} {request : Request}
  {arguments : Arguments} {kept : Kept Settings} {fault : Fault}

/-- No shell asks for anything, and the words name a command, with other words behind it. -/
structure Names (s : Session) (words : List String) (command : Command) (others : List String) :
    Prop where
  unasked : ∀ instruction, s.environment.get? completionVariable = some instruction →
    instruction.isEmpty = true
  understood : ∃ program name, Arguments.scan programForms false words = .ok program ∧
    answerOptions? program = none ∧ program.operands = name :: others ∧
    Command.ofName? name = some command

/-- No shell asks for anything, and the words name a command and make a request of it. -/
structure Calls (s : Session) (words : List String) (command : Command) (request : Request) :
    Prop where
  unasked : ∀ instruction, s.environment.get? completionVariable = some instruction →
    instruction.isEmpty = true
  understood : ∃ program name others arguments,
    Arguments.scan programForms false words = .ok program ∧ answerOptions? program = none ∧
    program.operands = name :: others ∧ Command.ofName? name = some command ∧
    Arguments.scan command.forms true others = .ok arguments ∧
    arguments.has helpForm.name = false ∧ (requestOf arguments s).result = .ok (.ok request)

/-! ### Settings of a call -/

/-- The session in which a command is performed: settings are in force, and the log is set up as
they say. -/
def prepared (s : Session) (kept : Kept Settings) : Session :=
  { (settingsInForce [] s).session with
    log := (settingsInForce [] s).session.log.configure kept.value.logLevel.name }

lemma configureLog_of_ok (returned : (settingsInForce [] s).result = .ok kept) :
    configureLog s = ⟨(settingsInForce [] s).notices, prepared s kept, .ok ()⟩ := by
  unfold configureLog
  rw [bind_of_ok returned]
  exact congrArg (Outcome.mk · _ _) (List.append_nil _)

lemma configureLog_of_error (failed : (settingsInForce [] s).result = .error fault) :
    configureLog s =
      ⟨(settingsInForce [] s).notices, (settingsInForce [] s).session, .error fault⟩ := by
  unfold configureLog
  rw [bind_of_error failed]

lemma settings_prepared (returned : (settingsInForce [] s).result = .ok kept) :
    (prepared s kept).settings = some kept :=
  settings_settingsInForce returned

/-- Preparations are small things, too. -/
lemma prepared_of_unrelated (s : Session) (kept : Kept Settings)
    {R : Session → Session → Prop} (unrelated : Unrelated R) :
    R s (prepared s kept) :=
  unrelated.trans (composes_session unrelated |>.settingsInForce s) (unrelated.log _ _)

/-- The format in which a command answers when settings are in force. -/
lemma formatOf_of_some (request : Request) (set : s.settings = some kept) :
    formatOf request s = ⟨[], s, .ok (request.format.getD kept.value.outputFormat)⟩ := by
  unfold formatOf
  cases request.format with
  | some format => rfl
  | none =>
    dsimp only
    rw [bind_of_silent (settingsInForce_of_some set)]
    rfl

/-! ### Requests -/

/-- A request depends on nothing but what stands at its path. -/
lemma requestOf_of_same (arguments : Arguments) (files : t.files = s.files)
    (directory : t.directory = s.directory) :
    requestOf arguments t = ⟨[], t, (requestOf arguments s).result⟩ := by
  unfold requestOf
  cases requestedFormat arguments with
  | error problem => rfl
  | ok format =>
    cases arguments.operands with
    | nil => rfl
    | cons file others =>
      dsimp only
      rw [current_bind, current_bind, files, directory]
      -- Too much may be asked for, unless the path cannot stand for a file at all.
      cases s.files.find s.directory file with
      | error problem => cases problem <;> cases others <;> rfl
      | ok entry => cases entry <;> cases others <;> rfl

/-! ### Runs -/

/-- A run that names a command sets up the log before anything else. -/
lemma Names.answerOrRun_eq (names : Names s words command others) :
    answerOrRun words s = (configureLog >>= fun _ => runCommand command others) s := by
  obtain ⟨program, name, scanned, unanswered, operands, named⟩ := names.understood
  have plain : answerOrRun words s = runArguments words s := by
    unfold answerOrRun
    rw [current_bind]
    cases asked : s.environment.get? completionVariable with
    | none => rfl
    | some instruction =>
      dsimp only
      rw [if_pos (names.unasked instruction asked)]
  rw [plain]
  unfold runArguments
  cases words with
  | nil =>
    cases scanned
    cases operands
  | cons word rest =>
    dsimp only
    rw [scanned]
    dsimp only
    rw [unanswered, operands]
    dsimp only
    rw [named]

/-- Words that call a command name it. -/
lemma Calls.names (calls : Calls s words command request) :
    ∃ others arguments, Names s words command others ∧
      Arguments.scan command.forms true others = .ok arguments ∧
      arguments.has helpForm.name = false ∧
      (requestOf arguments s).result = .ok (.ok request) := by
  obtain ⟨program, name, others, arguments, scanned, unanswered, operands, named, scanned', helped,
    made⟩ := calls.understood
  exact ⟨others, arguments, ⟨calls.unasked, program, name, scanned, unanswered, operands, named⟩,
    scanned', helped, made⟩

/-- A run that calls a command sets up the log and performs the command. -/
lemma Calls.answerOrRun_eq (calls : Calls s words command request) :
    answerOrRun words s = (do configureLog; perform command request) s := by
  obtain ⟨others, arguments, names, scanned, helped, made⟩ := calls.names
  rw [names.answerOrRun_eq]
  cases ready : (configureLog s).result with
  | error fault => rw [bind_of_error ready, bind_of_error ready]
  | ok _ =>
    have steady := detached.configureLog.steady s
    have requested := requestOf_of_same arguments steady.files steady.directory
    rw [made] at requested
    rw [bind_of_ok ready, bind_of_ok ready, runCommand, scanned]
    dsimp only
    rw [helped, if_neg Bool.false_ne_true, bind_of_silent requested]

/-- Once settings are in force, the command is performed. -/
lemma Calls.answerOrRun_of_ok (calls : Calls s words command request)
    (returned : (settingsInForce [] s).result = .ok kept) :
    answerOrRun words s =
      { perform command request (prepared s kept) with
        notices := (settingsInForce [] s).notices ++
          (perform command request (prepared s kept)).notices } := by
  rw [calls.answerOrRun_eq, bind_of_eq_ok (configureLog_of_ok returned)]

/-- Without settings, it is not. -/
lemma Calls.answerOrRun_of_error (calls : Calls s words command request)
    (failed : (settingsInForce [] s).result = .error fault) :
    answerOrRun words s =
      ⟨(settingsInForce [] s).notices, (settingsInForce [] s).session, .error fault⟩ := by
  rw [calls.answerOrRun_eq, bind_of_eq_error (configureLog_of_error failed)]

section

variable {R : Session → Session → Prop} (indifferent : Indifferent R)
include indifferent

/-- Words that name no command are answered or refused. -/
lemma understood_or_indifferent (s : Session) (words : List String)
    (unasked : ∀ instruction, s.environment.get? completionVariable = some instruction →
      instruction.isEmpty = true) :
    (∃ command others, Names s words command others) ∨ R s (runArguments words s).session := by
  have small := builds_session indifferent
  unfold runArguments
  cases words with
  | nil => exact .inr (small.bind small.say (fun _ => small.done) s)
  | cons word rest =>
    dsimp only
    cases scanned : Arguments.scan programForms false (word :: rest) with
    | error problem => exact .inr (small.refuse s)
    | ok program =>
      dsimp only
      cases unanswered : answerOptions? program with
      | some lines => exact .inr (small.answerWith s)
      | none =>
        cases operands : program.operands with
        | nil => exact .inr (small.refuse s)
        | cons name others =>
          dsimp only
          cases named : Command.ofName? name with
          | none => exact .inr (small.refuseName s)
          | some command =>
            exact .inl ⟨command, others, unasked, program, name, scanned, unanswered, operands,
              named⟩

/-- A run names a command, or it does nothing but small things. -/
lemma names_or_indifferent (s : Session) (words : List String) :
    (∃ command others, Names s words command others) ∨ R s (answerOrRun words s).session := by
  unfold answerOrRun
  rw [current_bind]
  cases asked : s.environment.get? completionVariable with
  | none =>
    refine understood_or_indifferent indifferent s words fun instruction set => ?_
    cases asked.symm.trans set
  | some instruction =>
    dsimp only
    split
    next empty =>
      refine understood_or_indifferent indifferent s words fun other set => ?_
      cases asked.symm.trans set
      exact empty
    next => exact .inr ((builds_session indifferent).answerShell s)

end

section

variable {R : Session → Session → Prop} (unrelated : Unrelated R)
include unrelated

/-- Where no request is made, nothing but small things is done behind the setup of the log. -/
lemma made_or_unrelated (s : Session) (command : Command) (arguments : Arguments) :
    (∃ request, (requestOf arguments s).result = .ok (.ok request)) ∨
      R s ((configureLog >>= fun _ => requestOf arguments >>= fun
        | .error problem => refuseCommand command problem
        | .ok request => perform command request) s).session := by
  have small := composes_session unrelated
  by_cases ok : ∃ request, (requestOf arguments s).result = .ok (.ok request)
  · exact .inl ok
  · refine .inr ?_
    cases ready : (configureLog s).result with
    | error fault =>
      rw [bind_of_error ready]
      exact small.configureLog s
    | ok _ =>
      have steady := detached.configureLog.steady s
      have requested := requestOf_of_same arguments steady.files steady.directory
      rw [bind_of_ok ready]
      refine unrelated.trans (small.configureLog s) ?_
      generalize (requestOf arguments s).result = made at ok requested
      cases made with
      | error fault =>
        rw [bind_of_eq_error requested]
        exact unrelated.refl _
      | ok made =>
        cases made with
        | error problem =>
          rw [bind_of_silent requested]
          exact small.refuse _
        | ok request => exact absurd ⟨request, rfl⟩ ok

/-- A run calls a command, or it does nothing but small things. -/
lemma calls_or_unrelated (s : Session) (words : List String) :
    (∃ command request, Calls s words command request) ∨ R s (answerOrRun words s).session := by
  have small := composes_session unrelated
  obtain ⟨command, others, names⟩ | same := names_or_indifferent unrelated.toIndifferent s words
  · rw [names.answerOrRun_eq]
    unfold runCommand
    cases scanned' : Arguments.scan command.forms true others with
    | error problem => exact .inr (small.bind small.configureLog (fun _ => small.refuse) s)
    | ok arguments =>
      dsimp only
      cases helped : arguments.has helpForm.name with
      | true => exact .inr (small.bind small.configureLog (fun _ => small.answerWith) s)
      | false =>
        obtain ⟨request, made⟩ | same := made_or_unrelated unrelated s command arguments
        · obtain ⟨program, name, scanned, unanswered, operands, named⟩ := names.understood
          exact .inl ⟨command, request, names.unasked, program, name, others, arguments, scanned,
            unanswered, operands, named, scanned', helped, made⟩
        · exact .inr same
  · exact .inr same

end

/-! ### Words that call a command -/

section

variable {format : Option OutputFormat} {strict : Bool} {file : String}

namespace Arguments

variable {forms : List OptionForm} {mixed : Bool} {form : OptionForm} {rest : List String}
  {value : String}

/-- An option that is written as its name alone. -/
structure IsNamed (forms : List OptionForm) (form : OptionForm) : Prop where
  dashed : isOption form.name = true
  long : form.name ≠ "--"
  whole : splitOption form.name = (form.name, none)
  known : forms.find? (fun other => other.name = form.name) = some form

lemma IsNamed.read_flag (named : IsNamed forms form) (flag : form.takesValue = false) :
    read forms mixed (form.name :: rest) =
      (read forms mixed rest).map (withOption form.name none) id := by
  rw [read.eq_3 _ _ _ _ named.long, if_pos named.dashed, named.whole]
  dsimp only
  rw [named.known]
  dsimp only
  rw [flag]

lemma IsNamed.read_value (named : IsNamed forms form) (valued : form.takesValue = true) :
    read forms mixed (form.name :: value :: rest) =
      (read forms mixed rest).map (withOption form.name (some value)) id := by
  rw [read.eq_3 _ _ _ _ named.long, if_pos named.dashed, named.whole]
  dsimp only
  rw [named.known]
  dsimp only
  rw [valued]

lemma isNamed_strict : IsNamed Command.lint.forms strictForm where
  dashed := by simp [isOption, strictForm]
  long := by decide
  whole := by rfl
  known := by rfl

lemma isNamed_format : IsNamed command.forms formatForm where
  dashed := by simp [isOption, formatForm]
  long := by decide
  whole := by rfl
  known := by cases command <;> rfl

end Arguments

/-- The words by which a command is called for a file. -/
def wordsFor (command : Command) (format : Option OutputFormat) (strict : Bool) (file : String) :
    List String :=
  command.name ::
    ((format.elim [] fun f => [formatForm.name, f.name]) ++
      (if strict then [strictForm.name] else []) ++ ["--", file])

/-- Nothing is wrong with the words behind the name of the command. -/
lemma scan_wordsFor (h : strict = true → command = .lint) :
    Arguments.scan command.forms true (wordsFor command format strict file).tail =
      .ok ⟨(format.elim [] fun f => [(formatForm.name, some f.name)]) ++
        if strict then [(strictForm.name, none)] else [], [file]⟩ := by
  have ended : Arguments.read command.forms true ["--", file] = (⟨[], [file]⟩, none) := by rfl
  have behind : Arguments.read command.forms true
      ((if strict then [strictForm.name] else []) ++ ["--", file]) =
        (⟨if strict then [(strictForm.name, none)] else [], [file]⟩, none) := by
    cases strict with
    | false => exact ended
    | true =>
      obtain rfl := h rfl
      exact (Arguments.isNamed_strict.read_flag rfl).trans (congrArg (Prod.map _ id) ended)
  unfold Arguments.scan wordsFor
  cases format with
  | none =>
    dsimp only [Option.elim, List.tail_cons, List.nil_append]
    rw [behind]
  | some f =>
    dsimp only [Option.elim, List.tail_cons, List.cons_append, List.nil_append]
    rw [Arguments.isNamed_format.read_value rfl, behind]
    rfl

/-- A command is called for a file by its name, the options, and the file behind two dashes. -/
lemma calls_wordsFor (unasked : s.environment.get? completionVariable = none)
    (named : s.files.find s.directory file ≠ .error .nullCharacter)
    (apart : s.files.find s.directory file ≠ .ok .directory)
    (h : strict = true → command = .lint) :
    Calls s (wordsFor command format strict file) command ⟨.ofText file, format, strict⟩ := by
  have operand : Arguments.isOption command.name = false := by
    cases command <;> simp [Arguments.isOption, Command.name]
  refine ⟨fun instruction set => ?_, ⟨[], wordsFor command format strict file⟩, command.name, _, _,
    ?_, rfl, rfl, ?_, scan_wordsFor h, ?_, ?_⟩
  · cases unasked.symm.trans set
  · have short : command.name ≠ "--" := by cases command <;> decide
    unfold Arguments.scan wordsFor
    rw [Arguments.read.eq_3 _ _ _ _ short, operand]
    rfl
  · cases command <;> rfl
  · cases format <;> cases strict <;> rfl
  · have asked : ∀ arguments : Arguments, arguments.operands = [file] →
        requestedFormat arguments = .ok format → arguments.has strictForm.name = strict →
        (requestOf arguments s).result = .ok (.ok ⟨.ofText file, format, strict⟩) := by
      rintro arguments operands asked rfl
      unfold requestOf
      rw [asked, operands]
      dsimp only
      rw [current_bind]
      cases found : s.files.find s.directory file with
      | error problem =>
        cases problem with
        | nullCharacter => exact absurd found named
        | _ => rfl
      | ok entry =>
        cases entry with
        | directory => exact absurd found apart
        | file => rfl
    refine asked _ rfl ?_ ?_
    · cases format with
      | none => cases strict <;> rfl
      | some f => cases f <;> cases strict <;> rfl
    · cases format <;> cases strict <;> rfl

end

end BusinessModel.CommandLine
