import BusinessModel.Proofs.Session.Detached
import Mathlib.Data.List.Basic

/-!
# Documents of a session, step by step

Whatever is done in a session, at most one document is read and kept on the way, and only if none is
kept at its place; apart from that, the kept documents stay as they are until they are forgotten.

* `Session.loadDocument_cases` — a load fails, returns what is kept, or reads and keeps
* `Session.KeepsOne` — at most one document is read and kept
* `Session.Asks` — the paths that a step may load from
* `Session.step_cases` — what a step does to the kept documents
-/

namespace BusinessModel

namespace Session

open BusinessModel.Action

variable {path : PathName} {s t u : Session} {kept : Kept Document} {content : Mapping}
  {fault : Fault} {mayRead : PathName → Prop} {α β : Type}

/-! ### Loading -/

/-- A document is read from a path in a session, in which none is kept at the place of the path.  It
is the content of the file at that time, named by the path. -/
structure Reads (s : Session) (path : PathName) (kept : Kept Document) : Prop where
  absent : s.documents.lookup (path.resolve s.directory) = none
  value : ∃ content, (readMapping path s).result = .ok content ∧
    kept.value = ⟨content, Generation.detect (.map content), path.text⟩
  serial : s.nextSerial ≤ kept.serial

/-- Reading as a choice by what stands at the path. -/
lemma readMapping_eq :
    readMapping path s =
      (match s.files.find s.directory path.text with
      | .error problem =>
        fail (if problem.isAbsence then .load (.missing path.text) else .files problem path.text)
      | .ok .directory =>
        fail (.load (.malformed (.ofSource path.text
          s!"Failed to read file: {FileProblem.isDirectory.message path.text}")))
      | .ok (.file content) =>
        ofExcept ((Document.mappingOfBytes path.text content).mapError .load) : Action Mapping) s :=
  rfl

/-- Reading a file that is there. -/
lemma readMapping_of_file {bytes : List UInt8}
    (found : s.files.find s.directory path.text = .ok (.file bytes)) :
    (readMapping path s).result = (Document.mappingOfBytes path.text bytes).mapError .load := by
  rw [readMapping_eq, found]
  rfl

/-- Reading changes nothing. -/
lemma readMapping_session : (readMapping path s).session = s := by
  rw [readMapping_eq]
  cases s.files.find s.directory path.text with
  | error => rfl
  | ok entry => cases entry <;> rfl

/-- Paths with null characters cannot be read. -/
lemma no_null_of_readMapping (h : (readMapping path s).result = .ok content) :
    path.text.contains '\x00' = false := by
  by_contra null
  have refused : s.files.find s.directory path.text = .error .nullCharacter := by
    rw [Files.find, Files.checkText, if_pos (by simpa using null)]
    rfl
  rw [readMapping_eq, refused] at h
  cases h

lemma noteDetection_of_any (doc : Value) :
    (noteDetection doc s).result = .ok () ∧ (noteDetection doc s).session = s := by
  unfold noteDetection
  cases Generation.detectedByShape? doc <;> exact ⟨rfl, rfl⟩

/-- A load as a choice between a failure, what is kept, and reading. -/
lemma loadDocument_eq :
    loadDocument path s =
      (if path.text.contains '\x00' then fail (.files .nullCharacter path.text) else
        match s.documents.lookup (path.resolve s.directory) with
        | some kept => do
          note .debug "bmml.loader"
            s!"DocumentLoader cache hit: {PathName.absoluteText (path.resolve s.directory)}"
          return kept
        | none => readDocument path (path.resolve s.directory) : Action (Kept Document)) s :=
  rfl

lemma readDocument_of_error {place : List String} (h : (readMapping path s).result = .error fault) :
    (readDocument path place s).result = .error fault ∧
      (readDocument path place s).session = s := by
  rw [readDocument, bind_of_error h]
  exact ⟨rfl, readMapping_session⟩

lemma readDocument_of_ok {place : List String} (h : (readMapping path s).result = .ok content) :
    (readDocument path place s).result =
        .ok ⟨s.nextSerial, Document.ofMapping path.text content⟩ ∧
      (readDocument path place s).session =
        { s with
          documents := (place, ⟨s.nextSerial, Document.ofMapping path.text content⟩) :: s.documents
          nextSerial := s.nextSerial + 1 } := by
  obtain ⟨noted, same⟩ := noteDetection_of_any (s := s) (.map content)
  rw [readDocument, bind_of_ok h, readMapping_session, bind_of_ok noted, same]
  exact ⟨rfl, rfl⟩

/-- A load fails and changes nothing, or returns what is kept and changes nothing, or reads a
document and keeps it. -/
lemma loadDocument_cases (path : PathName) (s : Session) :
    (∃ fault, (loadDocument path s).result = .error fault ∧ (loadDocument path s).session = s ∧
      ∀ content, (readMapping path s).result ≠ .ok content) ∨
    (∃ kept, (loadDocument path s).result = .ok kept ∧ (loadDocument path s).session = s ∧
      s.documents.lookup (path.resolve s.directory) = some kept) ∨
    ∃ kept, (loadDocument path s).result = .ok kept ∧ s.Reads path kept ∧
      (loadDocument path s).session =
        { s with
          documents := (path.resolve s.directory, kept) :: s.documents
          nextSerial := kept.serial + 1 } := by
  rw [loadDocument_eq]
  by_cases null : path.text.contains '\x00' = true
  · rw [if_pos null]
    refine .inl ⟨_, rfl, rfl, fun content read => ?_⟩
    exact absurd (no_null_of_readMapping read) (by simp [null])
  · rw [if_neg null]
    cases found : s.documents.lookup (path.resolve s.directory) with
    | some kept => exact .inr (.inl ⟨kept, rfl, rfl, rfl⟩)
    | none =>
      dsimp only
      cases read : (readMapping path s).result with
      | error fault =>
        obtain ⟨failed, same⟩ := readDocument_of_error read
        exact .inl ⟨fault, failed, same, nofun⟩
      | ok content =>
        obtain ⟨loaded, after⟩ := readDocument_of_ok read
        exact .inr (.inr ⟨_, loaded, ⟨found, ⟨content, read, rfl⟩, Nat.le_refl _⟩, after⟩)

/-! ### Reading at most one document -/

/-- A later session, for which at most one document was read and kept on the way. -/
inductive KeepsOne (may : PathName → Prop) (s t : Session) : Prop where
  | steady : s.Steady t → KeepsOne may s t
  | reads {path : PathName} {kept : Kept Document} :
    may path →
    s.Reads path kept →
    t.directory = s.directory →
    t.files = s.files →
    t.documents = (path.resolve s.directory, kept) :: s.documents →
    kept.serial < t.nextSerial →
    KeepsOne may s t

lemma readMapping_of_steady (steady : s.Steady t) :
    (readMapping path t).result = (readMapping path s).result := by
  rw [readMapping_eq, readMapping_eq, steady.files, steady.directory]
  cases s.files.find s.directory path.text with
  | error => rfl
  | ok entry => cases entry <;> rfl

/-- What is read later could have been read before. -/
lemma Reads.of_steady (reads : t.Reads path kept) (steady : s.Steady t) : s.Reads path kept where
  absent := by
    rw [← steady.documents, ← steady.directory]
    exact reads.absent
  value := by
    rw [← readMapping_of_steady steady]
    exact reads.value
  serial := Nat.le_trans steady.serial reads.serial

lemma KeepsOne.after (h : t.KeepsOne mayRead u) (steady : s.Steady t) : s.KeepsOne mayRead u := by
  cases h with
  | steady rest => exact .steady (steady.trans rest)
  | reads may reads directory files documents serial =>
    refine .reads may (reads.of_steady steady) (directory.trans steady.directory)
      (files.trans steady.files) ?_ serial
    rw [documents, steady.directory, steady.documents]

lemma KeepsOne.before (h : s.KeepsOne mayRead t) (steady : t.Steady u) : s.KeepsOne mayRead u := by
  cases h with
  | steady first => exact .steady (first.trans steady)
  | reads may reads directory files documents serial =>
    exact .reads may reads (steady.directory.trans directory) (steady.files.trans files)
      (steady.documents.trans documents) (Nat.lt_of_lt_of_le serial steady.serial)

lemma KeepsOne.mono {other : PathName → Prop} (h : s.KeepsOne mayRead t)
    (more : ∀ path, mayRead path → other path) : s.KeepsOne other t := by
  cases h with
  | steady steady => exact .steady steady
  | reads may reads directory files documents serial =>
    exact .reads (more _ may) reads directory files documents serial

/-- Something detached and then what its result leads to. -/
lemma keepsOne_bind {first : Action α} {next : α → Action β} (h : first.Detached)
    (h' : ∀ a, (first s).result = .ok a →
      (first s).session.KeepsOne mayRead (next a (first s).session).session) :
    s.KeepsOne mayRead ((first >>= next) s).session := by
  cases result : (first s).result with
  | error fault =>
    rw [bind_of_error result]
    exact .steady (h.steady s)
  | ok a =>
    rw [bind_of_ok result]
    exact (h' a result).after (h.steady s)

/-- Something that may read and then something detached. -/
lemma KeepsOne.bind {first : Action α} {next : α → Action β}
    (h : s.KeepsOne mayRead (first s).session) (h' : ∀ a, (next a).Detached) :
    s.KeepsOne mayRead ((first >>= next) s).session := by
  cases result : (first s).result with
  | error fault =>
    rw [bind_of_error result]
    exact h
  | ok a =>
    rw [bind_of_ok result]
    exact h.before ((h' a).steady _)

lemma keepsOne_loadDocument : s.KeepsOne (· = path) (loadDocument path s).session := by
  obtain ⟨_, _, same, _⟩ | ⟨_, _, same, _⟩ | ⟨kept, _, reads, after⟩ := loadDocument_cases path s
  · rw [same]
    exact .steady (Steady.refl s)
  · rw [same]
    exact .steady (Steady.refl s)
  · rw [after]
    exact .reads rfl reads rfl rfl rfl (Nat.lt_succ_self _)

lemma KeepsOne.orElseLoad {action : Action α} {handle : LoadFault → Action α}
    (h : s.KeepsOne mayRead (action s).session) (h' : ∀ fault, (handle fault).Detached) :
    s.KeepsOne mayRead (action.orElseLoad handle s).session := by
  by_cases load : ∃ fault, (action s).result = .error (.load fault)
  · obtain ⟨fault, failed⟩ := load
    rw [orElseLoad_of_load failed]
    exact h.before ((h' fault).steady _)
  · rw [orElseLoad_of_not_load (not_exists.1 load)]
    exact h

end Session

/-! ### Runs of the program -/

namespace CommandLine

open BusinessModel.Action BusinessModel.Session

variable {request : Request} {arguments : Arguments} {words : List String} {s : Session}
  {command : Command} {forms : List OptionForm} {mixed : Bool}

lemma keepsOne_withDocument {next : Document → Action Nat} (h : ∀ doc, (next doc).Detached) :
    s.KeepsOne (· = request.file) (withDocument request next s).session := by
  apply KeepsOne.bind
  · refine KeepsOne.orElseLoad (keepsOne_loadDocument.bind fun _ => detached.done) fun fault => ?_
    cases fault with
    | misfit => exact detached.fail
    | missing | malformed => exact detached.done
  · intro loaded
    cases loaded with
    | inl doc => exact h doc
    | inr reason => exact detached.giveUp

lemma keepsOne_lintCommand : s.KeepsOne (· = request.file) (lintCommand request s).session := by
  refine keepsOne_bind detached.formatOf fun format _ => ?_
  refine keepsOne_bind detached.settingsInForce fun settings _ => ?_
  refine keepsOne_bind detached_validateFile fun validation _ => ?_
  refine keepsOne_bind detached.logViolations fun _ _ => ?_
  split
  · exact .steady ((detached.say.bind fun _ => detached.done).steady _)
  · refine keepsOne_withDocument fun doc => ?_
    exact detached.lintDocument.bind fun report => detached.traceLint.bind fun _ =>
      detached.say.bind fun _ => detached.done

lemma keepsOne_graphCommand : s.KeepsOne (· = request.file) (graphCommand request s).session := by
  refine keepsOne_withDocument fun doc => ?_
  split
  · exact detached.giveUp
  · exact detached.note.bind fun _ => detached.say.bind fun _ => detached.report.bind fun _ =>
      detached.formatOf.bind fun _ => detached.say.bind fun _ => detached.done

lemma keepsOne_perform :
    s.KeepsOne (· = request.file) (perform command request s).session := by
  cases command with
  | graph => exact keepsOne_graphCommand
  | lint => exact keepsOne_lintCommand
  | validate => exact .steady (detached_validateCommand.steady s)

/-- A path that is written as one of some words. -/
def WrittenIn (words : List String) (path : PathName) : Prop :=
  ∃ word ∈ words, path = PathName.ofText word

/-- The file of a request is one of the operands. -/
lemma writtenIn_requestOf (h : (requestOf arguments s).result = .ok (.ok request)) :
    WrittenIn arguments.operands request.file := by
  unfold requestOf at h
  cases format : requestedFormat arguments with
  | error problem =>
    rw [format] at h
    cases h
  | ok form =>
    rw [format] at h
    cases operands : arguments.operands with
    | nil =>
      rw [operands] at h
      cases h
    | cons file others =>
      rw [operands] at h
      dsimp only at h
      rw [current_bind] at h
      -- Of all that can stand at the path, what becomes a request keeps its file.
      have kept : ∀ {format strict}, ((if !others.isEmpty then
          pure (.error (.extraOperands others))
          else pure (.ok ⟨PathName.ofText file, format, strict⟩) :
            Action (Except UsageProblem Request)) s).result = .ok (.ok request) →
          WrittenIn (file :: others) request.file := by
        intro format strict made
        split at made
        · cases made
        · cases made
          exact ⟨file, List.mem_cons_self, rfl⟩
      generalize s.files.find s.directory file = found at h
      cases found with
      | error problem =>
        cases problem
        case nullCharacter => cases h
        all_goals exact kept h
      | ok entry =>
        cases entry with
        | directory => cases h
        | file content => exact kept h

/-- Operands are arguments. -/
lemma operands_read_subset (forms : List OptionForm) (mixed : Bool) (words : List String) :
    (Arguments.read forms mixed words).1.operands ⊆ words := by
  fun_induction Arguments.read forms mixed words with
  | case1 | case3 | case5 | case7 => exact List.nil_subset _
  | case2 rest => exact List.subset_cons_self _ _
  | case4 _ _ _ _ _ _ _ _ _ _ ih => exact List.subset_cons_of_subset _ ih
  | case6 _ _ _ _ _ _ _ _ _ _ ih =>
    exact List.subset_cons_of_subset _ (List.subset_cons_of_subset _ ih)
  | case8 _ _ _ _ _ _ _ _ _ ih => exact List.subset_cons_of_subset _ ih
  | case9 _ _ _ _ _ ih => exact List.cons_subset_cons _ ih
  | case10 => exact List.Subset.refl _

lemma operands_scan_subset {found : Arguments}
    (scanned : Arguments.scan forms mixed words = .ok found) : found.operands ⊆ words := by
  have read := operands_read_subset forms mixed words
  unfold Arguments.scan at scanned
  split at scanned
  next found' shape =>
    cases scanned
    rwa [shape] at read
  next => cases scanned

lemma WrittenIn.mono {others : List String} {path : PathName} (h : WrittenIn words path)
    (more : words ⊆ others) : WrittenIn others path := by
  obtain ⟨word, member, written⟩ := h
  exact ⟨word, more member, written⟩

lemma keepsOne_runCommand :
    s.KeepsOne (WrittenIn words) (runCommand command words s).session := by
  unfold runCommand
  cases scanned : Arguments.scan command.forms true words with
  | error problem => exact .steady (detached.refuse.steady s)
  | ok arguments =>
    dsimp only
    split
    · exact .steady (detached.answerWith.steady s)
    · refine keepsOne_bind detached.requestOf fun made result => ?_
      cases made with
      | error problem => exact .steady (detached.refuse.steady _)
      | ok request =>
        refine keepsOne_perform.mono ?_
        rintro _ rfl
        exact (writtenIn_requestOf result).mono (operands_scan_subset scanned)

lemma keepsOne_runArguments : s.KeepsOne (WrittenIn words) (runArguments words s).session := by
  unfold runArguments
  cases words with
  | nil => exact .steady ((detached.say.bind fun _ => detached.done).steady s)
  | cons word rest =>
    dsimp only
    cases scanned : Arguments.scan programForms false (word :: rest) with
    | error problem => exact .steady (detached.refuse.steady s)
    | ok arguments =>
      dsimp only
      have listed := operands_scan_subset scanned
      cases answerOptions? arguments with
      | some lines => exact .steady (detached.answerWith.steady s)
      | none =>
        cases operands : arguments.operands with
        | nil => exact .steady (detached.refuse.steady s)
        | cons name others =>
          dsimp only
          cases Command.ofName? name with
          | none => exact .steady (detached.refuseName.steady s)
          | some command =>
            refine keepsOne_bind detached.configureLog fun _ _ => keepsOne_runCommand.mono ?_
            intro path written
            rw [operands] at listed
            exact written.mono (List.subset_of_cons_subset listed)

lemma keepsOne_answerOrRun : s.KeepsOne (WrittenIn words) (answerOrRun words s).session := by
  unfold answerOrRun
  rw [current_bind]
  cases s.environment.get? completionVariable with
  | none => exact keepsOne_runArguments
  | some instruction =>
    dsimp only
    split
    · exact keepsOne_runArguments
    · exact .steady (detached.answerShell.steady s)

/-- A run of the program reads and keeps at most one document, from a path among its arguments. -/
lemma keepsOne_run : s.KeepsOne (WrittenIn words) (run words s).session := by
  have ran : Session.KeepsOne (WrittenIn words) { s with log := s.log.hidden }
      (answerOrRun words { s with log := s.log.hidden }).session := keepsOne_answerOrRun
  have hidden : s.Steady { s with log := s.log.hidden } := ⟨⟨rfl, rfl, Nat.le_refl _⟩, rfl⟩
  have ended : (answerOrRun words { s with log := s.log.hidden }).session.Steady
      (run words s).session := ⟨⟨rfl, rfl, Nat.le_refl _⟩, rfl⟩
  exact (ran.after hidden).before ended

end CommandLine

/-! ### Steps -/

namespace Session

open BusinessModel.Action BusinessModel.CommandLine

variable {s : Session} {step : Step}

/-- The paths that a step may load a document from. -/
inductive Asks : Step → PathName → Prop where
  | load {file} : Asks (.load file) file
  | run {arguments changes path} : WrittenIn arguments path → Asks (.run arguments changes) path

lemma Asks.ne_forgetDocuments {path : PathName} (asks : Asks step path) :
    step ≠ .forgetDocuments := by
  rintro rfl
  cases asks

/-- The kept documents after a step: they are what they were, or all are forgotten, or one was read
from a path that the step asks for. -/
inductive Moves (s : Session) (step : Step) (t : Session) : Prop where
  | stays : step ≠ .forgetDocuments → s.Still t → Moves s step t
  | forgets : step = .forgetDocuments → t = { s with documents := [] } → Moves s step t
  | reads {path : PathName} {kept : Kept Document} :
    Asks step path →
    s.Reads path kept →
    t.directory = s.directory →
    t.documents = (path.resolve s.directory, kept) :: s.documents →
    kept.serial < t.nextSerial →
    Moves s step t

lemma KeepsOne.moves {mayRead : PathName → Prop} {t : Session} (h : s.KeepsOne mayRead t)
    (asks : ∀ path, mayRead path → Asks step path) (other : step ≠ .forgetDocuments) :
    s.Moves step t := by
  cases h with
  | steady steady => exact .stays other steady.toStill
  | reads may reads directory _ documents serial =>
    exact .reads (asks _ may) reads directory documents serial

/-- Changing the files changes nothing else. -/
lemma changeFiles_session (s : Session) (file : PathName)
    (f : Files → List String → PathName → Except FileProblem Files) :
    ∃ files, (changeFiles file f s).session = { s with files } := by
  unfold changeFiles
  rw [current_bind]
  cases f s.files s.directory file with
  | error problem => exact ⟨s.files, rfl⟩
  | ok files => exact ⟨files, rfl⟩

lemma makeDirectories_session (s : Session) (file : PathName) :
    ∃ files, (Session.makeDirectories file s).session = { s with files } := by
  refine ⟨(s.files.makeDirectories s.directory file).1, ?_⟩
  unfold Session.makeDirectories
  rw [current_bind]
  obtain ⟨files, made⟩ := s.files.makeDirectories s.directory file
  dsimp only
  rw [bind_of_ok rfl]
  rfl

lemma writeFile_session {file : PathName} {content : List UInt8} :
    ∃ files, (writeFile file content s).session = { s with files } := by
  obtain ⟨files, made⟩ := makeDirectories_session s file.parent
  unfold writeFile
  cases result : (Session.makeDirectories file.parent s).result with
  | error fault =>
    rw [bind_of_error result]
    exact ⟨files, made⟩
  | ok _ =>
    rw [bind_of_ok result, made]
    obtain ⟨files', changed⟩ := changeFiles_session { s with files } file
      fun files directory => files.write directory content
    exact ⟨files', changed⟩

/-- Steps that change the files. -/
inductive ChangesFiles : Step → Prop where
  | write {file content} : ChangesFiles (.write file content)
  | delete {file} : ChangesFiles (.delete file)
  | makeDirectory {file} : ChangesFiles (.makeDirectory file)

lemma ChangesFiles.session (changes : ChangesFiles step) :
    ∃ files, (s.step step).session = { s with files } := by
  cases changes with
  | write =>
    obtain ⟨files, changed⟩ := writeFile_session
    exact ⟨files, bind_pure_session.trans changed⟩
  | delete =>
    obtain ⟨files, changed⟩ := changeFiles_session s _ _
    exact ⟨files, bind_pure_session.trans changed⟩
  | makeDirectory =>
    obtain ⟨files, changed⟩ := makeDirectories_session s _
    exact ⟨files, bind_pure_session.trans changed⟩

lemma ChangesFiles.still (changes : ChangesFiles step) : s.Still (s.step step).session := by
  obtain ⟨files, changed⟩ := changes.session (s := s)
  rw [changed]
  exact ⟨rfl, rfl, Nat.le_refl _⟩

lemma keepsOne_withVariables {α : Type} {action : Action α} {mayRead : PathName → Prop}
    {changes : List VariableChange} (h : ∀ t, KeepsOne mayRead t (action t).session) :
    s.KeepsOne mayRead (withVariables changes action s).session := by
  unfold withVariables
  obtain ⟨environment, made⟩ := s.environment.changeAll changes
  dsimp only
  have bound : s.Steady { s with environment } := ⟨⟨rfl, rfl, Nat.le_refl _⟩, rfl⟩
  have ran : KeepsOne mayRead { s with environment }
      ((Action.ofExcept (made.mapError Fault.environment) >>= fun _ => action)
        { s with environment }).session :=
    keepsOne_bind detached.ofExcept fun _ _ => h _
  exact (ran.after bound).before ⟨⟨rfl, rfl, Nat.le_refl _⟩, rfl⟩

/-- What a step does to the kept documents. -/
lemma step_cases (s : Session) (step : Step) : s.Moves step (s.step step).session := by
  have still : ∀ {α : Type} {action : Action α} {reply : α → Reply}, action.Detached →
      s.Still ((action >>= fun a => pure (reply a)) s).session := fun h =>
    ((h.bind fun _ => detached.done).steady s).toStill
  cases step with
  | write => exact .stays nofun ChangesFiles.write.still
  | delete => exact .stays nofun ChangesFiles.delete.still
  | makeDirectory => exact .stays nofun ChangesFiles.makeDirectory.still
  | setVariable name value => exact .stays nofun (still detached.changeVariable)
  | unsetVariable name => exact .stays nofun (still detached.changeVariable)
  | load file =>
    refine (keepsOne_loadDocument.bind fun _ => detached.done).moves ?_ nofun
    rintro _ rfl
    exact .load
  | loadText text => exact .stays nofun (still detached.documentOfText)
  | read file => exact .stays nofun (still detached.readMapping)
  | forgetDocuments => exact .forgets rfl rfl
  | validateFile file generation => exact .stays nofun (still detached_validateFile)
  | validate doc generation directory => exact .stays nofun (still detached_validate)
  | schemaTitle generation directory => exact .stays nofun (still detached.schemaTitle)
  | forgetValidators => exact .stays nofun (still (detached_validators (f := fun _ => [])))
  | useSettings overrides => exact .stays nofun (still detached.settingsInForce)
  | createSettings overrides => exact .stays nofun (still detached.createSettings)
  | forgetSettings => exact .stays nofun (still detached.settings)
  | logLevel => exact .stays nofun (still detached.settingsInForce)
  | configureLog level => exact .stays nofun (still detached.setThresholds)
  | log service source subject =>
    have logged : (entryAbout service source subject).Detached := detached_entryAbout
    exact .stays nofun
      ((logged.bind fun _ => detached.report.bind fun _ => detached.done).steady s).toStill
  | run arguments changes =>
    refine (KeepsOne.bind (keepsOne_withVariables fun t => keepsOne_run) fun _ =>
      detached.done).moves ?_ nofun
    exact fun path written => .run written

end Session

end BusinessModel
