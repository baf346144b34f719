import BusinessModel.Proofs.Session.History
import BusinessModel.Proofs.Session.Schemas

/-!
# What a lint run reports on

A lint run validates its file as it is now, and then lints the document that is kept for it.  Where
one is kept that was read at another time, the run does not report on what it has validated.

* `CommandLine.documentFor` — the document that is kept for a path, or else the one as it is now
* `CommandLine.documentFor_after` — where that document comes from
* `CommandLine.Passes`, `CommandLine.Reports` — runs past validation, and what they come to
* `CommandLine.lintCommand_cases` — what a lint run reports on
* `CommandLine.not_reports_current` — it need not be the file as it is now
-/

namespace BusinessModel.CommandLine

open BusinessModel.Action BusinessModel.Session

variable {s : Session} {request : Request} {format : OutputFormat} {strict : Bool}
  {file : PathName} {content : Mapping} {report : Validation.Report} {doc : Document}
  {next : Document → Action Nat} {outcome : Outcome Nat}

/-- The document for a path: the one that is kept, or else the one with a content. -/
def documentFor (s : Session) (file : PathName) (content : Mapping) : Document :=
  match s.documents.lookup (file.resolve s.directory) with
  | some kept => kept.value
  | none => .ofMapping file.text content

/-- A lint run gets past validation: it finds out how to report, and the file as it is now is
valid. -/
structure Passes (s : Session) (request : Request) (format : OutputFormat) (strict : Bool) :
    Prop where
  format : (formatOf request s).result = .ok format
  strict : ∃ settings,
    (settingsInForce [] (formatOf request s).session).result = .ok settings ∧
      strict = (request.strict || settings.value.failOnWarnings)
  valid : ∃ report,
    (validateFile request.file none
      (settingsInForce [] (formatOf request s).session).session).result = .ok report ∧
    report.valid = true

/-- Whether a lint run with some report is a success. -/
def succeeds (strict : Bool) (report : Lint.Report) : Bool :=
  report.passed && !(strict && !report.warnings.isEmpty)

/-- The outcome of a run that reports on a document: what it prints in the end and its exit code
are those of the report of the document, or it fails as there is no report. -/
inductive Reports (format : OutputFormat) (strict : Bool) (doc : Document)
    (outcome : Outcome Nat) : Prop where
  | verdict {report : Lint.Report} :
    Lint.run (.map doc.content) (some doc.generation) = .ok report →
    (∃ before, outcome.notices = before ++
      (⟨succeeds strict report, report.generation, [], report.issues⟩ : Verdict).notices format) →
    outcome.result = .ok (exitCode (succeeds strict report)) →
    Reports format strict doc outcome
  | failure {fault : LongInteger} :
    Lint.run (.map doc.content) (some doc.generation) = .error fault →
    outcome.result = .error (.longInteger fault) →
    Reports format strict doc outcome

/-- A file that is valid can be read. -/
lemma exists_read_of_valid (validated : (validateFile file none s).result = .ok report)
    (valid : report.valid = true) : ∃ content, (readMapping file s).result = .ok content := by
  cases read : (readMapping file s).result with
  | ok content => exact ⟨content, rfl⟩
  | error fault =>
    rw [validateFile_of_unread read] at validated
    cases fault with
    | load reason =>
      cases reason with
      | misfit => cases validated
      | missing | malformed =>
        cases validated
        cases valid
    | _ => cases validated

lemma documentFor_of_steady {t : Session} (steady : s.Steady t) :
    documentFor t file content = documentFor s file content := by
  unfold documentFor
  rw [steady.documents, steady.directory]

/-- Where the kept document comes from, if there is one: it is the one that was loaded first since
documents were last forgotten. -/
lemma documentFor_after (empty : s.documents = []) (script : List Session.Step) :
    (∃ kept, s.FirstLoad script file kept ∧
      documentFor (s.after script) file content = kept.value) ∨
    (∀ kept, ¬ s.FirstLoad script file kept) ∧
      documentFor (s.after script) file content = .ofMapping file.text content := by
  unfold documentFor
  rw [directory_after]
  cases found : (s.after script).documents.lookup (file.resolve s.directory) with
  | some kept => exact .inl ⟨kept, firstLoad_of_lookup (by rw [empty]; rfl) found, rfl⟩
  | none =>
    refine .inr ⟨fun kept first => ?_, rfl⟩
    cases found.symm.trans first.lookup

lemma loadDocument_of_read (read : (readMapping file s).result = .ok content) :
    ∃ serial, (loadDocument file s).result = .ok ⟨serial, documentFor s file content⟩ := by
  unfold documentFor
  obtain ⟨_, _, _, unread⟩ | ⟨kept, loaded, _, found⟩ | ⟨kept, loaded, reads, _⟩ :=
    loadDocument_cases file s
  · exact absurd read (unread content)
  · rw [found]
    exact ⟨kept.serial, loaded⟩
  · obtain ⟨other, read', value⟩ := reads.value
    cases read.symm.trans read'
    rw [reads.absent]
    refine ⟨kept.serial, ?_⟩
    rw [loaded, Document.ofMapping, ← value]

/-- What has been added in front does not change what is reported in the end. -/
lemma Reports.prepend {notices : List Notice} (reports : Reports format strict doc outcome) :
    Reports format strict doc
      ⟨notices ++ outcome.notices, outcome.session, outcome.result⟩ := by
  cases reports with
  | verdict ran said ended =>
    obtain ⟨before, said⟩ := said
    exact .verdict ran ⟨notices ++ before, by rw [said, List.append_assoc]⟩ ended
  | failure ran ended => exact .failure ran ended

/-- Documents with the same report are not told apart. -/
lemma Reports.congr {other : Document} (reports : Reports format strict doc outcome)
    (same : Lint.run (.map doc.content) (some doc.generation) =
      Lint.run (.map other.content) (some other.generation)) :
    Reports format strict other outcome := by
  cases reports with
  | verdict ran said ended => exact .verdict (same ▸ ran) said ended
  | failure ran ended => exact .failure (same ▸ ran) ended

/-- What is done before does not change what is reported in the end. -/
lemma Reports.bind {α : Type} {first : Action α} {next : α → Action Nat} {a : α}
    (result : (first s).result = .ok a)
    (reports : Reports format strict doc (next a (first s).session)) :
    Reports format strict doc ((first >>= next) s) := by
  rw [bind_of_ok result]
  exact reports.prepend

/-- A run that can load its file goes on with the document for it. -/
lemma Reports.withDocument (read : (readMapping request.file s).result = .ok content)
    (reports : ∀ t, Reports format strict doc (next (documentFor s request.file content) t)) :
    Reports format strict doc (CommandLine.withDocument request next s) := by
  obtain ⟨serial, loaded⟩ := loadDocument_of_read read
  have found : (((fun kept => Sum.inl kept.value) <$> loadDocument request.file :
      Action (Document ⊕ String)) s).result = .ok (.inl (documentFor s request.file content)) :=
    map_of_ok loaded
  refine Reports.bind (a := .inl (documentFor s request.file content)) ?_ (reports _)
  rw [orElseLoad_of_ok found, found]

lemma lintDocument_result :
    (lintDocument doc s).result =
      (Lint.run (.map doc.content) (some doc.generation)).mapError .longInteger := by
  unfold lintDocument
  rw [bind_of_ok rfl]
  cases Lint.run (.map doc.content) (some doc.generation) with
  | error fault => rw [bind_of_error rfl]; rfl
  | ok report => rw [bind_of_ok rfl]; rfl

lemma traceLint_result {source : String} {report : Lint.Report} :
    (traceLint source report s).result = .ok () := by
  unfold traceLint
  split <;> rfl

lemma logViolations_result {source : String} :
    (logViolations source report s).result = .ok () := by
  unfold logViolations
  split <;> rfl

/-- Linting a document reports on it. -/
lemma reports_lint {source : String} :
    Reports format strict doc ((do
      let report ← lintDocument doc
      traceLint source report
      let success := report.passed && !(strict && !report.warnings.isEmpty)
      let verdict : Verdict := ⟨success, report.generation, [], report.issues⟩
      say (verdict.notices format)
      return exitCode success : Action Nat) s) := by
  have linted : (lintDocument doc s).result = _ := lintDocument_result
  cases ran : Lint.run (.map doc.content) (some doc.generation) with
  | error fault =>
    rw [ran] at linted
    refine .failure ran ?_
    rw [bind_of_error linted]
  | ok report =>
    rw [ran] at linted
    refine .bind linted (.bind traceLint_result ?_)
    exact .verdict ran ⟨[], List.append_nil _⟩ rfl

/-- A lint run that gets past validation reports on the document that is kept for its file, or else
on the one that it has validated. -/
lemma Passes.reports (passes : Passes s request format strict) :
    ∃ content, (readMapping request.file s).result = .ok content ∧
      Reports format strict (documentFor s request.file content) (lintCommand request s) := by
  obtain ⟨settings, set, rfl⟩ := passes.strict
  obtain ⟨report, validated, valid⟩ := passes.valid
  obtain ⟨content, read⟩ := exists_read_of_valid validated valid
  -- Up to the load, neither the files nor the kept documents change.
  have formatted : s.Steady (formatOf request s).session := detached.formatOf.steady s
  have prepared : s.Steady (settingsInForce [] (formatOf request s).session).session :=
    formatted.trans (detached.settingsInForce.steady _)
  have validates : (validateFile request.file none).Detached := detached_validateFile
  have logs : (logViolations request.file.text report).Detached := detached.logViolations
  have steady := (prepared.trans (validates.steady _)).trans (logs.steady _)
  rw [readMapping_of_steady prepared] at read
  refine ⟨content, read, ?_⟩
  refine .bind passes.format (.bind set (.bind validated (.bind logViolations_result ?_)))
  rw [if_neg (by simp [valid]), ← documentFor_of_steady steady]
  refine .withDocument ?_ fun t => reports_lint
  rw [readMapping_of_steady steady, read]

/-- A lint run does not get past validation, or it reports on the document that is kept for its
file, if there is one.  Where that has the same report as the content that was validated, the run
reports on the file as it is now. -/
theorem lintCommand_cases (s : Session) (request : Request) :
    (∀ format strict, ¬Passes s request format strict) ∨
    ∃ format strict content, Passes s request format strict ∧
      (readMapping request.file s).result = .ok content ∧
      Reports format strict (documentFor s request.file content) (lintCommand request s) ∧
      (Lint.run (.map (documentFor s request.file content).content)
          (some (documentFor s request.file content).generation) = Lint.run (.map content) none →
        Reports format strict (.ofMapping request.file.text content) (lintCommand request s)) := by
  by_cases past : ∃ format strict, Passes s request format strict
  · obtain ⟨format, strict, passes⟩ := past
    obtain ⟨content, read, reports⟩ := passes.reports
    exact .inr ⟨format, strict, content, passes, read, reports, fun same => reports.congr same⟩
  · exact .inl fun format strict passes => past ⟨format, strict, passes⟩

/-! ### A file that was put in order -/

/-- A document with a shop for customers that are not there. -/
def danglingText : String := "channels:\n- for:\n    customer_segments: [cs-a]"

/-- A valid document without it. -/
def orderlyText : String :=
  "version: '2.0'\nmeta:\n  name: Shop\n  portfolio: explore\n  stage: ideation"

def shopFile : PathName := ⟨0, ["m"]⟩

/-- A working directory with this file. -/
def filesWith (bytes : List UInt8) : Files := ⟨[(["w", "m"], .file bytes), (["w"], .directory)]⟩

/-- The file is loaded when it has a shop for customers that are not there, and then put in
order. -/
def shopSteps : List Session.Step :=
  [.write shopFile (Utf8.encode danglingText), .load shopFile,
    .write shopFile (Utf8.encode orderlyText)]

/-- The session after these steps. -/
def overwritten : Session where
  directory := ["w"]
  files := filesWith (Utf8.encode orderlyText)
  environment := []
  documents := [(["w", "m"], ⟨0, .ofMapping "m"
    ((Document.mappingOfBytes "m" (Utf8.encode danglingText)).toOption.getD [])⟩)]
  validators := []
  settings := none
  log := .initial
  nextSerial := 1

def shopRequest : Request := ⟨shopFile, some .json, false⟩

variable {t : Files} {bytes : List UInt8} {name : String}

/-- A text that is a path of one part. -/
structure IsPart (name : String) : Prop where
  checked : Files.checkText name = .ok name
  relative : name.startsWith "/" = false
  parts : name.splitOn "/" = [name]

lemma isPart_m : IsPart "m" where
  checked := by
    rw [Files.checkText, if_neg (by simp)]
    rfl
  relative := by simp
  parts := by
    rw [String.splitOn, if_neg (by decide), String.splitOnAux, if_neg (by decide),
      if_neg (by decide), String.splitOnAux, if_pos (by decide)]
    rfl

lemma isPart_envFileName : IsPart envFileName where
  checked := by
    rw [envFileName, Files.checkText, if_neg (by simp)]
    rfl
  relative := by simp [envFileName]
  parts := by
    rw [envFileName, String.splitOn, if_neg (by decide)]
    iterate 4 rw [String.splitOnAux, if_neg (by decide), if_neg (by decide)]
    rw [String.splitOnAux, if_pos (by decide)]
    rfl

/-- A path of one part is followed in one step. -/
lemma IsPart.find_eq (part : IsPart name) :
    t.find ["w"] name = (do
      match t.at? (← t.enter ["w"] name) with
      | some entry => return entry
      | none => throw .missing) := by
  rw [Files.find, part.checked]
  dsimp only [bind, Except.bind]
  rw [part.relative, part.parts]
  simp only [Bool.false_eq_true, if_false]
  rw [List.foldlM_cons]
  cases t.enter ["w"] name <;> rfl

lemma text_shopFile : shopFile.text = "m" := by rfl

lemma find_shopFile : (filesWith bytes).find ["w"] shopFile.text = .ok (.file bytes) := by
  rw [text_shopFile, isPart_m.find_eq]
  rfl

lemma find_envFileName : (filesWith bytes).find ["w"] envFileName = .error .missing := by
  rw [isPart_envFileName.find_eq]
  rfl

lemma write_shopFile (bytes : List UInt8)
    (h : t = ⟨[(["w"], .directory)]⟩ ∨ ∃ old, t = filesWith old) :
    t.write ["w"] bytes shopFile = .ok (filesWith bytes) := by
  rw [Files.write, Files.target, text_shopFile, isPart_m.checked]
  obtain rfl | ⟨old, rfl⟩ := h
  · rfl
  · rfl

lemma makeDirectories_shopFile : t.makeDirectories ["w"] shopFile.parent = (t, .ok ()) := by
  have text : shopFile.parent.text = "." := by rfl
  have made : t.makeDirectory ["w"] shopFile.parent = .ok t := by
    rw [Files.makeDirectory, Files.target, text, Files.checkText, if_neg (by simp)]
    rfl
  rw [Files.makeDirectories, made]

lemma step_write_shopFile {files : Files} (directory : s.directory = ["w"])
    (written : s.files.write s.directory bytes shopFile = .ok files) :
    (s.step (.write shopFile bytes)).session = { s with files } := by
  have made : Session.makeDirectories shopFile.parent s = ⟨[], s, .ok ()⟩ := by
    unfold Session.makeDirectories
    rw [current_bind, directory, makeDirectories_shopFile]
    rfl
  have changed : changeFiles shopFile (fun files directory => files.write directory bytes) s =
      ⟨[], { s with files }, .ok ()⟩ := by
    unfold changeFiles
    rw [current_bind]
    dsimp only
    rw [written]
    rfl
  refine bind_pure_session.trans ?_
  rw [writeFile, bind_of_silent made, changed]

lemma exists_of_any {α ε : Type} {result : Except ε α} {p : α → Bool}
    (h : result.toOption.any p = true) : ∃ a, result = .ok a ∧ p a = true := by
  cases result with
  | error => cases h
  | ok a => exact ⟨a, rfl, h⟩

/-- What is loaded is not in order. -/
lemma exists_dangling :
    ∃ content, Document.mappingOfBytes "m" (Utf8.encode danglingText) = .ok content ∧
      ∃ report, Lint.run (.map content) none = .ok report ∧ report.passed = false := by
  have all : ((Document.mappingOfBytes "m" (Utf8.encode danglingText)).toOption.any fun content =>
      (Lint.run (.map content) none).toOption.any (!·.passed)) = true := by decide +kernel
  obtain ⟨content, read, checked⟩ := exists_of_any all
  obtain ⟨report, ran, errors⟩ := exists_of_any checked
  exact ⟨content, read, report, ran, by simpa using errors⟩

/-- The session is one that these steps lead to. -/
lemma after_shopSteps : (initial ["w"] []).after shopSteps = overwritten := by
  have start : (initial ["w"] []).files = ⟨[(["w"], .directory)]⟩ := by rfl
  obtain ⟨content, parsed, _⟩ := exists_dangling
  let written : Session :=
    { initial ["w"] [] with files := filesWith (Utf8.encode danglingText) }
  let loaded : Session :=
    { written with documents := [(["w", "m"], ⟨0, .ofMapping "m" content⟩)], nextSerial := 1 }
  have first : ((initial ["w"] []).step (.write shopFile (Utf8.encode danglingText))).session =
      written := step_write_shopFile rfl (write_shopFile _ (.inl start))
  have second : (written.step (.load shopFile)).session = loaded := by
    have read : (readMapping shopFile written).result = .ok content := by
      rw [readMapping_of_file find_shopFile, text_shopFile, parsed]
      rfl
    rw [session_load, loadDocument_eq, text_shopFile, if_neg (by simp)]
    refine (readDocument_of_ok read).2.trans ?_
    rw [text_shopFile]
    rfl
  have third : (loaded.step (.write shopFile (Utf8.encode orderlyText))).session = overwritten := by
    refine (step_write_shopFile rfl (write_shopFile _ (.inr ⟨_, rfl⟩))).trans ?_
    rw [overwritten, parsed]
    rfl
  rw [shopSteps, after_cons, first, after_cons, second, after_cons, third]
  rfl

/-- The session with the settings that a run creates. -/
def configured : Session :=
  { overwritten with settings := some ⟨1, .default⟩, nextSerial := 2 }

/-- Without an environment, the settings are those by default. -/
lemma createSettings_of_filesWith (files : s.files = filesWith bytes)
    (directory : s.directory = ["w"]) (environment : s.environment = []) :
    createSettings [] s = ⟨[], s, .ok Settings.default⟩ := by
  have unset : envFileBindings s = ⟨[], s, .ok []⟩ := by
    unfold envFileBindings
    rw [current_bind, files, directory, find_envFileName]
    rfl
  have loaded : Settings.load ⟨[], [], []⟩ = .ok Settings.default := by rfl
  unfold createSettings
  rw [bind_of_silent unset, current_bind]
  rw [environment, loaded]
  rfl

lemma settingsInForce_overwritten :
    (settingsInForce [] overwritten).result = .ok ⟨1, Settings.default⟩ ∧
      (settingsInForce [] overwritten).session = configured := by
  have created := createSettings_of_filesWith (s := overwritten) rfl rfl rfl
  rw [settingsInForce_of_none rfl, replaceSettings_of_ok (by rw [created])]
  exact ⟨rfl, rfl⟩

/-- The text is valid and in order. -/
lemma exists_orderlyText :
    ∃ content, Document.mappingOfBytes "m" (Utf8.encode orderlyText) = .ok content ∧
      (∃ report, Validation.run (.map content) none = .ok report ∧ report.valid = true) ∧
      ∃ report, Lint.run (.map content) none = .ok report ∧ report.passed = true ∧
        report.warnings = [] := by
  have all : ((Document.mappingOfBytes "m" (Utf8.encode orderlyText)).toOption.any fun content =>
      (Validation.run (.map content) none).toOption.any (·.valid) &&
        (Lint.run (.map content) none).toOption.any fun report =>
          report.passed && report.warnings.isEmpty) = true := by decide +kernel
  obtain ⟨content, parsed, checked⟩ := exists_of_any all
  obtain ⟨valid, passed⟩ := Bool.and_eq_true_iff.1 checked
  obtain ⟨report, ran, passed⟩ := exists_of_any passed
  exact ⟨content, parsed, exists_of_any valid, report, ran, by simpa using passed⟩

/-- The file is read as what it holds. -/
lemma readMapping_filesWith (files : s.files = filesWith bytes) (directory : s.directory = ["w"]) :
    (readMapping shopFile s).result = (Document.mappingOfBytes "m" bytes).mapError .load := by
  rw [readMapping_of_file (by rw [files, directory, find_shopFile]), text_shopFile]

/-- The file as it is now is valid and in order. -/
lemma exists_orderly :
    ∃ content, (readMapping shopFile configured).result = .ok content ∧
      (∃ report, (validate (.map content) none none configured).result = .ok report ∧
        report.valid = true) ∧
      ∃ report, Lint.run (.map content) none = .ok report ∧ report.passed = true ∧
        report.warnings = [] := by
  obtain ⟨content, parsed, ⟨report, validated, valid⟩, lint⟩ := exists_orderlyText
  have set : configured.settings = some ⟨1, .default⟩ := rfl
  have placed : (schemaPlace none configured).result = .ok .packaged := by
    rw [schemaPlace_none_of_some set]
    rfl
  refine ⟨content, ?_, ⟨report, ?_, valid⟩, lint⟩
  · rw [readMapping_filesWith rfl rfl, parsed]
    rfl
  · rw [validate_of_packaged placed rfl, validated]
    rfl

lemma passes_overwritten : Passes overwritten shopRequest .json false := by
  obtain ⟨set, made⟩ := settingsInForce_overwritten
  obtain ⟨content, read, ⟨report, validated, valid⟩, _⟩ := exists_orderly
  have format : formatOf shopRequest overwritten = ⟨[], overwritten, .ok .json⟩ := by rfl
  refine ⟨by rw [format], ⟨_, by rw [format, set], rfl⟩, report, ?_, valid⟩
  rw [format, made]
  exact (congrArg Outcome.result (validateFile_eq_of_read read)).trans validated

/-- The document that is kept is not in order, so that linting does not pass. -/
lemma Reports.of_overwritten {content : Mapping}
    (reports : Reports .json false (documentFor overwritten shopFile content) outcome) :
    outcome.result = .ok 1 := by
  obtain ⟨dangling, parsed, report, ran, failed⟩ := exists_dangling
  have kept : documentFor overwritten shopFile content = .ofMapping "m" dangling := by
    change Document.ofMapping "m" (Except.toOption _ |>.getD []) = _
    rw [parsed]
    rfl
  rw [kept] at reports
  cases reports with
  | verdict ran' _ ended =>
    cases ran.symm.trans ran'
    rw [ended, succeeds, failed]
    rfl
  | failure ran' => cases ran.symm.trans ran'

/-- Not every run that gets past validation reports on what it has validated: the file that was put
in order would pass. -/
theorem not_reports_current :
    ¬∀ directory environment script request format strict content,
      Passes ((initial directory environment).after script) request format strict →
      (readMapping request.file ((initial directory environment).after script)).result =
        .ok content →
      Reports format strict (.ofMapping request.file.text content)
        (lintCommand request ((initial directory environment).after script)) := by
  intro current
  obtain ⟨content, parsed, _, report, ran, passed, clean⟩ := exists_orderly
  have reports := current ["w"] [] shopSteps shopRequest .json false content
  rw [after_shopSteps] at reports
  have steady : overwritten.Steady configured := ⟨⟨rfl, rfl, Nat.le_succ _⟩, rfl⟩
  have read : (readMapping shopFile overwritten).result = .ok content :=
    (readMapping_of_steady steady).symm.trans parsed
  obtain ⟨_, _, kept⟩ := passes_overwritten.reports
  have failed := kept.of_overwritten
  cases reports passes_overwritten read with
  | verdict ran' _ ended =>
    cases ran.symm.trans ran'
    rw [ended, succeeds, passed, clean] at failed
    cases failed
  | failure ran' => cases ran.symm.trans ran'

end BusinessModel.CommandLine
