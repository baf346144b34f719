import BusinessModel.Proofs.CommandLine.Agreement
import BusinessModel.Proofs.Schema.Report

/-!
# What becomes of files that cannot be loaded

A path leads to nothing, to something that is no document, or to a document; and then there are
paths that cannot be followed and texts with a scalar that has no value of its type.  Validating a
file reports the first two, as one issue about the whole document, and a run ends in that report.
The last two are not reported: they fail the validation, and the run with it.  Texts that stand for
an endless value or for half a character are left aside, as there are no such values here.

* `Document.Parses` — what parsing a text comes to
* `Session.Loads`, `Session.Unloadable`, `Session.Escapes`, `Session.LeftAside` — what a path leads
  to
* `CommandLine.LoadingSettles`, `CommandLine.loading_settles` — what becomes of a file
-/

namespace BusinessModel

/-- What parsing a text comes to: its value, a fault of the text, or a scalar without a value.
Nothing is said of a text whose value would be endless or hold half a character. -/
inductive Document.Parses (source text : String) : Except LoadFault Value → Prop where
  | value {v} :
    Yaml.read text = .ok v →
    Parses source text (.ok v)
  | malformed {fault} {problem : ParseFault} :
    Yaml.read text = .error (.malformed fault) →
    problem.source = source →
    problem.detail = s!"YAML parse error: {fault.problem.message}" →
    Parses source text (.error (.malformed problem))
  | misfit {m} :
    Yaml.read text = .error (.misfit m) →
    m.isBeyond = false →
    Parses source text (.error (.misfit m))
  | leftAside {m result} :
    Yaml.read text = .error (.misfit m) →
    m.isBeyond = true →
    Parses source text result

lemma Document.parses_parse (source text : String) : Parses source text (parse source text) := by
  unfold parse
  cases read : Yaml.read text with
  | ok v => exact .value read
  | error failure =>
    cases failure with
    | malformed fault => exact .malformed read rfl rfl
    | misfit m =>
      cases beyond : m.isBeyond with
      | false => exact .misfit read beyond
      | true => exact .leftAside read beyond

namespace Session

open BusinessModel.Action BusinessModel.CommandLine

variable {s : Session} {settings : Settings} {file : PathName} {m : Mapping} {message : String}
  {fault : Fault} {generation : Option Generation}

/-- A path leads to a file with a document. -/
inductive Loads (s : Session) (file : PathName) (m : Mapping) : Prop where
  | intro {bytes text} :
    s.files.find s.directory file.text = .ok (.file bytes) →
    Utf8.decodeFile bytes = .ok text →
    Yaml.read text = .ok (.map m) →
    Loads s file m

/-- A path leads to nothing, or to something that is no document, and what is said about it. -/
inductive Unloadable (s : Session) (file : PathName) : String → Prop where
  | missing {problem} :
    s.files.find s.directory file.text = .error problem →
    problem.isAbsence = true →
    Unloadable s file s!"File not found: {file.text}"
  | directory :
    s.files.find s.directory file.text = .ok .directory →
    Unloadable s file (ParseFault.ofSource file.text
      s!"Failed to read file: {FileProblem.isDirectory.message file.text}").message
  | undecodable {bytes fault} :
    s.files.find s.directory file.text = .ok (.file bytes) →
    Utf8.decodeFile bytes = .error fault →
    Unloadable s file
      (ParseFault.ofSource file.text s!"Failed to read file: {fault.message}").message
  | malformed {bytes text fault} :
    s.files.find s.directory file.text = .ok (.file bytes) →
    Utf8.decodeFile bytes = .ok text →
    Yaml.read text = .error (.malformed fault) →
    Unloadable s file (Document.faultOf file.text (.malformed fault)).message
  | noMapping {bytes text root} :
    s.files.find s.directory file.text = .ok (.file bytes) →
    Utf8.decodeFile bytes = .ok text →
    Yaml.read text = .ok root →
    (∀ m, root ≠ .map m) →
    Unloadable s file (ParseFault.ofSource file.text
      s!"Expected YAML mapping at document root, got {root.typeName}").message

/-- A path cannot be followed, or leads to a text with a scalar that has no value of its type. -/
inductive Escapes (s : Session) (file : PathName) : Fault → Prop where
  | misfit {bytes text m} :
    s.files.find s.directory file.text = .ok (.file bytes) →
    Utf8.decodeFile bytes = .ok text →
    Yaml.read text = .error (.misfit m) →
    m.isBeyond = false →
    Escapes s file (.load (.misfit m))
  | unreached {problem} :
    s.files.find s.directory file.text = .error problem →
    problem.isAbsence = false →
    Escapes s file (.files problem file.text)

/-- A path leads to a text whose value would be endless or hold half a character. -/
inductive LeftAside (s : Session) (file : PathName) : Prop where
  | intro {bytes text m} :
    s.files.find s.directory file.text = .ok (.file bytes) →
    Utf8.decodeFile bytes = .ok text →
    Yaml.read text = .error (.misfit m) →
    m.isBeyond = true →
    LeftAside s file

/-- Every path leads to a document, to something else or nothing, or nowhere at all, unless it is
left aside. -/
lemma loads_or_unloadable_or_escapes (s : Session) (file : PathName) :
    (∃ m, s.Loads file m) ∨ (∃ message, s.Unloadable file message) ∨
      (∃ fault, s.Escapes file fault) ∨ s.LeftAside file := by
  cases found : s.files.find s.directory file.text with
  | error problem =>
    cases absent : problem.isAbsence with
    | true => exact .inr (.inl ⟨_, .missing found absent⟩)
    | false => exact .inr (.inr (.inl ⟨_, .unreached found absent⟩))
  | ok entry =>
    cases entry with
    | directory => exact .inr (.inl ⟨_, .directory found⟩)
    | file bytes =>
      cases decoded : Utf8.decodeFile bytes with
      | error fault => exact .inr (.inl ⟨_, .undecodable found decoded⟩)
      | ok text =>
        cases read : Yaml.read text with
        | error failure =>
          cases failure with
          | malformed fault => exact .inr (.inl ⟨_, .malformed found decoded read⟩)
          | misfit m =>
            cases beyond : m.isBeyond with
            | false => exact .inr (.inr (.inl ⟨_, .misfit found decoded read beyond⟩))
            | true => exact .inr (.inr (.inr ⟨found, decoded, read, beyond⟩))
        | ok root =>
          by_cases mapping : ∃ m, root = .map m
          · obtain ⟨m, rfl⟩ := mapping
            exact .inl ⟨m, found, decoded, read⟩
          · exact .inr (.inl ⟨_, .noMapping found decoded read (not_exists.1 mapping)⟩)

/-! ### Reading -/

lemma readMapping_of_problem {problem : FileProblem}
    (found : s.files.find s.directory file.text = .error problem) :
    (readMapping file s).result =
      .error (if problem.isAbsence then .load (.missing file.text)
        else .files problem file.text) := by
  rw [readMapping_eq, found]
  rfl

/-- Reading a file that holds a text is parsing the text. -/
lemma readMapping_of_text {bytes : List UInt8} {text : String}
    (found : s.files.find s.directory file.text = .ok (.file bytes))
    (decoded : Utf8.decodeFile bytes = .ok text) :
    (readMapping file s).result = (Document.mappingOfText file.text text).mapError .load := by
  rw [readMapping_of_file found, Document.mappingOfBytes, decoded]

lemma Loads.readMapping (loads : s.Loads file m) :
    (Session.readMapping file s).result = .ok m := by
  obtain ⟨found, decoded, read⟩ := loads
  rw [readMapping_of_text found decoded, Document.mappingOfText, Document.parse, read]
  rfl

lemma Escapes.readMapping (escapes : s.Escapes file fault) :
    (Session.readMapping file s).result = .error fault := by
  cases escapes with
  | misfit found decoded read _ =>
    rw [readMapping_of_text found decoded, Document.mappingOfText, Document.parse, read]
    rfl
  | unreached found absent =>
    rw [readMapping_of_problem found, absent]
    rfl

lemma requireMapping_of_ne {source : String} {root : Value} (other : ∀ m, root ≠ .map m) :
    Document.requireMapping source root = .error (.malformed
      (.ofSource source s!"Expected YAML mapping at document root, got {root.typeName}")) := by
  cases root with
  | map m => exact absurd rfl (other m)
  | scalar | list | tuple | set => rfl

/-- What is said about a file that is no document is the fault that reading it finds. -/
lemma Unloadable.readMapping (unloadable : s.Unloadable file message) :
    (∃ path, (Session.readMapping file s).result = .error (.load (.missing path)) ∧
        message = s!"File not found: {file.text}") ∨
      ∃ problem, (Session.readMapping file s).result = .error (.load (.malformed problem)) ∧
        message = problem.message := by
  cases unloadable with
  | missing found absent =>
    refine .inl ⟨file.text, ?_, rfl⟩
    rw [readMapping_of_problem found, absent]
    rfl
  | directory found =>
    refine .inr ⟨_, ?_, rfl⟩
    rw [readMapping_eq, found]
    rfl
  | undecodable found decoded =>
    refine .inr ⟨_, ?_, rfl⟩
    rw [readMapping_of_file found, Document.mappingOfBytes, decoded]
    rfl
  | malformed found decoded read =>
    refine .inr ⟨_, ?_, rfl⟩
    rw [readMapping_of_text found decoded, Document.mappingOfText, Document.parse, read]
    rfl
  | noMapping found decoded read other =>
    refine .inr ⟨_, ?_, rfl⟩
    rw [readMapping_of_text found decoded, Document.mappingOfText, Document.parse, read]
    exact congrArg (Except.mapError Fault.load) (requireMapping_of_ne other)

/-! ### Validating -/

lemma Unloadable.validateFile (unloadable : s.Unloadable file message) :
    (Session.validateFile file generation s).result =
      .ok (.unreadable (generation.getD .v1) message) := by
  obtain ⟨path, unread, rfl⟩ | ⟨problem, unread, rfl⟩ := unloadable.readMapping
  · rw [validateFile_of_unread unread]
    rfl
  · rw [validateFile_of_unread unread]
    rfl

lemma Escapes.validateFile (escapes : s.Escapes file fault) :
    (Session.validateFile file generation s).result = .error fault := by
  rw [validateFile_of_unread escapes.readMapping]
  cases escapes with
  | misfit => rfl
  | unreached => rfl

lemma Loads.validateFile (loads : s.Loads file m) (fresh : IsFresh s settings) :
    (Session.validateFile file generation s).result =
      (Validation.run (.map m) generation).mapError .longInteger := by
  rw [validateFile_eq_of_read loads.readMapping]
  exact validate_of_packaged fresh.schemaPlace_eq fresh.validators

end Session

namespace CommandLine

open BusinessModel.Session BusinessModel.Validation
open BusinessModel.Schema (Breaks)

variable {s : Session} {settings : Settings} {file : PathName} {generation : Option Generation}

/-- A document has a report if everything that it violates can be said. -/
lemma exists_run_iff {doc : Value} :
    (∃ r, (Validation.run doc generation).mapError Fault.longInteger = .ok r) ↔
      ∀ place node fault, Breaks (packaged (generation.getD (.detect doc))) doc place node fault →
        Schema.Violation.isWritable ⟨place, fault⟩ = true := by
  obtain ⟨writable, checked⟩ | ⟨⟨place, node, fault, breaks, unwritable⟩, failed⟩ :=
    check_cases doc (generation.getD (.detect doc))
  · rw [Validation.run, checked]
    exact iff_of_true ⟨_, rfl⟩ writable
  · rw [Validation.run, failed]
    apply iff_of_false
    · rintro ⟨r, reported⟩
      cases reported
    · intro writable
      exact absurd (writable place node fault breaks) (by simp [unwritable])

/-- A file has a report unless loading it escapes or what it violates cannot be said. -/
lemma exists_report_iff (fresh : IsFresh s settings) (told : ¬s.LeftAside file) :
    (∃ r, (validateFile file generation s).result = .ok r) ↔
      (∀ fault, ¬s.Escapes file fault) ∧ ∀ m, s.Loads file m → ∀ place node fault,
        Breaks (packaged (generation.getD (.detect (.map m)))) (.map m) place node fault →
          Schema.Violation.isWritable ⟨place, fault⟩ = true := by
  constructor
  · rintro ⟨r, reported⟩
    refine ⟨fun fault escapes => ?_, fun m loads => ?_⟩
    · cases escapes.validateFile.symm.trans reported
    · exact exists_run_iff.1 ⟨r, (loads.validateFile fresh).symm.trans reported⟩
  · rintro ⟨caught, writable⟩
    obtain ⟨m, loads⟩ | ⟨message, unloadable⟩ | ⟨fault, escapes⟩ | aside :=
      loads_or_unloadable_or_escapes s file
    · rw [loads.validateFile fresh]
      exact exists_run_iff.2 (writable m loads)
    · exact ⟨_, unloadable.validateFile⟩
    · exact absurd escapes (caught fault)
    · exact absurd aside told

/-- What becomes of a file, in validation and in runs that validate or lint it. -/
structure LoadingSettles (s : Session) (file : PathName) : Prop where
  cases : (∃ m, s.Loads file m) ∨ (∃ message, s.Unloadable file message) ∨
    (∃ fault, s.Escapes file fault) ∨ s.LeftAside file
  /-- What is no document is reported as one issue about the whole of it. -/
  unloadable : ∀ message generation, s.Unloadable file message →
    ∃ r, (validateFile file generation s).result = .ok r ∧ r.valid = false ∧
      r.issues = [⟨"/", message, "PARSE_ERROR"⟩]
  /-- A run ends in that report. -/
  ends : ∀ message settings words command request, s.Unloadable file message →
    IsFresh s settings → command ≠ .graph → Calls s words command request →
    request.file = file → (run words s).result = .ok 1
  /-- A document is validated by the schemas of the program. -/
  loads : ∀ m settings generation, s.Loads file m → IsFresh s settings →
    (validateFile file generation s).result =
      (Validation.run (.map m) generation).mapError .longInteger
  /-- What escapes fails the validation. -/
  escapes : ∀ fault generation, s.Escapes file fault →
    (validateFile file generation s).result = .error fault
  /-- It fails a run, too. -/
  fails : ∀ fault settings words command request, s.Escapes file fault →
    IsFresh s settings → command ≠ .graph → Calls s words command request →
    request.file = file → (run words s).result = .error fault
  /-- There is a report unless something escapes, or a violation had to show an integer that is too
  long to be written. -/
  reported : ∀ settings generation, IsFresh s settings → ¬s.LeftAside file →
    ((∃ r, (validateFile file generation s).result = .ok r) ↔
      (∀ fault, ¬s.Escapes file fault) ∧ ∀ m, s.Loads file m → ∀ place node fault,
        Breaks (packaged (generation.getD (.detect (.map m)))) (.map m) place node fault →
          Schema.Violation.isWritable ⟨place, fault⟩ = true)

/-- Failures to load a file are reported, but for those of paths that cannot be followed and of
scalars without a value, which escape. -/
theorem loading_settles (s : Session) (file : PathName) :
    (∀ source text, Document.Parses source text (Document.parse source text)) ∧
      LoadingSettles s file := by
  refine ⟨Document.parses_parse, loads_or_unloadable_or_escapes s file, ?_, ?_, ?_, ?_, ?_, ?_⟩
  · intro message generation unloadable
    exact ⟨_, unloadable.validateFile, rfl, rfl⟩
  · rintro message settings words command request unloadable fresh other calls rfl
    exact (fresh.run_of_invalid other calls unloadable.validateFile rfl).ends.exit
  · intro m settings generation loads fresh
    exact loads.validateFile fresh
  · intro fault generation escapes
    exact escapes.validateFile
  · rintro fault settings words command request escapes fresh other calls rfl
    exact fresh.run_of_error other calls escapes.validateFile
  · intro settings generation fresh told
    exact exists_report_iff fresh told

/-- A text with a day that no month has. -/
def leapText : String := "created: 2024-02-30"

/-- A session at the start of a process, with this text in a file. -/
def leap : Session :=
  { Session.initial ["w"] [] with files := filesWith (Utf8.encode leapText) }

lemma eq_error_of_map_const {ε α : Type} {result : Except ε α} {fault : ε}
    (h : result.map (fun _ => ()) = .error fault) : result = .error fault := by
  cases result with
  | error e => exact congrArg Except.error (Except.error.inj h)
  | ok a => cases h

lemma read_leapText :
    Utf8.decodeFile (Utf8.encode leapText) = .ok leapText ∧
      Yaml.read leapText = .error (.misfit (.calendar .dayRange)) := by
  have decoded : (Utf8.decodeFile (Utf8.encode leapText)).toOption.any (· == leapText) = true := by
    decide +kernel
  -- Equality of values is not decidable here, so the value is left out.
  have read : (Yaml.read leapText).map (fun _ => ()) = .error (.misfit (.calendar .dayRange)) := by
    decide +kernel
  obtain ⟨text, decoded, same⟩ := exists_of_any decoded
  exact ⟨by rw [decoded, beq_iff_eq.1 same], eq_error_of_map_const read⟩

lemma isFresh_leap : IsFresh leap .default :=
  ⟨rfl, rfl, rfl, rfl, by rw [createSettings_of_filesWith rfl rfl rfl], rfl⟩

lemma escapes_leap : leap.Escapes shopFile (.load (.misfit (.calendar .dayRange))) :=
  .misfit find_shopFile read_leapText.1 read_leapText.2 rfl

/-- Neither validating this file nor a run that validates it comes to a report, and parsing the text
does not say what is wrong with it. -/
theorem not_reported_leap :
    IsFresh leap .default ∧
      leap.files.find leap.directory shopFile.text = .ok (.file (Utf8.encode leapText)) ∧
      (¬∃ r, (validateFile shopFile none leap).result = .ok r) ∧
      (∀ code, (run (wordsFor .validate none false "m") leap).result ≠ .ok code) ∧
      (∀ code, (run (wordsFor .lint none false "m") leap).result ≠ .ok code) ∧
      (∀ v, Document.parse "" leapText ≠ .ok v) ∧
      ∀ problem, Document.parse "" leapText ≠ .error (.malformed problem) := by
  have failed : (validateFile shopFile none leap).result =
      .error (.load (.misfit (.calendar .dayRange))) := escapes_leap.validateFile
  have parsed : Document.parse "" leapText = .error (.misfit (.calendar .dayRange)) := by
    rw [Document.parse, read_leapText.2]
    rfl
  have fails : ∀ command, command ≠ .graph →
      (run (wordsFor command none false "m") leap).result =
        .error (.load (.misfit (.calendar .dayRange))) := by
    intro command other
    exact isFresh_leap.run_of_error other (calls_shopFile rfl rfl rfl nofun) failed
  refine ⟨isFresh_leap, find_shopFile, ?_, ?_, ?_, ?_, ?_⟩
  · rintro ⟨r, reported⟩
    cases failed.symm.trans reported
  · intro code
    rw [fails .validate nofun]
    nofun
  · intro code
    rw [fails .lint nofun]
    nofun
  · intro v
    rw [parsed]
    nofun
  · intro problem
    rw [parsed]
    nofun

end CommandLine

end BusinessModel
