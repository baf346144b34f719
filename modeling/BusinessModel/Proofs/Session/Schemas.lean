import BusinessModel.Proofs.CommandLine.Call
import BusinessModel.Proofs.Session.Documents

/-!
# Asking for a schema

A document is validated with the schema of its generation in some place.  If none is kept, it is
read, and kept if it is sound.  A schema that is not sound fails the validation and leaves the kept
ones as they are.

* `Session.schemaIn_of_sameFile` — which schema is in a place
* `Session.schemaFor` — the schema that is used for a generation in a place
* `Session.Asked` — what becomes of the kept schemas when one is asked for
* `Session.validate_result`, `Session.asked_validate` — what validating comes to
* `Session.validate_refill` — it does not matter what else is kept
* `Session.validateFile_eq_of_read` — files are validated as their content
-/

namespace BusinessModel

namespace Session

open BusinessModel.Action

variable {s t u : Session} {settings : Settings} {place : SchemaPlace} {g : Generation}
  {generation : Option Generation} {directory : Option PathName} {doc : Value} {file : PathName}
  {content : Mapping} {fault : Fault} {schema : Schema}

/-- A later session in the same directory, among the same files, with the same schemas. -/
structure SameSchemas (s t : Session) : Prop where
  directory : t.directory = s.directory
  files : t.files = s.files
  validators : t.validators = s.validators

lemma SameSchemas.refl (s : Session) : s.SameSchemas s := ⟨rfl, rfl, rfl⟩

lemma SameSchemas.trans (h : s.SameSchemas t) (h' : t.SameSchemas u) : s.SameSchemas u :=
  ⟨h'.directory.trans h.directory, h'.files.trans h.files, h'.validators.trans h.validators⟩

lemma unrelated_sameSchemas : Unrelated SameSchemas where
  refl := .refl
  trans := .trans
  serial _ := ⟨rfl, rfl, rfl⟩
  settings _ _ := ⟨rfl, rfl, rfl⟩
  environment _ _ := ⟨rfl, rfl, rfl⟩
  log _ _ := ⟨rfl, rfl, rfl⟩

lemma sameSchemas : Composes fun action => ∀ s, SameSchemas s (action s).session :=
  composes_session unrelated_sameSchemas

/-! ### Where schemas come from -/

/-- The place of schemas that settings name. -/
def placeOf (settings : Settings) : SchemaPlace :=
  match settings.schemaPath with
  | some path => .directory path.text
  | none => .packaged

lemma placeOf_of_packaged (packaged : settings.schemaPath = none) :
    placeOf settings = .packaged := by
  rw [placeOf, packaged]

/-- Without a directory, the settings in force tell the place of schemas. -/
lemma schemaPlace_none :
    (schemaPlace none s).result =
      (settingsInForce [] s).result.map fun kept => placeOf kept.value := by
  unfold schemaPlace placeOf
  dsimp only
  cases returned : (settingsInForce [] s).result with
  | error fault =>
    rw [bind_of_error returned]
    rfl
  | ok kept =>
    rw [bind_of_ok returned]
    simp only [Except.map]
    cases kept.value.schemaPath with
    | none => rfl
    | some path => rfl

lemma schemaPlace_none_of_some {kept : Kept Settings} (set : s.settings = some kept) :
    schemaPlace none s = ⟨[], s, .ok (placeOf kept.value)⟩ := by
  unfold schemaPlace placeOf
  dsimp only
  rw [bind_of_silent (settingsInForce_of_some set)]
  cases kept.value.schemaPath with
  | none => rfl
  | some path => rfl

/-- In both sessions, the same stands where the schema of a generation in a place is read. -/
def SameFile (place : SchemaPlace) (g : Generation) (s t : Session) : Prop :=
  ∀ path, place = .directory path →
    t.files.find t.directory ((PathName.ofText path).child (schemaFileName g)).text =
      s.files.find s.directory ((PathName.ofText path).child (schemaFileName g)).text

lemma readSchema_of_sameFile {path : String} (same : SameFile (.directory path) g s t) :
    readSchema path g t = ⟨[], t, (readSchema path g s).result⟩ := by
  unfold readSchema
  rw [current_bind, current_bind, same path rfl]
  cases s.files.find s.directory ((PathName.ofText path).child (schemaFileName g)).text with
  | error problem => rfl
  | ok entry =>
    cases entry with
    | directory => rfl
    | file bytes =>
      dsimp only
      cases Utf8.decodeFile bytes <;> rfl

/-- The schema that is in a place depends on nothing but its file. -/
lemma schemaIn_of_sameFile (same : SameFile place g s t) :
    schemaIn place g t = ⟨[], t, (schemaIn place g s).result⟩ := by
  unfold schemaIn
  cases place with
  | packaged => rfl
  | directory path =>
    have there := readSchema_of_sameFile same
    dsimp only
    cases read : (readSchema path g s).result with
    | error fault =>
      rw [read] at there
      rw [bind_of_error read, bind_of_eq_error there]
    | ok doc =>
      rw [read] at there
      rw [bind_of_ok read, bind_of_silent there]
      rfl

lemma schemaIn_of_same (place : SchemaPlace) (g : Generation) (files : t.files = s.files)
    (directory : t.directory = s.directory) :
    schemaIn place g t = ⟨[], t, (schemaIn place g s).result⟩ :=
  schemaIn_of_sameFile fun _ _ => by rw [files, directory]

/-! ### Asking for a schema -/

/-- The schema that is used for a generation in a place: the one that is kept, or else the one that
is there now. -/
def schemaFor (s : Session) (place : SchemaPlace) (g : Generation) : Except Fault Schema :=
  match s.validators.lookup (place, g) with
  | some schema => .ok schema
  | none => (schemaIn place g s).result

/-- What becomes of the kept schemas when the one for a generation in a place is asked for. -/
inductive Asked (s : Session) (place : SchemaPlace) (g : Generation) (t : Session) : Prop where
  | kept {schema : Schema} :
    s.validators.lookup (place, g) = some schema →
    s.SameSchemas t →
    Asked s place g t
  | unsound {fault : Fault} :
    s.validators.lookup (place, g) = none →
    (schemaIn place g s).result = .error fault →
    s.SameSchemas t →
    Asked s place g t
  | compiled {schema : Schema} :
    s.validators.lookup (place, g) = none →
    (schemaIn place g s).result = .ok schema →
    t.directory = s.directory →
    t.files = s.files →
    t.validators = ((place, g), schema) :: s.validators →
    Asked s place g t

lemma Asked.after (asked : t.Asked place g u) (same : s.SameSchemas t) : s.Asked place g u := by
  have found : (schemaIn place g t).result = (schemaIn place g s).result := by
    rw [schemaIn_of_same _ _ same.files same.directory]
  cases asked with
  | kept found later =>
    rw [same.validators] at found
    exact .kept found (same.trans later)
  | unsound absent failed later =>
    rw [same.validators] at absent
    exact .unsound absent (found.symm.trans failed) (same.trans later)
  | compiled absent sound directory files validators =>
    rw [same.validators] at absent validators
    exact .compiled absent (found.symm.trans sound) (directory.trans same.directory)
      (files.trans same.files) validators

lemma Asked.before (asked : s.Asked place g t) (same : t.SameSchemas u) : s.Asked place g u := by
  cases asked with
  | kept found earlier => exact .kept found (earlier.trans same)
  | unsound absent failed earlier => exact .unsound absent failed (earlier.trans same)
  | compiled absent sound directory files validators =>
    exact .compiled absent sound (same.directory.trans directory) (same.files.trans files)
      (same.validators.trans validators)

/-- Finding the schema to validate with, once its place is known. -/
lemma validator_of_ok (placed : (schemaPlace directory s).result = .ok place) :
    ∃ validators, s.Asked place g { (schemaPlace directory s).session with validators } ∧
      validator g directory s = ⟨(schemaPlace directory s).notices,
        { (schemaPlace directory s).session with validators }, s.schemaFor place g⟩ := by
  have same : s.SameSchemas (schemaPlace directory s).session := sameSchemas.schemaPlace s
  have found := schemaIn_of_same place g same.files same.directory
  unfold validator schemaFor
  rw [bind_of_ok placed, current_bind]
  -- Finding the place may put settings in force, but schemas are looked up as at the start.
  generalize schemaPlace directory s = outcome at same found
  obtain ⟨notices, t, _⟩ := outcome
  dsimp only at same found ⊢
  rw [same.validators]
  cases kept : s.validators.lookup (place, g) with
  | some schema =>
    refine ⟨t.validators, .kept kept ⟨same.directory, same.files, same.validators⟩, ?_⟩
    exact congrArg (Outcome.mk · _ _) (List.append_nil _)
  | none =>
    dsimp only
    cases sound : (schemaIn place g s).result with
    | error fault =>
      rw [sound] at found
      rw [bind_of_eq_error found]
      refine ⟨t.validators,
        .unsound kept sound ⟨same.directory, same.files, same.validators⟩, ?_⟩
      exact congrArg (Outcome.mk · _ _) (List.append_nil _)
    | ok schema =>
      rw [sound] at found
      rw [bind_of_silent found]
      refine ⟨((place, g), schema) :: t.validators,
        .compiled kept sound same.directory same.files (by rw [same.validators]), ?_⟩
      exact congrArg (Outcome.mk · _ _) (List.append_nil _)

lemma validator_of_error (failed : (schemaPlace directory s).result = .error fault) :
    validator g directory s =
      ⟨(schemaPlace directory s).notices, (schemaPlace directory s).session, .error fault⟩ := by
  unfold validator
  rw [bind_of_error failed]

/-! ### Validating -/

lemma says_reportOn {kind : Notice → Prop} (h : ∀ d, kind (.diagnostic d)) :
    (reportOn g doc schema).Says kind := by
  refine says_ofExcept.bind fun report => ?_
  split
  · exact (says_note h).bind fun _ => says_ofExcept
  · exact says_ofExcept

lemma reportOn_result :
    (reportOn g doc schema s).result = (Validation.check g schema doc).mapError .longInteger := by
  unfold reportOn
  cases Validation.check g schema doc with
  | error fault => rfl
  | ok report =>
    rw [bind_of_ok rfl]
    split
    · rfl
    · rfl

/-- Validating looks for a schema and reports on the document. -/
lemma validate_some_of_ok (doc : Value) (g : Generation)
    (placed : (schemaPlace directory s).result = .ok place) :
    ∃ validators, s.Asked place g { (schemaPlace directory s).session with validators } ∧
      let reported := (ofExcept (s.schemaFor place g) >>= reportOn g doc)
        (schemaPlace directory s).session
      validate doc (some g) directory s = ⟨(schemaPlace directory s).notices ++ reported.notices,
        { (schemaPlace directory s).session with validators }, reported.result⟩ := by
  obtain ⟨validators, asked, found⟩ := validator_of_ok (g := g) placed
  refine ⟨validators, asked, ?_⟩
  change (validator g directory >>= reportOn g doc) s = _
  cases sound : s.schemaFor place g with
  | error fault =>
    rw [sound] at found
    rw [bind_of_eq_error found, bind_of_error rfl]
    exact congrArg (Outcome.mk · _ _) (List.append_nil _).symm
  | ok schema =>
    rw [sound] at found
    rw [bind_of_eq_ok found, bind_of_ok rfl]
    -- A report has nothing to do with what is kept, so it is the same before the schema is kept.
    have apart : reportOn g doc schema { (schemaPlace directory s).session with validators } = _ :=
      (composes_commutes id fun _ => validators).reportOn (schemaPlace directory s).session
    have kept : (reportOn g doc schema).Says fun _ => True := says_reportOn fun _ => trivial
    have same : (reportOn g doc schema (schemaPlace directory s).session).session =
        (schemaPlace directory s).session := (kept _).1
    rw [apart, same]
    rfl

lemma validate_some_of_error (failed : (schemaPlace directory s).result = .error fault) :
    validate doc (some g) directory s =
      ⟨(schemaPlace directory s).notices, (schemaPlace directory s).session, .error fault⟩ := by
  have found := validator_of_error (g := g) failed
  change (validator g directory >>= reportOn g doc) s = _
  rw [bind_of_eq_error found]

/-- A generation that is detected is named. -/
lemma validate_eq :
    validate doc generation directory s =
      let validated := validate doc (some (generation.getD (Generation.detect doc))) directory s
      { validated with
        notices := (if generation.isNone then (noteDetection doc s).notices else []) ++
          validated.notices } := by
  cases generation with
  | some g => rfl
  | none =>
    obtain ⟨noted, same⟩ := noteDetection_of_any (s := s) doc
    change (noteDetection doc >>= fun _ =>
      validate doc (some (Generation.detect doc)) directory) s = _
    rw [bind_of_ok noted, same]
    rfl

/-- The report on a document is about the schema that is used. -/
lemma validate_result (placed : (schemaPlace directory s).result = .ok place) :
    (validate doc generation directory s).result =
      (s.schemaFor place (generation.getD (Generation.detect doc))).bind fun schema =>
        (Validation.check (generation.getD (Generation.detect doc)) schema doc).mapError
          .longInteger := by
  obtain ⟨validators, -, validated⟩ := validate_some_of_ok doc
    (generation.getD (Generation.detect doc)) placed
  rw [validate_eq, validated]
  dsimp only
  cases found : s.schemaFor place (generation.getD (Generation.detect doc)) with
  | error fault =>
    rw [bind_of_error rfl]
    rfl
  | ok schema =>
    rw [bind_of_ok rfl]
    exact reportOn_result

/-- The report on a document against a schema that comes with the program. -/
lemma validate_of_packaged {doc : Value} (placed : (schemaPlace none s).result = .ok .packaged)
    (empty : s.validators = []) :
    (validate doc generation none s).result =
      (Validation.run doc generation).mapError .longInteger := by
  have found : s.schemaFor .packaged (generation.getD (Generation.detect doc)) =
      .ok (Validation.packaged (generation.getD (Generation.detect doc))) := by
    unfold schemaFor
    rw [empty]
    rfl
  rw [validate_result placed, found]
  rfl

lemma asked_validate (doc : Value) (generation : Option Generation)
    (placed : (schemaPlace directory s).result = .ok place) :
    s.Asked place (generation.getD (Generation.detect doc))
      (validate doc generation directory s).session := by
  obtain ⟨validators, asked, validated⟩ := validate_some_of_ok doc
    (generation.getD (Generation.detect doc)) placed
  rw [validate_eq, validated]
  exact asked

lemma validate_of_error (doc : Value) (generation : Option Generation)
    (failed : (schemaPlace directory s).result = .error fault) :
    (validate doc generation directory s).result = .error fault ∧
      s.SameSchemas (validate doc generation directory s).session := by
  rw [validate_eq, validate_some_of_error failed]
  exact ⟨rfl, sameSchemas.schemaPlace s⟩

lemma readMapping_of_any : readMapping file s = ⟨[], s, (readMapping file s).result⟩ := by
  rw [readMapping_eq]
  cases s.files.find s.directory file.text with
  | error => rfl
  | ok entry => cases entry <;> rfl

/-- A file that can be read is validated as its content. -/
lemma validateFile_eq_of_read (read : (readMapping file s).result = .ok content) :
    validateFile file generation s = validate (.map content) generation none s := by
  have found : ((Sum.inl <$> readMapping file : Action (Mapping ⊕ Validation.Report)) s) =
      ⟨[], s, .ok (.inl content)⟩ := by
    rw [map_apply, readMapping_of_any, read]
    rfl
  unfold validateFile
  rw [bind_of_ok (by rw [orElseLoad_of_ok (by rw [found]), found]),
    orElseLoad_of_ok (by rw [found]), found]
  rfl

/-- A file that cannot be read is not validated. -/
lemma validateFile_of_unread (unread : (readMapping file s).result = .error fault) :
    validateFile file generation s = ⟨[], s,
      match fault with
      | .load reason => (unreadableReport file generation reason s).result
      | fault => .error fault⟩ := by
  have failed : ((Sum.inl <$> readMapping file : Action (Mapping ⊕ Validation.Report)) s) =
      ⟨[], s, .error fault⟩ := by
    rw [map_apply, readMapping_of_any, unread]
    rfl
  unfold validateFile
  -- Failures to load are reported but for misfits, which are handed on like all other ones.
  by_cases load : ∃ reason, fault = .load reason
  · obtain ⟨reason, rfl⟩ := load
    have load : ((Sum.inl <$> readMapping file : Action (Mapping ⊕ Validation.Report)) s).result =
        .error (.load reason) := by rw [failed]
    cases reason with
    | missing | malformed =>
      rw [bind_of_ok (by rw [orElseLoad_of_load load, failed]; rfl), orElseLoad_of_load load,
        failed]
      rfl
    | misfit =>
      rw [bind_of_error (by rw [orElseLoad_of_load load, failed]; rfl), orElseLoad_of_load load,
        failed]
      rfl
  · have other : ∀ reason, ((Sum.inl <$> readMapping file :
        Action (Mapping ⊕ Validation.Report)) s).result ≠ .error (.load reason) := by
      intro reason same
      rw [failed] at same
      exact load ⟨reason, Except.error.inj same⟩
    rw [bind_of_error (by rw [orElseLoad_of_not_load other, failed]), orElseLoad_of_not_load other,
      failed]
    cases fault <;> first | rfl | exact absurd ⟨_, rfl⟩ load

end Session

end BusinessModel
