import BusinessModel.Proofs.Session.Composed

/-!
# Actions that have nothing to do with kept documents

All that can be done in a session, but for loading documents and forgetting them, is the same
whatever documents are kept, and keeps them as they are.

* `Session.Steady` — nothing of what documents depend on has changed
* `Action.Detached` — an action neither reads nor changes the documents that are kept
* `Action.detached` — such actions are built of such actions
* `Session.detached_validateFile` — such an action that keeps a schema
-/

namespace BusinessModel

/-- A later session in the same directory, with the same documents, in which no serial number is
given again. -/
structure Session.Still (s t : Session) : Prop where
  directory : t.directory = s.directory
  documents : t.documents = s.documents
  serial : s.nextSerial ≤ t.nextSerial

lemma Session.Still.refl (s : Session) : s.Still s := ⟨rfl, rfl, Nat.le_refl _⟩

lemma Session.Still.trans {s t u : Session} (h : s.Still t) (h' : t.Still u) : s.Still u :=
  ⟨h'.directory.trans h.directory, h'.documents.trans h.documents,
    Nat.le_trans h.serial h'.serial⟩

/-- A later session that is among the same files, too. -/
structure Session.Steady (s t : Session) : Prop extends s.Still t where
  files : t.files = s.files

lemma Session.Steady.refl (s : Session) : s.Steady s := ⟨.refl s, rfl⟩

lemma Session.Steady.trans {s t u : Session} (h : s.Steady t) (h' : t.Steady u) : s.Steady u :=
  ⟨h.toStill.trans h'.toStill, h'.files.trans h.files⟩

/-- An action neither reads nor changes the documents that are kept: with other ones it does and
says the same.  It does not change the files either. -/
structure Action.Detached {α : Type} (action : Action α) : Prop where
  apart : ∀ s documents, action { s with documents } =
    { action s with session := { (action s).session with documents } }
  steady : ∀ s : Session, s.Steady (action s).session

namespace Action

variable {α β : Type} {first : Action α} {next : α → Action β}

lemma detached_iff {action : Action α} :
    action.Detached ↔
      (∀ documents, action.Commutes (Session.refill (fun _ => documents) id)) ∧
        ∀ s : Session, s.Steady (action s).session :=
  ⟨fun h => ⟨fun documents s => h.apart s documents, h.steady⟩,
    fun h => ⟨fun s documents => h.1 documents s, h.2⟩⟩

lemma unrelated_steady : Unrelated Session.Steady where
  refl := .refl
  trans := .trans
  serial _ := ⟨⟨rfl, rfl, Nat.le_succ _⟩, rfl⟩
  settings _ _ := ⟨⟨rfl, rfl, Nat.le_refl _⟩, rfl⟩
  environment _ _ := ⟨⟨rfl, rfl, Nat.le_refl _⟩, rfl⟩
  log _ _ := ⟨⟨rfl, rfl, Nat.le_refl _⟩, rfl⟩

/-- One action after another. -/
lemma Detached.bind (h : first.Detached) (h' : ∀ a, (next a).Detached) :
    (first >>= next).Detached := by
  rw [detached_iff] at h
  refine detached_iff.2 ⟨fun documents => ?_, fun s => ?_⟩
  · exact (h.1 documents).bind fun a => (detached_iff.1 (h' a)).1 documents
  · exact session_bind unrelated_steady (h.2 s) fun a => (h' a).steady

/-- Looking at the session, but not at the documents that are kept. -/
lemma Detached.look {look : Session → Action α}
    (same : ∀ s documents, look { s with documents } = look s) (h : ∀ s, (look s).Detached) :
    (current >>= look).Detached where
  apart s documents := by
    rw [current_bind, same]
    exact (h s).apart s documents
  steady s := (h s).steady s

lemma detached : Composes Detached :=
  have apart {documents} : Composes (Commutes (Session.refill (fun _ => documents) id)) :=
    composes_commutes _ _
  have steady := composes_session unrelated_steady
  { ofExcept := detached_iff.2 ⟨fun _ => apart.ofExcept, steady.ofExcept⟩
    say := detached_iff.2 ⟨fun _ => apart.say, steady.say⟩
    note := detached_iff.2 ⟨fun _ => apart.note, steady.note⟩
    report := detached_iff.2 ⟨fun _ => apart.report, steady.report⟩
    keep := detached_iff.2 ⟨fun _ => apart.keep, steady.keep⟩
    settings := detached_iff.2 ⟨fun _ => apart.settings, steady.settings⟩
    environment := detached_iff.2 ⟨fun _ => apart.environment, steady.environment⟩
    log := detached_iff.2 ⟨fun _ => apart.log, steady.log⟩
    bind := Detached.bind
    look := fun same h => Detached.look (fun s documents => same s documents s.validators) h
    orElseLoad := fun h h' => detached_iff.2
      ⟨fun documents => apart.orElseLoad ((detached_iff.1 h).1 documents) fun fault =>
          (detached_iff.1 (h' fault)).1 documents,
        steady.orElseLoad h.steady fun fault => (h' fault).steady⟩ }

end Action

/-! ### Schemas -/

namespace Session

open BusinessModel.Action

variable {path : PathName} {generation : Option Generation} {g : Generation}
  {directory : Option PathName} {doc : Value}

/-- A change of the kept schemas. -/
lemma detached_validators {f : List ((SchemaPlace × Generation) × Schema) →
    List ((SchemaPlace × Generation) × Schema)} :
    (change fun s => { s with validators := f s.validators }).Detached :=
  ⟨fun _ _ => rfl, fun _ => ⟨⟨rfl, rfl, Nat.le_refl _⟩, rfl⟩⟩

lemma detached_validator : (validator g directory).Detached := by
  refine detached.schemaPlace.bind fun place => Detached.look (fun _ _ => rfl) fun s => ?_
  split
  · exact detached.done
  · refine detached.schemaIn.bind fun schema => Detached.bind ?_ fun _ => detached.done
    exact detached_validators (f := fun kept => ((place, g), schema) :: kept)

lemma detached_validate : (validate doc generation directory).Detached := by
  have checked : ∀ g, (validator g directory >>= reportOn g doc).Detached := fun g =>
    detached_validator.bind fun schema => detached.reportOn
  cases generation with
  | none => exact detached.noteDetection.bind fun _ => checked _
  | some g => exact checked g

lemma detached_validateFile : (validateFile path generation).Detached := by
  refine detached.readForReport.bind fun read => ?_
  cases read with
  | inl content => exact detached_validate
  | inr report => exact detached.done

lemma detached_entryAbout {service source : String} {subject : LogSubject} :
    (entryAbout service source subject).Detached := by
  cases subject with
  | lint => exact detached.ofExcept.bind fun _ => detached.done
  | validation => exact detached_validate.bind fun _ => detached.done
  | graph => exact detached.done

lemma detached_validateCommand {request : CommandLine.Request} :
    (CommandLine.validateCommand request).Detached := by
  refine detached_validateFile.bind fun report => detached.logViolations.bind fun _ => ?_
  exact detached.formatOf.bind fun _ => detached.say.bind fun _ =>
    detached.done

end Session

end BusinessModel
