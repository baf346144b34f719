import BusinessModel.Proofs.Session.Documents
import Mathlib.Data.List.Induction

/-!
# The documents of whole sessions

Which document a load returns is told by the steps before it.  It is the one that was read by the
first load from its place since documents were last forgotten; until they are forgotten again, it is
the one that every load from that place returns, whatever happens to the file.

* `Session.after` — a session after some steps
* `Session.Moves.lookup` — a kept document stays kept until documents are forgotten
* `Session.firstLoad_of_lookup` — a kept document was read by some step
* `Session.WellKept` — documents at different places have different serial numbers
* `Session.Keeps`, `Session.initial_keeps` — what a session keeps
-/

namespace BusinessModel.Session

open BusinessModel.Action

variable {s t : Session} {script before between rest : List Step} {step : Step}
  {path file file' : PathName} {place : List String} {kept kept' : Kept Document}
  {content : Mapping}

/-! ### Scripts -/

/-- A session after some steps. -/
def after (s : Session) (script : List Step) : Session :=
  script.foldl (fun s step => (s.step step).session) s

lemma after_append : s.after (before ++ script) = (s.after before).after script :=
  List.foldl_append

lemma after_concat : s.after (script ++ [step]) = ((s.after script).step step).session :=
  after_append

/-- Each outcome of a script is that of its step in the session after the steps before it. -/
lemma getElem?_steps (s : Session) (script : List Step) (i : Nat) :
    (s.steps script)[i]? = script[i]?.map (s.after (script.take i)).step := by
  induction script generalizing s i with
  | nil => rfl
  | cons step rest ih =>
    cases i with
    | zero => rfl
    | succ i => exact ih _ i

/-- A load after some steps returns a document. -/
def Loaded (s : Session) (script : List Step) (file : PathName) (kept : Kept Document) : Prop :=
  ((s.after script).step (.load file)).result = .ok (.document kept)

lemma map_eq_ok_iff {α β ε : Type} {f : α → β} (injective : ∀ {a a'}, f a = f a' → a = a')
    {result : Except ε α} {a : α} : result.map f = .ok (f a) ↔ result = .ok a := by
  cases result with
  | error => exact ⟨nofun, nofun⟩
  | ok other =>
    refine ⟨fun h => ?_, fun h => ?_⟩
    · rw [injective (Except.ok.inj h)]
    · rw [Except.ok.inj h]
      rfl

lemma session_load : (s.step (.load file)).session = (loadDocument file s).session :=
  bind_pure_session

lemma result_load :
    (s.step (.load file)).result = (loadDocument file s).result.map .document :=
  bind_pure_result

lemma result_load_iff :
    (s.step (.load file)).result = .ok (.document kept) ↔
      (loadDocument file s).result = .ok kept := by
  rw [result_load]
  exact map_eq_ok_iff Reply.document.inj

lemma result_read_iff :
    (s.step (.read file)).result = .ok (.content content) ↔
      (readMapping file s).result = .ok content := by
  have replied : (s.step (.read file)).result = (readMapping file s).result.map .content :=
    bind_pure_result
  rw [replied]
  exact map_eq_ok_iff Reply.content.inj

/-- A load that fails leaves everything as it is. -/
lemma session_load_of_error {fault : Fault}
    (failed : (s.step (.load file)).result = .error fault) :
    (s.step (.load file)).session = s := by
  rw [session_load]
  obtain ⟨_, _, same, _⟩ | ⟨_, _, same, _⟩ | ⟨_, read, _⟩ := loadDocument_cases file s
  · exact same
  · exact same
  · rw [result_load, read] at failed
    cases failed

/-- A load of what can be read succeeds. -/
lemma exists_loaded_of_read (read : (readMapping file s).result = .ok content) :
    ∃ kept, (s.step (.load file)).result = .ok (.document kept) ∧
      (s.documents.lookup (file.resolve s.directory) = some kept ∨
        kept.value = ⟨content, Generation.detect (.map content), file.text⟩) := by
  obtain ⟨_, _, _, unread⟩ | ⟨kept, loaded, _, found⟩ | ⟨kept, loaded, reads, _⟩ :=
    loadDocument_cases file s
  · exact absurd read (unread content)
  · exact ⟨kept, result_load_iff.2 loaded, .inl found⟩
  · obtain ⟨other, read', value⟩ := reads.value
    cases read.symm.trans read'
    exact ⟨kept, result_load_iff.2 loaded, .inr value⟩

/-- A load that fails, for another reason than what the path is written with, finds nothing kept. -/
lemma lookup_of_load_error {fault : Fault} (failed : (s.step (.load file)).result = .error fault)
    (null : file.text.contains '\x00' = false) :
    s.documents.lookup (file.resolve s.directory) = none := by
  rw [result_load, loadDocument_eq, if_neg (by simp [null])] at failed
  cases found : s.documents.lookup (file.resolve s.directory) with
  | none => rfl
  | some kept =>
    rw [found] at failed
    cases failed

/-! ### What one step keeps -/

lemma Moves.directory (moves : s.Moves step t) : t.directory = s.directory := by
  cases moves with
  | stays _ still => exact still.directory
  | forgets _ after => rw [after]
  | reads _ _ directory => exact directory

lemma Moves.nextSerial_le (moves : s.Moves step t) : s.nextSerial ≤ t.nextSerial := by
  cases moves with
  | stays _ still => exact still.serial
  | forgets _ after => exact Nat.le_of_eq (by rw [after])
  | reads _ reads _ _ serial => exact Nat.le_of_lt (Nat.lt_of_le_of_lt reads.serial serial)

lemma lookup_cons_of_ne {α β : Type} [BEq α] [LawfulBEq α] {a b : α} {value : β}
    {entries : List (α × β)} (other : a ≠ b) :
    List.lookup a ((b, value) :: entries) = entries.lookup a := by
  rw [List.lookup_cons, beq_false_of_ne other]

/-- What is kept stays kept. -/
lemma Moves.lookup (moves : s.Moves step t) (other : step ≠ .forgetDocuments)
    (found : s.documents.lookup place = some kept) : t.documents.lookup place = some kept := by
  cases moves with
  | stays _ still => rw [still.documents, found]
  | forgets forget => exact absurd forget other
  | @reads path _ _ reads _ documents =>
    -- What is read is kept at a place where nothing is kept, and thus at another one.
    have apart : place ≠ path.resolve s.directory := by
      rintro rfl
      cases found.symm.trans reads.absent
    rw [documents, lookup_cons_of_ne apart, found]

/-- What is kept was kept before or has just been read. -/
lemma Moves.of_lookup (moves : s.Moves step t) (found : t.documents.lookup place = some kept) :
    step ≠ .forgetDocuments ∧
      (s.documents.lookup place = some kept ∨
        ∃ path, Asks step path ∧ path.resolve s.directory = place ∧ s.Reads path kept) := by
  cases moves with
  | stays other still =>
    rw [still.documents] at found
    exact ⟨other, .inl found⟩
  | forgets _ after =>
    rw [after] at found
    cases found
  | @reads path _ asks reads _ documents =>
    refine ⟨asks.ne_forgetDocuments, ?_⟩
    rw [documents] at found
    by_cases same : place = path.resolve s.directory
    · subst same
      rw [List.lookup_cons_self] at found
      cases found
      exact .inr ⟨path, asks, rfl, reads⟩
    · rw [lookup_cons_of_ne same] at found
      exact .inl found

/-- Serial numbers are given in turn, and those of documents at different places differ. -/
structure WellKept (s : Session) : Prop where
  below : ∀ {place kept}, s.documents.lookup place = some kept → kept.serial < s.nextSerial
  place_eq : ∀ {place place' kept kept'}, s.documents.lookup place = some kept →
    s.documents.lookup place' = some kept' → kept.serial = kept'.serial → place = place'

lemma wellKept_of_empty (empty : s.documents = []) : s.WellKept where
  below found := by
    rw [empty] at found
    cases found
  place_eq found := by
    rw [empty] at found
    cases found

/-- Each step keeps the serial numbers apart. -/
lemma WellKept.moves (well : s.WellKept) (moves : s.Moves step t) : t.WellKept := by
  have older : ∀ {place kept}, s.documents.lookup place = some kept →
      kept.serial < t.nextSerial := fun found =>
    Nat.lt_of_lt_of_le (well.below found) moves.nextSerial_le
  cases moves with
  | stays _ still =>
    refine ⟨fun found => ?_, fun found found' same => ?_⟩
    · rw [still.documents] at found
      exact older found
    · rw [still.documents] at found found'
      exact well.place_eq found found' same
  | forgets _ after => exact wellKept_of_empty (by rw [after])
  | @reads path new asks reads directory documents serial =>
    have split : ∀ {place kept}, t.documents.lookup place = some kept →
        place = path.resolve s.directory ∧ kept = new ∨
          s.documents.lookup place = some kept ∧ kept.serial < new.serial := by
      intro place kept found
      rw [documents] at found
      by_cases same : place = path.resolve s.directory
      · subst same
        rw [List.lookup_cons_self] at found
        exact .inl ⟨rfl, (Option.some.inj found).symm⟩
      · rw [lookup_cons_of_ne same] at found
        exact .inr ⟨found, Nat.lt_of_lt_of_le (well.below found) reads.serial⟩
    refine ⟨fun found => ?_, fun found found' same => ?_⟩
    · obtain ⟨-, rfl⟩ | ⟨old, -⟩ := split found
      · exact serial
      · exact older old
    · obtain ⟨rfl, rfl⟩ | ⟨old, less⟩ := split found <;>
        obtain ⟨rfl, rfl⟩ | ⟨old', less'⟩ := split found'
      · rfl
      · exact absurd same (Nat.ne_of_gt less')
      · exact absurd same (Nat.ne_of_lt less)
      · exact well.place_eq old old' same

/-! ### What several steps keep -/

lemma after_cons : s.after (step :: rest) = ((s.step step).session).after rest := rfl

lemma directory_after (s : Session) (script : List Step) :
    (s.after script).directory = s.directory := by
  induction script generalizing s with
  | nil => rfl
  | cons step rest ih => exact (ih _).trans (step_cases s step).directory

lemma nextSerial_le_after (s : Session) (script : List Step) :
    s.nextSerial ≤ (s.after script).nextSerial := by
  induction script generalizing s with
  | nil => exact Nat.le_refl _
  | cons step rest ih => exact Nat.le_trans (step_cases s step).nextSerial_le (ih _)

lemma WellKept.after (well : s.WellKept) : (s.after script).WellKept := by
  induction script generalizing s with
  | nil => exact well
  | cons step rest ih => exact ih (well.moves (step_cases s step))

lemma lookup_after (remembered : .forgetDocuments ∉ script)
    (found : s.documents.lookup place = some kept) :
    (s.after script).documents.lookup place = some kept := by
  induction script generalizing s with
  | nil => exact found
  | cons step rest ih =>
    obtain ⟨other, remembered⟩ := not_or.1 (mt List.mem_cons.2 remembered)
    exact ih remembered ((step_cases s step).lookup (Ne.symm other) found)

/-- A document that is loaded is kept. -/
lemma Loaded.lookup (loaded : s.Loaded script file kept) :
    (s.after (script ++ [.load file])).documents.lookup (file.resolve s.directory) =
      some kept := by
  have result := result_load_iff.1 loaded
  rw [after_concat, session_load, ← directory_after s script]
  obtain ⟨_, failed, _⟩ | ⟨_, returned, same, found⟩ | ⟨_, returned, _, after⟩ :=
    loadDocument_cases file (s.after script)
  · cases failed.symm.trans result
  · cases returned.symm.trans result
    rw [same, found]
  · cases returned.symm.trans result
    rw [after, List.lookup_cons_self]

/-! ### First loads -/

/-- Among the steps of a script, a document is read at the place of a file and from then on kept:
loads from that place before, since documents were last forgotten, fail. -/
inductive FirstLoad (s : Session) (script : List Step) (file : PathName)
    (kept : Kept Document) : Prop where
  | intro {before rest : List Step} {step : Step} {path : PathName} :
    script = before ++ step :: rest →
    Asks step path →
    path.resolve s.directory = file.resolve s.directory →
    (∀ earlier between other found,
      before = earlier ++ .load other :: between → .forgetDocuments ∉ between →
      other.resolve s.directory = file.resolve s.directory → ¬ s.Loaded earlier other found) →
    (s.after before).Reads path kept →
    (s.after (before ++ [step])).documents.lookup (file.resolve s.directory) = some kept →
    .forgetDocuments ∉ rest →
    FirstLoad s script file kept

/-- Where nothing is kept, no load has succeeded since documents were last forgotten. -/
lemma not_loaded_of_lookup (remembered : .forgetDocuments ∉ between)
    (absent : (s.after (before ++ .load file :: between)).documents.lookup
      (file.resolve s.directory) = none) : ¬ s.Loaded before file kept := by
  intro loaded
  have found := lookup_after remembered loaded.lookup
  rw [← after_append, List.append_assoc, List.singleton_append, absent] at found
  cases found

/-- A document that is kept at the end, and was not at the start, has been read by some step. -/
lemma firstLoad_of_lookup (absent : s.documents.lookup (file.resolve s.directory) = none)
    (found : (s.after script).documents.lookup (file.resolve s.directory) = some kept) :
    s.FirstLoad script file kept := by
  induction script using List.reverseRecOn with
  | nil => cases absent.symm.trans found
  | append_singleton script step ih =>
    rw [after_concat] at found
    obtain ⟨other, older | ⟨path, asks, same, reads⟩⟩ :=
      (step_cases (s.after script) step).of_lookup found
    · obtain ⟨split, asks, same, first, reads, kept, remembered⟩ := ih older
      refine .intro (by rw [split, List.append_assoc, List.cons_append]) asks same first reads
        kept ?_
      simpa [remembered] using other.symm
    · have place : path.resolve s.directory = file.resolve s.directory := by
        rwa [directory_after] at same
      refine .intro rfl asks place ?_ reads (after_concat ▸ found) List.not_mem_nil
      rintro earlier between other found rfl remembered place'
      refine not_loaded_of_lookup remembered ?_
      rw [place', ← place]
      have absent := reads.absent
      rwa [directory_after] at absent

/-- What was loaded first is kept at the end. -/
lemma FirstLoad.lookup (first : s.FirstLoad script file kept) :
    (s.after script).documents.lookup (file.resolve s.directory) = some kept := by
  obtain ⟨split, -, -, -, -, found, remembered⟩ := first
  rw [split, List.append_cons, after_append]
  exact lookup_after remembered found

/-- What is read by a step is given a new serial number. -/
lemma FirstLoad.nextSerial_le (first : s.FirstLoad script file kept) :
    s.nextSerial ≤ kept.serial := by
  obtain ⟨-, -, -, -, reads, -, -⟩ := first
  exact Nat.le_trans (nextSerial_le_after _ _) reads.serial

/-! ### Sessions -/

/-- Steps that read documents and have nothing to do with those that are kept. -/
inductive Aside : Step → Prop where
  | loadText {text : String} : Aside (.loadText text)
  | read {file : PathName} : Aside (.read file)
  | validateFile {file : PathName} {generation : Option Generation} :
    Aside (.validateFile file generation)

/-- How documents are kept over all that can be done in a session. -/
structure Keeps (s : Session) : Prop where
  /-- Two loads return the same document exactly if their paths lead to the same place, and
  documents are not forgotten in between. -/
  same : ∀ {before between file file' kept kept'},
    s.Loaded before file kept →
    s.Loaded (before ++ .load file :: between) file' kept' →
    (kept.serial = kept'.serial ↔
      file.resolve s.directory = file'.resolve s.directory ∧ .forgetDocuments ∉ between) ∧
    (kept.serial = kept'.serial → kept = kept')
  /-- What a load returns is what the first one that succeeded has read. -/
  first : ∀ {script file kept},
    s.Loaded script file kept → s.FirstLoad (script ++ [.load file]) file kept
  /-- A load that fails changes nothing. -/
  failed : ∀ {script file fault},
    ((s.after script).step (.load file)).result = .error fault →
    ((s.after script).step (.load file)).session = s.after script
  /-- Once the file of such a load can be read, a load returns its content, or what some step has
  read since. -/
  repaired : ∀ {script rest file fault content},
    ((s.after script).step (.load file)).result = .error fault →
    ((s.after (script ++ .load file :: rest)).step (.read file)).result = .ok (.content content) →
    ∃ kept, s.Loaded (script ++ .load file :: rest) file kept ∧
      (kept.value = ⟨content, Generation.detect (.map content), file.text⟩ ∨
        (s.after script).FirstLoad rest file kept)
  /-- Other steps that read documents do the same whatever is kept, and keep it as it is. -/
  aside : ∀ {script step documents},
    Aside step →
    ({ s.after script with documents }).step step =
      { (s.after script).step step with
        session := { ((s.after script).step step).session with documents } }

lemma Aside.detached (aside : Aside step) : step.act.Detached := by
  cases aside with
  | loadText => exact detached.documentOfText.bind fun _ => detached.done
  | read => exact detached.readMapping.bind fun _ => detached.done
  | validateFile => exact detached_validateFile.bind fun _ => detached.done

/-- Documents that are forgotten are not returned again. -/
lemma ne_serial_of_forgotten (well : s.WellKept)
    (found : s.documents.lookup place = some kept) (forgotten : .forgetDocuments ∈ between)
    (loaded : s.Loaded between file kept') : kept.serial ≠ kept'.serial := by
  obtain ⟨early, late, rfl⟩ := List.append_of_mem forgotten
  -- Nothing is kept when documents have been forgotten, and what is read then is new.
  have empty : ((s.after early).step .forgetDocuments).session.documents = [] := rfl
  have again := loaded.lookup
  rw [List.append_assoc, after_append, List.cons_append, after_cons] at again
  have first : FirstLoad ((s.after early).step .forgetDocuments).session (late ++ [.load file])
      file kept' := by
    have directory : ((s.after early).step .forgetDocuments).session.directory = s.directory :=
      directory_after s early
    refine firstLoad_of_lookup (by rw [empty]; rfl) ?_
    rw [directory]
    exact again
  have older : kept.serial < s.nextSerial := well.below found
  have later : s.nextSerial ≤ ((s.after early).step .forgetDocuments).session.nextSerial :=
    nextSerial_le_after s early
  exact Nat.ne_of_lt (Nat.lt_of_lt_of_le older (Nat.le_trans later first.nextSerial_le))

/-- Two loads of the same document are from the same place, with no forgetting in between, and two
such loads return the same document. -/
lemma Loaded.same (loaded : s.Loaded before file kept) (well : s.WellKept)
    (loaded' : s.Loaded (before ++ .load file :: between) file' kept') :
    (kept.serial = kept'.serial →
      file.resolve s.directory = file'.resolve s.directory ∧ .forgetDocuments ∉ between) ∧
    (file.resolve s.directory = file'.resolve s.directory → .forgetDocuments ∉ between →
      kept = kept') := by
  have kept_first := loaded.lookup
  have kept_last := loaded'.lookup
  have split : before ++ .load file :: between = (before ++ [.load file]) ++ between := by simp
  -- Without forgetting, both documents are kept at the end.
  have kept_still : .forgetDocuments ∉ between →
      (s.after (before ++ .load file :: between ++ [.load file'])).documents.lookup
        (file.resolve s.directory) = some kept := by
    intro remembered
    rw [split, List.append_assoc, after_append]
    refine lookup_after ?_ kept_first
    simpa using remembered
  refine ⟨fun serial => ?_, fun place remembered => ?_⟩
  · have remembered : .forgetDocuments ∉ between := by
      intro forgotten
      rw [split, Loaded, after_append] at loaded'
      exact ne_serial_of_forgotten well.after kept_first forgotten loaded' serial
    exact ⟨well.after.place_eq (kept_still remembered) kept_last serial, remembered⟩
  · have again := kept_still remembered
    rw [place, kept_last] at again
    exact (Option.some.inj again).symm

/-- A session at its start keeps documents as it should. -/
theorem initial_keeps (directory : List String) (environment : Environment) :
    Keeps (initial directory environment) where
  same {before between file file' kept kept'} loaded loaded' := by
    obtain ⟨shared, same⟩ := loaded.same (wellKept_of_empty rfl) loaded'
    exact ⟨⟨shared, fun ⟨place, remembered⟩ => congrArg Kept.serial (same place remembered)⟩,
      fun serial => same (shared serial).1 (shared serial).2⟩
  first loaded := firstLoad_of_lookup rfl loaded.lookup
  failed := session_load_of_error
  repaired {script rest file fault content} failed read := by
    have read := result_read_iff.1 read
    obtain ⟨kept, loaded, found | value⟩ := exists_loaded_of_read read
    · refine ⟨kept, loaded, .inr (firstLoad_of_lookup ?_ ?_)⟩
      · exact lookup_of_load_error failed (no_null_of_readMapping read)
      · rw [directory_after] at found ⊢
        rwa [after_append, after_cons, session_load_of_error failed] at found
    · exact ⟨kept, loaded, .inl value⟩
  aside aside := aside.detached.apart _ _

end BusinessModel.Session
