import BusinessModel.Proofs.Session.Schemas

/-!
# What is said

What an action says is printed among the results or the problems, is written to the event log, or is
left on the current span.  Diagnostics come between, and most of what is done in a session says
nothing else.

* `Outcome.output`, `Outcome.complaints`, `Outcome.events`, `Outcome.spans` — the four channels
* `Action.spoken` — all that is said but for the diagnostics
* `Action.Quiet` — actions that say nothing but diagnostics
* `Session.quiet_loadDocument` — loading a document is quiet
-/

namespace BusinessModel

namespace Notice

def isDiagnostic : Notice → Bool
  | diagnostic _ => true
  | _ => false

def output? : Notice → Option String
  | output line => some line
  | _ => none

def complaint? : Notice → Option String
  | complaint line => some line
  | _ => none

def event? : Notice → Option EventEntry
  | event e => some e
  | _ => none

def span? : Notice → Option SpanEvent
  | span e => some e
  | _ => none

end Notice

namespace Outcome

variable {α : Type}

/-- The lines of results. -/
def output (outcome : Outcome α) : List String := outcome.notices.filterMap Notice.output?

/-- The lines of problems. -/
def complaints (outcome : Outcome α) : List String := outcome.notices.filterMap Notice.complaint?

/-- The entries of the event log. -/
def events (outcome : Outcome α) : List EventEntry := outcome.notices.filterMap Notice.event?

/-- The events on the current span. -/
def spans (outcome : Outcome α) : List SpanEvent := outcome.notices.filterMap Notice.span?

end Outcome

namespace Action

variable {α β : Type} {first : Action α} {next : α → Action β} {notices others : List Notice}

/-- All that is said but for the diagnostics. -/
def spoken (notices : List Notice) : List Notice := notices.filter (!·.isDiagnostic)

lemma spoken_append : spoken (notices ++ others) = spoken notices ++ spoken others :=
  List.filter_append notices others

/-- Without diagnostics, all is said. -/
lemma spoken_eq_self (h : ∀ notice ∈ notices, notice.isDiagnostic = false) :
    spoken notices = notices := by
  refine List.filter_eq_self.2 fun notice member => ?_
  rw [h notice member]
  rfl

lemma spoken_plain : spoken (notices.map Notice.plain) = (spoken notices).map Notice.plain := by
  unfold spoken
  rw [List.filter_map]
  congr 1
  apply List.filter_congr
  intro notice _
  cases notice <;> rfl

/-- Diagnostics are in none of the channels. -/
lemma filterMap_spoken {channel : Notice → Option β} (h : ∀ d, channel (.diagnostic d) = none) :
    (spoken notices).filterMap channel = notices.filterMap channel := by
  unfold spoken
  rw [List.filterMap_filter]
  congr 1
  funext notice
  cases notice <;> simp [Notice.isDiagnostic, h]

/-- Complaints are said as they are. -/
lemma spoken_complaints (h : ∀ notice ∈ notices, Session.IsComplaint notice) :
    spoken notices = (notices.filterMap Notice.complaint?).map .complaint := by
  induction notices with
  | nil => rfl
  | cons notice notices ih =>
    obtain ⟨line, rfl⟩ := h _ List.mem_cons_self
    exact congrArg (_ :: ·) (ih fun notice member => h notice (List.mem_cons_of_mem _ member))

/-- An action says nothing but diagnostics. -/
def Quiet (action : Action α) : Prop := ∀ s, spoken (action s).notices = []

lemma quiet_ofExcept {result : Except Fault α} : (ofExcept result).Quiet := fun _ => rfl

lemma quiet_done {a : α} : (done a).Quiet := fun _ => rfl

lemma quiet_note {level : LogLevel} {part text : String} : (note level part text).Quiet := by
  intro s
  unfold note
  dsimp only
  split
  · rfl
  · rfl

lemma Quiet.bind (h : first.Quiet) (h' : ∀ a, (next a).Quiet) : (first >>= next).Quiet := by
  intro s
  cases result : (first s).result with
  | error fault =>
    rw [bind_of_error result]
    exact h s
  | ok a =>
    rw [bind_of_ok result, spoken_append, h, h']
    rfl

end Action

namespace Session

open BusinessModel.Action

variable {file : PathName} {doc : Value}

lemma quiet_noteDetection : (noteDetection doc).Quiet := by
  unfold noteDetection
  split
  · exact quiet_note
  · exact quiet_done

lemma quiet_readMapping : (readMapping file).Quiet := by
  intro s
  rw [readMapping_of_any]
  rfl

lemma quiet_reportOn {g : Generation} {schema : Schema} : (reportOn g doc schema).Quiet := by
  apply quiet_ofExcept.bind
  intro report
  split
  · exact quiet_note.bind fun _ => quiet_done
  · exact quiet_done

lemma quiet_loadDocument : (loadDocument file).Quiet := by
  have keeps : ∀ value : Document, (keep value).Quiet := fun _ _ => rfl
  have read : ∀ place, (readDocument file place).Quiet := fun place =>
    quiet_readMapping.bind fun content => quiet_noteDetection.bind fun _ =>
      (keeps _).bind fun kept => Quiet.bind (fun _ => rfl) fun _ =>
        quiet_note.bind fun _ => quiet_done
  intro s
  rw [loadDocument_eq]
  split
  · rfl
  · cases s.documents.lookup (file.resolve s.directory) with
    | some kept => exact quiet_note.bind (fun _ => quiet_done) s
    | none => exact read _ s

end Session

end BusinessModel
