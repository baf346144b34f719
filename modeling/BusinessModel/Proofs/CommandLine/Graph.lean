import BusinessModel.Proofs.CommandLine.Agreement
import BusinessModel.Proofs.Graph.Monotone
import BusinessModel.Proofs.Telemetry

/-!
# What showing a connection graph comes to

A run that shows the connection graph of a file tells its segments, its rows and its orphaned
entities, each found on a way of its own, and it counts them for the event log and for the span.
All of it agrees with one listing of the graph, in either format.  In text that does not go to a
terminal, identifiers lose their control sequences.

* `Listing`, `Listing.Faithful` — a graph as it is shown, and how its parts hang together
* `CommandLine.Lists` — what a run comes to that shows a listing
* `CommandLine.lists_run` — a run in a new process shows the graph of its file
-/

namespace BusinessModel.CommandLine

open BusinessModel.Action BusinessModel.Session

variable {s t : Session} {settings : Settings} {request : Request} {file : PathName}
  {content : Mapping} {format : OutputFormat} {source : String} {words : List String}

/-! ### Listings -/

/-- A connection graph as it is shown: its segments, the segments of each entity, and the entities
without any. -/
structure Listing where
  segments : List String
  rows : List (String × List String)
  orphaned : List String

namespace Listing

/-- A listing as an object, with its rows as an object of its own. -/
def json (l : Listing) : Value :=
  .map [(.str "version", .str "v2"), (.str "segments", .list (l.segments.map .str)),
    (.str "graph", .map (l.rows.map fun row => (.str row.1, .list (row.2.map .str)))),
    (.str "orphaned", .list (l.orphaned.map .str))]

/-- A listing as lines: its segments, its rows, and its orphaned entities, if there are any. -/
def lines (l : Listing) : List String :=
  let names (ids : List String) : String := if ids = [] then "(none)" else ", ".intercalate ids
  ("Segments: " ++ names l.segments) ::
    (l.rows.map fun row => "  " ++ row.1 ++ " -> " ++ names row.2) ++
      if l.orphaned = [] then [] else "Orphaned:" :: l.orphaned.map fun id => "  " ++ id

/-- The listing of the connection graph of a document. -/
def of (doc : Value) : Listing where
  segments := Graph.segmentOrder doc
  rows := (Graph.build doc).map fun entity => (entity.1, entity.2.sorted)
  orphaned := (Graph.build doc).orphaned

/-- The parts of a listing are those of the connection graph of a document, and hang together. -/
structure Faithful (l : Listing) (doc : Value) : Prop where
  segments : l.segments = Graph.segmentOrder doc
  rows : l.rows = (Graph.build doc).map fun entity => (entity.1, entity.2.sorted)
  declares : ∀ id, id ∈ l.segments ↔
    ∃ entry, Declares doc.asMapping "customer_segments" id entry
  serves : ∀ row ∈ l.rows, ∀ id, id ∈ row.2 ↔ Graph.Serves doc.asMapping row.1 id
  distinct : (l.rows.map (·.1)).Nodup
  initial : l.segments <+: l.rows.map (·.1)
  itself : ∀ id ∈ l.segments, ∃ served, (id, served) ∈ l.rows ∧ id ∈ served
  ascending : ∀ row ∈ l.rows, row.2.Pairwise (· < ·)
  orphaned : l.orphaned = (l.rows.filter fun row => row.2.isEmpty).map (·.1)
  declared : ∀ id ∈ l.segments, id ∉ l.orphaned

variable {doc : Value} {id : String} {served : List String}

lemma map_fst_rows : (of doc).rows.map (·.1) = (Graph.build doc).keys := List.map_map

/-- A row of a listing holds what its entity reaches, in order. -/
lemma mem_rows :
    (id, served) ∈ (of doc).rows ↔
      id ∈ Graph.entityIds doc.asMapping ∧ ((Graph.build doc).reached id).sorted = served := by
  have described := Graph.describes_build doc
  constructor
  · intro member
    obtain ⟨⟨_, set⟩, row, same⟩ := List.mem_map.1 member
    cases same
    obtain ⟨known, reached⟩ := described.mem_iff_reached.1 row
    exact ⟨known, by rw [reached]⟩
  · rintro ⟨known, rfl⟩
    exact List.mem_map.2 ⟨_, described.mem_iff_reached.2 ⟨known, rfl⟩, rfl⟩

/-- Segments are declared before anything else. -/
lemma prefix_segments : (of doc).segments <+: (of doc).rows.map (·.1) := by
  rw [map_fst_rows, (Graph.describes_build doc).keys]
  simp only [Graph.entityIds, List.append_assoc]
  rw [IdSet.ofList, IdSet.addAll_append]
  exact IdSet.prefix_addAll

lemma mem_segments :
    id ∈ (of doc).segments ↔ ∃ entry, Declares doc.asMapping "customer_segments" id entry :=
  IdSet.mem_ofList.trans mem_idsIn

/-- A declared segment serves itself. -/
lemma exists_row_of_mem_segments (member : id ∈ (of doc).segments) :
    ∃ served, (id, served) ∈ (of doc).rows ∧ id ∈ served := by
  obtain ⟨entry, declares⟩ := mem_segments.1 member
  have described := Graph.describes_build doc
  have reaches : id ∈ (Graph.build doc).reached id := described.mem.2 (.itself declares)
  exact ⟨_, mem_rows.2 ⟨described.mem_of_reached reaches, rfl⟩, IdSet.mem_sorted.2 reaches⟩

lemma orphaned_eq :
    (of doc).orphaned = ((of doc).rows.filter fun row => row.2.isEmpty).map (·.1) := by
  simp only [of, Graph.orphaned, List.filter_map, List.map_map, Function.comp_def,
    IdSet.isEmpty_sorted]

lemma faithful_of (doc : Value) : (of doc).Faithful doc where
  segments := rfl
  rows := rfl
  declares _ := mem_segments
  serves := by
    rintro ⟨id, served⟩ member x
    obtain ⟨_, rfl⟩ := mem_rows.1 member
    exact IdSet.mem_sorted.trans (Graph.describes_build doc).mem
  distinct := map_fst_rows ▸ Graph.nodup_keys_build doc
  initial := prefix_segments
  itself _ := exists_row_of_mem_segments
  ascending := by
    rintro ⟨id, served⟩ member
    obtain ⟨_, rfl⟩ := mem_rows.1 member
    exact IdSet.pairwise_sorted ((Graph.describes_build doc).nodup id)
  orphaned := orphaned_eq
  declared := by
    intro id member orphan
    obtain ⟨served, row, itself⟩ := exists_row_of_mem_segments member
    rw [orphaned_eq] at orphan
    obtain ⟨⟨x, none⟩, kept, same⟩ := List.mem_map.1 orphan
    obtain ⟨other, empty⟩ := List.mem_filter.1 kept
    obtain rfl : x = id := same
    obtain rfl : none = [] := List.isEmpty_iff.1 empty
    -- Both rows hold what the same entity reaches.
    obtain ⟨_, first⟩ := mem_rows.1 row
    obtain ⟨_, second⟩ := mem_rows.1 other
    rw [← first, second] at itself
    cases itself

/-- The members of a listing as an object. -/
def members (l : Listing) : List (String × Value) :=
  [("version", .str "v2"), ("segments", Json.texts l.segments),
    ("graph", Json.object (l.rows.map fun row => (row.1, Json.texts row.2))),
    ("orphaned", Json.texts l.orphaned)]

lemma json_eq_object {l : Listing} : l.json = Json.object l.members := by
  simp [json, Json.object, Json.texts, members]

/-- A listing can be read back from JSON, as no entity has two rows. -/
lemma legible_json {l : Listing} (distinct : (l.rows.map (·.1)).Nodup) : Json.Legible l.json := by
  have texts : ∀ ids, Json.Legible (Json.texts ids) := by
    intro ids
    refine .list fun item member => ?_
    obtain ⟨id, _, rfl⟩ := List.mem_map.1 member
    exact .str
  rw [json_eq_object]
  refine .object (by simp [members]) ?_
  simp only [members, List.forall_mem_cons]
  refine ⟨.str, texts _, .object ?_ fun member among => ?_, texts _, nofun⟩
  · rwa [List.map_map]
  · obtain ⟨row, _, rfl⟩ := List.mem_map.1 among
    exact texts _

/-- The lines of results on a listing. -/
def answer (l : Listing) : OutputFormat → List String
  | .json => [Json.writeIndented l.json]
  | .text => l.lines.map withoutControls

lemma json_ofDocument (second : Generation.detect (.map content) = .v2) :
    (Connections.ofDocument (.ofMapping source content)).json = (of (.map content)).json := by
  rw [json_eq_object]
  simp only [Connections.json, Connections.ofDocument, Document.ofMapping, second, members, of,
    Json.object, List.map_map, Function.comp_def]
  rfl

lemma lines_ofDocument :
    (Connections.ofDocument (.ofMapping source content)).lines = (of (.map content)).lines := by
  have named : ∀ ids, Connections.idList ids =
      if ids = [] then "(none)" else ", ".intercalate ids := by
    intro ids
    cases ids with
    | nil => rfl
    | cons id rest => rfl
  have orphans : ∀ ids : List String, listed "Orphaned:" (ids.map fun id => s!"  {id}") =
      if ids = [] then [] else "Orphaned:" :: ids.map fun id => "  " ++ id := by
    intro ids
    cases ids with
    | nil => rfl
    | cons id rest => rfl
  simp only [Connections.lines, Connections.ofDocument, Document.ofMapping, lines, of, named,
    orphans, List.map_map, Function.comp_def]
  rfl

/-- A graph is printed as its listing is. -/
lemma plain_notices (second : Generation.detect (.map content) = .v2) :
    ((Connections.ofDocument (.ofMapping source content)).notices format).map Notice.plain =
      [].map .complaint ++ ((of (.map content)).answer format).map .output := by
  cases format with
  | json =>
    have clear := (legible_json (faithful_of (.map content)).distinct).withoutControls
    show [Notice.output (withoutControls (Json.writeIndented _))] = [Notice.output _]
    rw [json_ofDocument second, clear]
  | text =>
    show ((Connections.lines _).map Notice.output).map Notice.plain = _
    rw [lines_ofDocument, answer, List.map_map, List.map_map]
    rfl

end Listing

/-! ### Runs -/

/-- What a run comes to that shows a listing: its exit code, the lines that it prints behind some
warnings, its entry in the event log, and its event on the span. -/
structure Lists (outcome : Outcome Nat) (format : OutputFormat) (source : String) (l : Listing)
    (warnings : List String) : Prop where
  exit : outcome.result = .ok 0
  json : format = .json →
    ∃ text, outcome.output = [text] ∧ Json.read text = .ok l.json
  text : format = .text → outcome.output = l.lines.map withoutControls
  /-- Without the character that starts a control sequence, lines are printed as they are. -/
  clear : format = .text → (∀ line ∈ l.lines, '\x1b' ∉ line.toList) → outcome.output = l.lines
  complaints : outcome.complaints = warnings
  events : ∃ e, outcome.events = [e] ∧ e.IsWritten ∧ e.event = "graph.built" ∧
    e.source = source ∧ Mapping.get? e.details "entity_count" = some (.int l.rows.length) ∧
    Mapping.get? e.details "orphaned_count" = some (.int l.orphaned.length)
  spans : ∃ e, outcome.spans = [e] ∧ e.name = "bmml.graph.built" ∧
    Mapping.get? e.attributes "bmml.entity_count" = some (.int l.rows.length) ∧
    Mapping.get? e.attributes "bmml.orphaned_count" = some (.int l.orphaned.length)

/-- What is said about a connection graph: its event on the span, its entry in the event log, and
what is printed of it. -/
def graphAccount (source : String) (content : Mapping) (format : OutputFormat) : List Notice :=
  let graph := Graph.build (.map content)
  [SpanEvent.graphBuilt source graph].map .span ++
    [EventEntry.graphBuilt serviceName source graph graph.orphaned].map .event ++
      (Connections.ofDocument (.ofMapping source content)).notices format

/-- Connections are said in the end. -/
lemma concludes_connections {c : Connections} :
    Concludes ((do
      say (c.notices format)
      return exitCode true : Action Nat) s) 0 (c.notices format) := by
  apply concludes_say
  intro notice member
  cases format with
  | json =>
    cases List.mem_singleton.1 member
    rfl
  | text =>
    obtain ⟨_, _, rfl⟩ := List.mem_map.1 member
    rfl

/-- Once the log is set up, showing the graph of a file tells all there is to say about it. -/
lemma IsSetUp.graphCommand (setUp : IsSetUp s t settings)
    (read : (readMapping request.file t).result = .ok content)
    (second : Generation.detect (.map content) = .v2) :
    Concludes (CommandLine.graphCommand request t) 0
      (graphAccount request.file.text content (request.format.getD settings.outputFormat)) := by
  obtain ⟨serial, set⟩ := setUp.inForce
  have low := setUp.log
  refine concludes_withDocument setUp.documents read fun u log same => ?_
  rw [← log] at low
  rw [← same] at set
  have accepted : ((Document.ofMapping request.file.text content).generation != .v2) = false := by
    rw [Document.ofMapping, second]
    rfl
  have logged := report_of_log (.graphBuilt serviceName request.file.text
    (Graph.build (.map content)) (Graph.build (.map content)).orphaned) low
  dsimp only
  rw [accepted, if_neg Bool.false_ne_true]
  show Concludes _ 0 ([Notice.span _] ++ ([Notice.event _] ++ _))
  apply Concludes.after_quiet rfl (quiet_note u)
  apply Concludes.bind rfl rfl
  apply Concludes.bind (congrArg Outcome.result logged)
    (congrArg (fun outcome => spoken outcome.notices) logged)
  exact .after_silent (by rw [logged]; exact formatOf_of_some request set) concludes_connections

/-- The channels of a run that has shown a graph agree with its listing. -/
lemma Concludes.lists {outcome : Outcome Nat} {warnings : List String}
    (second : Generation.detect (.map content) = .v2)
    (h : Concludes outcome 0
      ((warnings.map Notice.complaint ++ graphAccount source content format).map Notice.plain)) :
    Lists outcome format source (.of (.map content)) (warnings.map withoutControls) := by
  have entities : (Graph.build (.map content)).length =
      (Listing.of (.map content)).rows.length := (List.length_map _).symm
  obtain ⟨output, complaints, logged, left⟩ :=
    h.channels (Listing.plain_notices second)
  refine ⟨h.result, ?json, ?text, ?clear, complaints.trans (List.append_nil _),
    ⟨_, logged, EventEntry.isWritten _, rfl, rfl, ?_, rfl⟩, ⟨_, left, rfl, ?_, ?_⟩⟩
  case json =>
    rintro rfl
    exact ⟨_, output, Json.read_writeIndented
      (Listing.legible_json (Listing.faithful_of (.map content)).distinct)⟩
  case text =>
    rintro rfl
    exact output
  case clear =>
    rintro rfl clear
    have same : ∀ line ∈ (Listing.of (.map content)).lines, withoutControls line = line :=
      fun line member => IsClear.withoutControls (clear line member)
    rw [output]
    exact (List.map_congr_left same).trans (List.map_id _)
  · rw [← entities]
    rfl
  · rw [← entities]
    exact SpanEvent.get?_about (by decide)
  · exact SpanEvent.get?_about (by decide)

/-- In a new process, a run that shows the graph of a file of the second generation succeeds with a
faithful listing of it. -/
theorem lists_run (s : Session) (settings : Settings) (file : PathName) (content : Mapping)
    (isNew : IsNew s settings) (read : (readMapping file s).result = .ok content)
    (second : Generation.detect (.map content) = .v2) :
    ∃ l : Listing, l.Faithful (.map content) ∧
      ∀ words request, Calls s words .graph request → request.file = file →
        Lists (run words s) (request.format.getD settings.outputFormat) file.text l
          ((createSettings [] s).complaints.map withoutControls) := by
  refine ⟨.of (.map content), Listing.faithful_of _, ?_⟩
  rintro words request calls rfl
  refine Concludes.lists second (isNew.concludes calls fun t setUp => ?_)
  exact setUp.graphCommand ((readMapping_of_steady setUp.steady).trans read) second

/-! ### A file with control sequences -/

/-- A document with a segment whose identifier holds a control sequence. -/
def boldText : String := "version: '2.0'\ncustomer_segments:\n- id: \"cs-\\e[1m\""

/-- A session at the start of a process, with this document in a file. -/
def bold : Session :=
  { Session.initial ["w"] [] with files := filesWith (Utf8.encode boldText) }

lemma isNew_bold : IsNew bold .default :=
  ⟨rfl, rfl, rfl, by rw [createSettings_of_filesWith rfl rfl rfl]⟩

lemma exists_bold :
    ∃ content, (readMapping shopFile bold).result = .ok content ∧
      Generation.detect (.map content) = .v2 ∧
      Graph.segmentOrder (.map content) = ["cs-\x1b[1m"] ∧
      Graph.build (.map content) = [("cs-\x1b[1m", ["cs-\x1b[1m"])] := by
  have all : ((Document.mappingOfBytes "m" (Utf8.encode boldText)).toOption.any fun content =>
      Generation.detect (.map content) == .v2 &&
        Graph.segmentOrder (.map content) == ["cs-\x1b[1m"] &&
          Graph.build (.map content) == [("cs-\x1b[1m", ["cs-\x1b[1m"])]) = true := by
    decide +kernel
  obtain ⟨content, parsed, checked⟩ := exists_of_any all
  simp only [Bool.and_eq_true, beq_iff_eq] at checked
  refine ⟨content, ?_, checked.1.1, checked.1.2, checked.2⟩
  rw [readMapping_filesWith rfl rfl, parsed]
  rfl

/-- Showing the graph of this file as JSON is a success. -/
theorem lists_run_bold :
    ∃ content, IsNew bold .default ∧ (readMapping shopFile bold).result = .ok content ∧
      Generation.detect (.map content) = .v2 ∧
      (run (wordsFor .graph (some .json) false "m") bold).result = .ok 0 := by
  obtain ⟨content, read, second, _⟩ := exists_bold
  obtain ⟨_, _, lists⟩ := lists_run bold .default shopFile content isNew_bold read second
  have calls : Calls bold (wordsFor .graph (some .json) false "m") .graph
      ⟨shopFile, some .json, false⟩ := calls_shopFile rfl rfl rfl nofun
  exact ⟨content, isNew_bold, read, second, (lists _ _ calls rfl).exit⟩

/-- As text that does not go to a terminal, it lists an identifier that no entity has. -/
theorem output_bold :
    (run (wordsFor .graph (some .text) false "m") bold).output =
        ["Segments: cs-", "  cs- -> cs-"] ∧
      ∃ content, IsNew bold .default ∧ (readMapping shopFile bold).result = .ok content ∧
        Generation.detect (.map content) = .v2 ∧
        Graph.segmentOrder (.map content) = ["cs-\x1b[1m"] ∧
        (Graph.build (.map content)).keys = ["cs-\x1b[1m"] := by
  obtain ⟨content, read, second, segments, graph⟩ := exists_bold
  have calls : Calls bold (wordsFor .graph (some .text) false "m") .graph
      ⟨shopFile, some .text, false⟩ := calls_shopFile rfl rfl rfl nofun
  have ended := isNew_bold.concludes calls fun t setUp =>
    setUp.graphCommand ((readMapping_of_steady setUp.steady).trans read) second
  refine ⟨?_, content, isNew_bold, read, second, segments, by rw [graph]; rfl⟩
  rw [(ended.lists second).text rfl]
  show (Listing.of (.map content)).lines.map withoutControls = _
  rw [Listing.lines, Listing.of, segments, graph]
  decide +kernel

end BusinessModel.CommandLine
