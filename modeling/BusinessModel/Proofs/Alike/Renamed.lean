import BusinessModel.Proofs.Alike.Graph
import BusinessModel.Proofs.Alike.Report

/-!
# Renamed documents

Giving the identifiers of a document other names of the same kinds changes nothing but the names:
the same rules are broken at the same places, and the connection graph is the same graph under the
other names.

* `Value.renameSections` — a document with every text below its sections renamed
* `renameSections_equivariant` — reports and graphs of renamed documents
-/

namespace BusinessModel

mutual

/-- The value with every text renamed, apart from keys. -/
def Value.rename (σ : Renaming) : Value → Value
  | .scalar s => .scalar (s.rename σ)
  | .list items => .list (renameItems σ items)
  | .tuple items => .tuple (renameItems σ items)
  | .set members => .set (members.map (Scalar.rename σ))
  | .map entries => .map (renameMembers σ entries)

/-- The items of a list, with every text renamed. -/
def Value.renameItems (σ : Renaming) : List Value → List Value
  | [] => []
  | item :: rest => item.rename σ :: renameItems σ rest

/-- The members of a mapping, with every text renamed, apart from keys. -/
def Value.renameMembers (σ : Renaming) : Mapping → Mapping
  | [] => []
  | (key, value) :: rest => (key, value.rename σ) :: renameMembers σ rest

end

/-- What stands under a key of a document, with every text renamed below sections that are lists
and in the cost structure. -/
def Value.renameUnder (σ : Renaming) (key : Scalar) (v : Value) : Value :=
  if key = .str "cost_structure" then v.rename σ
  else if sectionKeys.any fun name => key == .str name then
    match v with
    | .list items => .list (renameItems σ items)
    | v => v
  else v

/-- The document with every text below its sections renamed. -/
def Value.renameSections (σ : Renaming) : Value → Value
  | .map entries => .map (entries.map fun member => (member.1, member.2.renameUnder σ member.1))
  | v => v

variable {σ : Renaming} {m : Mapping} {xs : List Value} {key : String}

/-- Renaming keeps scalars writable: only integers may have no text. -/
lemma Scalar.isWritable_rename (s : Scalar) : (s.rename σ).isWritable = s.isWritable := by
  cases s <;> rfl

mutual

lemma Value.isWritable_rename : ∀ v : Value, (v.rename σ).isWritable = v.isWritable
  | .scalar s => Scalar.isWritable_rename s
  | .list items => areItemsWritable_rename items
  | .tuple items => areItemsWritable_rename items
  | .set members => by
    simp only [rename, isWritable, List.all_map]
    exact congrArg members.all (funext Scalar.isWritable_rename)
  | .map entries => areEntriesWritable_rename entries

lemma Value.areItemsWritable_rename :
    ∀ xs : List Value, areItemsWritable (renameItems σ xs) = areItemsWritable xs
  | [] => rfl
  | x :: xs => by
    simp only [renameItems, areItemsWritable, isWritable_rename x, areItemsWritable_rename xs]

lemma Value.areEntriesWritable_rename :
    ∀ m : Mapping, areEntriesWritable (renameMembers σ m) = areEntriesWritable m
  | [] => rfl
  | (key, v) :: rest => by
    simp only [renameMembers, areEntriesWritable, isWritable_rename v,
      areEntriesWritable_rename rest]

end

lemma Value.forall₂_renameItems :
    List.Forall₂ (fun v w => w = Value.rename σ v) xs (renameItems σ xs) := by
  induction xs with
  | nil => exact .nil
  | cons x xs ih => exact .cons rfl ih

/-- A change to every value of a mapping changes what stands under a key. -/
lemma Mapping.get?_map (change : Scalar → Value → Value) :
    Mapping.get? (m.map fun member => (member.1, change member.1 member.2)) key =
      (Mapping.get? m key).map (change (.str key)) := by
  induction m with
  | nil => rfl
  | cons member rest ih =>
    obtain ⟨k, v⟩ := member
    unfold Mapping.get? at *
    rw [List.map_cons, List.lookup_cons, List.lookup_cons, ih]
    by_cases same : k = .str key
    · simp only [same, beq_self_eq_true, Option.map_some]
    · have passed : (Scalar.str key == k) = false := beq_eq_false_iff_ne.2 (Ne.symm same)
      simp only [passed]

lemma Value.renameMembers_eq_map :
    renameMembers σ m = m.map fun member => (member.1, member.2.rename σ) := by
  induction m with
  | nil => rfl
  | cons member rest ih => exact congrArg ((member.1, member.2.rename σ) :: ·) ih

/-- What renaming relates is alike under the other names. -/
lemma likeness_rename : Likeness σ fun v w => w = v.rename σ where
  null := rfl
  scalar h := h
  list h := ⟨_, h, Value.forall₂_renameItems⟩
  tuple h := ⟨_, h, Value.forall₂_renameItems⟩
  set h := ⟨_, h⟩
  map {m _} h := by
    refine ⟨_, h, fun key => ?_⟩
    rw [Value.renameMembers_eq_map, Mapping.get?_map fun _ => Value.rename σ]
    cases Mapping.get? m key with
    | none => exact .none
    | some v => exact .some rfl
  writable h := by rw [h, Value.isWritable_rename]

/-- What stands under a key of a renamed document. -/
lemma Mapping.get_renameUnder :
    Mapping.get (m.map fun member => (member.1, member.2.renameUnder σ member.1)) key =
      (Mapping.get m key).renameUnder σ (.str key) := by
  unfold Mapping.get
  rw [Mapping.get?_map fun key v => v.renameUnder σ key]
  cases Mapping.get? m key with
  | none =>
    simp only [Option.map_none, Option.getD_none, Value.renameUnder]
    split
    next => rfl
    next => split <;> rfl
  | some v => rfl

/-- Sections that are lists are renamed item by item, and other values are no sections. -/
lemma Value.asList_renameUnder {v : Value} (listed : key ∈ sectionKeys) :
    (v.renameUnder σ (.str key)).asList = renameItems σ v.asList := by
  have isSection : (sectionKeys.any fun name => Scalar.str key == .str name) = true := by
    simpa using listed
  have noCosts : ¬Scalar.str key = .str "cost_structure" := by
    rintro same
    cases same
    exact absurd listed (by decide)
  unfold renameUnder
  rw [if_neg noCosts, if_pos isSection]
  cases v <;> rfl

/-- A renamed document has the sections of the document under the other names. -/
lemma sectionsAlike_renameUnder : SectionsAlike (fun v w => w = v.rename σ) m
    (m.map fun member => (member.1, member.2.renameUnder σ member.1)) where
  items key listed := by
    rw [Mapping.get_renameUnder, Value.asList_renameUnder listed]
    exact Value.forall₂_renameItems
  costStructure := by
    rw [Mapping.get_renameUnder]
    exact likeness_rename.alike_asMapping rfl

/-- Renaming keeps what detection reads of the root. -/
lemma detect_renameSections (doc : Value) :
    Generation.detect (doc.renameSections σ) = Generation.detect doc := by
  cases doc with
  | map m =>
    -- Besides the sections, detection looks at the version, and at the kind of two cost keys.
    apply likeness_rename.detect_eq sectionsAlike_renameUnder
    · rw [Mapping.get_renameUnder]
      simp [Value.renameUnder, sectionKeys]
    · rw [Mapping.get_renameUnder]
      cases Mapping.get m "costs" <;> simp [Value.renameUnder, sectionKeys, Value.isList]
    · rw [Mapping.get_renameUnder]
      cases Mapping.get m "cost_structure" <;> rfl
  | _ => rfl

/-- Giving identifiers other names of the same kinds changes nothing but names: reports have the
same generation and issues of the same rules, severities and paths in the same order, and the graph
and the order of segments are the same under the other names. -/
theorem renameSections_equivariant (σ : Renaming) (doc : Value) :
    (∀ generation : Option Generation,
      (Lint.run (doc.renameSections σ) generation).map Lint.Report.outline =
        (Lint.run doc generation).map Lint.Report.outline) ∧
      Graph.build (doc.renameSections σ) = Graph.rename σ (Graph.build doc) ∧
        Graph.segmentOrder (doc.renameSections σ) = (Graph.segmentOrder doc).map σ := by
  have sections : SectionsAlike (fun v w => w = v.rename σ) doc.asMapping
      (doc.renameSections σ).asMapping := by
    cases doc with
    | map m => exact sectionsAlike_renameUnder
    | _ => exact Alike.sections likeness_rename Likeness.alike_nil
  -- From here on, that the one document is the other one renamed is not needed any more.
  refine ⟨fun generation => ?_, ?_, ?_⟩
  · apply likeness_rename.map_outline_run sections
    rw [detect_renameSections]
  · exact Graph.build_eq likeness_rename sections
  · exact Graph.segmentOrder_eq likeness_rename sections

example : (Value.map [(.str "customer_segments", .list [.map [(.str "id", .str "cs-a")]]),
      (.str "name", .str "cs-a")]).renameSections (.exchange "cs-a" "cs-b" (by decide)) =
    .map [(.str "customer_segments", .list [.map [(.str "id", .str "cs-b")]]),
      (.str "name", .str "cs-a")] := by
  rfl

end BusinessModel
