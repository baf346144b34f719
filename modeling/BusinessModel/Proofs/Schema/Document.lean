import BusinessModel.Proofs.Schema.Grammar
import BusinessModel.Proofs.Schema.Valid
import BusinessModel.Validation
import Mathlib.Data.List.Forall2

/-!
# Schemas against the grammar

The schema of each generation describes its grammar.  The shapes that schemas are put together from
describe the forms of the grammar, and each entity follows its description field by field.

* `Schema.Describes` — a schema accepts exactly the values of a form
* `Schema.describes_record` — closed records
* `Schema.describes_head` — the head, where the portfolio decides about the stages
* `Validation.accepts_iff_isDocument` — validation accepts exactly the documents of a generation
-/

namespace BusinessModel

open Grammar

namespace Schema

/-- A schema accepts exactly the values of a form. -/
def Describes (schema : Schema) (form : Value → Prop) : Prop :=
  ∀ v, schema.isValid v = true ↔ form v

/-- A schema for a member describes a field. -/
def DescribesField (row : String × Schema) (field : Field) : Prop :=
  row.1 = field.name ∧ Describes row.2 field.form

variable {schema : Schema} {form : Value → Prop} {kind : EntityKind} {names : List String}
  {rows : List (String × Schema)} {fields : List Field} {v : Value} {m : Mapping}

/-! ### Shapes -/

lemma describes_text : Describes text IsText := by
  intro v
  rw [text, isValid_hasType, TypeName.holds_string, IsText]

lemma describes_nonEmptyText : Describes nonEmptyText IsNonEmptyText := by
  intro v
  simp only [nonEmptyText, isValid_all_cons, isValid_all_nil, and_true, isValid_hasType,
    TypeName.holds_string]
  refine ⟨?_, ?_⟩
  · rintro ⟨⟨s, rfl⟩, long⟩
    refine ⟨s, rfl, ?_⟩
    rintro rfl
    exact absurd (isValid_minLength.1 long) (by decide)
  · rintro ⟨s, rfl, nonEmpty⟩
    refine ⟨⟨s, rfl⟩, isValid_minLength.2 ?_⟩
    rw [Nat.one_le_iff_ne_zero]
    simpa using nonEmpty

lemma describes_choice {choices : List String} : Describes (choice choices) (IsOneOf choices) :=
  fun _ => isValid_oneOf_str

lemma isValid_idOf {kinds : List EntityKind} :
    (idOf kinds).isValid v = true ↔ ∃ id, v = .str id ∧ ∃ kind ∈ kinds, kind.Spells id := by
  simp only [idOf, isValid_all_cons, isValid_all_nil, and_true, isValid_hasType,
    TypeName.holds_string]
  refine ⟨?_, ?_⟩
  · rintro ⟨⟨id, rfl⟩, found⟩
    exact ⟨id, rfl, TextPattern.foundIn_ofIds.1 (isValid_pattern.1 found)⟩
  · rintro ⟨id, rfl, spelled⟩
    exact ⟨⟨id, rfl⟩, isValid_pattern.2 (TextPattern.foundIn_ofIds.2 spelled)⟩

lemma describes_idOf : Describes (idOf [kind]) (IsId kind) := by
  intro v
  simp only [isValid_idOf, List.mem_singleton, exists_eq_left, IsId]

lemma describes_meansId : Describes (idOf [.keyResource, .keyActivity]) IsMeansId := by
  intro v
  simp only [isValid_idOf, List.mem_cons, List.not_mem_nil, or_false, exists_eq_or_imp,
    exists_eq_left, IsMeansId, IsId, and_or_left, exists_or]

lemma describes_listOf (h : Describes schema form) : Describes (listOf schema) (IsListOf form) := by
  intro v
  simp only [listOf, isValid_all_cons, isValid_all_nil, and_true, isValid_hasType,
    TypeName.holds_array]
  refine ⟨?_, ?_⟩
  · rintro ⟨⟨xs, rfl⟩, all⟩
    exact ⟨xs, rfl, fun x member => (h x).1 (isValid_items_zero.1 all x member)⟩
  · rintro ⟨xs, rfl, all⟩
    exact ⟨⟨xs, rfl⟩, isValid_items_zero.2 fun x member => (h x).2 (all x member)⟩

/-- Members that are described field by field have the names of the fields. -/
lemma map_fst_of_describesField (described : List.Forall₂ DescribesField rows fields) :
    rows.map (·.1) = fields.map (·.name) := by
  induction described with
  | nil => rfl
  | cons row _ ih => rw [List.map_cons, List.map_cons, row.1, ih]

/-- Members that are described field by field hold what the fields do. -/
lemma isValid_members_iff (described : List.Forall₂ DescribesField rows fields) :
    (members rows).isValid (.map m) = true ↔
      ∀ field ∈ fields, ∀ v, Mapping.get? m field.name = some v → field.form v := by
  rw [isValid_members]
  induction described with
  | nil => simp
  | cons row _ ih =>
    obtain ⟨name, describes⟩ := row
    rw [List.forall_mem_cons, List.forall_mem_cons, ih, name]
    exact and_congr_left fun _ => forall_congr' fun v => imp_congr_right fun _ => describes v

/-- A record whose members are described field by field, and which requires the needed fields. -/
lemma describes_record (needed : names = (fields.filter (·.needed)).map (·.name))
    (described : List.Forall₂ DescribesField rows fields) :
    Describes (record names rows) (IsRecord fields) := by
  intro v
  have known : rows.map (·.1) = fields.map (·.name) := map_fst_of_describesField described
  simp only [record, isValid_all_cons, isValid_all_nil, and_true, isValid_hasType,
    TypeName.holds_object, needed, known, IsRecord, conforms_iff]
  refine ⟨?_, ?_⟩
  · rintro ⟨⟨m, rfl⟩, required, others, form⟩
    exact ⟨m, rfl, isValid_noOthers.1 others, isValid_required.1 required,
      (isValid_members_iff described).1 form⟩
  · rintro ⟨m, rfl, others, required, form⟩
    exact ⟨⟨m, rfl⟩, isValid_required.2 required, isValid_noOthers.2 others,
      (isValid_members_iff described).2 form⟩

/-! ### The head -/

/-- Only mappings that name the portfolio are held to its stages. -/
lemma isValid_stagesOf {portfolio : String} {stages : List String} :
    (stagesOf portfolio stages).isValid (.map m) = true ↔
      (Mapping.get? m "portfolio" = some (.str portfolio) →
        ∀ v, Mapping.get? m "stage" = some v → IsOneOf stages v) := by
  have condition : Schema.isValid
      (.all [.members [("portfolio", .exactly (.str portfolio))], .required ["portfolio"]])
      (.map m) = true ↔ Mapping.get? m "portfolio" = some (.str portfolio) := by
    simp only [isValid_all_cons, isValid_all_nil, and_true, isValid_members, isValid_required,
      List.forall_mem_singleton, isValid_exactly_str, Mapping.hasKey]
    cases Mapping.get? m "portfolio" <;> simp
  rw [stagesOf, isValid_implies, condition, isValid_members, List.forall_mem_singleton]
  exact imp_congr_right fun _ => forall_congr' fun v => imp_congr_right fun _ => describes_choice v

/-- The portfolio and the stage of a head are two of its fields, apart from the others. -/
lemma conforms_headFields {portfolio stage : Value → Prop} :
    Conforms (headFields portfolio stage) m ↔
      Conforms (headFields (fun _ => True) (fun _ => True)) m ∧
        (∃ v, Mapping.get? m "portfolio" = some v ∧ portfolio v) ∧
          ∃ v, Mapping.get? m "stage" = some v ∧ stage v := by
  rw [conforms_iff, conforms_iff]
  simp only [headFields, List.forall_mem_cons]
  refine ⟨?_, ?_⟩
  · rintro ⟨known, needed, name, tagline, created, updated, isPortfolio, isStage, derived, _⟩
    have hasPortfolio := needed "portfolio" (by simp [needs, may])
    have hasStage := needed "stage" (by simp [needs, may])
    obtain ⟨p, foundPortfolio⟩ := Option.isSome_iff_exists.1 hasPortfolio
    obtain ⟨s, foundStage⟩ := Option.isSome_iff_exists.1 hasStage
    exact ⟨⟨known, needed, name, tagline, created, updated, fun _ _ => trivial, fun _ _ => trivial,
      derived, nofun⟩, ⟨p, foundPortfolio, isPortfolio p foundPortfolio⟩,
      ⟨s, foundStage, isStage s foundStage⟩⟩
  · rintro ⟨⟨known, needed, name, tagline, created, updated, _, _, derived, _⟩,
      ⟨p, foundPortfolio, isPortfolio⟩, ⟨s, foundStage, isStage⟩⟩
    refine ⟨known, needed, name, tagline, created, updated, ?_, ?_, derived, nofun⟩
    · intro v found
      cases foundPortfolio.symm.trans found
      exact isPortfolio
    · intro v found
      cases foundStage.symm.trans found
      exact isStage

/-- The record of the head, before the portfolio decides about the stages. -/
lemma describes_headRecord {portfolios stages : List String} :
    Describes
      (record ["name", "portfolio", "stage"]
        [("name", nonEmptyText), ("tagline", text), ("created", text), ("updated", text),
          ("portfolio", choice portfolios), ("stage", choice stages), ("derived_from", text)])
      (IsRecord (headFields (IsOneOf portfolios) (IsOneOf stages))) :=
  describes_record rfl <|
    .cons ⟨rfl, describes_nonEmptyText⟩ <| .cons ⟨rfl, describes_text⟩ <|
    .cons ⟨rfl, describes_text⟩ <| .cons ⟨rfl, describes_text⟩ <|
    .cons ⟨rfl, describes_choice⟩ <| .cons ⟨rfl, describes_choice⟩ <|
    .cons ⟨rfl, describes_text⟩ .nil

/-- A stage belongs to a portfolio if and only if it is one of all stages, and one of the own stages
of whichever portfolio it is. -/
lemma isStageOf_iff {portfolio stage : String} :
    IsStageOf portfolio stage ↔ portfolio ∈ ["explore", "exploit"] ∧
      stage ∈ ["ideation", "discovery", "validation", "acceleration", "transfer", "improve", "grow",
        "sustain", "retire"] ∧
      (portfolio = "explore" → stage ∈ exploreStages) ∧
      (portfolio = "exploit" → stage ∈ exploitStages) := by
  refine ⟨?_, ?_⟩
  · intro isStage
    cases isStage with
    | explore member =>
      refine ⟨by simp, ?_, fun _ => member, fun other => absurd other (by decide)⟩
      exact List.mem_append_left ["improve", "grow", "sustain", "retire"] member
    | exploit member =>
      refine ⟨by simp, ?_, fun other => absurd other (by decide), fun _ => member⟩
      simp only [List.mem_cons, List.not_mem_nil, or_false] at member ⊢
      tauto
  · rintro ⟨listed, _, explore, exploit⟩
    simp only [List.mem_cons, List.not_mem_nil, or_false] at listed
    obtain rfl | rfl := listed
    · exact .explore (explore rfl)
    · exact .exploit (exploit rfl)

/-- The schema of the head asks for a stage of the portfolio. -/
lemma describes_head : Describes head IsHead := by
  intro v
  rw [head, isValid_all_cons, describes_headRecord v]
  simp only [isValid_all_cons, isValid_all_nil, and_true]
  refine ⟨?_, ?_⟩
  · rintro ⟨⟨m, rfl, conforms⟩, explore, exploit⟩
    -- With both texts at hand, the two conditions become implications between them.
    obtain ⟨others, ⟨_, foundPortfolio, portfolio, isPortfolio, rfl⟩,
      ⟨_, foundStage, stage, isStage, rfl⟩⟩ := conforms_headFields.1 conforms
    simp only [isValid_stagesOf, foundPortfolio, foundStage, Option.some.injEq, Value.scalar.injEq,
      Scalar.str.injEq, forall_eq', isOneOf_str] at explore exploit
    exact ⟨portfolio, stage, isStageOf_iff.2 ⟨isPortfolio, isStage, explore, exploit⟩, m, rfl,
      conforms_headFields.2 ⟨others, ⟨_, foundPortfolio, rfl⟩, ⟨_, foundStage, rfl⟩⟩⟩
  · rintro ⟨portfolio, stage, belongs, m, rfl, conforms⟩
    obtain ⟨others, ⟨_, foundPortfolio, rfl⟩, ⟨_, foundStage, rfl⟩⟩ :=
      conforms_headFields.1 conforms
    obtain ⟨isPortfolio, isStage, explore, exploit⟩ := isStageOf_iff.1 belongs
    simp only [isValid_stagesOf, foundPortfolio, foundStage, Option.some.injEq, Value.scalar.injEq,
      Scalar.str.injEq, forall_eq', isOneOf_str]
    exact ⟨⟨m, rfl, conforms_headFields.2 ⟨others, ⟨_, foundPortfolio, isOneOf_str.2 isPortfolio⟩,
      ⟨_, foundStage, isOneOf_str.2 isStage⟩⟩⟩, explore, exploit⟩

/-! ### Entities of the first generation -/

namespace FlatDocument

lemma describes_job : Describes job (IsRecord Flat.job) :=
  describes_record rfl <|
    .cons ⟨rfl, describes_idOf⟩ <| .cons ⟨rfl, describes_choice⟩ <| .cons ⟨rfl, describes_text⟩ <|
    .cons ⟨rfl, describes_choice⟩ .nil

lemma describes_pain : Describes pain (IsRecord Flat.pain) :=
  describes_record rfl <|
    .cons ⟨rfl, describes_idOf⟩ <| .cons ⟨rfl, describes_text⟩ <|
    .cons ⟨rfl, describes_choice⟩ .nil

lemma describes_gain : Describes gain (IsRecord Flat.gain) :=
  describes_record rfl <|
    .cons ⟨rfl, describes_idOf⟩ <| .cons ⟨rfl, describes_text⟩ <|
    .cons ⟨rfl, describes_choice⟩ .nil

lemma describes_customerSegment : Describes customerSegment (IsRecord Flat.customerSegment) :=
  describes_record rfl <|
    .cons ⟨rfl, describes_idOf⟩ <| .cons ⟨rfl, describes_text⟩ <| .cons ⟨rfl, describes_text⟩ <|
    .cons ⟨rfl, describes_listOf describes_job⟩ <| .cons ⟨rfl, describes_listOf describes_pain⟩ <|
    .cons ⟨rfl, describes_listOf describes_gain⟩ .nil

lemma describes_productService : Describes productService (IsRecord Flat.productService) :=
  describes_record rfl <|
    .cons ⟨rfl, describes_idOf⟩ <| .cons ⟨rfl, describes_choice⟩ <|
    .cons ⟨rfl, describes_text⟩ .nil

lemma describes_valueProposition : Describes valueProposition (IsRecord Flat.valueProposition) :=
  describes_record rfl <|
    .cons ⟨rfl, describes_idOf⟩ <| .cons ⟨rfl, describes_text⟩ <| .cons ⟨rfl, describes_text⟩ <|
    .cons ⟨rfl, describes_listOf describes_productService⟩ .nil

lemma describes_fitItem {target : String} :
    Describes (fitItem target kind) (IsRecord (Flat.fitItem target kind)) :=
  describes_record rfl <|
    .cons ⟨rfl, describes_idOf⟩ <| .cons ⟨rfl, describes_listOf describes_idOf⟩ <|
    .cons ⟨rfl, describes_text⟩ .nil

lemma describes_fit : Describes fit (IsRecord Flat.fit) :=
  describes_record rfl <|
    .cons ⟨rfl, describes_idOf⟩ <| .cons ⟨rfl, describes_idOf⟩ <| .cons ⟨rfl, describes_idOf⟩ <|
    .cons ⟨rfl, describes_listOf describes_fitItem⟩ <|
    .cons ⟨rfl, describes_listOf describes_fitItem⟩ <|
    .cons ⟨rfl, describes_listOf describes_fitItem⟩ .nil

lemma describes_channel : Describes channel (IsRecord Flat.channel) :=
  describes_record rfl <|
    .cons ⟨rfl, describes_idOf⟩ <| .cons ⟨rfl, describes_text⟩ <| .cons ⟨rfl, describes_choice⟩ <|
    .cons ⟨rfl, describes_listOf describes_idOf⟩ <|
    .cons ⟨rfl, describes_listOf describes_choice⟩ .nil

lemma describes_customerRelationship :
    Describes customerRelationship (IsRecord Flat.customerRelationship) :=
  describes_record rfl <|
    .cons ⟨rfl, describes_idOf⟩ <| .cons ⟨rfl, describes_idOf⟩ <| .cons ⟨rfl, describes_choice⟩ <|
    .cons ⟨rfl, describes_text⟩ .nil

lemma describes_revenueStream : Describes revenueStream (IsRecord Flat.revenueStream) :=
  describes_record rfl <|
    .cons ⟨rfl, describes_idOf⟩ <| .cons ⟨rfl, describes_text⟩ <| .cons ⟨rfl, describes_choice⟩ <|
    .cons ⟨rfl, describes_listOf describes_idOf⟩ <| .cons ⟨rfl, describes_idOf⟩ <|
    .cons ⟨rfl, describes_choice⟩ .nil

lemma describes_keyResource : Describes keyResource (IsRecord Flat.keyResource) :=
  describes_record rfl <|
    .cons ⟨rfl, describes_idOf⟩ <| .cons ⟨rfl, describes_text⟩ <| .cons ⟨rfl, describes_choice⟩ <|
    .cons ⟨rfl, describes_text⟩ <| .cons ⟨rfl, describes_listOf describes_idOf⟩ .nil

lemma describes_keyActivity : Describes keyActivity (IsRecord Flat.keyActivity) :=
  describes_record rfl <|
    .cons ⟨rfl, describes_idOf⟩ <| .cons ⟨rfl, describes_text⟩ <| .cons ⟨rfl, describes_choice⟩ <|
    .cons ⟨rfl, describes_text⟩ <| .cons ⟨rfl, describes_listOf describes_idOf⟩ .nil

lemma describes_keyPartnership : Describes keyPartnership (IsRecord Flat.keyPartnership) :=
  describes_record rfl <|
    .cons ⟨rfl, describes_idOf⟩ <| .cons ⟨rfl, describes_text⟩ <| .cons ⟨rfl, describes_choice⟩ <|
    .cons ⟨rfl, describes_choice⟩ <| .cons ⟨rfl, describes_listOf describes_meansId⟩ .nil

lemma describes_majorCost : Describes majorCost (IsRecord Flat.majorCost) :=
  describes_record rfl <|
    .cons ⟨rfl, describes_text⟩ <| .cons ⟨rfl, describes_choice⟩ <|
    .cons ⟨rfl, describes_listOf describes_meansId⟩ .nil

lemma describes_costStructure : Describes costStructure (IsRecord Flat.costStructure) :=
  describes_record rfl <|
    .cons ⟨rfl, describes_choice⟩ <| .cons ⟨rfl, describes_listOf describes_choice⟩ <|
    .cons ⟨rfl, describes_listOf describes_majorCost⟩ .nil

end FlatDocument

/-! ### Entities of the second generation -/

namespace TypedDocument

lemma describes_profileItem : Describes (profileItem kind) (IsRecord (Typed.profileItem kind)) :=
  describes_record rfl <|
    .cons ⟨rfl, describes_idOf⟩ <| .cons ⟨rfl, describes_text⟩ .nil

lemma describes_valueMapItem : Describes (valueMapItem kind) (IsRecord (Typed.valueMapItem kind)) :=
  describes_record rfl <|
    .cons ⟨rfl, describes_idOf⟩ <| .cons ⟨rfl, describes_text⟩ .nil

lemma describes_customerSegment : Describes customerSegment (IsRecord Typed.customerSegment) :=
  describes_record rfl <|
    .cons ⟨rfl, describes_idOf⟩ <| .cons ⟨rfl, describes_text⟩ <| .cons ⟨rfl, describes_text⟩ <|
    .cons ⟨rfl, describes_listOf describes_profileItem⟩ <|
    .cons ⟨rfl, describes_listOf describes_profileItem⟩ <|
    .cons ⟨rfl, describes_listOf describes_profileItem⟩ .nil

lemma describes_valueProposition : Describes valueProposition (IsRecord Typed.valueProposition) :=
  describes_record rfl <|
    .cons ⟨rfl, describes_idOf⟩ <| .cons ⟨rfl, describes_text⟩ <| .cons ⟨rfl, describes_text⟩ <|
    .cons ⟨rfl, describes_listOf describes_valueMapItem⟩ <|
    .cons ⟨rfl, describes_listOf describes_valueMapItem⟩ <|
    .cons ⟨rfl, describes_listOf describes_valueMapItem⟩ .nil

/-- Five assertions leave nothing but lists of exactly two texts. -/
lemma describes_mapping : Describes mapping IsPair := by
  intro v
  simp only [mapping, isValid_all_cons, isValid_all_nil, and_true, isValid_hasType,
    TypeName.holds_array]
  refine ⟨?_, ?_⟩
  · rintro ⟨⟨xs, rfl⟩, leading, _, atLeast, atMost⟩
    -- The bounds fix the length, and the leading assertions reach every item.
    have two : xs.length = 2 :=
      Nat.le_antisymm (isValid_maxItems.1 atMost) (isValid_minItems.1 atLeast)
    obtain ⟨first, second, rfl⟩ := List.length_eq_two.1 two
    have texts := isValid_leadingItems.1 leading
    obtain ⟨left, rfl⟩ := (describes_text _).1 (texts (text, first) (by simp))
    obtain ⟨right, rfl⟩ := (describes_text _).1 (texts (text, second) (by simp))
    exact ⟨left, right, rfl⟩
  · rintro ⟨left, right, rfl⟩
    refine ⟨⟨_, rfl⟩, isValid_leadingItems.2 ?_, isValid_noItemsAfter.2 (Nat.le_refl 2),
      isValid_minItems.2 (Nat.le_refl 2), isValid_maxItems.2 (Nat.le_refl 2)⟩
    simp only [List.zip_cons_cons, List.zip_nil_left, List.forall_mem_cons]
    exact ⟨(describes_text _).2 ⟨left, rfl⟩, (describes_text _).2 ⟨right, rfl⟩,
      List.forall_mem_nil _⟩

lemma describes_fitReferences :
    Describes (record ["value_propositions", "customer_segments"] [toPropositions, toSegments])
      (IsRecord Typed.fitReferences) :=
  describes_record rfl <|
    .cons ⟨rfl, describes_listOf describes_idOf⟩ <|
    .cons ⟨rfl, describes_listOf describes_idOf⟩ .nil

lemma describes_fit : Describes fit (IsRecord Typed.fit) :=
  describes_record rfl <|
    .cons ⟨rfl, describes_idOf⟩ <| .cons ⟨rfl, describes_fitReferences⟩ <|
    .cons ⟨rfl, describes_listOf describes_mapping⟩ .nil

/-- Fields that can be left out are not needed. -/
lemma filter_needed_may {α : Type} {name : α → String} {forms : α → Value → Prop} {xs : List α} :
    (xs.map fun x => may (name x) (forms x)).filter (·.needed) = [] := by
  rw [List.filter_eq_nil_iff, List.forall_mem_map]
  exact fun _ _ => Bool.false_ne_true

/-- References to some targets, by the names of their sections. -/
lemma describes_references (targets : List Typed.Target) :
    Describes (record [] (targets.map fun target => (target.1, idsOf target.2)))
      (IsRecord (Typed.references targets)) := by
  refine describes_record (by rw [Typed.references, filter_needed_may]; rfl) ?_
  rw [Typed.references, List.forall₂_map_left_iff, List.forall₂_map_right_iff, List.forall₂_same]
  exact fun target _ => ⟨rfl, describes_listOf describes_idOf⟩

lemma describes_linked (relations : List (String × List Typed.Target)) :
    Describes
      (linked kind (relations.map fun relation =>
        (relation.1, relation.2.map fun target => (target.1, idsOf target.2))))
      (IsRecord (Typed.linked kind relations)) := by
  have described : List.Forall₂ DescribesField
      ((relations.map fun relation =>
        (relation.1, relation.2.map fun target => (target.1, idsOf target.2))).map
          fun relation => (relation.1, record [] relation.2))
      (relations.map fun relation => may relation.1 (IsRecord (Typed.references relation.2))) := by
    rw [List.map_map, List.forall₂_map_left_iff, List.forall₂_map_right_iff, List.forall₂_same]
    exact fun relation _ => ⟨rfl, describes_references relation.2⟩
  refine describes_record ?_ ?_
  · rw [Typed.linked, List.filter_append, filter_needed_may]
    rfl
  · exact .cons ⟨rfl, describes_idOf⟩ <| .cons ⟨rfl, describes_text⟩ described

end TypedDocument

/-! ### Documents -/

/-- The schema that comes with a generation describes its documents. -/
lemma describes_packaged (g : Generation) :
    Describes (Validation.packaged g) (IsDocument g) := by
  have version : ∀ text, Describes (.exactly (.str text)) (· = .str text) :=
    fun _ _ => isValid_exactly_str
  cases g with
  | v1 =>
    open FlatDocument in
    exact describes_record rfl <|
      .cons ⟨rfl, version _⟩ <| .cons ⟨rfl, describes_head⟩ <|
      .cons ⟨rfl, describes_listOf describes_customerSegment⟩ <|
      .cons ⟨rfl, describes_listOf describes_valueProposition⟩ <|
      .cons ⟨rfl, describes_listOf describes_fit⟩ <|
      .cons ⟨rfl, describes_listOf describes_channel⟩ <|
      .cons ⟨rfl, describes_listOf describes_customerRelationship⟩ <|
      .cons ⟨rfl, describes_listOf describes_revenueStream⟩ <|
      .cons ⟨rfl, describes_listOf describes_keyResource⟩ <|
      .cons ⟨rfl, describes_listOf describes_keyActivity⟩ <|
      .cons ⟨rfl, describes_listOf describes_keyPartnership⟩ <|
      .cons ⟨rfl, describes_costStructure⟩ .nil
  | v2 =>
    open TypedDocument in
    exact describes_record rfl <|
      .cons ⟨rfl, version _⟩ <| .cons ⟨rfl, describes_head⟩ <|
      .cons ⟨rfl, describes_listOf describes_customerSegment⟩ <|
      .cons ⟨rfl, describes_listOf describes_valueProposition⟩ <|
      .cons ⟨rfl, describes_listOf describes_fit⟩ <|
      .cons ⟨rfl, describes_listOf (describes_linked
        [("for", [Typed.toPropositions, Typed.toSegments])])⟩ <|
      .cons ⟨rfl, describes_listOf (describes_linked [("for", [Typed.toSegments])])⟩ <|
      .cons ⟨rfl, describes_listOf (describes_linked
        [("from", [Typed.toSegments]), ("for", [Typed.toPropositions])])⟩ <|
      .cons ⟨rfl, describes_listOf (describes_linked [("for", [Typed.toPropositions])])⟩ <|
      .cons ⟨rfl, describes_listOf (describes_linked [("for", [Typed.toPropositions])])⟩ <|
      .cons ⟨rfl, describes_listOf (describes_linked
        [("for", [Typed.toResources, Typed.toActivities])])⟩ <|
      .cons ⟨rfl, describes_listOf (describes_linked
        [("for", [Typed.toResources, Typed.toActivities])])⟩ .nil

end Schema

namespace Validation

/-- Validation under a given or else the detected generation gives a report without issues. -/
def Accepts (value : Value) (generation : Option Generation) : Prop :=
  (run value generation).map Report.valid = .ok true

/-- A document is reported to be valid if and only if it is valid under the schema. -/
lemma accepts_iff_isValid {value : Value} {generation : Option Generation} :
    Accepts value generation ↔
      (packaged (generation.getD (Generation.detect value))).isValid value = true := by
  rw [Accepts, Schema.isValid_iff, run, check]
  split
  next writable =>
    simp only [Except.map, Except.ok.injEq, Report.valid, Report.ofSchema, List.isEmpty_iff,
      ← List.length_eq_zero_iff, List.length_mergeSort, List.length_map]
  next unwritable =>
    -- There is a message that cannot be written, so there is a violation.
    refine iff_of_false nofun fun none => unwritable ?_
    rw [none]
    rfl

/-- Validation accepts a value as a document of its own generation exactly if it is one. -/
lemma accepts_iff {value : Value} {generation : Option Generation} :
    Accepts value generation ↔
      IsDocument (generation.getD (Generation.detect value)) value := by
  rw [accepts_iff_isValid, Schema.describes_packaged]

/-- Validation accepts a value under a generation if and only if it is a document of that
generation. -/
theorem accepts_iff_isDocument (value : Value) (g : Generation) :
    Accepts value (some g) ↔ IsDocument g value :=
  accepts_iff

end Validation

end BusinessModel
