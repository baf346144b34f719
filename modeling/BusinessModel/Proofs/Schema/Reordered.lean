import BusinessModel.Proofs.Alike.Reordered
import BusinessModel.Proofs.Pointer.Decoded
import Mathlib.Data.Multiset.Basic

/-!
# Schemas and the order of members

Most assertions look members up by their names, or ask which keys there are.  What they find does
not depend on the order of members, and neither does where they find it.  The schemas of both
generations make no other assertions.

* `Schema.Orderless` — schemas that do not depend on the order of members
* `Schema.map_outline_violations` — the violations of an orderless schema by reordered values
* `Schema.orderless_packaged` — the schemas of both generations are orderless
* `reordered_same` — detection, reports, graphs and validation of reordered documents
-/

namespace BusinessModel

open Value (Reordered)

/-- Reordered values have the same types. -/
lemma TypeName.holds_eq {v w : Value} (type : TypeName) (h : Reordered v w) :
    type.holds w = type.holds v := by
  cases h <;> cases type <;> rfl

namespace Schema

/-- Schemas whose violations do not depend on the order of members. -/
inductive Orderless : Schema → Prop where
  | all {parts} : (∀ part ∈ parts, Orderless part) → Orderless (.all parts)
  | hasType {types} : Orderless (.hasType types)
  | exactly {s} : Orderless (.exactly (.str s))
  | oneOf {texts : List String} : Orderless (.oneOf (texts.map Value.str))
  | required {names} : Orderless (.required names)
  | members {rows} : (∀ row ∈ rows, Orderless row.2) → Orderless (.members rows)
  | noOthers {known} : Orderless (.noOthers known)
  | leadingItems {schemas} : (∀ part ∈ schemas, Orderless part) → Orderless (.leadingItems schemas)
  | items {start schema} : Orderless schema → Orderless (.items start schema)
  | noItemsAfter {count} : Orderless (.noItemsAfter count)
  | minItems {count} : Orderless (.minItems count)
  | maxItems {count} : Orderless (.maxItems count)
  | minLength {count} : Orderless (.minLength count)
  | pattern {p} : Orderless (.pattern p)
  | implies {condition consequence} :
    Orderless condition →
    Orderless consequence →
    Orderless (.implies condition consequence)

/-- What a violation says apart from its message: its place, its code, and whether its message can
be written. -/
def Violation.outline (v : Violation) : Pointer × String × Bool :=
  (v.place, v.fault.code, v.isWritable)

variable {schema : Schema} {v w : Value} {xs ys : List Value} {m n : Mapping}

/-- A single assertion that holds of both values or of neither, and is reported alike. -/
lemma map_outline_failing {b c : Bool} {f g : Fault} (same : c = b) (code : g.code = f.code)
    (writable : g.shown.all Value.isWritable = f.shown.all Value.isWritable) :
    (failing c g).map Violation.outline = (failing b f).map Violation.outline := by
  subst same
  cases c with
  | true => rfl
  | false => simp only [failing, Bool.false_eq_true, if_false, List.map_cons, List.map_nil,
      Violation.outline, Violation.isWritable, code, writable]

/-- Violations of parts that say the same say the same of the whole. -/
lemma map_outline_under {step : Step} {found found' : List Violation} (orderless : schema.Orderless)
    (same : found'.map Violation.outline = found.map Violation.outline) :
    (under schema step found').map Violation.outline =
      (under schema step found).map Violation.outline := by
  have placed : ∀ found, (under schema step found).map Violation.outline =
      (found.map Violation.outline).map fun outline => (step :: outline.1, outline.2) := by
    intro found
    cases orderless <;> simp only [under, List.map_map] <;> rfl
  rw [placed, placed, same]

/-- A reordered value is the same as a text if the value is. -/
lemma same_str_eq (s : String) (h : Reordered v w) :
    (Value.str s).same w = (Value.str s).same v := by
  cases h <;> rfl

/-- The keys that a mapping should not have are those of the reordered mapping. -/
lemma unknownKeys_perm (known : List String) (h : Reordered (.map m) (.map n)) :
    (unknownKeys known n).Perm (unknownKeys known m) := by
  have ofKeys : ∀ m : Mapping, unknownKeys known m =
      (m.map (·.1)).filter fun key => !known.any fun name => key == .str name := by
    intro m
    rw [List.filter_map]
    rfl
  -- Members are replaced by related ones under the same keys, and then put in another order.
  cases h with
  | map _ keys _ perm =>
    rw [ofKeys, ofKeys, ← keys]
    exact (perm.symm.map _).filter _

/-- A schema says the same of reordered values, apart from messages. -/
def SaysTheSame (schema : Schema) : Prop :=
  ∀ {v w}, Reordered v w →
    (violations schema w).map Violation.outline = (violations schema v).map Violation.outline

lemma map_outline_all {parts : List Schema} (each : ∀ part ∈ parts, part.SaysTheSame)
    (h : Reordered v w) : (violationsOfAll parts w).map Violation.outline =
      (violationsOfAll parts v).map Violation.outline := by
  induction parts with
  | nil => rfl
  | cons part rest ih =>
    have first := each part List.mem_cons_self h
    have others := ih fun part listed => each part (List.mem_cons_of_mem _ listed)
    simp only [violationsOfAll, List.map_append, first, others]

lemma map_outline_members {rows : List (String × Schema)}
    (orderless : ∀ row ∈ rows, row.2.Orderless) (each : ∀ row ∈ rows, row.2.SaysTheSame)
    (h : Alike Reordered m n) : (violationsOfMembers rows n).map Violation.outline =
      (violationsOfMembers rows m).map Violation.outline := by
  induction rows with
  | nil => rfl
  | cons row rest ih =>
    have others := ih (fun row listed => orderless row (List.mem_cons_of_mem _ listed))
      fun row listed => each row (List.mem_cons_of_mem _ listed)
    simp only [violationsOfMembers, List.map_append, others]
    congr 1
    have member := h row.1
    generalize Mapping.get? m row.1 = a at member
    generalize Mapping.get? n row.1 = b at member
    cases member with
    | none => rfl
    | some related =>
      apply map_outline_under (orderless row List.mem_cons_self)
      exact each row List.mem_cons_self related

lemma map_outline_leading {schemas : List Schema} (orderless : ∀ part ∈ schemas, part.Orderless)
    (each : ∀ part ∈ schemas, part.SaysTheSame) (items : List.Forall₂ Reordered xs ys) (i : Nat) :
    (violationsOfLeading schemas i ys).map Violation.outline =
      (violationsOfLeading schemas i xs).map Violation.outline := by
  induction schemas generalizing xs ys i with
  | nil => rfl
  | cons part rest ih =>
    cases items with
    | nil => rfl
    | cons first items =>
      have others := ih (fun part listed => orderless part (List.mem_cons_of_mem _ listed))
        (fun part listed => each part (List.mem_cons_of_mem _ listed)) items (i + 1)
      simp only [violationsOfLeading, List.map_append, others]
      congr 1
      apply map_outline_under (orderless part List.mem_cons_self)
      exact each part List.mem_cons_self first

lemma map_outline_items (orderless : schema.Orderless) (same : schema.SaysTheSame)
    (items : List.Forall₂ Reordered xs ys) (start : Nat) :
    (violations (.items start schema) (.list ys)).map Violation.outline =
      (violations (.items start schema) (.list xs)).map Violation.outline := by
  have numbered := List.forall₂_drop start (forall₂_zipIdx items)
  simp only [violations, List.map_flatMap]
  generalize xs.zipIdx.drop start = as at numbered
  generalize ys.zipIdx.drop start = bs at numbered
  induction numbered with
  | nil => rfl
  | cons first _ ih =>
    obtain ⟨related, index⟩ := first
    rw [List.flatMap_cons, List.flatMap_cons, ih, index]
    congr 1
    exact map_outline_under orderless (same related)

/-- Orderless schemas find reordered values at fault in the same places for the same reasons. -/
lemma Orderless.saysTheSame (orderless : schema.Orderless) : schema.SaysTheSame := by
  intro v w h
  induction orderless generalizing v w with
  | all _ ih => exact map_outline_all (fun part listed _ _ h => ih part listed h) h
  | @hasType types =>
    apply map_outline_failing
    · simp only [TypeName.holds_eq _ h]
    · rfl
    · exact likeness_reordered.all_isWritable_eq (.cons h .nil)
  | exactly =>
    apply map_outline_failing
    · exact same_str_eq _ h
    · rfl
    · rfl
  | oneOf =>
    apply map_outline_failing
    · simp only [List.any_map, Function.comp_def, same_str_eq _ h]
    · rfl
    · simp only [Fault.shown, List.all_cons, h.isWritable_eq]
  | @required names =>
    have keys := Likeness.hasKey_eq (likeness_reordered.alike_asMapping h)
    cases h with
    | map => simp only [violations, Value.asMapping] at keys ⊢; simp only [keys]
    | _ => rfl
  | members orderless ih =>
    have alike := likeness_reordered.alike_asMapping h
    cases h with
    | map => exact map_outline_members orderless (fun row listed _ _ h => ih row listed h) alike
    | _ => rfl
  | @noOthers known =>
    cases h with
    | map distinct keys values perm =>
      have unknown := unknownKeys_perm known (.map distinct keys values perm)
      apply map_outline_failing
      · exact unknown.isEmpty_eq
      · rfl
      · exact (unknown.map _).all_eq
    | _ => rfl
  | leadingItems orderless ih =>
    cases h with
    | list items =>
      exact map_outline_leading orderless (fun part listed _ _ h => ih part listed h) items 0
    | _ => rfl
  | @items start schema orderless ih =>
    cases h with
    | list items => exact map_outline_items orderless ih items start
    | _ => rfl
  | @noItemsAfter count =>
    cases h with
    | list items =>
      apply map_outline_failing
      · rw [items.length_eq]
      · rfl
      · exact likeness_reordered.all_isWritable_eq (List.forall₂_drop count items)
    | _ => rfl
  | @minItems count =>
    cases h with
    | list items =>
      apply map_outline_failing
      · rw [items.length_eq]
      · rfl
      · exact likeness_reordered.all_isWritable_eq (.cons (.list items) .nil)
    | _ => rfl
  | @maxItems count =>
    cases h with
    | list items =>
      apply map_outline_failing
      · rw [items.length_eq]
      · rfl
      · exact likeness_reordered.all_isWritable_eq (.cons (.list items) .nil)
    | _ => rfl
  | minLength => cases h <;> rfl
  | pattern => cases h <;> rfl
  | implies _ _ condition consequence =>
    have checked := congrArg List.isEmpty (condition h)
    rw [List.isEmpty_map, List.isEmpty_map] at checked
    simp only [violations, checked]
    split
    next => exact consequence h
    next => rfl

/-! ### The schemas of both generations -/

variable {names : List String} {rows : List (String × Schema)}

@[simp]
lemma orderless_all {parts : List Schema} :
    (Schema.all parts).Orderless ↔ ∀ part ∈ parts, part.Orderless := by
  refine ⟨?_, .all⟩
  intro h
  cases h with
  | all parts => exact parts

@[simp]
lemma orderless_members : (Schema.members rows).Orderless ↔ ∀ row ∈ rows, row.2.Orderless := by
  refine ⟨?_, .members⟩
  intro h
  cases h with
  | members fields => exact fields

@[simp]
lemma orderless_items {start : Nat} : (Schema.items start schema).Orderless ↔ schema.Orderless := by
  refine ⟨?_, .items⟩
  intro h
  cases h with
  | items items => exact items

attribute [simp] Orderless.hasType Orderless.exactly Orderless.required Orderless.noOthers
  Orderless.noItemsAfter Orderless.minItems Orderless.maxItems Orderless.minLength Orderless.pattern

@[simp]
lemma orderless_choice {choices : List String} : (choice choices).Orderless := .oneOf

@[simp]
lemma orderless_listOf : (listOf schema).Orderless ↔ schema.Orderless := by
  simp [listOf]

@[simp]
lemma orderless_record : (record names rows).Orderless ↔ ∀ row ∈ rows, row.2.Orderless := by
  simp [record]

lemma orderless_stagesOf {portfolio : String} {stages : List String} :
    (stagesOf portfolio stages).Orderless := by
  apply Orderless.implies <;> simp

lemma orderless_head : head.Orderless := by
  simp [head, nonEmptyText, text, orderless_stagesOf]

lemma orderless_documentOf {discriminator : String} (sections : ∀ row ∈ rows, row.2.Orderless) :
    (documentOf discriminator rows).Orderless := by
  rw [documentOf, orderless_record, List.forall_mem_append]
  refine ⟨?_, sections⟩
  rw [List.forall_mem_cons, List.forall_mem_singleton]
  exact ⟨.exactly, orderless_head⟩

section Flat

open FlatDocument

lemma orderless_flatDocument : FlatDocument.document.Orderless := by
  apply orderless_documentOf
  simp [text, idOf, idsOf, customerSegment, job, pain, gain, level, valueProposition,
    productService, fit, fitItem, channel, customerRelationship, revenueStream, keyResource,
    keyActivity, keyPartnership, resourceOrActivityIds, costStructure, majorCost]

end Flat

section Typed

open TypedDocument

lemma orderless_mapping : mapping.Orderless := by
  have texts : (leadingItems [text, text]).Orderless := .leadingItems (by simp [text])
  simp [mapping, texts]

lemma orderless_typedDocument : TypedDocument.document.Orderless := by
  apply orderless_documentOf
  simp [text, idOf, idsOf, customerSegment, profileItem, valueProposition, valueMapItem, fit,
    orderless_mapping, linked, toPropositions, toSegments, toResources, toActivities]

end Typed

/-- The schemas of both generations are orderless. -/
lemma orderless_packaged (g : Generation) : (Validation.packaged g).Orderless := by
  cases g with
  | v1 => exact orderless_flatDocument
  | v2 => exact orderless_typedDocument

end Schema

namespace Validation.Report

/-- What a report says apart from its messages: its generation, whether the document is valid, and
the path and the code of each issue, in no order. -/
def outline (r : Report) : Generation × Bool × Multiset (String × String) :=
  (r.generation, r.valid, r.issues.map fun issue => (issue.path, issue.code))

end Validation.Report

open Value (Reordered)

/-- The report of a document against a schema is read off what the violations say apart from their
messages. -/
lemma Validation.outline_ofSchema (g : Generation) (schema : Schema) (doc : Value) :
    (Report.ofSchema g schema doc).outline =
      (g, ((schema.violations doc).map Schema.Violation.outline).isEmpty,
        ↑(((schema.violations doc).map Schema.Violation.outline).map fun outline =>
          (outline.1.text, outline.2.1))) := by
  have sorted : (Report.ofSchema g schema doc).issues.Perm
      ((schema.violations doc).map Issue.ofViolation) := List.mergeSort_perm _ _
  have valid : (Report.ofSchema g schema doc).valid =
      ((schema.violations doc).map Schema.Violation.outline).isEmpty := by
    rw [Report.valid, sorted.isEmpty_eq, List.isEmpty_map, List.isEmpty_map]
  have issues : ((Report.ofSchema g schema doc).issues.map fun issue =>
      (issue.path, issue.code)).Perm
        (((schema.violations doc).map Schema.Violation.outline).map fun outline =>
          (outline.1.text, outline.2.1)) := by
    refine (sorted.map _).trans (.of_eq ?_)
    rw [List.map_map, List.map_map]
    exact List.map_congr_left fun v _ => congrArg (·, v.fault.code) (Issue.path_ofViolation v)
  unfold Report.outline
  rw [valid, Multiset.coe_eq_coe.2 issues]
  rfl

/-- Orderless schemas report reordered documents alike, apart from messages and from the order of
issues, which follows the messages. -/
lemma Validation.map_outline_check {schema : Schema} {doc doc' : Value} (g : Generation)
    (orderless : schema.Orderless) (h : Reordered doc doc') :
    (Validation.check g schema doc').map Report.outline =
      (Validation.check g schema doc).map Report.outline := by
  have same := orderless.saysTheSame h
  have writable : ∀ doc, (schema.violations doc).all Schema.Violation.isWritable =
      ((schema.violations doc).map Schema.Violation.outline).all (·.2.2) := by
    intro doc
    rw [List.all_map]
    rfl
  unfold Validation.check
  rw [writable, writable, same]
  split
  next =>
    simp only [Except.map, outline_ofSchema, same]
  next => rfl

/-- The order of members is irrelevant: a reordered document is of the same generation, its report
has issues of the same rules, severities and paths in the same order, its graph and the order of its
segments are the same, and it is valid or not alike, with the same codes at the same paths. -/
theorem reordered_same {doc doc' : Value} (h : Reordered doc doc') :
    Generation.detect doc' = Generation.detect doc ∧
      (∀ generation : Option Generation,
        (Lint.run doc' generation).map Lint.Report.outline =
          (Lint.run doc generation).map Lint.Report.outline) ∧
        Graph.build doc' = Graph.build doc ∧
          Graph.segmentOrder doc' = Graph.segmentOrder doc ∧
            ∀ generation : Option Generation,
              (Validation.run doc' generation).map Validation.Report.outline =
                (Validation.run doc generation).map Validation.Report.outline := by
  have like := likeness_reordered
  have sections := h.sections
  refine ⟨h.detect_eq, fun generation => ?_, ?_, ?_, fun generation => ?_⟩
  · apply like.map_outline_run sections
    rw [h.detect_eq]
  · rw [Graph.build_eq like sections, Graph.rename_refl]
  · rw [Graph.segmentOrder_eq like sections]
    exact List.map_id _
  · unfold Validation.run
    rw [h.detect_eq]
    exact Validation.map_outline_check _ (Schema.orderless_packaged _) h

/-- A document with its version behind its segments, and names in front of identifiers, still is of
the second generation and declares the same segment. -/
theorem reordered_same_swapped :
    let doc : Value := .map [(.str "version", .str "2.0"), (.str "customer_segments", .list
      [.map [(.str "id", .str "cs-retail"), (.str "name", .str "Retail")]])]
    let doc' : Value := .map [(.str "customer_segments", .list
      [.map [(.str "name", .str "Retail"), (.str "id", .str "cs-retail")]]),
      (.str "version", .str "2.0")]
    Reordered doc doc' ∧ Generation.detect doc' = .v2 ∧
      Graph.build doc' = [("cs-retail", ["cs-retail"])] := by
  intro doc doc'
  have entry : Reordered
      (.map [(.str "id", .str "cs-retail"), (.str "name", .str "Retail")])
      (.map [(.str "name", .str "Retail"), (.str "id", .str "cs-retail")]) :=
    .map (by decide) rfl (.cons .scalar (.cons .scalar .nil)) (.swap _ _ _)
  have swapped : Reordered doc doc' := by
    refine .map (by decide) ?_ (.cons .scalar (.cons (.list (.cons entry .nil)) .nil))
      (.swap _ _ _)
    rfl
  have same := reordered_same swapped
  exact ⟨swapped, same.1.trans (by decide), same.2.2.1.trans (by decide)⟩

end BusinessModel
