import BusinessModel.Schema.Basic
import Mathlib.Data.List.Basic
import Mathlib.Tactic.Common

/-!
# Valid values, assertion by assertion

A value is valid under a schema when no assertion fails.  Each assertion is described here by the
values that are valid under it, so that no other proof looks at violations.

* `Schema.isValid_all_cons`, `Schema.isValid_implies` — assertions put together
* `Schema.isValid_required`, `Schema.isValid_noOthers`, `Schema.isValid_members` — mappings
* `Schema.isValid_items_zero`, `Schema.isValid_leadingItems` and others — lists
* `Schema.isValid_exactly_str`, `Schema.isValid_oneOf_str`, `Schema.isValid_pattern` — texts
-/

namespace BusinessModel

variable {v : Value} {s : String} {m : Mapping} {xs : List Value}

namespace TypeName

lemma holds_string : string.holds v = true ↔ ∃ s, v = .str s := by
  unfold holds
  split <;> simp_all

lemma holds_array : array.holds v = true ↔ ∃ xs, v = .list xs := by
  unfold holds
  split <;> simp_all

lemma holds_object : object.holds v = true ↔ ∃ m, v = .map m := by
  unfold holds
  split <;> simp_all

end TypeName

/-- A text is the same as itself alone. -/
lemma Value.same_str : (Value.str s).same v = true ↔ v = .str s := by
  cases v with
  | scalar a =>
    cases a with
    | str t => exact beq_iff_eq.trans (by simp [eq_comm])
    | _ => simp [Value.same, Scalar.same, Scalar.sameKey, Scalar.toInt?]
  | _ => simp [Value.same]

namespace Schema

variable {schema condition consequence : Schema} {parts schemas : List Schema}
  {rows : List (String × Schema)} {names : List String} {type : TypeName} {count : Nat}

lemma isValid_iff : schema.isValid v = true ↔ violations schema v = [] :=
  List.isEmpty_iff

lemma failing_eq_nil {holds : Bool} {fault : Fault} : failing holds fault = [] ↔ holds = true := by
  cases holds <;> simp [failing]

/-- Where a violation is held against does not matter for there being one. -/
lemma under_eq_nil {step : Step} {violations : List Violation} :
    under schema step violations = [] ↔ violations = [] := by
  unfold under
  split
  next => rfl
  next => exact List.map_eq_nil_iff

/-- The violations of a single assertion are empty when it holds, whatever is said of it. -/
lemma isValid_of_failing {holds : Bool} {fault : Fault}
    (single : violations schema v = failing holds fault) :
    schema.isValid v = true ↔ holds = true := by
  rw [isValid_iff, single, failing_eq_nil]

@[simp]
lemma isValid_all_nil : (all []).isValid v = true := rfl

@[simp]
lemma isValid_all_cons {part : Schema} :
    (all (part :: parts)).isValid v = true ↔
      part.isValid v = true ∧ (all parts).isValid v = true := by
  have both : violations (all (part :: parts)) v = violations part v ++ violations (all parts) v :=
    rfl
  rw [isValid_iff, isValid_iff, isValid_iff, both, List.append_eq_nil_iff]

lemma isValid_implies :
    (implies condition consequence).isValid v = true ↔
      (condition.isValid v = true → consequence.isValid v = true) := by
  have guarded : violations (implies condition consequence) v =
      if condition.isValid v then violations consequence v else [] := rfl
  rw [isValid_iff, guarded]
  split
  next holds => simp [holds, isValid_iff]
  next fails => simp [fails]

lemma isValid_hasType : (hasType [type]).isValid v = true ↔ type.holds v = true := by
  rw [isValid_of_failing rfl, List.any_cons, List.any_nil, Bool.or_false]

/-! ### Texts -/

lemma isValid_exactly_str : (exactly (.str s)).isValid v = true ↔ v = .str s := by
  rw [isValid_of_failing rfl, Value.same_str]

lemma isValid_oneOf_str :
    (oneOf (names.map Value.str)).isValid v = true ↔ ∃ s ∈ names, v = .str s := by
  rw [isValid_of_failing rfl, List.any_map, List.any_eq_true]
  simp only [Function.comp_apply, Value.same_str]

lemma isValid_minLength : (minLength count).isValid (.str s) = true ↔ count ≤ s.length := by
  rw [isValid_of_failing rfl, decide_eq_true_eq]

lemma isValid_pattern {p : TextPattern} :
    (pattern p).isValid (.str s) = true ↔ p.foundIn s = true :=
  isValid_of_failing rfl

/-! ### Mappings -/

lemma isValid_required :
    (required names).isValid (.map m) = true ↔ ∀ name ∈ names, Mapping.hasKey m name = true := by
  have each : violations (required names) (.map m) =
      names.flatMap fun name => failing (Mapping.hasKey m name) (.missing name) := rfl
  rw [isValid_iff, each, List.flatMap_eq_nil_iff]
  simp only [failing_eq_nil]

lemma isValid_noOthers :
    (noOthers names).isValid (.map m) = true ↔
      ∀ member ∈ m, ∃ name ∈ names, member.1 = .str name := by
  rw [isValid_of_failing rfl, List.isEmpty_iff, unknownKeys, List.map_eq_nil_iff,
    List.filter_eq_nil_iff]
  simp only [Bool.not_eq_true, Bool.not_eq_false', List.any_eq_true, beq_iff_eq]

lemma isValid_members :
    (members rows).isValid (.map m) = true ↔
      ∀ row ∈ rows, ∀ v, Mapping.get? m row.1 = some v → row.2.isValid v = true := by
  rw [isValid_iff]
  induction rows with
  | nil => exact iff_of_true rfl (List.forall_mem_nil _)
  | cons row rest ih =>
    have first : ∃ found,
        violations (members (row :: rest)) (.map m) = found ++ violations (members rest) (.map m) ∧
          (found = [] ↔ ∀ v, Mapping.get? m row.1 = some v → row.2.isValid v = true) := by
      refine ⟨_, rfl, ?_⟩
      cases Mapping.get? m row.1 with
      | none => simp
      | some v => simp [under_eq_nil, isValid_iff]
    obtain ⟨found, both, none⟩ := first
    rw [both, List.append_eq_nil_iff, ih, List.forall_mem_cons, none]

/-! ### Lists -/

lemma isValid_items_zero :
    (items 0 schema).isValid (.list xs) = true ↔ ∀ x ∈ xs, schema.isValid x = true := by
  have each : violations (items 0 schema) (.list xs) = xs.zipIdx.flatMap fun item =>
      under schema (.index item.2) (violations schema item.1) := rfl
  rw [isValid_iff, each, List.flatMap_eq_nil_iff]
  simp only [under_eq_nil, Prod.forall, List.mk_mem_zipIdx_iff_getElem?, ← isValid_iff]
  refine ⟨?_, ?_⟩
  · intro all x member
    obtain ⟨i, place⟩ := List.getElem?_of_mem member
    exact all x i place
  · intro all x i place
    exact all x (List.mem_of_getElem? place)

lemma isValid_leadingItems :
    (leadingItems schemas).isValid (.list xs) = true ↔
      ∀ pair ∈ schemas.zip xs, pair.1.isValid pair.2 = true := by
  -- The index of the first item only shows in the places of violations.
  have start : ∀ i, violationsOfLeading schemas i xs = [] ↔
      ∀ pair ∈ schemas.zip xs, pair.1.isValid pair.2 = true := by
    induction schemas generalizing xs with
    | nil => exact fun i => iff_of_true rfl (List.forall_mem_nil _)
    | cons schema rest ih =>
      intro i
      cases xs with
      | nil => exact iff_of_true rfl (List.forall_mem_nil _)
      | cons x xs =>
        have first : violationsOfLeading (schema :: rest) i (x :: xs) =
            under schema (.index i) (violations schema x) ++
              violationsOfLeading rest (i + 1) xs := rfl
        rw [first, List.append_eq_nil_iff, ih, under_eq_nil, List.zip_cons_cons,
          List.forall_mem_cons, isValid_iff]
  exact isValid_iff.trans (start 0)

lemma isValid_noItemsAfter :
    (noItemsAfter count).isValid (.list xs) = true ↔ xs.length ≤ count := by
  rw [isValid_of_failing rfl, decide_eq_true_eq]

lemma isValid_minItems : (minItems count).isValid (.list xs) = true ↔ count ≤ xs.length := by
  rw [isValid_of_failing rfl, decide_eq_true_eq]

lemma isValid_maxItems : (maxItems count).isValid (.list xs) = true ↔ xs.length ≤ count := by
  rw [isValid_of_failing rfl, decide_eq_true_eq]

end Schema

end BusinessModel
