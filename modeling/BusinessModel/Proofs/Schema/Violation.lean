import BusinessModel.Proofs.Path
import BusinessModel.Proofs.Schema.Reordered

/-!
# What violations are about

A schema walks down a document along the names and positions that it knows, and every assertion that
fails on the way is a violation at the node that the walk has come to.  The relation `Schema.Breaks`
tells the same without the walk: which assertion fails, where, and for which node.

* `Schema.Breaks` — an assertion of a schema fails for a node below a value
* `Orderless.exists_breaks`, `Breaks.mem_violations` — these are the violations of the value
* `Breaks.follow`, `Breaks.isPlain` — the place of a violation leads to its node, in plain steps
* `Breaks.coded` — the code of a violation is one that its node can have
-/

namespace BusinessModel.Schema

/-- An assertion of a schema fails for the node at a place below a value. -/
inductive Breaks : Schema → Value → Pointer → Value → Fault → Prop where
  | all {parts part v place node fault} :
    part ∈ parts →
    Breaks part v place node fault →
    Breaks (.all parts) v place node fault
  | hasType {types v} :
    (∀ type ∈ types, type.holds v = false) →
    Breaks (.hasType types) v [] v (.wrongType v types)
  | exactly {wanted v} :
    wanted.same v = false →
    Breaks (.exactly wanted) v [] v (.notExactly wanted)
  | oneOf {choices v} :
    (∀ choice ∈ choices, Value.same choice v = false) →
    Breaks (.oneOf choices) v [] v (.notAmong v choices)
  | required {names name m} :
    name ∈ names →
    Mapping.get? m name = none →
    Breaks (.required names) (.map m) [] (.map m) (.missing name)
  | members {rows name schema m v place node fault} :
    (name, schema) ∈ rows →
    Mapping.get? m name = some v →
    Breaks schema v place node fault →
    Breaks (.members rows) (.map m) (.key name :: place) node fault
  | noOthers {known m} :
    unknownKeys known m ≠ [] →
    Breaks (.noOthers known) (.map m) [] (.map m) (.unexpected (unknownKeys known m))
  | leadingItems {schemas i schema xs x place node fault} :
    schemas[i]? = some schema →
    xs[i]? = some x →
    Breaks schema x place node fault →
    Breaks (.leadingItems schemas) (.list xs) (.index i :: place) node fault
  | items {start i schema xs x place node fault} :
    start ≤ i →
    xs[i]? = some x →
    Breaks schema x place node fault →
    Breaks (.items start schema) (.list xs) (.index i :: place) node fault
  | noItemsAfter {count xs} :
    count < xs.length →
    Breaks (.noItemsAfter count) (.list xs) [] (.list xs) (.tooManyItems count (xs.drop count))
  | minItems {count xs} :
    xs.length < count →
    Breaks (.minItems count) (.list xs) [] (.list xs) (.tooFewItems (.list xs) count)
  | maxItems {count xs} :
    count < xs.length →
    Breaks (.maxItems count) (.list xs) [] (.list xs) (.tooLongList (.list xs) count)
  | minLength {count s} :
    s.length < count →
    Breaks (.minLength count) (.str s) [] (.str s) (.tooShort (.str s) count)
  | pattern {p s} :
    p.foundIn s = false →
    Breaks (.pattern p) (.str s) [] (.str s) (.noMatch (.str s) p)
  | implies {condition consequence v place node fault} :
    condition.isValid v = true →
    Breaks consequence v place node fault →
    Breaks (.implies condition consequence) v place node fault

variable {schema : Schema} {v node : Value} {place : Pointer} {fault : Fault}
  {violation : Violation} {m : Mapping} {xs : List Value} {parts : List Schema}
  {rows : List (String × Schema)}

/-! ### The walk -/

lemma mem_failing {holds : Bool} :
    violation ∈ failing holds fault ↔ holds = false ∧ violation = ⟨[], fault⟩ := by
  cases holds <;> simp [failing]

lemma Orderless.ne_nothing (orderless : schema.Orderless) : schema ≠ .nothing := by
  rintro rfl
  cases orderless

lemma Breaks.ne_nothing (breaks : Breaks schema v place node fault) : schema ≠ .nothing := by
  rintro rfl
  cases breaks

/-- What a part violates is seen one step further down, unless it is forbidden altogether. -/
lemma mem_under {step : Step} {found : List Violation} (allowed : schema ≠ .nothing) :
    violation ∈ under schema step found ↔
      ∃ below ∈ found, violation = ⟨step :: below.place, below.fault⟩ := by
  have placed : under schema step found =
      found.map fun below => ⟨step :: below.place, below.fault⟩ := by
    unfold under
    split
    · exact absurd rfl allowed
    · rfl
  rw [placed, List.mem_map]
  simp only [eq_comm]

lemma mem_violationsOfAll :
    violation ∈ violationsOfAll parts v ↔ ∃ part ∈ parts, violation ∈ violations part v := by
  induction parts with
  | nil => simp [violationsOfAll]
  | cons part rest ih => rw [violationsOfAll, List.mem_append, ih, List.exists_mem_cons_iff]

lemma mem_violationsOfMembers :
    violation ∈ violationsOfMembers rows m ↔
      ∃ row ∈ rows, ∃ v, Mapping.get? m row.1 = some v ∧
        violation ∈ under row.2 (.key row.1) (violations row.2 v) := by
  induction rows with
  | nil => simp [violationsOfMembers]
  | cons row rest ih =>
    rw [violationsOfMembers, List.mem_append, ih, List.exists_mem_cons_iff]
    cases Mapping.get? m row.1 with
    | none => simp
    | some v => simp

lemma mem_violationsOfLeading {start : Nat} :
    violation ∈ violationsOfLeading parts start xs ↔
      ∃ i part x, parts[i]? = some part ∧ xs[i]? = some x ∧
        violation ∈ under part (.index (start + i)) (violations part x) := by
  induction parts generalizing start xs with
  | nil => simp [violationsOfLeading]
  | cons part rest ih =>
    cases xs with
    | nil => simp [violationsOfLeading]
    | cons x xs =>
      rw [violationsOfLeading, List.mem_append, ih]
      constructor
      · rintro (first | ⟨i, other, y, listed, position, behind⟩)
        · exact ⟨0, part, x, rfl, rfl, first⟩
        · refine ⟨i + 1, other, y, listed, position, ?_⟩
          rwa [Nat.add_assoc, Nat.add_comm 1] at behind
      · rintro ⟨i, other, y, listed, position, found⟩
        cases i with
        | zero =>
          cases listed
          cases position
          exact .inl found
        | succ i =>
          refine .inr ⟨i, other, y, listed, position, ?_⟩
          rwa [Nat.add_assoc, Nat.add_comm 1]

lemma mem_violations_items {start : Nat} :
    violation ∈ violations (.items start schema) (.list xs) ↔
      ∃ i x, start ≤ i ∧ xs[i]? = some x ∧
        violation ∈ under schema (.index i) (violations schema x) := by
  have numbered : ∀ x i, (x, i) ∈ xs.zipIdx.drop start ↔ start ≤ i ∧ xs[i]? = some x := by
    intro x i
    simp only [List.mem_iff_getElem?, List.getElem?_drop, List.getElem?_zipIdx]
    constructor
    · rintro ⟨j, found⟩
      grind
    · rintro ⟨behind, position⟩
      exact ⟨i - start, by grind⟩
  simp only [violations, List.mem_flatMap, Prod.exists, numbered]
  grind

lemma mem_violations_implies {condition consequence : Schema} :
    violation ∈ violations (.implies condition consequence) v ↔
      condition.isValid v = true ∧ violation ∈ violations consequence v := by
  have guarded : violations (.implies condition consequence) v =
    if condition.isValid v then violations consequence v else [] := rfl
  rw [guarded]
  cases condition.isValid v <;> simp

/-- Every violation of an orderless schema is an assertion that fails for some node. -/
lemma Orderless.exists_breaks (orderless : schema.Orderless)
    (found : ⟨place, fault⟩ ∈ violations schema v) : ∃ node, Breaks schema v place node fault := by
  induction orderless generalizing v place fault with
  | all _ ih =>
    obtain ⟨part, listed, found⟩ := mem_violationsOfAll.1 found
    obtain ⟨node, breaks⟩ := ih part listed found
    exact ⟨node, .all listed breaks⟩
  | hasType =>
    obtain ⟨fails, same⟩ := mem_failing.1 found
    cases same
    exact ⟨v, .hasType (by simpa using fails)⟩
  | exactly =>
    obtain ⟨fails, same⟩ := mem_failing.1 found
    cases same
    exact ⟨v, .exactly fails⟩
  | oneOf =>
    obtain ⟨fails, same⟩ := mem_failing.1 found
    cases same
    exact ⟨v, .oneOf (by simpa using fails)⟩
  | required =>
    cases v with
    | map m =>
      obtain ⟨name, listed, found⟩ := List.mem_flatMap.1 found
      obtain ⟨fails, same⟩ := mem_failing.1 found
      cases same
      exact ⟨.map m, .required listed (by simpa [Mapping.hasKey] using fails)⟩
    | _ => cases found
  | members orderless ih =>
    cases v with
    | map m =>
      obtain ⟨row, listed, w, member, seen⟩ := mem_violationsOfMembers.1 found
      obtain ⟨below, among, same⟩ := (mem_under (orderless row listed).ne_nothing).1 seen
      cases same
      obtain ⟨node, breaks⟩ := ih row listed among
      exact ⟨node, .members listed member breaks⟩
    | _ => cases found
  | noOthers =>
    cases v with
    | map m =>
      obtain ⟨fails, same⟩ := mem_failing.1 found
      cases same
      exact ⟨.map m, .noOthers (by simpa using fails)⟩
    | _ => cases found
  | leadingItems orderless ih =>
    cases v with
    | list xs =>
      obtain ⟨i, part, x, listed, position, seen⟩ := mem_violationsOfLeading.1 found
      have member := List.mem_of_getElem? listed
      obtain ⟨below, among, same⟩ := (mem_under (orderless part member).ne_nothing).1 seen
      cases same
      obtain ⟨node, breaks⟩ := ih part member among
      rw [Nat.zero_add]
      exact ⟨node, .leadingItems listed position breaks⟩
    | _ => cases found
  | items orderless ih =>
    cases v with
    | list xs =>
      obtain ⟨i, x, behind, position, seen⟩ := mem_violations_items.1 found
      obtain ⟨below, among, same⟩ := (mem_under orderless.ne_nothing).1 seen
      cases same
      obtain ⟨node, breaks⟩ := ih among
      exact ⟨node, .items behind position breaks⟩
    | _ => cases found
  | noItemsAfter =>
    cases v with
    | list xs =>
      obtain ⟨fails, same⟩ := mem_failing.1 found
      cases same
      exact ⟨.list xs, .noItemsAfter (by simpa using fails)⟩
    | _ => cases found
  | minItems =>
    cases v with
    | list xs =>
      obtain ⟨fails, same⟩ := mem_failing.1 found
      cases same
      exact ⟨.list xs, .minItems (by simpa using fails)⟩
    | _ => cases found
  | maxItems =>
    cases v with
    | list xs =>
      obtain ⟨fails, same⟩ := mem_failing.1 found
      cases same
      exact ⟨.list xs, .maxItems (by simpa using fails)⟩
    | _ => cases found
  | minLength =>
    cases v with
    | scalar a =>
      cases a with
      | str s =>
        obtain ⟨fails, same⟩ := mem_failing.1 found
        cases same
        exact ⟨.str s, .minLength (by simpa using fails)⟩
      | _ => cases found
    | _ => cases found
  | pattern =>
    cases v with
    | scalar a =>
      cases a with
      | str s =>
        obtain ⟨fails, same⟩ := mem_failing.1 found
        cases same
        exact ⟨.str s, .pattern fails⟩
      | _ => cases found
    | _ => cases found
  | implies _ _ _ ih =>
    obtain ⟨holds, found⟩ := mem_violations_implies.1 found
    obtain ⟨node, breaks⟩ := ih found
    exact ⟨node, .implies holds breaks⟩

/-- Every assertion that fails is a violation. -/
lemma Breaks.mem_violations (breaks : Breaks schema v place node fault) :
    ⟨place, fault⟩ ∈ violations schema v := by
  induction breaks with
  | all listed _ ih => exact mem_violationsOfAll.2 ⟨_, listed, ih⟩
  | hasType fails => exact mem_failing.2 ⟨by simpa using fails, rfl⟩
  | exactly fails => exact mem_failing.2 ⟨fails, rfl⟩
  | oneOf fails => exact mem_failing.2 ⟨by simpa using fails, rfl⟩
  | required listed absent =>
    exact List.mem_flatMap.2 ⟨_, listed, mem_failing.2 ⟨by simp [Mapping.hasKey, absent], rfl⟩⟩
  | members listed member breaks ih =>
    exact mem_violationsOfMembers.2
      ⟨_, listed, _, member, (mem_under breaks.ne_nothing).2 ⟨_, ih, rfl⟩⟩
  | noOthers unknown => exact mem_failing.2 ⟨by simpa using unknown, rfl⟩
  | leadingItems listed position breaks ih =>
    refine mem_violationsOfLeading.2 ⟨_, _, _, listed, position, ?_⟩
    rw [Nat.zero_add]
    exact (mem_under breaks.ne_nothing).2 ⟨_, ih, rfl⟩
  | items behind position breaks ih =>
    exact mem_violations_items.2
      ⟨_, _, behind, position, (mem_under breaks.ne_nothing).2 ⟨_, ih, rfl⟩⟩
  | noItemsAfter fails => exact mem_failing.2 ⟨by simpa using fails, rfl⟩
  | minItems fails => exact mem_failing.2 ⟨by simpa using fails, rfl⟩
  | maxItems fails => exact mem_failing.2 ⟨by simpa using fails, rfl⟩
  | minLength fails => exact mem_failing.2 ⟨by simpa using fails, rfl⟩
  | pattern fails => exact mem_failing.2 ⟨fails, rfl⟩
  | implies holds _ ih => exact mem_violations_implies.2 ⟨holds, ih⟩

/-! ### Places -/

mutual

/-- The names along which a schema walks down. -/
def stepNames : Schema → List String
  | .all parts | .leadingItems parts => stepNamesOfAll parts
  | .members rows => stepNamesOfMembers rows
  | .items _ schema => stepNames schema
  | .implies _ consequence => stepNames consequence
  | _ => []

def stepNamesOfAll : List Schema → List String
  | [] => []
  | part :: rest => stepNames part ++ stepNamesOfAll rest

def stepNamesOfMembers : List (String × Schema) → List String
  | [] => []
  | (name, schema) :: rest => name :: stepNames schema ++ stepNamesOfMembers rest

end

variable {part : Schema} {name : String}

lemma stepNames_subset_all (listed : part ∈ parts) : stepNames part ⊆ stepNamesOfAll parts := by
  induction listed with
  | head => exact List.subset_append_left _ _
  | tail _ _ ih => exact List.subset_append_of_subset_right _ ih

lemma stepNames_subset_members (listed : (name, part) ∈ rows) :
    name :: stepNames part ⊆ stepNamesOfMembers rows := by
  induction rows with
  | nil => cases listed
  | cons row rest ih =>
    cases listed with
    | head => exact List.subset_append_left _ _
    | tail _ listed => exact List.subset_append_of_subset_right _ (ih listed)

namespace Breaks

/-- The place of a violation leads to its node. -/
lemma follow (breaks : Breaks schema v place node fault) : v.follow place = some node := by
  induction breaks with
  | all _ _ ih | implies _ _ ih => exact ih
  | members _ member _ ih => rw [Value.follow_key, member, Option.bind_some, ih]
  | leadingItems _ position _ ih | items _ position _ ih =>
    rw [Value.follow_index_list, position, Option.bind_some, ih]
  | _ => exact Value.follow_nil

/-- The names in the place of a violation are names of the schema. -/
lemma isPlain (breaks : Breaks schema v place node fault)
    (plain : ∀ name ∈ schema.stepNames, (Step.key name).IsPlain) : place.IsPlain := by
  induction breaks with
  | all listed _ ih => exact ih fun name known => plain name (stepNames_subset_all listed known)
  | members listed _ _ ih =>
    have known := stepNames_subset_members listed
    rw [Pointer.isPlain_cons]
    refine ⟨plain _ (known List.mem_cons_self), ih fun name below => ?_⟩
    exact plain name (known (List.mem_cons_of_mem _ below))
  | leadingItems listed _ _ ih =>
    have known := stepNames_subset_all (List.mem_of_getElem? listed)
    rw [Pointer.isPlain_cons]
    exact ⟨Step.isPlain_index, ih fun name below => plain name (known below)⟩
  | items _ _ _ ih =>
    rw [Pointer.isPlain_cons]
    exact ⟨Step.isPlain_index, ih plain⟩
  | implies _ _ ih => exact ih plain
  | _ => exact Pointer.isPlain_nil

end Breaks

lemma isPlain_stepNames (g : Generation) :
    ∀ name ∈ (Validation.packaged g).stepNames, (Step.key name).IsPlain := by
  cases g <;> decide +kernel

/-! ### Codes -/

/-- The codes of violations, and the nodes that they are about. -/
inductive Coded : String → Value → Prop where
  | missing (m : Mapping) : Coded "MISSING_REQUIRED_FIELD" (.map m)
  | unknown (m : Mapping) : Coded "UNKNOWN_FIELD" (.map m)
  | choice (v : Value) : Coded "ENUM_MISMATCH" v
  | constant (v : Value) : Coded "CONST_VIOLATION" v
  | type (v : Value) : Coded "WRONG_TYPE" v
  | pattern (s : String) : Coded "PATTERN_MISMATCH" (.str s)
  | minLength (s : String) : Coded "MIN_LENGTH_VIOLATION" (.str s)
  | length (xs : List Value) : Coded "WRONG_LENGTH" (.list xs)

/-- The code of a violation is about a node of its kind. -/
lemma Breaks.coded (breaks : Breaks schema v place node fault) : Coded fault.code node := by
  induction breaks with
  | all _ _ ih | members _ _ _ ih | leadingItems _ _ _ ih | items _ _ _ ih | implies _ _ ih =>
    exact ih
  | hasType => exact .type _
  | exactly => exact .constant _
  | oneOf => exact .choice _
  | required => exact .missing _
  | noOthers => exact .unknown _
  | noItemsAfter | minItems | maxItems => exact .length _
  | minLength => exact .minLength _
  | pattern => exact .pattern _

end BusinessModel.Schema
