import BusinessModel.EntityKind
import Mathlib.Data.Set.Subsingleton
import Mathlib.Tactic.Common

/-!
# Kinds by their stems

The kind of an identifier is looked up from what stands before its first dash.  No token holds a
dash and no two kinds share one, so that the lookup finds the kind whose stem begins the identifier.
No other stem begins it then, and the stem is the longest that does.

* `EntityKind.ofId?_eq_some` — the kind of an identifier is the one whose stem begins it
* `EntityKind.Begins`, `EntityKind.IsLongest` — stems that begin a value, and the longest of them
* `Value.kind?_isLongest` — the kind of a value is that of the longest stem which begins it
-/

namespace BusinessModel

variable {kind other : EntityKind} {id : String} {token front rest : List Char} {v : Value}

namespace EntityKind

/-- No token holds a dash. -/
lemma dash_notMem_token : '-' ∉ kind.token.toList := by
  cases kind <;> decide

/-- A kind is found by its token. -/
lemma ofToken?_token : ofToken? kind.token.toList = some kind := by
  cases kind <;> rfl

/-- A token belongs to one kind only. -/
lemma ofToken?_eq_some : ofToken? token = some kind ↔ token = kind.token.toList := by
  refine ⟨?_, ?_⟩
  · intro found
    have same := List.find?_some found
    exact (beq_iff_eq.1 same).symm
  · rintro rfl
    exact ofToken?_token

lemma toList_stem : kind.stem.toList = kind.token.toList ++ ['-'] := String.toList_append

/-- What stands before the first dash of a text. -/
lemma takeWhile_append_dash (undashed : '-' ∉ front) :
    (front ++ '-' :: rest).takeWhile (· != '-') = front := by
  rw [List.takeWhile_append_of_pos]
  · simp
  · intro c member
    have other : c ≠ '-' := fun dash => undashed (dash ▸ member)
    simpa using other

/-- A stem begins the texts whose first dash ends it. -/
lemma stem_prefix_iff :
    kind.stem.toList <+: id.toList ↔
      '-' ∈ id.toList ∧ id.toList.takeWhile (· != '-') = kind.token.toList := by
  rw [toList_stem]
  refine ⟨?_, ?_⟩
  · rintro ⟨rest, text⟩
    rw [← text, List.append_assoc]
    exact ⟨by simp, takeWhile_append_dash dash_notMem_token⟩
  · rintro ⟨dash, before⟩
    obtain ⟨front, rest, text, undashed⟩ := List.eq_append_cons_of_mem dash
    rw [text, takeWhile_append_dash undashed] at before
    rw [text, before]
    exact ⟨rest, by simp⟩

/-- The kind of an identifier is the one whose stem begins it. -/
lemma ofId?_eq_some : ofId? id = some kind ↔ kind.stem.toList <+: id.toList := by
  rw [stem_prefix_iff, ← ofToken?_eq_some, ofId?]
  by_cases dash : '-' ∈ id.toList <;> simp [dash]

/-- The stem of a kind begins a text value. -/
def Begins (kind : EntityKind) (v : Value) : Prop :=
  ∃ id, v = .str id ∧ kind.stem.toList <+: id.toList

/-- The stem of a kind is the longest one that begins a value. -/
structure IsLongest (kind : EntityKind) (v : Value) : Prop where
  begins : kind.Begins v
  longest : ∀ other : EntityKind, other.Begins v → other.stem.length ≤ kind.stem.length

/-- The stem that begins a value is the one of its kind. -/
lemma begins_iff : kind.Begins v ↔ v.kind? = some kind := by
  unfold Begins Value.kind?
  split
  next id => simp [ofId?_eq_some]
  next noText =>
    refine iff_of_false ?_ nofun
    rintro ⟨id, text, _⟩
    exact noText id text

/-- No two stems begin one value. -/
lemma Begins.unique (begins : kind.Begins v) (begins' : other.Begins v) : kind = other :=
  Option.some.inj ((begins_iff.1 begins).symm.trans (begins_iff.1 begins'))

/-- A stem that begins a value is the longest that does, as it is the only one. -/
lemma isLongest_iff : kind.IsLongest v ↔ kind.Begins v := by
  refine ⟨IsLongest.begins, fun begins => ⟨begins, ?_⟩⟩
  intro other begins'
  rw [begins.unique begins']

end EntityKind

namespace Value

/-- A value is of a kind if the stem of the kind begins it, no two stems begin one value, and the
kind of a value is the one with the longest stem that does.  There is none if no stem begins it. -/
theorem kind?_isLongest (v : Value) :
    (∀ kind, v.isOfKind kind = true ↔ kind.Begins v) ∧
      {kind | EntityKind.Begins kind v}.Subsingleton ∧
      (∀ kind, v.kind? = some kind ↔ kind.IsLongest v) ∧
      (v.kind? = none ↔ ∀ kind, ¬EntityKind.Begins kind v) := by
  refine ⟨?_, ?_, ?_, ?_⟩
  · intro kind
    rw [isOfKind, beq_iff_eq, EntityKind.begins_iff]
  · intro kind begins other begins'
    exact EntityKind.Begins.unique begins begins'
  · intro kind
    rw [EntityKind.isLongest_iff, EntityKind.begins_iff]
  · simp only [EntityKind.begins_iff]
    exact Option.eq_none_iff_forall_ne_some

end Value

end BusinessModel
