import BusinessModel.Text.Pattern
import Mathlib.Data.List.Basic
import Mathlib.Tactic.Common

/-!
# Regular expressions by what they match

`Pattern.Matches` says by rules which texts an expression matches.  The derivative of an expression
matches what follows a character in these texts, and the smart constructors match what the plain
ones do, so that matching by derivatives decides the relation.

* `Pattern.Matches` — the texts that an expression matches
* `Pattern.matches_derivative` — the derivative by a character
* `Pattern.matchesAll_iff` — matching by derivatives
* `Pattern.matchesLine_iff` — matching up to a final line feed
-/

namespace BusinessModel.Pattern

/-- The texts that an expression matches. -/
inductive Matches : Pattern → List Char → Prop where
  | empty :
    Matches .empty []
  | charIn {ranges inverted c} :
    holds ranges c ≠ inverted →
    Matches (.charIn ranges inverted) [c]
  | seq {p q s t} :
    Matches p s →
    Matches q t →
    Matches (.seq p q) (s ++ t)
  | left {p q s} :
    Matches p s →
    Matches (.alt p q) s
  | right {p q s} :
    Matches q s →
    Matches (.alt p q) s
  | done {p} :
    Matches (.star p) []
  | more {p s t} :
    Matches p s →
    Matches (.star p) t →
    Matches (.star p) (s ++ t)

variable {p q r : Pattern} {ranges : List (Char × Char)} {inverted : Bool} {c : Char}
  {s t : List Char}

@[simp]
lemma not_matches_fail : ¬Matches .fail s := nofun

@[simp]
lemma matches_empty : Matches .empty s ↔ s = [] := by
  refine ⟨?_, ?_⟩
  · intro h
    cases h with
    | empty => rfl
  · rintro rfl
    exact .empty

lemma matches_charIn :
    Matches (.charIn ranges inverted) s ↔ ∃ c, s = [c] ∧ holds ranges c ≠ inverted := by
  refine ⟨?_, ?_⟩
  · intro h
    cases h with
    | charIn listed => exact ⟨_, rfl, listed⟩
  · rintro ⟨c, rfl, listed⟩
    exact .charIn listed

lemma matches_seq : Matches (.seq p q) s ↔ ∃ u v, s = u ++ v ∧ Matches p u ∧ Matches q v := by
  refine ⟨?_, ?_⟩
  · intro h
    cases h with
    | seq first second => exact ⟨_, _, rfl, first, second⟩
  · rintro ⟨u, v, rfl, first, second⟩
    exact .seq first second

lemma matches_alt : Matches (.alt p q) s ↔ Matches p s ∨ Matches q s := by
  refine ⟨?_, ?_⟩
  · intro h
    cases h with
    | left h => exact .inl h
    | right h => exact .inr h
  · rintro (h | h)
    · exact .left h
    · exact .right h

/-- A repetition that matches a character goes through its inner expression first. -/
lemma matches_star_cons :
    Matches (.star p) (c :: s) ↔
      ∃ u v, s = u ++ v ∧ Matches p (c :: u) ∧ Matches (.star p) v := by
  refine ⟨?_, ?_⟩
  · intro h
    generalize shape : Pattern.star p = r at h
    generalize text : c :: s = w at h
    induction h with
    | more inner rest _ ih =>
      cases shape
      -- Rounds that match nothing are passed over.
      obtain ⟨_, later⟩ | ⟨u, rfl, rfl⟩ := List.cons_eq_append_iff.1 text
      · exact ih rfl later.symm
      · exact ⟨u, _, rfl, inner, rest⟩
    | done => cases text
    | empty => cases shape
    | charIn => cases shape
    | seq => cases shape
    | left => cases shape
    | right => cases shape
  · rintro ⟨u, v, rfl, inner, rest⟩
    exact .more inner rest

/-- An expression is nullable if and only if it matches the empty text. -/
lemma nullable_iff : p.nullable = true ↔ Matches p [] := by
  induction p with
  | fail => simp [nullable]
  | empty => simp [nullable]
  | charIn ranges inverted => simp [nullable, matches_charIn]
  | seq first second ihFirst ihSecond => simp [nullable, matches_seq, ihFirst, ihSecond]
  | alt left right ihLeft ihRight => simp [nullable, matches_alt, ihLeft, ihRight]
  | star inner => exact iff_of_true rfl .done

/-- Dropping dead branches does not change what an alternative matches. -/
@[simp]
lemma matches_orElse : Matches (orElse p q) s ↔ Matches p s ∨ Matches q s := by
  unfold orElse
  split
  next => simp
  next => simp
  next =>
    split
    next same => simp [same]
    next => exact matches_alt

/-- Dropping dead and empty parts does not change what a sequence matches. -/
@[simp]
lemma matches_andThen :
    Matches (andThen p q) s ↔ ∃ u v, s = u ++ v ∧ Matches p u ∧ Matches q v := by
  unfold andThen
  split
  next => simp
  next => simp
  next => simp
  next => simp
  next => exact matches_seq

/-- The derivative by a character matches what follows that character. -/
lemma matches_derivative : Matches (p.derivative c) s ↔ Matches p (c :: s) := by
  induction p generalizing s with
  | fail => simp [derivative]
  | empty => simp [derivative]
  | charIn ranges inverted =>
    unfold derivative
    by_cases listed : holds ranges c = inverted
    · simp [matches_charIn, listed]
    · simp [matches_charIn, listed]
  | seq first second ihFirst ihSecond =>
    have through : (∃ u v, s = u ++ v ∧ Matches first (c :: u) ∧ Matches second v) ∨
        (Matches first [] ∧ Matches second (c :: s)) ↔ Matches (.seq first second) (c :: s) := by
      rw [matches_seq]
      refine ⟨?_, ?_⟩
      · rintro (⟨u, v, rfl, first, second⟩ | ⟨first, second⟩)
        · exact ⟨c :: u, v, rfl, first, second⟩
        · exact ⟨[], c :: s, rfl, first, second⟩
      · rintro ⟨u, v, text, first, second⟩
        obtain ⟨rfl, rfl⟩ | ⟨u, rfl, rfl⟩ := List.cons_eq_append_iff.1 text
        · exact .inr ⟨first, second⟩
        · exact .inl ⟨u, v, rfl, first, second⟩
    rw [← through, ← nullable_iff]
    simp only [derivative]
    split
    next nullable => simp [nullable, ihFirst, ihSecond]
    next notNullable => simp [notNullable, ihFirst]
  | alt left right ihLeft ihRight => simp [derivative, matches_alt, ihLeft, ihRight]
  | star inner ih => simp [derivative, matches_star_cons, ih]

/-- Matching by derivatives decides what an expression matches. -/
lemma matchesAll_iff : p.matchesAll s = true ↔ Matches p s := by
  induction s generalizing p with
  | nil => rw [matchesAll, nullable_iff]
  | cons c s ih =>
    rw [← matches_derivative, ← ih]
    -- The dead expression gives up at once, all others go on with their derivative.
    cases p with
    | fail => simp [matchesAll, ih, derivative]
    | _ => rfl

/-- An anchor at the end of a text also stands before one final line feed. -/
lemma matchesLine_iff :
    p.matchesLine s = true ↔ ∃ core, Matches p core ∧ (s = core ∨ s = core ++ ['\n']) := by
  simp only [matchesLine, Bool.or_eq_true, Bool.and_eq_true, beq_iff_eq, matchesAll_iff]
  refine ⟨?_, ?_⟩
  · rintro (all | ⟨ending, core⟩)
    · exact ⟨s, all, .inl rfl⟩
    · refine ⟨s.dropLast, core, .inr ?_⟩
      exact (List.dropLast_append_getLast? _ ending).symm
  · rintro ⟨core, all, rfl | rfl⟩
    · exact .inl all
    · refine .inr ⟨List.getLast?_concat .., ?_⟩
      rwa [List.dropLast_concat]

/-! ### Expressions that are put together -/

/-- The range of a single character. -/
lemma le_and_le_iff_eq {d : Char} : c ≤ d ∧ d ≤ c ↔ d = c := by
  refine ⟨?_, ?_⟩
  · rintro ⟨low, high⟩
    exact Char.le_antisymm high low
  · rintro rfl
    exact ⟨Char.le_refl d, Char.le_refl d⟩

@[simp]
lemma matches_char : Matches (char c) s ↔ s = [c] := by
  simp [char, matches_charIn, holds, le_and_le_iff_eq]

/-- A fixed text is matched by itself alone. -/
@[simp]
lemma matches_text {word : String} : Matches (text word) s ↔ s = word.toList := by
  unfold text
  induction word.toList generalizing s with
  | nil => exact matches_empty
  | cons c rest ih => simp [ih]

/-- One of several expressions. -/
@[simp]
lemma matches_any {ps : List Pattern} : Matches (any ps) s ↔ ∃ p ∈ ps, Matches p s := by
  unfold any
  induction ps with
  | nil => simp
  | cons p rest ih => simp [ih]

/-- One of several fixed texts. -/
@[simp]
lemma matches_words {words : List String} :
    Matches (Pattern.words words) s ↔ ∃ word ∈ words, s = word.toList := by
  simp [Pattern.words]

/-- A class repeated matches texts of its characters. -/
lemma matches_star_charIn :
    Matches (.star (.charIn ranges inverted)) s ↔ ∀ c ∈ s, holds ranges c ≠ inverted := by
  induction s with
  | nil => exact iff_of_true .done nofun
  | cons c s ih =>
    rw [matches_star_cons, List.forall_mem_cons, ← ih]
    simp only [matches_charIn]
    refine ⟨?_, ?_⟩
    · rintro ⟨u, v, rfl, ⟨d, one, listed⟩, rest⟩
      cases one
      exact ⟨listed, rest⟩
    · rintro ⟨listed, rest⟩
      exact ⟨[], _, rfl, ⟨c, rfl, listed⟩, rest⟩

/-- A class at least once matches texts of its characters but the empty one. -/
lemma matches_plus_charIn :
    Matches (plus (.charIn ranges inverted)) s ↔ s ≠ [] ∧ ∀ c ∈ s, holds ranges c ≠ inverted := by
  unfold plus
  rw [matches_andThen, ← matches_star_charIn]
  cases s with
  | nil => simp [matches_charIn]
  | cons c s =>
    rw [matches_star_cons]
    simp only [matches_charIn]
    refine ⟨?_, ?_⟩
    · rintro ⟨u, v, text, ⟨d, rfl, listed⟩, rest⟩
      cases text
      exact ⟨List.cons_ne_nil _ _, [], _, rfl, ⟨c, rfl, listed⟩, rest⟩
    · rintro ⟨_, u, v, rfl, inner, rest⟩
      exact ⟨c :: u, v, rfl, inner, rest⟩

end BusinessModel.Pattern
