import BusinessModel.Proofs.Identifier
import BusinessModel.Validation
import Mathlib.Data.List.Permutation

/-!
# Patterns of identifiers

The schemas describe identifiers by patterns, each for one kind, and one for key resources and key
activities together.  A pattern is searched for in a whole text, while the identifier check looks up
the kind first and then reads what stands behind its stem.  Both accept the same texts.

* `Schema.patterns` — the patterns that a schema holds
* `TextPattern.exists_parse?_ofIds` — a pattern of identifiers is what its written form says
* `Value.isValidId_patterns` — the identifier check and the patterns of the schemas agree
-/

namespace BusinessModel

variable {kind : EntityKind} {kinds : List EntityKind} {tokens : List String} {g : Generation}
  {p : TextPattern} {s : String}

namespace Schema

mutual

/-- The patterns that a schema holds, however deep. -/
def patterns : Schema → List TextPattern
  | .pattern p => [p]
  | .all parts | .anyOf parts | .leadingItems parts => patternsOfAll parts
  | .members rows => patternsOfMembers rows
  | .others _ schema | .items _ schema => patterns schema
  | .implies condition consequence => patterns condition ++ patterns consequence
  | _ => []

def patternsOfAll : List Schema → List TextPattern
  | [] => []
  | part :: rest => patterns part ++ patternsOfAll rest

def patternsOfMembers : List (String × Schema) → List TextPattern
  | [] => []
  | (_, schema) :: rest => patterns schema ++ patternsOfMembers rest

end

/-- The kinds that the patterns of a generation tell apart. -/
def patternKinds : Generation → List (List EntityKind)
  | .v1 => [[.customerSegment], [.valueProposition], [.productService], [.job], [.pain], [.gain],
      [.fit], [.channel], [.customerRelationship], [.revenueStream], [.keyResource],
      [.keyActivity], [.keyPartnership], [.keyResource, .keyActivity]]
  | .v2 => EntityKind.all.map fun kind => [kind]

lemma patternKinds_cases (listed : kinds ∈ patternKinds g) :
    (∃ kind, kinds = [kind]) ∨ kinds = [.keyResource, .keyActivity] := by
  have all : ∀ g, ∀ kinds ∈ patternKinds g,
      kinds.length = 1 ∨ kinds = [.keyResource, .keyActivity] := by
    intro g
    cases g <;> decide
  exact (all g kinds listed).imp_left List.length_eq_one_iff.1

/-- Every pattern of a packaged schema is one of identifiers. -/
lemma mem_patterns_packaged :
    p ∈ (Validation.packaged g).patterns ↔
      ∃ kinds ∈ patternKinds g, p = .ofIds (kinds.map EntityKind.token) := by
  have same : ∀ g,
      (Validation.packaged g).patterns ⊆
          (patternKinds g).map (fun kinds => .ofIds (kinds.map EntityKind.token)) ∧
        (patternKinds g).map (fun kinds => .ofIds (kinds.map EntityKind.token)) ⊆
          (Validation.packaged g).patterns := by
    intro g
    cases g <;> decide +kernel
  refine ⟨?_, ?_⟩
  · intro held
    obtain ⟨kinds, listed, rfl⟩ := List.mem_map.1 ((same g).1 held)
    exact ⟨kinds, listed, rfl⟩
  · rintro ⟨kinds, listed, rfl⟩
    exact (same g).2 (List.mem_map_of_mem listed)

end Schema

namespace TextPattern

open Pattern

/-! ### Written forms -/

/-- The expression that letters one after another are read as. -/
def lettersRead (token : String) : Pattern :=
  token.toList.foldl (fun before c => .andThen before (.char c)) .empty

/-- The expression that the written form of a pattern of identifiers is read as. -/
def idsRead (tokens : List String) : Pattern :=
  .andThen (.andThen (.any (tokens.map lettersRead)) (.char '-'))
    (.plus (.charIn [('-', '-'), ('0', '9'), ('a', 'z')] false))

lemma matches_foldl_char {before : Pattern} {letters t : List Char} :
    Matches (letters.foldl (fun before c => .andThen before (.char c)) before) t ↔
      ∃ u, t = u ++ letters ∧ Matches before u := by
  induction letters generalizing before with
  | nil => simp
  | cons c rest ih =>
    rw [List.foldl_cons, ih]
    simp only [matches_andThen, matches_char]
    refine ⟨?_, ?_⟩
    · rintro ⟨_, rfl, u, _, rfl, matched, rfl⟩
      exact ⟨u, List.append_assoc .., matched⟩
    · rintro ⟨u, rfl, matched⟩
      exact ⟨u ++ [c], by simp, u, [c], rfl, matched, rfl⟩

lemma matches_lettersRead {token : String} {t : List Char} :
    Matches (lettersRead token) t ↔ t = token.toList := by
  simp [lettersRead, matches_foldl_char]

/-- One of several texts of letters. -/
lemma matches_any_lettersRead {t : List Char} :
    Matches (.any (tokens.map lettersRead)) t ↔ ∃ token ∈ tokens, t = token.toList := by
  simp [matches_lettersRead]

/-- The expression that is read and the one that is searched for match the same texts. -/
lemma matches_idsRead {t : List Char} :
    Matches (idsRead tokens) t ↔ Matches (ofIds tokens).language t := by
  have letter : ∀ c, holds [('-', '-'), ('0', '9'), ('a', 'z')] c ≠ false ↔ IsIdLetter c := by
    intro c
    rw [← holds_idChar]
    simp only [holds, List.any_cons, List.any_nil, Bool.or_false, ne_eq, Bool.not_eq_false,
      Bool.or_eq_true]
    tauto
  simp only [idsRead, matches_language_ofIds, matches_andThen, matches_any_lettersRead,
    matches_char, matches_plus_charIn, letter]
  refine ⟨?_, ?_⟩
  · rintro ⟨_, body, rfl, ⟨_, _, rfl, ⟨token, member, rfl⟩, rfl⟩, nonempty, letters⟩
    exact ⟨token, member, body, nonempty, letters, by simp⟩
  · rintro ⟨token, member, body, nonempty, letters, rfl⟩
    exact ⟨token.toList ++ ['-'], body, by simp, ⟨_, _, rfl, ⟨token, member, rfl⟩, rfl⟩, nonempty,
      letters⟩

/-- The written form of a pattern of one kind is read as an expression. -/
lemma parse?_source_kind :
    parse? (ofIds [kind.token]).source =
      some ⟨(ofIds [kind.token]).source, idsRead [kind.token], true⟩ := by
  cases kind <;> cbv

/-- So is the written form of the pattern of key resources and key activities. -/
lemma parse?_source_means :
    parse? (ofIds ["kr", "ka"]).source =
      some ⟨(ofIds ["kr", "ka"]).source, idsRead ["kr", "ka"], true⟩ := by
  cbv

/-- The written form of a pattern of identifiers is read as an expression that is found in the same
texts. -/
lemma exists_parse?_ofIds (listed : kinds ∈ Schema.patternKinds g) :
    ∃ q, parse? (ofIds (kinds.map EntityKind.token)).source = some q ∧
      ∀ s, q.foundIn s = (ofIds (kinds.map EntityKind.token)).foundIn s := by
  have read : parse? (ofIds (kinds.map EntityKind.token)).source =
      some ⟨(ofIds (kinds.map EntityKind.token)).source, idsRead (kinds.map EntityKind.token),
        true⟩ := by
    obtain ⟨kind, rfl⟩ | rfl := Schema.patternKinds_cases listed
    · exact parse?_source_kind
    · exact parse?_source_means
  refine ⟨_, read, fun s => ?_⟩
  show (idsRead _).matchesLine s.toList = (ofIds _).language.matchesLine s.toList
  rw [Bool.eq_iff_iff, matchesLine_iff, matchesLine_iff]
  simp only [matches_idsRead]

end TextPattern

namespace Value

/-- The identifier check accepts what the patterns of the schemas are found in.  Each pattern is
searched for as it is written, and tells one kind, or key resources and key activities, from all
others.  A text that is accepted as an identifier has one kind, which is the kind that is looked up,
and the spelling of that kind. -/
theorem isValidId_patterns :
    (∀ g p, p ∈ (Validation.packaged g).patterns ↔
        ∃ kinds ∈ Schema.patternKinds g, p = .ofIds (kinds.map EntityKind.token)) ∧
      (∀ g, ∀ p ∈ (Validation.packaged g).patterns, ∃ q,
        TextPattern.parse? p.source = some q ∧ ∀ s, q.foundIn s = p.foundIn s) ∧
      (∀ (kinds : List EntityKind) s, (TextPattern.ofIds (kinds.map EntityKind.token)).foundIn s =
        kinds.any fun kind => (Value.str s).isValidId (some kind)) ∧
      (∀ s, (Value.str s).isValidId none = true ↔
        ∃ kind, (Value.str s).isValidId (some kind) = true) ∧
      (∀ s kind, (Value.str s).isValidId (some kind) = true ↔
        (Value.str s).kind? = some kind ∧ (Value.str s).isValidId none = true) ∧
      (∀ s kind, (Value.str s).isValidId (some kind) = true ↔ kind.Spells s) := by
  refine ⟨?_, ?_, ?_, ?_, ?_, ?_⟩
  · intro g p
    exact Schema.mem_patterns_packaged
  · intro g p held
    obtain ⟨kinds, listed, rfl⟩ := Schema.mem_patterns_packaged.1 held
    exact TextPattern.exists_parse?_ofIds listed
  · intro kinds s
    rw [Bool.eq_iff_iff, TextPattern.foundIn_ofIds, List.any_eq_true]
    simp only [isValidId_some]
  · intro s
    simp only [isValidId_none, isValidId_some]
  · intro s kind
    rw [isValidId_some, isValidId_none]
    refine ⟨fun spells => ⟨spells.ofId?_eq, kind, spells⟩, ?_⟩
    rintro ⟨known, other, spells⟩
    obtain rfl : kind = other := Option.some.inj (known.symm.trans spells.ofId?_eq)
    exact spells
  · intro s kind
    exact isValidId_some

/-- The pattern that tells resources and activities from all others, as it is written. -/
theorem isValidId_patterns_resourceOrActivity :
    TextPattern.ofIds ["kr", "ka"] ∈ (Validation.packaged .v1).patterns ∧
      ∃ q, TextPattern.parse? "^(kr|ka)-[a-z0-9-]+$" = some q ∧
        ∀ s, q.foundIn s = (TextPattern.ofIds ["kr", "ka"]).foundIn s := by
  have packaged : TextPattern.ofIds ["kr", "ka"] ∈ (Validation.packaged .v1).patterns := by
    decide +kernel
  have written : (TextPattern.ofIds ["kr", "ka"]).source = "^(kr|ka)-[a-z0-9-]+$" := by
    decide +kernel
  obtain ⟨q, read, same⟩ := isValidId_patterns.2.1 .v1 _ packaged
  rw [written] at read
  exact ⟨packaged, q, read, same⟩

end Value

end BusinessModel
