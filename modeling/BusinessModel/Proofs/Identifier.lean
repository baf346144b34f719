import BusinessModel.Proofs.EntityKind
import BusinessModel.Proofs.Text.Pattern
import BusinessModel.Schema.TextPattern

/-!
# How identifiers are spelled

The identifier of an entity is the stem of its kind, then one or more small letters, digits and
dashes; one line feed may follow.  No stem begins another one, so that a spelling has one kind only,
and the kind that is looked up is the kind that is spelled.

* `EntityKind.Spells` — the identifiers of a kind
* `TextPattern.foundIn_ofIds` — the patterns of identifiers are found in nothing else
* `EntityKind.Spells.ofId?_eq` — the kind of a spelled identifier
* `Value.isValidId_some`, `Value.isValidId_none` — the identifier check accepts what a kind, or any
  kind, spells
-/

namespace BusinessModel

/-- A character that may stand behind the stem of an identifier. -/
def IsIdLetter (c : Char) : Prop :=
  ('a' ≤ c ∧ c ≤ 'z') ∨ ('0' ≤ c ∧ c ≤ '9') ∨ c = '-'

/-- The identifiers of a kind. -/
def EntityKind.Spells (kind : EntityKind) (id : String) : Prop :=
  ∃ body, body ≠ [] ∧ (∀ c ∈ body, IsIdLetter c) ∧
    (id.toList = kind.stem.toList ++ body ∨ id.toList = kind.stem.toList ++ body ++ ['\n'])

variable {kind : EntityKind} {kinds : List EntityKind} {wanted : Option EntityKind} {id : String}
  {tokens : List String} {c : Char} {s : List Char}

/-! ### What stands behind a stem -/

lemma isIdChar_iff : isIdChar c = true ↔ IsIdLetter c := by
  simp [isIdChar, IsIdLetter, or_assoc]

lemma not_isIdLetter_lineFeed : ¬IsIdLetter '\n' := by
  rw [← isIdChar_iff]
  decide

/-- The letters of an identifier, without a line feed behind them. -/
lemma isIdCore_iff :
    (!s.isEmpty && s.all isIdChar) = true ↔ s ≠ [] ∧ ∀ c ∈ s, IsIdLetter c := by
  simp [isIdChar_iff]

/-- A text that can stand behind a stem is made of letters of identifiers, with at most one line
feed behind them. -/
lemma isIdBody_iff :
    isIdBody s = true ↔
      ∃ body, body ≠ [] ∧ (∀ c ∈ body, IsIdLetter c) ∧ (s = body ∨ s = body ++ ['\n']) := by
  unfold isIdBody
  split
  next ending =>
    have whole : s.dropLast ++ ['\n'] = s := List.dropLast_append_getLast? _ ending
    rw [isIdCore_iff]
    refine ⟨fun ⟨nonempty, letters⟩ => ⟨_, nonempty, letters, .inr whole.symm⟩, ?_⟩
    rintro ⟨body, nonempty, letters, rfl | rfl⟩
    · exact absurd (letters _ (List.mem_of_getLast? ending)) not_isIdLetter_lineFeed
    · rw [List.dropLast_concat]
      exact ⟨nonempty, letters⟩
  next noEnding =>
    rw [isIdCore_iff]
    refine ⟨fun ⟨nonempty, letters⟩ => ⟨s, nonempty, letters, .inl rfl⟩, ?_⟩
    rintro ⟨body, nonempty, letters, rfl | rfl⟩
    · exact ⟨nonempty, letters⟩
    · exact absurd List.getLast?_concat noEnding

namespace TextPattern

open Pattern

lemma holds_idChar :
    holds [('a', 'z'), ('0', '9'), ('-', '-')] c ≠ false ↔ IsIdLetter c := by
  simp only [holds, List.any_cons, List.any_nil, Bool.or_false, ne_eq, Bool.not_eq_false,
    Bool.or_eq_true, Bool.and_eq_true, decide_eq_true_eq, le_and_le_iff_eq, IsIdLetter]

/-- The expression of some tokens matches these with a dash and letters behind them. -/
lemma matches_language_ofIds :
    Matches (ofIds tokens).language s ↔
      ∃ token ∈ tokens, ∃ body, body ≠ [] ∧ (∀ c ∈ body, IsIdLetter c) ∧
        s = token.toList ++ '-' :: body := by
  simp only [ofIds, Pattern.all, List.foldr_cons, List.foldr_nil, matches_andThen, matches_words,
    matches_char, idChar, matches_plus_charIn, holds_idChar, matches_empty]
  refine ⟨?_, ?_⟩
  · rintro ⟨_, _, rfl, ⟨token, member, rfl⟩, _, _, rfl, rfl, body, _, rfl,
      ⟨nonempty, letters⟩, rfl⟩
    exact ⟨token, member, body, nonempty, letters, by simp⟩
  · rintro ⟨token, member, body, nonempty, letters, rfl⟩
    exact ⟨_, _, rfl, ⟨token, member, rfl⟩, ['-'], body, rfl, rfl, body, [], by simp,
      ⟨nonempty, letters⟩, rfl⟩

/-- The pattern of some kinds is found exactly in the identifiers of these kinds. -/
lemma foundIn_ofIds :
    (ofIds (kinds.map EntityKind.token)).foundIn id = true ↔ ∃ kind ∈ kinds, kind.Spells id := by
  have anchored : (ofIds (kinds.map EntityKind.token)).foundIn id =
      (ofIds (kinds.map EntityKind.token)).language.matchesLine id.toList := rfl
  have stem : ∀ (kind : EntityKind) body,
      kind.stem.toList ++ body = kind.token.toList ++ '-' :: body := by
    intro kind body
    rw [EntityKind.toList_stem, List.append_assoc, List.singleton_append]
  rw [anchored, matchesLine_iff]
  simp only [matches_language_ofIds, EntityKind.Spells, stem, List.mem_map]
  refine ⟨?_, ?_⟩
  · rintro ⟨_, ⟨_, ⟨kind, member, rfl⟩, body, nonempty, letters, rfl⟩, ending⟩
    exact ⟨kind, member, body, nonempty, letters, by simpa using ending⟩
  · rintro ⟨kind, member, body, nonempty, letters, ending⟩
    exact ⟨_, ⟨_, ⟨kind, member, rfl⟩, body, nonempty, letters, rfl⟩, by simpa using ending⟩

end TextPattern

namespace EntityKind

/-- The kind that is looked up for an identifier is the one that it spells. -/
lemma Spells.ofId?_eq (spells : kind.Spells id) : ofId? id = some kind := by
  obtain ⟨body, _, _, spelled | spelled⟩ := spells
  · exact ofId?_eq_some.2 ⟨body, spelled.symm⟩
  · exact ofId?_eq_some.2 ⟨body ++ ['\n'], by rw [spelled, List.append_assoc]⟩

/-- A text that starts with the stem of a kind spells that kind if what follows can stand there. -/
lemma isIdBody_drop_iff (begins : kind.stem.toList <+: id.toList) :
    isIdBody (id.toList.drop kind.stem.length) = true ↔ kind.Spells id := by
  obtain ⟨rest, text⟩ := begins
  rw [← text, ← String.length_toList, List.drop_left, isIdBody_iff]
  simp only [Spells, ← text, List.append_assoc, List.append_cancel_left_eq]

end EntityKind

namespace Value

/-- The identifier check accepts what spells the wanted kind, or any kind if none is wanted. -/
lemma isValidId_str :
    (Value.str id).isValidId wanted = true ↔
      ∃ kind, (wanted = none ∨ wanted = some kind) ∧ kind.Spells id := by
  simp only [isValidId]
  split
  next kind known =>
    rw [Bool.and_eq_true, EntityKind.isIdBody_drop_iff (EntityKind.ofId?_eq_some.1 known)]
    simp only [Bool.or_eq_true, beq_iff_eq]
    refine ⟨fun ⟨asked, spells⟩ => ⟨kind, asked, spells⟩, ?_⟩
    rintro ⟨other, asked, spells⟩
    obtain rfl : kind = other := Option.some.inj (known.symm.trans spells.ofId?_eq)
    exact ⟨asked, spells⟩
  next unknown =>
    refine iff_of_false nofun ?_
    rintro ⟨kind, _, spells⟩
    cases unknown.symm.trans spells.ofId?_eq

lemma isValidId_some : (Value.str id).isValidId (some kind) = true ↔ kind.Spells id := by
  simp [isValidId_str]

lemma isValidId_none :
    (Value.str id).isValidId none = true ↔ ∃ kind, EntityKind.Spells kind id := by
  simp [isValidId_str]

end Value

end BusinessModel
