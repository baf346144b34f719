import BusinessModel.Proofs.Pointer
import BusinessModel.Validation
import BusinessModel.Value.Writable

/-!
# Reading pointers back

The text of a pointer is read back by cutting it at its slashes and undoing the escapes, the escape
of the slash first: the tilde in front of a one may be what the other escape leaves behind.  The
paths of violations are written by replacing one character after the other, and come out the same.
A part that has no text, such as an integer too long to be written, has no place in a pointer.

* `Validation.pathOf_eq_ofTexts` — the paths of violations are texts of pointers
* `Pointer.unescape_escape` — the escapes of a step can be undone
* `Pointer.decode_ofTexts` — the text of a pointer is read back
* `Pointer.ofParts`, `Validation.pathOfParts` — the texts of pointers that are made of any values
* `Pointer.ofParts_decoded` — the text of a pointer tells the texts of its parts
-/

namespace BusinessModel

variable {c first second plain : Char} {s : String} {rest : List Char} {steps : List String}

/-- The text of a pointer is a slash in front of its written steps, with slashes between them. -/
lemma Pointer.ofTexts_of_ne_nil (h : steps ≠ []) :
    ofTexts steps = "/" ++ "/".intercalate (steps.map escape) := by
  apply String.toList_inj.1
  have mapped : (steps.map fun s => (escape s).toList) ≠ [] := by simpa using h
  rw [toList_ofTexts h, List.intercalate_cons_of_ne_nil mapped, String.toList_append,
    String.toList_intercalate, List.map_map]
  rfl

namespace Validation

lemma toList_replaceChar {replacement : String} :
    (replaceChar c replacement s).toList =
      s.toList.flatMap fun d => if d = c then replacement.toList else [d] :=
  String.toList_ofList

/-- Replacing tildes and then slashes writes a step as it is written all at once. -/
lemma replaceChar_replaceChar :
    replaceChar '/' "~1" (replaceChar '~' "~0" s) = Pointer.escape s := by
  have atOnce : ∀ c : Char,
      (if c = '~' then "~0".toList else [c]).flatMap
        (fun d => if d = '/' then "~1".toList else [d]) = Pointer.escapeChar c := by
    intro c
    obtain ⟨rfl, form⟩ | ⟨rfl, form⟩ | ⟨notTilde, notSlash, form⟩ := Pointer.escapeChar_cases c
    · rw [form]
      rfl
    · rw [form]
      rfl
    · simp [form, notTilde, notSlash]
  rw [replaceChar, toList_replaceChar, List.flatMap_assoc, funext atOnce, Pointer.escape]

/-- The path of a violation is the text of a pointer. -/
lemma pathOf_eq_ofTexts (steps : List String) : pathOf steps = Pointer.ofTexts steps := by
  unfold pathOf
  split
  next empty =>
    rw [List.isEmpty_iff.1 empty]
    rfl
  next nonempty =>
    rw [Pointer.ofTexts_of_ne_nil (mt List.isEmpty_iff.2 nonempty)]
    simp only [replaceChar_replaceChar]

/-- The path of a violation is the text of its place. -/
lemma Issue.path_ofViolation (v : Schema.Violation) : (Issue.ofViolation v).path = v.place.text :=
  pathOf_eq_ofTexts _

end Validation

namespace Pointer

/-- A text with a character in place of every occurrence of a pair of characters, looked for from
the left. -/
def replacePair (first second plain : Char) : List Char → List Char
  | c :: d :: rest =>
    if c = first ∧ d = second then plain :: replacePair first second plain rest
    else c :: replacePair first second plain (d :: rest)
  | rest => rest

/-- The text of a written step: its slashes are put back, then its tildes. -/
def unescape (piece : List Char) : String :=
  String.ofList (replacePair '~' '0' '~' (replacePair '~' '1' '/' piece))

/-- The steps that the text of a pointer tells: what stands between the slashes behind the leading
one. -/
def decode (path : String) : Option (List String) :=
  match path.toList with
  | '/' :: rest => some ((rest.splitOn '/').map unescape)
  | _ => none

lemma replacePair_pair :
    replacePair first second plain (first :: second :: rest) =
      plain :: replacePair first second plain rest := by
  rw [replacePair, if_pos ⟨rfl, rfl⟩]

/-- A character that begins no pair stays. -/
lemma replacePair_cons (other : c ≠ first) :
    replacePair first second plain (c :: rest) =
      c :: replacePair first second plain rest := by
  cases rest with
  | nil => rfl
  | cons d rest => rw [replacePair, if_neg fun pair => other pair.1]

/-- The first character of a pair stays if another one follows than the second. -/
lemma replacePair_cons_cons (other : c ≠ second) :
    replacePair first second plain (first :: c :: rest) =
      first :: replacePair first second plain (c :: rest) := by
  rw [replacePair, if_neg fun pair => other pair.2]

/-- Putting the slashes back leaves the tildes escaped. -/
lemma replacePair_escape (s : List Char) :
    replacePair '~' '1' '/' (s.flatMap escapeChar) =
      s.flatMap fun c => if c = '~' then ['~', '0'] else [c] := by
  induction s with
  | nil => rfl
  | cons c s ih =>
    rw [List.flatMap_cons, List.flatMap_cons, ← ih]
    obtain ⟨rfl, form⟩ | ⟨rfl, form⟩ | ⟨notTilde, _, form⟩ := escapeChar_cases c
    · rw [form, if_pos rfl]
      exact (replacePair_cons_cons (by decide)).trans (congrArg _ (replacePair_cons (by decide)))
    · rw [form, if_neg (by decide)]
      exact replacePair_pair
    · rw [form, if_neg notTilde]
      exact replacePair_cons notTilde

/-- Putting the tildes back undoes their escape. -/
lemma replacePair_tildes (s : List Char) :
    replacePair '~' '0' '~' (s.flatMap fun c => if c = '~' then ['~', '0'] else [c]) = s := by
  induction s with
  | nil => rfl
  | cons c s ih =>
    rw [List.flatMap_cons]
    by_cases tilde : c = '~'
    · rw [if_pos tilde, tilde]
      exact replacePair_pair.trans (congrArg _ ih)
    · rw [if_neg tilde]
      exact (replacePair_cons tilde).trans (congrArg _ ih)

/-- The escapes of a step can be undone. -/
lemma unescape_escape (s : String) : unescape (escape s).toList = s := by
  rw [unescape, escape, String.toList_ofList, replacePair_escape, replacePair_tildes,
    String.ofList_toList]

/-- Written steps between slashes are told apart. -/
lemma splitOn_intercalate_escape (h : steps ≠ []) :
    ("/".intercalate (steps.map escape)).toList.splitOn '/' =
      (steps.map escape).map String.toList := by
  rw [String.toList_intercalate]
  apply List.splitOn_intercalate
  · simp only [List.map_map, List.mem_map, Function.comp_apply]
    rintro _ ⟨s, _, rfl⟩
    exact slash_notMem_escape
  · simpa using h

/-- The text of a pointer is read back. -/
lemma decode_ofTexts (h : steps ≠ []) : decode (ofTexts steps) = some steps := by
  have read : (steps.map escape).map (fun piece => unescape piece.toList) = steps := by
    rw [List.map_map]
    exact (List.map_congr_left fun s _ => unescape_escape s).trans (List.map_id _)
  rw [ofTexts_of_ne_nil h, decode, String.toList_append]
  show some ((List.splitOn '/' ("/".intercalate (steps.map escape)).toList).map unescape) = _
  rw [splitOn_intercalate_escape h, List.map_map]
  exact congrArg some read

end Pointer

/-! ### Parts of any kind -/

/-- Some values as a reader says them, if they all have a text. -/
def Value.displays (parts : List Value) : Except LongInteger (List String) :=
  if parts.all Value.isWritable then .ok (parts.map Value.display) else .error .written

/-- The text of a pointer that is made of some values. -/
def Pointer.ofParts (parts : List Value) : Except LongInteger String :=
  (Value.displays parts).map ofTexts

/-- The path of a violation whose place is made of some values. -/
def Validation.pathOfParts (parts : List Value) : Except LongInteger String :=
  (Value.displays parts).map pathOf

/-- A pointer that is made of some values tells their texts, and fails as these do if one of them
cannot be written.  Pointers of different texts differ, and the paths of violations are the same
pointers. -/
theorem Pointer.ofParts_decoded :
    (∀ (part : Value) (parts : List Value), (ofParts (part :: parts)).map decode =
        (Value.displays (part :: parts)).map some) ∧
      (∀ (step other : String) (steps others : List String),
        ofTexts (step :: steps) = ofTexts (other :: others) ↔
          step :: steps = other :: others) ∧
      (∀ parts, Validation.pathOfParts parts = ofParts parts) := by
  refine ⟨?_, ?_, ?_⟩
  · intro part parts
    unfold ofParts Value.displays
    split
    next => exact congrArg Except.ok (decode_ofTexts (List.cons_ne_nil _ _))
    next => rfl
  · intro step other steps others
    exact ofTexts_inj (List.cons_ne_nil _ _) (List.cons_ne_nil _ _)
  · intro parts
    unfold Validation.pathOfParts ofParts
    rw [funext Validation.pathOf_eq_ofTexts]

end BusinessModel
