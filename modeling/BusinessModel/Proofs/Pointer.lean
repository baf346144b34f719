import BusinessModel.Pointer
import Mathlib.Tactic.Common

/-!
# Texts of pointers

The text of a pointer determines the texts of its steps, unless it has none: the root shares its
text with the member whose name is empty.  The escape of a slash is what keeps steps apart, the
escape of a tilde what keeps the two escapes apart.

* `Pointer.escape_injective` — an escaped step can be read back
* `Pointer.splitOn_ofTexts` — cutting a text at its slashes gives the escaped steps
* `Pointer.ofTexts_inj`, `Pointer.text_inj` — texts of pointers agree only if those of the steps do
* `Pointer.Under` — paths that lead below a place
-/

namespace BusinessModel

namespace Step

/-- Distinct positions have distinct texts. -/
lemma index_text_inj {i j : Nat} (h : (Step.index i).text = (Step.index j).text) : i = j := by
  have digits : Nat.toDigits 10 i = Nat.toDigits 10 j := by
    rw [← Nat.toList_repr, ← Nat.toList_repr]
    exact congrArg String.toList h
  have number := congrArg (Nat.ofDigitChars 10 · 0) digits
  simpa only [Nat.ofDigitChars_ten_toDigits] using number

end Step

namespace Pointer

variable {c d : Char} {u v : List Char} {s t : String} {steps others : List String}
  {p q : Pointer}

/-- The three written forms of a character. -/
lemma escapeChar_cases (c : Char) :
    (c = '~' ∧ escapeChar c = ['~', '0']) ∨ (c = '/' ∧ escapeChar c = ['~', '1']) ∨
      (c ≠ '~' ∧ c ≠ '/' ∧ escapeChar c = [c]) := by
  unfold escapeChar
  split
  next tilde => exact .inl ⟨tilde, rfl⟩
  next notTilde =>
    split
    next slash => exact .inr (.inl ⟨slash, rfl⟩)
    next notSlash => exact .inr (.inr ⟨notTilde, notSlash, rfl⟩)

/-- No written character holds a slash. -/
lemma slash_notMem_escapeChar : '/' ∉ escapeChar c := by
  obtain ⟨_, form⟩ | ⟨_, form⟩ | ⟨_, notSlash, form⟩ := escapeChar_cases c <;> rw [form]
  · decide
  · decide
  · simpa using notSlash.symm

/-- No written step holds a slash. -/
lemma slash_notMem_escape : '/' ∉ (escape s).toList := by
  simp only [escape, String.toList_ofList, List.mem_flatMap, not_exists, not_and]
  exact fun _ _ => slash_notMem_escapeChar

/-- No written character begins another one. -/
lemma escapeChar_append_inj (h : escapeChar c ++ u = escapeChar d ++ v) : c = d ∧ u = v := by
  obtain ⟨hc, form⟩ | ⟨hc, form⟩ | ⟨hc, _, form⟩ := escapeChar_cases c <;>
    obtain ⟨hd, form'⟩ | ⟨hd, form'⟩ | ⟨hd, _, form'⟩ := escapeChar_cases d <;>
    -- The escapes agree in their first character and are told apart by the second.
    rw [form, form'] at h <;> grind

/-- Written characters can be read back. -/
lemma flatMap_escapeChar_inj (h : u.flatMap escapeChar = v.flatMap escapeChar) : u = v := by
  have written : ∀ (c : Char) (w : List Char), escapeChar c ++ w ≠ [] := by
    intro c w
    obtain ⟨_, form⟩ | ⟨_, form⟩ | ⟨_, _, form⟩ := escapeChar_cases c <;> rw [form] <;>
      exact List.cons_ne_nil _ _
  induction u generalizing v with
  | nil =>
    cases v with
    | nil => rfl
    | cons d v => exact absurd h.symm (written d _)
  | cons c u ih =>
    cases v with
    | nil => exact absurd h (written c _)
    | cons d v =>
      obtain ⟨rfl, rest⟩ := escapeChar_append_inj h
      rw [ih rest]

/-- A written step determines the step. -/
lemma escape_injective : Function.Injective escape := by
  intro s t h
  exact String.toList_inj.1 (flatMap_escapeChar_inj (String.ofList_inj.1 h))

/-- The text of a pointer, read as written steps between slashes. -/
lemma toList_ofTexts (h : steps ≠ []) :
    (ofTexts steps).toList = ['/'].intercalate ([] :: steps.map fun s => (escape s).toList) := by
  have joined : ∀ rest : List String,
      (String.join (rest.map fun s => "/" ++ escape s)).toList =
        ['/'].intercalate ([] :: rest.map fun s => (escape s).toList) := by
    intro rest
    induction rest with
    | nil => simp
    | cons s rest ih =>
      rw [List.map_cons, String.join_cons, String.toList_append, ih, List.map_cons,
        List.intercalate_cons_cons]
      cases rest <;> simp [List.intercalate_cons_cons]
  rw [ofTexts, if_neg (by simpa using h)]
  exact joined steps

/-- Cutting the text of a pointer at its slashes gives its written steps. -/
lemma splitOn_ofTexts (h : steps ≠ []) :
    (ofTexts steps).toList.splitOn '/' = [] :: steps.map fun s => (escape s).toList := by
  rw [toList_ofTexts h, List.splitOn_intercalate]
  · intro part member
    obtain rfl | member := List.mem_cons.1 member
    · exact List.not_mem_nil
    · obtain ⟨s, _, rfl⟩ := List.mem_map.1 member
      exact slash_notMem_escape
  · exact List.cons_ne_nil _ _

/-- Two texts agree only if their steps do. -/
lemma ofTexts_inj (h : steps ≠ []) (h' : others ≠ []) :
    ofTexts steps = ofTexts others ↔ steps = others := by
  refine ⟨fun same => ?_, fun same => by rw [same]⟩
  have parts : steps.map (fun s => (escape s).toList) = others.map fun s => (escape s).toList := by
    rw [← List.cons_inj_right [], ← splitOn_ofTexts h, ← splitOn_ofTexts h', same]
  exact (List.map_inj_right fun _ _ same => escape_injective (String.toList_inj.1 same)).1 parts

/-- Two pointers share their text only if their steps do. -/
lemma text_inj (h : p ≠ []) (h' : q ≠ []) : p.text = q.text ↔ p.map Step.text = q.map Step.text :=
  ofTexts_inj (by simpa using h) (by simpa using h')

/-- A path leads to some place below another one. -/
def Under (place : Pointer) (path : String) : Prop :=
  (place.text ++ "/").toList <+: path.toList

instance {place : Pointer} {path : String} : Decidable (place.Under path) :=
  inferInstanceAs (Decidable (_ <+: _))

lemma text_of_ne_nil (h : p ≠ []) : p.text = String.join (p.map fun s => "/" ++ escape s.text) := by
  rw [text, ofTexts, if_neg (by simpa using h), List.map_map]
  rfl

/-- Going down from a place leads below it. -/
lemma under_text_append {step : Step} (h : p ≠ []) : p.Under (p ++ step :: q).text := by
  have steps : (p ++ step :: q).text = p.text ++ "/" ++
      (escape step.text ++ String.join (q.map fun s => "/" ++ escape s.text)) := by
    rw [text_of_ne_nil h, text_of_ne_nil (by simp), List.map_append, String.join_append,
      List.map_cons, String.join_cons, String.append_assoc, String.append_assoc]
  rw [steps]
  exact ⟨_, String.toList_append.symm⟩

end Pointer

end BusinessModel
