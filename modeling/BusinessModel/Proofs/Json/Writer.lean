import BusinessModel.Json.Writer
import BusinessModel.Text.Terminal
import Mathlib.Data.List.Basic
import Mathlib.Data.String.Basic

/-!
# Written values on a terminal

A value that is written as JSON shows no control character, as everything but printable ASCII is
escaped.  So nothing of it is taken for a terminal control sequence.

* `IsClear` — a text without the character that starts a control sequence
* `Json.Legible` — values made of texts and truth values
* `Legible.withoutControls` — such a value is printed as it is written
-/

namespace BusinessModel

/-- The character that starts a control sequence does not stand in a text. -/
def IsClear (s : String) : Prop := '\x1b' ∉ s.toList

instance (s : String) : Decidable (IsClear s) :=
  inferInstanceAs (Decidable ('\x1b' ∉ s.toList))

lemma controlLength_of_ne {c : Char} {rest : List Char} (other : c ≠ '\x1b') :
    controlLength (c :: rest) = 0 := by
  unfold controlLength
  split
  · next shape =>
    cases shape
    exact absurd rfl other
  · rfl

lemma dropControls_of_not_mem {chars : List Char} (clear : '\x1b' ∉ chars) :
    dropControls 0 chars = chars := by
  induction chars with
  | nil => rfl
  | cons c rest ih =>
    obtain ⟨other, clear⟩ := not_or.1 (mt List.mem_cons.2 clear)
    rw [dropControls, controlLength_of_ne (Ne.symm other)]
    exact congrArg (c :: ·) (ih clear)

lemma IsClear.withoutControls {s : String} (clear : IsClear s) :
    BusinessModel.withoutControls s = s := by
  rw [BusinessModel.withoutControls, dropControls_of_not_mem clear, String.ofList_toList]

lemma IsClear.append {s t : String} (h : IsClear s) (h' : IsClear t) : IsClear (s ++ t) := by
  rw [IsClear, String.toList_append, List.mem_append, not_or]
  exact ⟨h, h'⟩

lemma isClear_intercalate {s : String} {parts : List String} (h : IsClear s)
    (h' : ∀ part ∈ parts, IsClear part) : IsClear (s.intercalate parts) := by
  rw [IsClear, String.toList_intercalate, List.intercalate]
  induction parts with
  | nil => exact List.not_mem_nil
  | cons part rest ih =>
    have clear := h' part List.mem_cons_self
    cases rest with
    | nil =>
      rw [List.map_singleton, List.intersperse_singleton, List.flatten_singleton]
      exact clear
    | cons next rest =>
      have rest_clear := ih fun part other => h' part (List.mem_cons_of_mem _ other)
      rw [List.map_cons, List.map_cons, List.intersperse_cons_cons, List.flatten_cons,
        List.flatten_cons, List.mem_append, List.mem_append, not_or, not_or]
      exact ⟨clear, h, rest_clear⟩

lemma isClear_pushn {n : Nat} : IsClear ("".pushn ' ' n) := by
  induction n with
  | zero => exact List.not_mem_nil
  | succ n ih =>
    rw [IsClear, String.pushn, Nat.repeat, String.toList_push, List.mem_append, not_or]
    exact ⟨ih, by decide⟩

namespace Json

lemma not_mem_hexDigits {width n : Nat} : '\x1b' ∉ hexDigits width n := by
  induction width generalizing n with
  | zero => exact List.not_mem_nil
  | succ width ih =>
    have digit : ∀ m < 16, '\x1b' ≠ hexDigit m := by decide
    rw [hexDigits, List.mem_append, not_or, List.mem_singleton]
    exact ⟨ih, digit _ (Nat.mod_lt _ (by decide))⟩

/-- Characters that are not printable are escaped. -/
lemma not_mem_escapeChar {c : Char} : '\x1b' ∉ escapeChar c := by
  have unit : ∀ n, '\x1b' ∉ '\\' :: 'u' :: hexDigits 4 n := by
    intro n member
    simp [not_mem_hexDigits] at member
  unfold escapeChar
  dsimp only
  split
  next special =>
    obtain rfl | rfl := special
    · decide
    · decide
  iterate 5
    split
    · decide
  -- What is left is printable ASCII, or it is escaped by one unit or by two.
  split
  next printable =>
    rw [List.mem_singleton]
    rintro rfl
    exact absurd printable (by decide)
  split
  · exact unit _
  · rw [List.mem_append, not_or]
    exact ⟨unit _, unit _⟩

lemma isClear_writeString {s : String} : IsClear (writeString s) := by
  rw [IsClear, writeString, String.toList_ofList]
  simp [not_mem_escapeChar]

lemma isClear_block {level : Nat} {opening closing : String} {parts : List String}
    (ho : IsClear opening) (hc : IsClear closing) (h : ∀ part ∈ parts, IsClear part) :
    IsClear (block level opening closing parts) := by
  unfold block
  dsimp only
  split
  · exact ho.append hc
  · have inside : ∀ part ∈ parts.map ("".pushn ' ' (2 * (level + 1)) ++ ·), IsClear part := by
      intro part member
      obtain ⟨inner, among, rfl⟩ := List.mem_map.1 member
      exact isClear_pushn.append (h inner among)
    have newline : IsClear "\n" := by decide
    have comma : IsClear ",\n" := by decide
    exact ((((ho.append newline).append (isClear_intercalate comma inside)).append newline).append
      isClear_pushn).append hc

lemma writeBlocks_eq_map {level : Nat} {items : List Value} :
    writeBlocks level items = items.map (writeBlock level) := by
  induction items with
  | nil => rfl
  | cons item rest ih => rw [writeBlocks, ih, List.map_cons]

lemma writeMemberBlocks_eq_map {level : Nat} {entries : Mapping} :
    writeMemberBlocks level entries =
      entries.map fun entry => writeString entry.1.display ++ ": " ++ writeBlock level entry.2 := by
  induction entries with
  | nil => rfl
  | cons entry rest ih => rw [writeMemberBlocks, ih, List.map_cons]

/-- A member of an object as it is written. -/
def memberText (level : Nat) (member : String × Value) : String :=
  writeString member.1 ++ ": " ++ writeBlock level member.2

lemma writeBlock_object {level : Nat} {members : List (String × Value)} :
    writeBlock level (object members) =
      block level "\x7b" "\x7d" (members.map (memberText (level + 1))) := by
  rw [object, writeBlock, writeMemberBlocks_eq_map, List.map_map]
  rfl

/-- A value made of texts and truth values, in which no object has two members of one name. -/
inductive Legible : Value → Prop where
  | str {s : String} : Legible (.str s)
  | bool {b : Bool} : Legible (.bool b)
  | list {items : List Value} : (∀ item ∈ items, Legible item) → Legible (.list items)
  | object {members : List (String × Value)} :
    (members.map (·.1)).Nodup → (∀ member ∈ members, Legible member.2) → Legible (object members)

lemma Legible.isClear {v : Value} (legible : Legible v) (level : Nat) :
    IsClear (writeBlock level v) := by
  induction legible generalizing level with
  | str => exact isClear_writeString
  | @bool b =>
    cases b with
    | false => exact (by decide : IsClear "false")
    | true => exact (by decide : IsClear "true")
  | @list items _ ih =>
    rw [writeBlock, writeBlocks_eq_map]
    refine isClear_block (by decide) (by decide) fun part among => ?_
    obtain ⟨item, member, rfl⟩ := List.mem_map.1 among
    exact ih item member _
  | @object members _ _ ih =>
    rw [writeBlock_object]
    refine isClear_block (by decide) (by decide) fun part among => ?_
    obtain ⟨member, inside, rfl⟩ := List.mem_map.1 among
    have colon : IsClear ": " := by decide
    exact (isClear_writeString.append colon).append (ih member inside _)

/-- Such a value is printed as it is written. -/
lemma Legible.withoutControls {v : Value} (legible : Legible v) :
    BusinessModel.withoutControls (writeIndented v) = writeIndented v :=
  (legible.isClear 0).withoutControls

end Json

end BusinessModel
