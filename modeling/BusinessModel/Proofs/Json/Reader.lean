import BusinessModel.Json.Reader
import BusinessModel.Proofs.Declared
import BusinessModel.Proofs.Json.Writer

/-!
# Written values are read back

The reader undoes the writer on every value made of texts, truth values, and lists and objects of
such, as long as no object has two members of one name.  So whatever is printed as JSON says all of
the value behind it.

* `Json.readString_flatMap` — escaped characters are read as they were
* `Json.readItems_following`, `Json.readMembers_following` — the parts of a collection are read one
  after another
* `Json.read_writeIndented` — a written value is read back
-/

namespace BusinessModel

variable {c : Char} {chars more read opening start : List Char} {fuel level n : Nat}

/-! ### Digits -/

lemma length_hexDigits {width : Nat} : (hexDigits width n).length = width := by
  induction width generalizing n with
  | zero => rfl
  | succ width ih => rw [hexDigits, List.length_append, ih, List.length_singleton]

lemma value?_hexDigit (small : n < 16) : Digits.value? 16 (hexDigit n) = some n := by
  have all : ∀ n < 16, Digits.value? 16 (hexDigit n) = some n := by decide
  exact all n small

lemma number?_hexDigits {width : Nat} (small : n < 16 ^ width) :
    Digits.number? 16 (hexDigits width n) = some n := by
  induction width generalizing n with
  | zero =>
    obtain rfl : n = 0 := by simpa using small
    rfl
  | succ width ih =>
    have high := ih (Nat.div_lt_of_lt_mul (by rwa [Nat.pow_succ, Nat.mul_comm] at small))
    have low := value?_hexDigit (Nat.mod_lt n (by decide : 0 < 16))
    rw [Digits.number?] at high
    rw [hexDigits, Digits.number?, List.foldl_append, high, List.foldl_cons, List.foldl_nil, low]
    exact congrArg some (Nat.div_add_mod' n 16)

/-- An absent key is set behind all others. -/
lemma Mapping.set_of_absent {m : Mapping} {key : String} {v : Value}
    (absent : ∀ entry ∈ m, entry.1 ≠ .str key) : set m (.str key) v = m ++ [(.str key, v)] := by
  induction m with
  | nil => rfl
  | cons entry rest ih =>
    obtain ⟨other, no⟩ := List.forall_mem_cons.1 absent
    rw [set, if_neg (mt Scalar.sameKey_str.1 other), ih no, List.cons_append]

namespace Json

/-! ### Strings -/

/-- A code that is not the first half of a pair is one character. -/
lemma readCode_unit (small : n < 16 ^ 4) (whole : ¬(0xd800 ≤ n ∧ n < 0xdc00))
    (follows : more ≠ []) :
    readCode start (hexDigits 4 n ++ more) = .ok (Char.ofNat n, more) := by
  unfold readCode
  rw [List.take_left' length_hexDigits, List.drop_left' length_hexDigits, number?_hexDigits small,
    length_hexDigits]
  dsimp only
  rw [if_neg (by simpa using follows)]
  split
  · split
    · rw [if_neg fun pair => whole ⟨pair.1, pair.2.1⟩]
    · rfl
  · rfl

/-- The two halves of a pair are one character. -/
lemma readCode_pair {high low : Nat} (high_lt : high < 0x400) (low_lt : low < 0x400)
    (follows : more ≠ []) :
    readCode start (hexDigits 4 (0xd800 + high) ++
      '\\' :: 'u' :: (hexDigits 4 (0xdc00 + low) ++ more)) =
        .ok (Char.ofNat (0x10000 + high * 0x400 + low), more) := by
  have one : Digits.number? 16 (hexDigits 4 (0xd800 + high)) = some (0xd800 + high) :=
    number?_hexDigits (by omega)
  have two : Digits.number? 16 (hexDigits 4 (0xdc00 + low)) = some (0xdc00 + low) :=
    number?_hexDigits (by omega)
  have long : 4 < (hexDigits 4 (0xdc00 + low) ++ more).length := by
    rw [List.length_append, length_hexDigits]
    have := List.length_pos_of_ne_nil follows
    omega
  unfold readCode
  rw [List.take_left' length_hexDigits, List.drop_left' length_hexDigits, one, length_hexDigits]
  dsimp only
  rw [if_neg (by simp)]
  split
  next shape =>
    cases shape
    rw [List.take_left' length_hexDigits, two]
    dsimp only
    rw [if_pos ⟨by omega, by omega, by omega, by omega, long⟩, List.drop_left' length_hexDigits,
      Nat.add_sub_cancel_left, Nat.add_sub_cancel_left]
  next other => exact absurd rfl (other _)

/-- An escaped character is read as it was. -/
lemma readString_escapeChar (follows : more ≠ []) :
    readString opening (fuel + 1) read (escapeChar c ++ more) =
      readString opening fuel (c :: read) more := by
  have valid : c.toNat < 0xd800 ∨ 0xdfff < c.toNat ∧ c.toNat < 0x110000 := c.valid
  have same {n : Nat} (code : n = c.toNat) : Char.ofNat n = c := by
    rw [code, Char.ofNat_toNat]
  unfold escapeChar
  dsimp only
  split
  next special =>
    obtain rfl | rfl := special
    · rfl
    · rfl
  next plain =>
  rw [not_or] at plain
  split
  next newline =>
    rw [newline]
    rfl
  split
  next ret =>
    rw [ret]
    rfl
  split
  next tab =>
    rw [tab]
    rfl
  split
  next backspace =>
    rw [← same backspace.symm]
    rfl
  split
  next feed =>
    rw [← same feed.symm]
    rfl
  -- What is left is printable ASCII, or it is written by its code.
  split
  next printable =>
    rw [List.singleton_append, readString]
    · rw [if_neg (Nat.not_lt.2 printable.1)]
    · exact plain.1
    · exact plain.2
  split
  next unit =>
    rw [List.cons_append, List.cons_append, readString, readCode_unit (by omega) (by omega) follows,
      Char.ofNat_toNat]
    rfl
  next pair =>
    rw [List.append_assoc, List.cons_append, List.cons_append, List.cons_append, List.cons_append,
      readString, readCode_pair (by omega) (by omega) follows, same (by omega)]
    rfl

lemma readString_flatMap (enough : chars.length < fuel) :
    readString opening fuel read (chars.flatMap escapeChar ++ '"' :: more) =
      .ok (String.ofList (read.reverse ++ chars), more) := by
  induction chars generalizing fuel read with
  | nil =>
    obtain ⟨fuel, rfl⟩ := Nat.exists_eq_add_one.2 enough
    rw [List.append_nil]
    rfl
  | cons c rest ih =>
    rw [List.length_cons] at enough
    obtain ⟨fuel, rfl⟩ := Nat.exists_eq_add_one.2 (Nat.zero_lt_of_lt enough)
    rw [List.flatMap_cons, List.append_assoc, readString_escapeChar (by simp),
      ih (Nat.lt_of_succ_lt_succ enough), List.reverse_cons, List.append_assoc,
      List.singleton_append]

lemma toList_writeString {s : String} :
    (writeString s).toList = '"' :: (s.toList.flatMap escapeChar ++ ['"']) :=
  String.toList_ofList

/-- No character is written by nothing. -/
lemma length_le_flatMap : chars.length ≤ (chars.flatMap escapeChar).length := by
  induction chars with
  | nil => exact Nat.le_refl _
  | cons c rest ih =>
    have written : 0 < (escapeChar c).length := by
      unfold escapeChar
      dsimp only
      repeat' split
      all_goals simp
    rw [List.flatMap_cons, List.length_append, List.length_cons]
    omega

/-- A text is read as it was behind its opening quote. -/
lemma readString_toList {s : String} {rest : List Char}
    (shape : '"' :: rest = (writeString s).toList ++ more) :
    readString opening (rest.length + 1) [] rest = .ok (s, more) := by
  rw [toList_writeString, List.cons_append, List.append_assoc, List.singleton_append,
    List.cons.injEq] at shape
  obtain ⟨-, rfl⟩ := shape
  have short : s.toList.length < (s.toList.flatMap escapeChar ++ '"' :: more).length + 1 := by
    have written : s.toList.length ≤ (s.toList.flatMap escapeChar).length := length_le_flatMap
    rw [List.length_append]
    omega
  rw [readString_flatMap short, List.reverse_nil, List.nil_append, String.ofList_toList]

/-! ### Blanks -/

/-- The blanks in front of a part at a level. -/
def indentation (level : Nat) : List Char := ("".pushn ' ' (2 * level)).toList

lemma isBlank_of_mem_indentation (member : c ∈ indentation level) : isBlank c = true := by
  have all : ∀ n, ∀ c ∈ ("".pushn ' ' n).toList, isBlank c = true := by
    intro n
    induction n with
    | zero => nofun
    | succ n ih =>
      intro c member
      rw [String.pushn, Nat.repeat, String.toList_push, List.mem_append, List.mem_singleton]
        at member
      obtain member | rfl := member
      · exact ih c member
      · rfl
  exact all _ c member

/-- A new line and the indentation behind it are skipped. -/
lemma skipBlanks_newline :
    skipBlanks ('\n' :: (indentation level ++ chars)) = skipBlanks chars := by
  rw [skipBlanks, List.dropWhile_cons_of_pos rfl,
    List.dropWhile_append_of_pos fun _ => isBlank_of_mem_indentation]
  rfl

/-- A text starts as the text of a value does. -/
def Opens (chars : List Char) : Prop :=
  ∃ c rest, chars = c :: rest ∧ c ∈ ['"', 't', 'f', '[', '\x7b']

lemma Opens.skipBlanks_eq (opens : Opens chars) : skipBlanks chars = chars := by
  have none : ∀ c ∈ ['"', 't', 'f', '[', '\x7b'], isBlank c = false := by simp [isBlank]
  obtain ⟨c, rest, rfl, known⟩ := opens
  rw [skipBlanks, List.dropWhile_cons_of_neg (by rw [none c known]; decide)]

/-- An array that does not end at once has a first item. -/
lemma readValue_bracket (first : skipBlanks chars = more) (opens : Opens more) :
    readValue (fuel + 1) ('[' :: chars) = readItems fuel [] more := by
  obtain ⟨c, rest, rfl, known⟩ := opens
  rw [readValue, first]
  split
  next closed =>
    cases closed
    exact absurd known (by decide)
  next => rfl

/-- An object that does not end at once has a first member. -/
lemma readValue_brace (first : skipBlanks chars = more) (opens : Opens more) :
    readValue (fuel + 1) ('\x7b' :: chars) = readMembers fuel [] more := by
  obtain ⟨c, rest, rfl, known⟩ := opens
  rw [readValue, first]
  split
  next closed =>
    cases closed
    exact absurd known (by decide)
  next => rfl

/-! ### Collections -/

/-- What follows the first part of a collection: the other parts, each behind a comma and on a line
of its own, and the closing bracket. -/
def following (level : Nat) (closing : Char) (parts : List String) : List Char :=
  parts.flatMap (fun part => ',' :: '\n' :: (indentation (level + 1) ++ part.toList)) ++
    '\n' :: (indentation level ++ [closing])

variable {part : String} {parts : List String} {closing : Char}

lemma skipBlanks_following_nil (visible : isBlank closing = false) :
    skipBlanks (following level closing [] ++ more) = closing :: more := by
  rw [following, List.flatMap_nil, List.nil_append, List.cons_append, List.append_assoc,
    skipBlanks_newline, List.singleton_append, skipBlanks,
    List.dropWhile_cons_of_neg (by rw [visible]; decide)]

lemma following_cons :
    following level closing (part :: parts) ++ more =
      ',' :: '\n' :: (indentation (level + 1) ++
        (part.toList ++ (following level closing parts ++ more))) := by
  simp only [following, List.flatMap_cons, List.cons_append, List.append_assoc]

lemma toList_intercalate_cons :
    (",\n".intercalate ((part :: parts).map ("".pushn ' ' (2 * (level + 1)) ++ ·))).toList =
      indentation (level + 1) ++ (part.toList ++
        parts.flatMap fun part => ',' :: '\n' :: (indentation (level + 1) ++ part.toList)) := by
  induction parts generalizing part with
  | nil =>
    rw [List.map_singleton, String.intercalate_singleton, String.toList_append, List.flatMap_nil,
      List.append_nil]
    rfl
  | cons next rest ih =>
    rw [List.map_cons, List.map_cons, String.intercalate_cons_cons, ← List.map_cons,
      String.toList_append, ih, String.toList_append, String.toList_append, List.append_assoc,
      List.append_assoc, List.flatMap_cons, List.cons_append, List.cons_append, List.append_assoc]
    rfl

lemma toList_block_nil {opening closing : String} :
    (block level opening closing []).toList = opening.toList ++ closing.toList :=
  String.toList_append

/-- A collection with parts has the first of them on the line behind its opening bracket. -/
lemma toList_block_cons {opening closing : String} (first last : Char)
    (opened : opening.toList = [first]) (closed : closing.toList = [last]) :
    (block level opening closing (part :: parts)).toList ++ more =
      first :: '\n' :: (indentation (level + 1) ++
        (part.toList ++ (following level last parts ++ more))) := by
  have newline : "\n".toList = ['\n'] := rfl
  unfold block
  dsimp only
  rw [if_neg (by simp)]
  simp only [String.toList_append, toList_intercalate_cons, opened, closed, newline, following,
    indentation, List.append_assoc, List.cons_append, List.nil_append]

lemma opens_block {opening closing : String} (first : Char)
    (known : first ∈ ['"', 't', 'f', '[', '\x7b']) (opened : opening.toList = [first]) :
    Opens ((block level opening closing parts).toList ++ more) := by
  unfold block
  dsimp only
  split
  · rw [String.toList_append, opened]
    exact ⟨first, _, rfl, known⟩
  · simp only [String.toList_append, opened, List.append_assoc]
    exact ⟨first, _, rfl, known⟩

lemma toList_memberText {member : String × Value} :
    (memberText level member).toList ++ more =
      (writeString member.1).toList ++
        ':' :: ' ' :: ((writeBlock level member.2).toList ++ more) := by
  have colon : ": ".toList = [':', ' '] := rfl
  simp only [memberText, String.toList_append, colon, List.append_assoc, List.cons_append,
    List.nil_append]

lemma opens_memberText (level : Nat) (member : String × Value) (more : List Char) :
    Opens ((memberText level member).toList ++ more) := by
  rw [toList_memberText, toList_writeString]
  exact ⟨'"', _, rfl, by decide⟩

/-! ### Values -/

lemma toList_writeBlock_bool {b : Bool} :
    (writeBlock level (.bool b)).toList =
      if b then ['t', 'r', 'u', 'e'] else ['f', 'a', 'l', 's', 'e'] := by
  have yes : "true".toList = ['t', 'r', 'u', 'e'] := rfl
  have no : "false".toList = ['f', 'a', 'l', 's', 'e'] := rfl
  cases b with
  | false => exact no
  | true => exact yes

lemma Legible.opens {v : Value} (legible : Legible v) (level : Nat) (more : List Char) :
    Opens ((writeBlock level v).toList ++ more) := by
  cases legible with
  | @str s =>
    show Opens ((writeString s).toList ++ more)
    rw [toList_writeString]
    exact ⟨'"', _, rfl, by decide⟩
  | @bool b =>
    rw [toList_writeBlock_bool]
    cases b with
    | false => exact ⟨'f', _, rfl, by decide⟩
    | true => exact ⟨'t', _, rfl, by decide⟩
  | list => exact opens_block '[' (by decide) rfl
  | object => exact opens_block '\x7b' (by decide) rfl

/-- A value is read back wherever it is written. -/
def ReadsBack (v : Value) : Prop :=
  ∀ {level fuel : Nat} {more : List Char},
    ((writeBlock level v).toList ++ more).length ≤ fuel →
      readValue fuel ((writeBlock level v).toList ++ more) = .ok (v, more)

lemma readItems_following {item : Value} {items before : List Value}
    (h : ∀ x ∈ item :: items, Legible x ∧ ReadsBack x)
    (enough : ((writeBlock (level + 1) item).toList ++
      (following level ']' (items.map (writeBlock (level + 1))) ++ more)).length < fuel) :
    readItems fuel before ((writeBlock (level + 1) item).toList ++
      (following level ']' (items.map (writeBlock (level + 1))) ++ more)) =
        .ok (.list (before.reverse ++ item :: items), more) := by
  -- By induction on the items behind the first: reading one of them costs one unit of fuel, and it
  -- has at least a comma behind it.
  induction items generalizing item before fuel with
  | nil =>
    obtain ⟨fuel, rfl⟩ := Nat.exists_eq_add_one.2 (Nat.zero_lt_of_lt enough)
    have first := (h item List.mem_cons_self).2 (Nat.le_of_lt_succ enough)
    unfold readItems
    rw [first, List.map_nil]
    dsimp only [bind, Except.bind]
    rw [skipBlanks_following_nil rfl, List.reverse_cons]
    rfl
  | cons next rest ih =>
    obtain ⟨fuel, rfl⟩ := Nat.exists_eq_add_one.2 (Nat.zero_lt_of_lt enough)
    have first := (h item List.mem_cons_self).2 (Nat.le_of_lt_succ enough)
    have others : ∀ x ∈ next :: rest, Legible x ∧ ReadsBack x :=
      fun x member => h x (List.mem_cons_of_mem _ member)
    have opens := (others next List.mem_cons_self).1.opens (level + 1)
      (following level ']' (rest.map (writeBlock (level + 1))) ++ more)
    rw [List.map_cons, following_cons] at enough first ⊢
    simp only [List.length_append, List.length_cons] at enough
    unfold readItems
    rw [first]
    dsimp only [bind, Except.bind]
    rw [skipBlanks, List.dropWhile_cons_of_neg (by decide)]
    show readItems fuel (item :: before) (skipBlanks ('\n' :: (indentation (level + 1) ++ _))) = _
    rw [skipBlanks_newline, opens.skipBlanks_eq, ih others, List.reverse_cons, List.append_assoc]
    · rfl
    · simp only [List.length_append]
      omega

/-- A member is read, and its object ends or goes on. -/
lemma readMembers_memberText {member : String × Value} {before : Mapping} {tail : List Char}
    (legible : Legible member.2) (back : ReadsBack member.2)
    (enough : ((memberText level member).toList ++ tail).length ≤ fuel) :
    (skipBlanks tail = '\x7d' :: more →
      readMembers (fuel + 1) before ((memberText level member).toList ++ tail) =
        .ok (.map (before.set (.str member.1) member.2), more)) ∧
    (skipBlanks tail = ',' :: more →
      readMembers (fuel + 1) before ((memberText level member).toList ++ tail) =
        readMembers fuel (before.set (.str member.1) member.2) (skipBlanks more)) := by
  have opens := legible.opens level tail
  have colon : skipBlanks (':' :: ' ' :: ((writeBlock level member.2).toList ++ tail)) =
      ':' :: ' ' :: ((writeBlock level member.2).toList ++ tail) := rfl
  have blank : skipBlanks (' ' :: ((writeBlock level member.2).toList ++ tail)) =
      (writeBlock level member.2).toList ++ tail := opens.skipBlanks_eq
  have valued : readValue fuel ((writeBlock level member.2).toList ++ tail) =
      .ok (member.2, tail) := by
    apply back
    rw [toList_memberText, List.length_append, List.length_cons, List.length_cons] at enough
    omega
  rw [toList_memberText]
  obtain ⟨rest, shape⟩ : ∃ rest, '"' :: rest = (writeString member.1).toList ++
      ':' :: ' ' :: ((writeBlock level member.2).toList ++ tail) := by
    rw [toList_writeString]
    exact ⟨_, rfl⟩
  rw [← shape, readMembers, readString_toList shape]
  dsimp only [bind, Except.bind]
  rw [colon]
  split
  next separated =>
    cases separated
    rw [blank, valued]
    dsimp only
    constructor
    · intro last
      rw [last]
      rfl
    · intro further
      rw [further]
      rfl
  next other => exact absurd rfl (other _)

/-- A member of a new name is set behind all others. -/
lemma set_of_nodup {member : String × Value} {members before : List (String × Value)}
    (distinct : ((before ++ member :: members).map (·.1)).Nodup) :
    Mapping.set (before.map fun member => (.str member.1, member.2)) (.str member.1) member.2 =
      (before ++ [member]).map fun member => (.str member.1, member.2) := by
  rw [List.map_append, List.map_cons, List.nodup_append] at distinct
  rw [List.map_append]
  apply Mapping.set_of_absent
  intro entry among same
  obtain ⟨other, inside, rfl⟩ := List.mem_map.1 among
  exact distinct.2.2 _ (List.mem_map_of_mem inside) _ List.mem_cons_self (Scalar.str.inj same)

lemma readMembers_following {member : String × Value} {members : List (String × Value)}
    (before : List (String × Value))
    (distinct : ((before ++ member :: members).map (·.1)).Nodup)
    (h : ∀ x ∈ member :: members, Legible x.2 ∧ ReadsBack x.2)
    (enough : ((memberText (level + 1) member).toList ++
      (following level '\x7d' (members.map (memberText (level + 1))) ++ more)).length < fuel) :
    readMembers fuel (before.map fun member => (.str member.1, member.2))
      ((memberText (level + 1) member).toList ++
        (following level '\x7d' (members.map (memberText (level + 1))) ++ more)) =
          .ok (object (before ++ member :: members), more) := by
  induction members generalizing member before fuel with
  | nil =>
    obtain ⟨fuel, rfl⟩ := Nat.exists_eq_add_one.2 (Nat.zero_lt_of_lt enough)
    obtain ⟨legible, back⟩ := h member List.mem_cons_self
    rw [(readMembers_memberText legible back (Nat.le_of_lt_succ enough)).1
      (skipBlanks_following_nil rfl), set_of_nodup distinct]
    rfl
  | cons next rest ih =>
    obtain ⟨fuel, rfl⟩ := Nat.exists_eq_add_one.2 (Nat.zero_lt_of_lt enough)
    obtain ⟨legible, back⟩ := h member List.mem_cons_self
    have comma : skipBlanks (following level '\x7d'
        ((next :: rest).map (memberText (level + 1))) ++ more) = _ :=
      (congrArg skipBlanks following_cons).trans (List.dropWhile_cons_of_neg (by decide))
    have opens := opens_memberText (level + 1) next
      (following level '\x7d' (rest.map (memberText (level + 1))) ++ more)
    rw [(readMembers_memberText legible back (Nat.le_of_lt_succ enough)).2 comma,
      set_of_nodup distinct, skipBlanks_newline, opens.skipBlanks_eq]
    rw [List.append_cons before member (next :: rest)] at distinct ⊢
    refine ih _ distinct (fun x among => h x (List.mem_cons_of_mem _ among)) ?_
    rw [List.map_cons, following_cons] at enough
    simp only [List.length_append, List.length_cons] at enough ⊢
    omega

lemma Legible.readsBack {v : Value} (legible : Legible v) : ReadsBack v := by
  induction legible with
  | @str s =>
    intro level fuel more enough
    show readValue fuel ((writeString s).toList ++ more) = _
    obtain ⟨rest, shape⟩ : ∃ rest, '"' :: rest = (writeString s).toList ++ more := by
      rw [toList_writeString]
      exact ⟨_, rfl⟩
    have long : ('"' :: rest).length ≤ fuel := by
      rw [shape]
      exact enough
    obtain ⟨fuel, rfl⟩ := Nat.exists_eq_add_one.2 (Nat.zero_lt_of_lt long)
    rw [← shape, readValue, readString_toList shape]
    rfl
  | @bool b =>
    intro level fuel more enough
    rw [toList_writeBlock_bool] at enough ⊢
    obtain ⟨fuel, rfl⟩ : ∃ rest, fuel = rest + 1 :=
      Nat.exists_eq_add_one.2 (by cases b <;> exact Nat.zero_lt_of_lt enough)
    cases b <;> rfl
  | @list items legible ih =>
    intro level fuel more enough
    rw [writeBlock, writeBlocks_eq_map] at enough ⊢
    cases items with
    | nil =>
      rw [List.map_nil, toList_block_nil] at enough ⊢
      obtain ⟨fuel, rfl⟩ := Nat.exists_eq_add_one.2 (Nat.zero_lt_of_lt enough)
      rfl
    | cons item rest =>
      rw [List.map_cons, toList_block_cons '[' ']' rfl rfl] at enough ⊢
      obtain ⟨fuel, rfl⟩ := Nat.exists_eq_add_one.2 (Nat.zero_lt_of_lt enough)
      have opens := (legible item List.mem_cons_self).opens (level + 1)
        (following level ']' (rest.map (writeBlock (level + 1))) ++ more)
      rw [readValue_bracket (skipBlanks_newline.trans opens.skipBlanks_eq) opens]
      refine readItems_following (fun x among => ⟨legible x among, ih x among⟩) ?_
      simp only [List.length_append, List.length_cons] at enough ⊢
      omega
  | @object members distinct legible ih =>
    intro level fuel more enough
    rw [writeBlock_object] at enough ⊢
    cases members with
    | nil =>
      rw [List.map_nil, toList_block_nil] at enough ⊢
      obtain ⟨fuel, rfl⟩ := Nat.exists_eq_add_one.2 (Nat.zero_lt_of_lt enough)
      rfl
    | cons member rest =>
      rw [List.map_cons, toList_block_cons '\x7b' '\x7d' rfl rfl] at enough ⊢
      obtain ⟨fuel, rfl⟩ := Nat.exists_eq_add_one.2 (Nat.zero_lt_of_lt enough)
      have opens := opens_memberText (level + 1) member
        (following level '\x7d' (rest.map (memberText (level + 1))) ++ more)
      rw [readValue_brace (skipBlanks_newline.trans opens.skipBlanks_eq) opens]
      refine readMembers_following [] distinct (fun x among => ⟨legible x among, ih x among⟩) ?_
      simp only [List.length_append, List.length_cons] at enough ⊢
      omega

/-- A value made of texts and truth values is read as it was written. -/
theorem read_writeIndented {v : Value} (legible : Legible v) :
    Json.read (writeIndented v) = .ok v := by
  have opens := legible.opens 0 []
  have whole : readValue (2 * (writeIndented v).toList.length + 2)
      ((writeIndented v).toList ++ []) = .ok (v, []) := by
    apply legible.readsBack
    rw [List.append_nil]
    show (writeIndented v).toList.length ≤ _
    omega
  rw [List.append_nil] at opens whole
  have blank : skipBlanks (writeIndented v).toList = (writeIndented v).toList :=
    opens.skipBlanks_eq
  obtain ⟨c, rest, shape, known⟩ := opens
  unfold Json.read
  dsimp only
  rw [blank, whole]
  split
  next marked =>
    cases shape.symm.trans marked
    exact absurd known (by decide)
  next => rfl

end Json

end BusinessModel
