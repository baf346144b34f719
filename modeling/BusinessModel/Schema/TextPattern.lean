import BusinessModel.Text.Pattern

/-!
# Text patterns

A text pattern is a regular expression together with the text that it was written as.  It is found
in a text when some part of the text matches; an expression that is anchored at the end also ends
before one final line feed.

* `TextPattern.ofIds` — the pattern of identifiers that start with one of some tokens
* `TextPattern.parse?` — the pattern of a written expression: characters, classes, groups,
  alternatives, repetitions, and anchors at the two ends
-/

namespace BusinessModel

/-- A regular expression and its written form. -/
structure TextPattern where
  source : String
  /-- What a whole text looks like in which the expression is found. -/
  language : Pattern
  /-- Whether the expression ends with an anchor. -/
  anchoredEnd : Bool
  deriving DecidableEq, Repr, Inhabited

namespace TextPattern

/-- Whether the expression is found in a text. -/
def foundIn (p : TextPattern) (s : String) : Bool :=
  if p.anchoredEnd then p.language.matchesLine s.toList else p.language.matchesAll s.toList

/-- The characters behind the dash of an identifier. -/
def idChar : Pattern :=
  .charIn [('a', 'z'), ('0', '9'), ('-', '-')] false

/-- Identifiers that start with one of some tokens. -/
def ofIds (tokens : List String) : TextPattern where
  source :=
    let head := match tokens with
      | [token] => token
      | tokens => "(" ++ "|".intercalate tokens ++ ")"
    "^" ++ head ++ "-[a-z0-9-]+$"
  language := .all [.words tokens, .char '-', .plus idChar]
  anchoredEnd := true

/-! ### Written expressions -/

/-- A class named by a letter behind a backslash: its ranges, and whether it is a complement. -/
def namedClass? : Char → Option (List (Char × Char) × Bool)
  | 'd' => some ([('0', '9')], false)
  | 'D' => some ([('0', '9')], true)
  | 'w' => some ([('a', 'z'), ('A', 'Z'), ('0', '9'), ('_', '_')], false)
  | 'W' => some ([('a', 'z'), ('A', 'Z'), ('0', '9'), ('_', '_')], true)
  | 's' => some ([(' ', ' '), ('\t', '\r')], false)
  | 'S' => some ([(' ', ' '), ('\t', '\r')], true)
  | _ => none

/-- The character that an escape stands for. -/
def escapedChar? (c : Char) : Option Char :=
  if c = 'n' then some '\n' else if c = 't' then some '\t' else if c = 'r' then some '\r'
  else if c.isAlphanum then none else some c

/-- One character of a class, possibly escaped. -/
def classChar? : List Char → Option (Char × List Char)
  | '\\' :: c :: rest => (escapedChar? c).map (·, rest)
  | c :: rest => some (c, rest)
  | [] => none

/-- The ranges of a class up to its closing bracket.  A bracket in first place stands for itself. -/
def classRanges? :
    Nat → Bool → List (Char × Char) → List Char → Option (List (Char × Char) × List Char)
  | 0, _, _, _ => none
  | fuel + 1, first, ranges, s =>
    match s with
    | ']' :: rest => if first then classRanges? fuel false ((']', ']') :: ranges) rest
      else some (ranges, rest)
    | '\\' :: c :: rest =>
      match namedClass? c with
      | some (named, false) => classRanges? fuel false (named ++ ranges) rest
      | some (_, true) => none
      | none => do
        let c ← escapedChar? c
        classRanges? fuel false ((c, c) :: ranges) rest
    | low :: '-' :: high :: rest =>
      if high = ']' then classRanges? fuel false ((low, low) :: ranges) ('-' :: ']' :: rest)
      else do
        let (high, rest) ← classChar? (high :: rest)
        if low ≤ high then classRanges? fuel false ((low, high) :: ranges) rest else none
    | c :: rest => classRanges? fuel false ((c, c) :: ranges) rest
    | [] => none

/-- The repetition behind an atom. -/
def repeated (p : Pattern) : List Char → Pattern × List Char
  | '*' :: rest => (.star p, rest)
  | '+' :: rest => (.plus p, rest)
  | '?' :: rest => (.optional p, rest)
  | rest => (p, rest)

mutual

/-- Alternatives, up to a closing parenthesis or the end. -/
def alternatives? : Nat → List Char → Option (Pattern × List Char)
  | 0, _ => none
  | fuel + 1, s => do
    let (first, rest) ← sequence? fuel .empty s
    match rest with
    | '|' :: rest =>
      let (others, rest) ← alternatives? fuel rest
      return (.orElse first others, rest)
    | rest => return (first, rest)

/-- Atoms one after another, behind those already read. -/
def sequence? : Nat → Pattern → List Char → Option (Pattern × List Char)
  | 0, _, _ => none
  | fuel + 1, before, s =>
    match s with
    | [] => some (before, [])
    | ')' :: _ | '|' :: _ => some (before, s)
    | ['$'] => some (before, s)
    | _ => do
      let (atom, rest) ← atom? fuel s
      let (atom, rest) := repeated atom rest
      sequence? fuel (.andThen before atom) rest

/-- One character, class or group. -/
def atom? : Nat → List Char → Option (Pattern × List Char)
  | 0, _ => none
  | fuel + 1, s =>
    match s with
    | '(' :: '?' :: ':' :: rest | '(' :: rest => do
      let (inner, rest) ← alternatives? fuel rest
      match rest with
      | ')' :: rest => return (inner, rest)
      | _ => none
    | '[' :: '^' :: rest =>
      (classRanges? (rest.length + 1) true [] rest).map fun found => (.charIn found.1 true, found.2)
    | '[' :: rest =>
      (classRanges? (rest.length + 1) true [] rest).map fun found =>
        (.charIn found.1 false, found.2)
    | '\\' :: c :: rest =>
      match namedClass? c with
      | some (ranges, inverted) => some (.charIn ranges inverted, rest)
      | none => (escapedChar? c).map fun c => (.char c, rest)
    | '.' :: rest => some (.charIn [('\n', '\n')] true, rest)
    | c :: rest => if "*+?$^\x7b\x7d\\".contains c then none else some (.char c, rest)
    | [] => none

end

/-- The pattern of a written expression, none if it is not understood. -/
def parse? (source : String) : Option TextPattern := do
  let chars := source.toList
  let anchoredStart := chars.head? == some '^'
  let body := if anchoredStart then chars.drop 1 else chars
  let (inner, rest) ← alternatives? (3 * body.length + 3) body
  let anchoredEnd ← match rest with
    | [] => some false
    | ['$'] => some true
    | _ => none
  let before := if anchoredStart then .empty else .star .anyChar
  let after := if anchoredEnd then .empty else .star .anyChar
  return ⟨source, .all [before, inner, after], anchoredEnd⟩

end TextPattern

end BusinessModel
