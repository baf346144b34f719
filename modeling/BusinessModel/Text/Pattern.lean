/-!
# Regular expressions by derivatives

The derivative of an expression by a character describes what may follow that character, so a text
matches when the derivative by all its characters accepts the empty text.  The smart constructors
`orElse` and `andThen` drop branches that have died, which keeps derivatives small.
-/

namespace BusinessModel

/-- A regular expression over characters. -/
inductive Pattern where
  /-- Matches nothing. -/
  | fail
  /-- Matches the empty text. -/
  | empty
  /-- Matches one character out of inclusive ranges, or out of their complement. -/
  | charIn (ranges : List (Char × Char)) (inverted : Bool)
  | seq (first second : Pattern)
  | alt (left right : Pattern)
  | star (inner : Pattern)
  deriving DecidableEq, Repr, Inhabited

namespace Pattern

/-- Whether one of the ranges holds a character. -/
def holds (ranges : List (Char × Char)) (c : Char) : Bool :=
  ranges.any fun range => decide (range.1 ≤ c) && decide (c ≤ range.2)

/-- Whether the empty text matches. -/
def nullable : Pattern → Bool
  | .fail => false
  | .empty => true
  | .charIn _ _ => false
  | .seq first second => first.nullable && second.nullable
  | .alt left right => left.nullable || right.nullable
  | .star _ => true

/-- Alternation, without dead branches. -/
def orElse : Pattern → Pattern → Pattern
  | .fail, right => right
  | left, .fail => left
  | left, right => if left = right then left else .alt left right

/-- Sequence, without dead or empty parts. -/
def andThen : Pattern → Pattern → Pattern
  | .fail, _ => .fail
  | _, .fail => .fail
  | .empty, second => second
  | first, .empty => first
  | first, second => .seq first second

/-- What may follow a character. -/
def derivative (c : Char) : Pattern → Pattern
  | .fail => .fail
  | .empty => .fail
  | .charIn ranges inverted => if holds ranges c != inverted then .empty else .fail
  | .seq first second =>
    let through := andThen (first.derivative c) second
    if first.nullable then orElse through (second.derivative c) else through
  | .alt left right => orElse (left.derivative c) (right.derivative c)
  | .star inner => andThen (inner.derivative c) (.star inner)

/-- Whether a whole text matches. -/
def matchesAll : Pattern → List Char → Bool
  | p, [] => p.nullable
  | .fail, _ => false
  | p, c :: rest => (p.derivative c).matchesAll rest

/-- Whether a whole text matches, an end-of-text anchor also standing before one final line feed. -/
def matchesLine (p : Pattern) (s : List Char) : Bool :=
  p.matchesAll s || (s.getLast? == some '\n' && p.matchesAll s.dropLast)

/-- Exactly one character. -/
def char (c : Char) : Pattern := .charIn [(c, c)] false

/-- One of the listed characters. -/
def oneOf (s : String) : Pattern := .charIn (s.toList.map fun c => (c, c)) false

/-- A fixed text. -/
def text (s : String) : Pattern := s.toList.foldr (fun c p => andThen (char c) p) .empty

/-- One of several expressions. -/
def any (ps : List Pattern) : Pattern := ps.foldr orElse .fail

/-- Several expressions one after another. -/
def all (ps : List Pattern) : Pattern := ps.foldr andThen .empty

/-- One of several fixed texts. -/
def words (ss : List String) : Pattern := any (ss.map text)

/-- At most once. -/
def optional (p : Pattern) : Pattern := orElse p .empty

/-- At least once. -/
def plus (p : Pattern) : Pattern := andThen p (.star p)

/-- A fixed number of times. -/
def times : Nat → Pattern → Pattern
  | 0, _ => .empty
  | n + 1, p => andThen p (times n p)

/-- A decimal digit. -/
def digit : Pattern := .charIn [('0', '9')] false

/-- Any character at all. -/
def anyChar : Pattern := .charIn [] true

end Pattern

end BusinessModel
