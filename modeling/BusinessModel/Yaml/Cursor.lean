/-!
# Cursors

A cursor is a place in a text: the characters from there on, and how far the place is from the
beginning of the text and of its line.  Lines end at carriage returns, line feeds, next-line
characters and the two Unicode separators; a carriage return and the line feed behind it are one
line end.  Byte order marks take no column.

* `Cursor.next` — one character on
* `Cursor.skipWhile` — over a run of characters
* `Cursor.lineBreak?` — over one line end, which reads as a line feed unless it is a separator
-/

namespace BusinessModel.Yaml

/-- The distance of a place from the beginning of the text, in characters and in lines, and from the
beginning of its line. -/
structure Mark where
  index : Nat
  line : Nat
  column : Nat
  deriving DecidableEq, Repr, Inhabited

/-- A place in a text. -/
structure Cursor where
  mark : Mark
  rest : List Char
  /-- The length of the whole text. -/
  size : Nat
  deriving DecidableEq, Repr, Inhabited

/-- Whether a character ends a line. -/
def isBreak (c : Char) : Bool :=
  c == '\n' || c == '\r' || c == '\x85' || c == '\u2028' || c == '\u2029'

def isBlank (c : Char) : Bool :=
  c == ' ' || c == '\t'

/-- Whether a word ends before this character or at the end of the text. -/
def isGap : Option Char → Bool
  | none => true
  | some c => isBlank c || isBreak c

/-- Whether a line ends before this character or at the end of the text. -/
def isLineEnd : Option Char → Bool
  | none => true
  | some c => isBreak c

/-- Whether a space, a line end or the end of the text stands here; a tab is none of them. -/
def isSpaceOrLineEnd (c : Option Char) : Bool :=
  c == some ' ' || isLineEnd c

/-- A letter, digit, dash or underscore. -/
def isNameChar (c : Char) : Bool :=
  c.isAlphanum || c == '-' || c == '_'

namespace Mark

/-- The mark behind a character, given the character that follows it. -/
def after (m : Mark) (c : Char) (following : Option Char) : Mark :=
  if isBreak c && !(c == '\r' && following == some '\n') then ⟨m.index + 1, m.line + 1, 0⟩
  else if c == '\ufeff' then ⟨m.index + 1, m.line, m.column⟩
  else ⟨m.index + 1, m.line, m.column + 1⟩

end Mark

namespace Cursor

/-- The beginning of a text. -/
def ofText (s : String) : Cursor :=
  ⟨⟨0, 0, 0⟩, s.toList, s.length⟩

/-- The character at a place. -/
def peek (c : Cursor) : Option Char := c.rest.head?

/-- The character some places further on. -/
def peekAt (c : Cursor) (n : Nat) : Option Char := c.rest[n]?

def column (c : Cursor) : Nat := c.mark.column

/-- One character on. -/
def next (c : Cursor) : Cursor :=
  match c.rest with
  | [] => c
  | ch :: rest => ⟨c.mark.after ch rest.head?, rest, c.size⟩

/-- Some characters on. -/
def skip : Nat → Cursor → Cursor
  | 0, c => c
  | n + 1, c => skip n c.next

/-- What follows the run of characters with a property, and the mark there. -/
def skipRun (p : Char → Bool) (mark : Mark) : List Char → Mark × List Char
  | [] => (mark, [])
  | c :: rest => if p c then skipRun p (mark.after c rest.head?) rest else (mark, c :: rest)

/-- Behind the run of characters with a property. -/
def skipWhile (p : Char → Bool) (c : Cursor) : Cursor :=
  let (mark, rest) := skipRun p c.mark c.rest
  ⟨mark, rest, c.size⟩

/-- The run of characters with a property. -/
def run (p : Char → Bool) (c : Cursor) : List Char :=
  c.rest.takeWhile p

def skipSpaces (c : Cursor) : Cursor :=
  c.skipWhile (· == ' ')

/-- Behind the rest of the line, before its end. -/
def skipLine (c : Cursor) : Cursor :=
  c.skipWhile fun ch => !isBreak ch

/-- Behind a comment, if one begins here. -/
def skipComment (c : Cursor) : Cursor :=
  if c.peek = some '#' then c.skipLine else c

/-- Over spaces, up to a column. -/
def skipIndent : Nat → Cursor → Cursor
  | 0, c => c
  | n + 1, c => if c.peek = some ' ' then skipIndent n c.next else c

/-- The character that a line end here reads as, and the cursor behind it. -/
def lineBreak? (c : Cursor) : Option (Char × Cursor) :=
  match c.rest with
  | '\r' :: '\n' :: _ => some ('\n', c.skip 2)
  | ch :: _ =>
    if ch == '\u2028' || ch == '\u2029' then some (ch, c.next)
    else if isBreak ch then some ('\n', c.next)
    else none
  | [] => none

/-- Behind a line end, if there is one here. -/
def skipBreak (c : Cursor) : Cursor :=
  match c.lineBreak? with
  | some (_, c) => c
  | none => c

/-- Whether three equal characters stand here and a word ends behind them. -/
def atTriple (ch : Char) (c : Cursor) : Bool :=
  c.peek == some ch && c.peekAt 1 == some ch && c.peekAt 2 == some ch && isGap (c.peekAt 3)

/-- Whether a line that begins here separates documents. -/
def atSeparator (c : Cursor) : Bool :=
  c.atTriple '-' || c.atTriple '.'

end Cursor

end BusinessModel.Yaml
