import BusinessModel.Number.Digits
import BusinessModel.Yaml.Token.Property

/-!
# Scalars

The texts of scalars in their three styles.  Blocks keep their lines or fold them, quoted scalars
fold lines and may hold escapes, plain scalars end where a mark with a meaning begins.

* `Token.readBlock` — a literal or folded block
* `Token.readQuoted` — text between single or double quotes
* `Token.readPlain` — text without quotes
-/

namespace BusinessModel.Yaml.Token

/-! ### Blocks -/

/-- What happens to the line ends at the end of a block. -/
inductive Chomping where
  | clip
  | strip
  | keep
  deriving DecidableEq, Repr

def chomping? (c : Cursor) : Option Chomping :=
  match c.peek with
  | some '+' => some .keep
  | some '-' => some .strip
  | _ => none

/-- The indentation that a block header asks for; it cannot be zero. -/
def readIndent (c : Cursor) : Except Fault (Option Nat × Cursor) :=
  match c.peek.bind (Digits.value? 10) with
  | none => .ok (none, c)
  | some 0 => c.refuse .zeroIndent
  | some n => .ok (some n, c.next)

/-- The header of a block: chomping and indentation in either order. -/
def readBlockHeader (c : Cursor) : Except Fault (Chomping × Option Nat × Cursor) := do
  let (chomping, indent, c) ←
    match chomping? c with
    | some chomping => do
      let (indent, c) ← readIndent c.next
      pure (chomping, indent, c)
    | none => do
      let (indent, c) ← readIndent c
      match indent, chomping? c with
      | some _, some chomping => pure (chomping, indent, c.next)
      | _, _ => pure (.clip, indent, c)
  if isSpaceOrLineEnd c.peek then return (chomping, indent, c) else c.expecting .blockIndicators

/-- The line ends of empty lines, each behind at most `indent` spaces. -/
def readBreaks (indent : Nat) : Nat → List Char → Cursor → List Char × Cursor
  | 0, read, c => (read.reverse, c)
  | fuel + 1, read, c =>
    let c := c.skipIndent (indent - c.column)
    match c.lineBreak? with
    | some (ch, c) => readBreaks indent fuel (ch :: read) c
    | none => (read.reverse, c)

/-- The line ends of empty lines, and the greatest column that their spaces reach. -/
def readLeadingBreaks : Nat → List Char → Nat → Cursor → List Char × Nat × Cursor
  | 0, read, deepest, c => (read.reverse, deepest, c)
  | fuel + 1, read, deepest, c =>
    match c.lineBreak? with
    | some (ch, c) => readLeadingBreaks fuel (ch :: read) deepest c
    | none =>
      if c.peek = some ' ' then readLeadingBreaks fuel read (max deepest c.next.column) c.next
      else (read.reverse, deepest, c)

/-- The lines of a block, and the line ends behind the last of them. -/
structure BlockLines where
  text : List Char
  lastBreak : Option Char
  trailing : List Char
  stop : Cursor

/-- Whether a line of a block with this indentation begins here. -/
def atBlockLine (indent : Nat) (c : Cursor) : Bool :=
  c.column == indent && c.peek.isSome

/-- The lines of a block in front of which `breaks` stand.  A folded block joins two lines by a
space unless empty lines lie between them or one of them begins with a blank. -/
def readBlockLines (folded : Bool) (indent : Nat) : Nat → List Char → Cursor → BlockLines
  | 0, breaks, c => ⟨[], none, breaks, c⟩
  | fuel + 1, breaks, c =>
    if atBlockLine indent c then
      let line := c.run fun ch => !isBreak ch
      let behind := c.skipLine
      let lineBreak := behind.lineBreak?.map (·.1)
      let (empties, following) := readBreaks indent c.size [] behind.skipBreak
      if atBlockLine indent following then
        let fold := folded && lineBreak == some '\n' && !c.peek.any isBlank &&
          !following.peek.any isBlank
        let joint := if fold then (if empties.isEmpty then [' '] else []) else lineBreak.toList
        let more := readBlockLines folded indent fuel empties following
        { more with text := breaks ++ line ++ joint ++ more.text }
      else ⟨breaks ++ line, lineBreak, empties, following⟩
    else ⟨[], none, breaks, c⟩

/-- A block scalar inside a block with some indentation. -/
def readBlock (folded : Bool) (outer : Int) (start : Cursor) : Except Fault (Token × Cursor) := do
  let (chomping, increment, c) ← readBlockHeader start.next
  let c ← c.finishLine
  let least := (max (outer + 1) 1).toNat
  let fuel := c.size + 1
  let (indent, breaks, c) :=
    match increment with
    | some n =>
      let indent := least + n - 1
      let (breaks, c) := readBreaks indent fuel [] c
      (indent, breaks, c)
    | none =>
      let (breaks, deepest, c) := readLeadingBreaks fuel [] 0 c
      (max least deepest, breaks, c)
  let lines := readBlockLines folded indent fuel breaks c
  let ending := if chomping = .strip then [] else lines.lastBreak.toList
  let trailing := if chomping = .keep then lines.trailing else []
  let text := String.ofList (lines.text ++ ending ++ trailing)
  return (⟨.scalar text false, start.mark, lines.stop.mark⟩, lines.stop)

/-! ### Quotes -/

/-- The character of a one-letter escape. -/
def escaped? : Char → Option Char
  | '0' => some '\x00'
  | 'a' => some '\x07'
  | 'b' => some '\x08'
  | 't' | '\t' => some '\t'
  | 'n' => some '\n'
  | 'v' => some '\x0b'
  | 'f' => some '\x0c'
  | 'r' => some '\r'
  | 'e' => some '\x1b'
  | ' ' => some ' '
  | '"' => some '"'
  | '\\' => some '\\'
  | '/' => some '/'
  | 'N' => some '\x85'
  | '_' => some '\xa0'
  | 'L' => some '\u2028'
  | 'P' => some '\u2029'
  | _ => none

/-- How many hexadecimal digits the code of an escape has. -/
def codeWidth? : Char → Option Nat
  | 'x' => some 2
  | 'u' => some 4
  | 'U' => some 8
  | _ => none

/-- The character that a code escape names; the cursor stands at its first digit. -/
def readCode (width : Nat) (c : Cursor) : Except Failure (Char × Cursor) :=
  let found := (List.range width).map c.peekAt
  match found.find? fun ch => (ch.bind (Digits.value? 16)).isNone with
  | some ch => .error (.malformed ⟨.expected (.escapeDigits width) ch, some c.mark⟩)
  | none =>
    let code := (Digits.number? 16 (c.rest.take width)).getD 0
    if code < 0x110000 then
      if 0xd800 ≤ code ∧ code < 0xe000 then .error (.misfit (.halfCharacter code))
      else .ok (Char.ofNat code, c.skip width)
    else .error (.misfit (.noCharacter code))

/-- The line ends of the empty lines inside quotes. -/
def readQuotedBreaks : Nat → List Char → Cursor → Except Fault (List Char × Cursor)
  | 0, read, c => .ok (read.reverse, c)
  | fuel + 1, read, c =>
    if c.atSeparator then c.refuse .separatorInside
    else
      let c := c.skipWhile isBlank
      match c.lineBreak? with
      | some (ch, c) => readQuotedBreaks fuel (ch :: read) c
      | none => .ok (read.reverse, c)

/-- Quoted text up to the next blank, line end or closing quote, in front of the characters already
read (last first). -/
def readQuotedRun (double : Bool) :
    Nat → List Char → Cursor → Except Failure (List Char × Cursor)
  | 0, read, c => .ok (read, c)
  | fuel + 1, read, c =>
    match c.peek with
    | none => .ok (read, c)
    | some ch =>
      if isGap (some ch) then .ok (read, c)
      else if !double then
        if ch = '\'' then
          if c.peekAt 1 = some '\'' then readQuotedRun double fuel ('\'' :: read) (c.skip 2)
          else .ok (read, c)
        else readQuotedRun double fuel (ch :: read) c.next
      else if ch = '"' then .ok (read, c)
      else if ch = '\\' then
        let c := c.next
        match c.peek.bind escaped?, c.peek.bind codeWidth? with
        | some ch, _ => readQuotedRun double fuel (ch :: read) c.next
        | none, some width => do
          let (ch, c) ← readCode width c.next
          readQuotedRun double fuel (ch :: read) c
        | none, none =>
          match c.lineBreak? with
          | some (_, c) => do
            let (breaks, c) ← (readQuotedBreaks c.size.succ [] c).mapError .malformed
            readQuotedRun double fuel (breaks.reverse ++ read) c
          | none => .error (.malformed ⟨.unknownEscape c.peek, some c.mark⟩)
      else readQuotedRun double fuel (ch :: read) c.next

/-- The gap between two words of quoted text: a single line end reads as a space. -/
def readQuotedGap (c : Cursor) : Except Fault (List Char × Cursor) :=
  let blanks := c.run isBlank
  let c := c.skipWhile isBlank
  match c.lineBreak? with
  | some (ch, c) => do
    let (breaks, c) ← readQuotedBreaks c.size.succ [] c
    let joint := if ch ≠ '\n' then [ch] else if breaks.isEmpty then [' '] else []
    return (joint ++ breaks, c)
  | none => if c.peek.isNone then c.refuse .unfinished else .ok (blanks, c)

/-- Quoted text up to its closing quote, in front of the characters already read (last first). -/
def readQuotedText (double : Bool) :
    Nat → List Char → Cursor → Except Failure (List Char × Cursor)
  | 0, read, c => .ok (read.reverse, c)
  | fuel + 1, read, c => do
    let (read, c) ← readQuotedRun double c.size.succ read c
    if c.peek = some (if double then '"' else '\'') then return (read.reverse, c.next)
    else
      let (gap, c) ← (readQuotedGap c).mapError .malformed
      readQuotedText double fuel (gap.reverse ++ read) c

/-- A quoted scalar. -/
def readQuoted (double : Bool) (start : Cursor) : Except Failure (Token × Cursor) := do
  let (text, c) ← readQuotedText double start.size [] start.next
  return (⟨.scalar (String.ofList text) false, start.mark, c.mark⟩, c)

/-! ### Plain text -/

/-- Whether plain text ends before `c`, which `following` follows. -/
def endsPlain (inFlow : Bool) (c : Char) (following : Option Char) : Bool :=
  isGap (some c) ||
    (c == ':' && (isGap following || (inFlow && following.any ",[]\x7b\x7d".toList.contains))) ||
    (inFlow && ",?[]\x7b\x7d".toList.contains c)

/-- How many characters of plain text stand at the beginning of a text. -/
def plainLength (inFlow : Bool) : List Char → Nat
  | [] => 0
  | c :: rest => if endsPlain inFlow c rest.head? then 0 else plainLength inFlow rest + 1

/-- The line ends of the empty lines inside plain text; nothing if documents are separated there. -/
def readPlainBreaks : Nat → List Char → Cursor → Option (List Char) × Cursor
  | 0, read, c => (some read.reverse, c)
  | fuel + 1, read, c =>
    if c.peek = some ' ' then readPlainBreaks fuel read c.next
    else
      match c.lineBreak? with
      | some (ch, c) =>
        if c.atSeparator then (none, c) else readPlainBreaks fuel (ch :: read) c
      | none => (some read.reverse, c)

/-- What lies between two words of plain text: the gap, empty where the text must end, whether it
holds a line end, and the cursor behind it. -/
def readPlainGap (c : Cursor) : List Char × Bool × Cursor :=
  let spaces := c.run (· == ' ')
  let c := c.skipSpaces
  match c.lineBreak? with
  | none => (spaces, false, c)
  | some (ch, c) =>
    if c.atSeparator then ([], true, c)
    else
      match readPlainBreaks c.size.succ [] c with
      | (none, c) => ([], true, c)
      | (some breaks, c) =>
        let joint := if ch ≠ '\n' then [ch] else if breaks.isEmpty then [' '] else []
        (joint ++ breaks, true, c)

/-- Plain text as far as it has been read. -/
structure PlainText where
  /-- Its characters, last first. -/
  read : List Char
  /-- The place behind its last word. -/
  stop : Mark
  /-- Whether a line ends behind that word. -/
  brokeLine : Bool
  /-- The cursor behind the blanks that follow the word. -/
  cursor : Cursor

/-- The words of plain text behind `gap`, at a column not less than `indent` unless in a flow
collection. -/
def readPlainWords (inFlow : Bool) (indent : Int) : Nat → List Char → PlainText → PlainText
  | 0, _, text => text
  | fuel + 1, gap, text =>
    let c := text.cursor
    let length := plainLength inFlow c.rest
    if c.peek = some '#' ∨ length = 0 then text
    else
      let word := c.rest.take length
      let behind := c.skip length
      let (nextGap, brokeLine, after) := readPlainGap behind
      let text : PlainText :=
        ⟨word.reverse ++ (gap.reverse ++ text.read), behind.mark, brokeLine, after⟩
      if nextGap.isEmpty || after.peek == some '#' || (!inFlow && after.column < indent) then text
      else readPlainWords inFlow indent fuel nextGap text

/-- A plain scalar inside a block with some indentation, and whether a line ends behind it. -/
def readPlain (inFlow : Bool) (outer : Int) (start : Cursor) : Token × Bool × Cursor :=
  let text := readPlainWords inFlow (outer + 1) start.size.succ []
    ⟨[], start.mark, false, start⟩
  (⟨.scalar (String.ofList text.read.reverse) true, start.mark, text.stop⟩, text.brokeLine,
    text.cursor)

end BusinessModel.Yaml.Token
