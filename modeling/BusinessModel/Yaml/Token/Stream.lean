import BusinessModel.Yaml.Token.Scalar

/-!
# Token streams

A text is cut into tokens from left to right.  Two things are only known later than they matter.
The blocks that end at a line are known from its indentation.  And whether a node is the key of a
mapping is known only at the colon behind it: the place of a possible key is remembered, one for
every open collection, and its tokens are put in front of it when the colon comes.  A possible key
must end on its line and within 1024 characters.

Whoever reads the tokens in order can take a token as soon as no key can come to stand before it.  A
fault is met when the token is asked for that cannot be given without reading on, so the tokens
behind that point are not part of the stream.

* `Lexer.tokens` — the tokens of a text
-/

namespace BusinessModel.Yaml

/-- The place of a possible key: how many tokens stand in front of it, and whether the block needs a
key there. -/
structure PossibleKey where
  before : Nat
  required : Bool
  mark : Mark
  deriving DecidableEq, Repr

/-- The state between two tokens. -/
structure Lexer where
  cursor : Cursor
  /-- The tokens read so far, last first. -/
  read : List Token
  /-- How many they are. -/
  count : Nat
  /-- The columns of the open blocks, innermost first. -/
  blocks : List Nat
  /-- Whether a key may begin here. -/
  keyAllowed : Bool
  /-- The possible key of the innermost collection. -/
  possible : Option PossibleKey
  /-- The possible keys of the collections around it, innermost first: one for every flow collection
  that is open. -/
  enclosing : List (Option PossibleKey)
  done : Bool

namespace Lexer

/-- The state at the beginning of a text.  A byte order mark there is no part of it. -/
def ofText (s : String) : Lexer :=
  let c := Cursor.ofText s
  ⟨if c.peek = some '\ufeff' then c.next else c, [], 0, [], true, none, [], false⟩

def inFlow (s : Lexer) : Bool := !s.enclosing.isEmpty

/-- The column of the innermost block, one less than none for the document. -/
def indent (s : Lexer) : Int :=
  match s.blocks with
  | [] => -1
  | column :: _ => column

def mark (s : Lexer) : Mark := s.cursor.mark

/-- A token of a single place, where a block begins or ends. -/
def emitAt (s : Lexer) (word : Word) : Lexer :=
  { s with read := ⟨word, s.mark, s.mark⟩ :: s.read, count := s.count + 1 }

/-- A mark of some characters. -/
def emitMark (s : Lexer) (word : Word) (length : Nat) : Lexer :=
  let c := s.cursor.skip length
  { s with read := ⟨word, s.mark, c.mark⟩ :: s.read, count := s.count + 1, cursor := c }

/-- A token that has been read already. -/
def emit (s : Lexer) (token : Token × Cursor) : Lexer :=
  { s with read := token.1 :: s.read, count := s.count + 1, cursor := token.2 }

/-- A token of a single place, put in behind the first `before` tokens. -/
def insertAt (s : Lexer) (before : Nat) (token : Token) : Lexer :=
  let later := s.count - before
  { s with read := s.read.take later ++ token :: s.read.drop later, count := s.count + 1 }

/-! ### Possible keys -/

/-- Whether a possible key has been left behind. -/
def isStale (m : Mark) (key : PossibleKey) : Bool :=
  key.mark.line != m.line || key.mark.index + 1024 < m.index

/-- Forget a possible key; one that the block needs must not be forgotten. -/
def forget (m : Mark) : Option PossibleKey → Except Fault (Option PossibleKey)
  | some key => if key.required then .error ⟨.noColon, some m⟩ else .ok none
  | none => .ok none

/-- Forget the possible keys that have been left behind. -/
def dropStale (s : Lexer) : Except Fault Lexer := do
  let refresh (key : Option PossibleKey) : Except Fault (Option PossibleKey) :=
    if key.any (isStale s.mark) then forget s.mark key else .ok key
  return { s with
    possible := ← refresh s.possible
    enclosing := ← s.enclosing.mapM refresh }

/-- Forget the possible key of the innermost collection. -/
def forgetKey (s : Lexer) : Except Fault Lexer := do
  return { s with possible := ← forget s.mark s.possible }

/-- Remember that a key may begin here. -/
def saveKey (s : Lexer) : Except Fault Lexer := do
  if s.keyAllowed then
    let s ← s.forgetKey
    let required := !s.inFlow && s.indent == s.cursor.column
    return { s with possible := some ⟨s.count, required, s.mark⟩ }
  else return s

def allowKey (s : Lexer) (allowed : Bool) : Lexer :=
  { s with keyAllowed := allowed }

/-- The number of tokens that can be taken before the text has to be read further. -/
def settled (s : Lexer) : Nat :=
  (s.possible :: s.enclosing).foldl
    (fun n key => key.elim n fun key => min n key.before) s.count

/-! ### Blocks -/

/-- Close the blocks that are indented deeper than a column. -/
def closeTo (column : Int) : List Nat → Lexer → Lexer
  | [], s => { s with blocks := [] }
  | block :: outer, s =>
    if column < block then closeTo column outer (s.emitAt .blockEnd)
    else { s with blocks := block :: outer }

/-- Close the blocks that are indented deeper than a column; inside brackets nothing closes. -/
def unwind (column : Int) (s : Lexer) : Lexer :=
  if s.inFlow then s else closeTo column s.blocks s

/-- Open a block at a column that is deeper than the innermost one. -/
def openBlock (s : Lexer) (word : Word) : Lexer :=
  if s.indent < s.cursor.column then
    { s.emitAt word with blocks := s.cursor.column :: s.blocks }
  else s

/-! ### Single tokens -/

/-- Over spaces, comments and line ends.  Outside brackets a new line may begin with a key. -/
def skipToToken : Nat → Lexer → Lexer
  | 0, s => s
  | fuel + 1, s =>
    let c := s.cursor.skipSpaces.skipComment
    match c.lineBreak? with
    | some (_, c) =>
      skipToToken fuel { s with cursor := c, keyAllowed := s.keyAllowed || !s.inFlow }
    | none => { s with cursor := c }

/-- The end of the text. -/
def readEnd (s : Lexer) : Except Fault Lexer := do
  let s ← (s.unwind (-1)).forgetKey
  return { (s.allowKey false).emitAt .streamEnd with
    possible := none, enclosing := s.enclosing.map fun _ => none, done := true }

/-- A line that begins or ends a document. -/
def readSeparator (word : Word) (s : Lexer) : Except Fault Lexer := do
  let s ← (s.unwind (-1)).forgetKey
  return (s.allowKey false).emitMark word 3

def readDirective (s : Lexer) : Except Failure Lexer := do
  let s ← (s.unwind (-1)).forgetKey.mapError .malformed
  return (s.allowKey false).emit (← Token.readDirective s.cursor)

/-- An opening bracket, which may begin a key. -/
def readOpening (word : Word) (s : Lexer) : Except Fault Lexer := do
  let s ← s.saveKey
  return { (s.allowKey true).emitMark word 1 with
    possible := none, enclosing := s.possible :: s.enclosing }

/-- A closing bracket.  One that closes nothing stays on the level of blocks. -/
def readClosing (word : Word) (s : Lexer) : Except Fault Lexer := do
  let s ← s.forgetKey
  return { (s.allowKey false).emitMark word 1 with
    possible := (s.enclosing.headD none), enclosing := s.enclosing.tail }

def readFlowEntry (s : Lexer) : Except Fault Lexer := do
  let s ← (s.allowKey true).forgetKey
  return s.emitMark .flowEntry 1

/-- The dash of a sequence, which may open it. -/
def readBlockEntry (s : Lexer) : Except Fault Lexer := do
  if !s.inFlow && !s.keyAllowed then s.cursor.refuse .misplacedEntry
  else
    let s := if s.inFlow then s else s.openBlock .blockSequenceStart
    let s ← (s.allowKey true).forgetKey
    return s.emitMark .blockEntry 1

/-- The question mark in front of a key, which may open the mapping. -/
def readKey (s : Lexer) : Except Fault Lexer := do
  if !s.inFlow && !s.keyAllowed then s.cursor.refuse .misplacedKey
  else
    let s := if s.inFlow then s else s.openBlock .blockMappingStart
    let s ← (s.allowKey !s.inFlow).forgetKey
    return s.emitMark .key 1

/-- The colon behind a key.  If the key could begin further back, it does, and may open the mapping
there. -/
def readValue (s : Lexer) : Except Fault Lexer := do
  match s.possible with
  | some key =>
    let opens := !s.inFlow && s.indent < key.mark.column
    let s := s.insertAt key.before ⟨.key, key.mark, key.mark⟩
    let s :=
      if opens then
        { s.insertAt key.before ⟨.blockMappingStart, key.mark, key.mark⟩ with
          blocks := key.mark.column :: s.blocks }
      else s
    return ({ s with possible := none }.allowKey false).emitMark .value 1
  | none =>
    if !s.inFlow && !s.keyAllowed then s.cursor.refuse .misplacedValue
    else
      let s := if s.inFlow then s else s.openBlock .blockMappingStart
      let s ← (s.allowKey !s.inFlow).forgetKey
      return s.emitMark .value 1

/-- A token that may begin a key and lets none begin behind it. -/
def readNodePart {ε : Type} (lift : Fault → ε) (read : Cursor → Except ε (Token × Cursor))
    (s : Lexer) : Except ε Lexer := do
  let s ← s.saveKey.mapError lift
  return (s.allowKey false).emit (← read s.cursor)

/-- A block scalar; a key may follow it. -/
def readBlock (folded : Bool) (s : Lexer) : Except Fault Lexer := do
  let s ← (s.allowKey true).forgetKey
  return s.emit (← Token.readBlock folded s.indent s.cursor)

/-- A plain scalar, which may be a key; behind a line end another key may follow it. -/
def readPlain (s : Lexer) : Except Fault Lexer := do
  let s ← s.saveKey
  let (token, brokeLine, c) := Token.readPlain s.inFlow s.indent s.cursor
  return (s.allowKey brokeLine).emit (token, c)

/-- Whether plain text may begin here. -/
def atPlain (inFlow : Bool) (c : Cursor) : Bool :=
  match c.peek with
  | none => false
  | some ch =>
    (!isGap (some ch) && !"-?:,[]\x7b\x7d#&*!|>'\"%@`".toList.contains ch) ||
      (!isGap (c.peekAt 1) && (ch == '-' || (!inFlow && (ch == '?' || ch == ':'))))

/-- The next token of a text. -/
def readToken (s : Lexer) : Except Failure Lexer := do
  let plainly (result : Except Fault Lexer) : Except Failure Lexer := result.mapError .malformed
  let s ← plainly (s.skipToToken s.cursor.size.succ).dropStale
  let c := s.cursor
  let s := s.unwind c.column
  let lineStart := c.column == 0
  let gapFollows := isGap (c.peekAt 1)
  match c.peek with
  | none => plainly s.readEnd
  | some ch =>
    if ch = '%' ∧ lineStart then s.readDirective
    else if lineStart && c.atTriple '-' then plainly (s.readSeparator .documentStart)
    else if lineStart && c.atTriple '.' then plainly (s.readSeparator .documentEnd)
    else if ch = '[' then plainly (s.readOpening .flowSequenceStart)
    else if ch = '\x7b' then plainly (s.readOpening .flowMappingStart)
    else if ch = ']' then plainly (s.readClosing .flowSequenceEnd)
    else if ch = '\x7d' then plainly (s.readClosing .flowMappingEnd)
    else if ch = ',' then plainly s.readFlowEntry
    else if ch = '-' ∧ gapFollows then plainly s.readBlockEntry
    else if ch = '?' ∧ (s.inFlow ∨ gapFollows) then plainly s.readKey
    else if ch = ':' ∧ (s.inFlow ∨ gapFollows) then plainly s.readValue
    else if ch = '*' then plainly (s.readNodePart id (Token.readAnchor .reference))
    else if ch = '&' then plainly (s.readNodePart id (Token.readAnchor .anchor))
    else if ch = '!' then plainly (s.readNodePart id Token.readTag)
    else if ch = '|' ∧ !s.inFlow then plainly (s.readBlock false)
    else if ch = '>' ∧ !s.inFlow then plainly (s.readBlock true)
    else if ch = '\'' then s.readNodePart .malformed (Token.readQuoted false)
    else if ch = '"' then s.readNodePart .malformed (Token.readQuoted true)
    else if atPlain s.inFlow c then plainly s.readPlain
    else plainly (c.refuse (.noToken c.peek))

/-- All tokens from a state on, or those that can be taken before a fault is met. -/
def readAll : Nat → Lexer → List Token × Option Failure
  | 0, s => (s.read.reverse, none)
  | fuel + 1, s =>
    if s.done then (s.read.reverse, none)
    else
      let next := do (← s.readToken).dropStale.mapError .malformed
      match next with
      | .ok s' => readAll fuel s'
      | .error fault => (s.read.reverse.take s.settled, some fault)

/-- The tokens of a text, and the fault that ends them if they do not reach its end. -/
def tokens (text : String) : List Token × Option Failure :=
  let s := ofText text
  readAll (s.cursor.size + 2) s

end Lexer

end BusinessModel.Yaml
