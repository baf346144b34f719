import BusinessModel.Number.Digits
import BusinessModel.Yaml.Token

/-!
# Directives, anchors and tags

The tokens in front of a document or a node.  Each reader starts at the first character of its token
and answers the token with the cursor behind it.
-/

namespace BusinessModel.Yaml

/-- Over the spaces, the comment and the line end that may close a line. -/
def Cursor.finishLine (c : Cursor) : Except Fault Cursor :=
  let c := c.skipSpaces.skipComment
  if isLineEnd c.peek then .ok c.skipBreak else c.expecting .lineRest

namespace Token

/-- A name of at least one character. -/
def readName (c : Cursor) : Except Fault (String × Cursor) :=
  let name := c.run isNameChar
  if name.isEmpty then c.expecting .nameCharacter
  else .ok (String.ofList name, c.skipWhile isNameChar)

/-! ### Tags -/

/-- The characters of an address that stand for themselves. -/
def isAddressChar (c : Char) : Bool :=
  c.isAlphanum || "-;/?:@&=+$,_.!~*'()[]".toList.contains c

/-- The bytes of a run of percent escapes, in front of those already read (last first). -/
def readEscapes : Nat → List UInt8 → Cursor → Except Fault (List UInt8 × Cursor)
  | 0, read, c => .ok (read.reverse, c)
  | fuel + 1, read, c =>
    if c.peek = some '%' then
      let c := c.next
      match c.peek.bind (Digits.value? 16), (c.peekAt 1).bind (Digits.value? 16) with
      | some high, some low => readEscapes fuel (UInt8.ofNat (high * 16 + low) :: read) (c.skip 2)
      | none, _ => c.expecting .addressEscape
      | some _, none => c.refuse (.expected .addressEscape (c.peekAt 1))
    else .ok (read.reverse, c)

/-- The characters of an address, in front of those already read (last first). -/
def readAddressFrom : Nat → List Char → Cursor → Except Fault (List Char × Cursor)
  | 0, read, c => .ok (read.reverse, c)
  | fuel + 1, read, c =>
    match c.peek with
    | some '%' => do
      let (bytes, after) ← readEscapes c.size [] c
      match Utf8.decode bytes with
      | .ok s => readAddressFrom fuel (s.toList.reverse ++ read) after
      | .error fault => c.refuse (.undecodable fault)
    | some ch =>
      if isAddressChar ch then readAddressFrom fuel (ch :: read) c.next
      else .ok (read.reverse, c)
    | none => .ok (read.reverse, c)

/-- An address of at least one character. -/
def readAddress (c : Cursor) : Except Fault (String × Cursor) := do
  let (address, after) ← readAddressFrom c.size [] c
  if c.peek.any fun ch => ch == '%' || isAddressChar ch then
    return (String.ofList address, after)
  else c.expecting .address

/-- A handle: an exclamation mark, or a name between two of them. -/
def readHandle (c : Cursor) : Except Fault (String × Cursor) :=
  if c.peek ≠ some '!' then c.expecting .exclamation
  else if c.next.peek = some ' ' then .ok ("!", c.next)
  else
    let name := c.next.run isNameChar
    let behind := c.next.skipWhile isNameChar
    if behind.peek = some '!' then .ok (String.ofList ('!' :: name ++ ['!']), behind.next)
    else behind.expecting .exclamation

/-- Whether a handle and not only an exclamation mark begins a tag: another one follows in the same
word. -/
def hasHandle (c : Cursor) : Bool :=
  (c.next.run fun ch => !(ch == ' ' || isBreak ch)).contains '!'

/-- A tag: an address in angle brackets, a lone exclamation mark, or a handle with an address. -/
def readTag (start : Cursor) : Except Fault (Token × Cursor) := do
  let (words, c) ←
    if start.peekAt 1 = some '<' then do
      let (address, c) ← readAddress (start.skip 2)
      if c.peek = some '>' then pure (TagWords.mk none address, c.next)
      else c.expecting .closingAngle
    else if isGap (start.peekAt 1) then pure (TagWords.mk none "!", start.next)
    else do
      let (handle, c) ← if hasHandle start then readHandle start else pure ("!", start.next)
      let (address, c) ← readAddress c
      pure (TagWords.mk (some handle) address, c)
  if isSpaceOrLineEnd c.peek then return (⟨.tag words, start.mark, c.mark⟩, c)
  else c.expecting .space

/-! ### Anchors and aliases -/

/-- Whether an anchor may end before this character. -/
def endsAnchor (c : Option Char) : Bool :=
  isGap c || c.any "?:,]\x7d%@`".toList.contains

/-- A name behind an ampersand or a star. -/
def readAnchor (word : String → Word) (start : Cursor) : Except Fault (Token × Cursor) := do
  let (name, c) ← readName start.next
  if endsAnchor c.peek then return (⟨word name, start.mark, c.mark⟩, c)
  else c.expecting .nameCharacter

/-! ### Directives -/

/-- A number of at least one digit; like any other, it must not be too long. -/
def readNumber (c : Cursor) : Except Failure (Nat × Cursor) :=
  let digits := c.run Char.isDigit
  if digits.isEmpty then (c.expecting .digit).mapError .malformed
  else if digitLimit < digits.length then
    .error (.misfit (.longInteger (.read digits.length)))
  else .ok (Digits.decimal digits, c.skipWhile Char.isDigit)

/-- The two parts of a version. -/
def readVersion (c : Cursor) : Except Failure (Directive × Cursor) := do
  let (major, c) ← readNumber c.skipSpaces
  if c.peek ≠ some '.' then (c.expecting .digitOrPoint).mapError .malformed
  else
    let (minor, c) ← readNumber c.next
    if isSpaceOrLineEnd c.peek then return (.version major minor, c)
    else (c.expecting .digitOrSpace).mapError .malformed

/-- A handle and the stem that it stands for. -/
def readHandleStem (c : Cursor) : Except Fault (Directive × Cursor) := do
  let (handle, c) ← readHandle c.skipSpaces
  if c.peek ≠ some ' ' then c.expecting .space
  else
    let (stem, c) ← readAddress c.skipSpaces
    if isSpaceOrLineEnd c.peek then return (.handle handle stem, c) else c.expecting .space

/-- A directive: its name, its arguments and the rest of its line. -/
def readDirective (start : Cursor) : Except Failure (Token × Cursor) := do
  let (name, c) ← (readName start.next).mapError .malformed
  if !isSpaceOrLineEnd c.peek then (c.expecting .nameCharacter).mapError .malformed
  else
    let (directive, c) ←
      match name with
      | "YAML" => readVersion c
      | "TAG" => (readHandleStem c).mapError .malformed
      | _ => pure (.unknown, c)
    let token : Token := ⟨.directive directive, start.mark, c.mark⟩
    let c := if directive = .unknown then c.skipLine else c
    return (token, ← c.finishLine.mapError .malformed)

end Token

end BusinessModel.Yaml
