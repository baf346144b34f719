import BusinessModel.Number.Digits
import BusinessModel.Number.LongInteger
import BusinessModel.Value

/-!
# Reading JSON

A JSON text is read into a document value: numbers written with a point or an exponent are doubles
and all others integers of any size, a repeated key keeps its first place and its last value, and
`NaN`, `Infinity` and `-Infinity` are numbers too.  A text that is not JSON yields the first fault
met from left to right, with its line and column; an integer too long to be read is refused without
a place.
-/

namespace BusinessModel.Json

/-- What stops the reading of a text. -/
inductive Problem where
  | expectingValue
  | expectingKey
  | expectingColon
  | expectingComma
  | unterminatedString
  | controlCharacter
  | badEscape
  | badCodeEscape
  | extraData
  | byteOrderMark
  | longInteger (f : LongInteger)
  deriving DecidableEq, Repr

def Problem.message : Problem → String
  | expectingValue => "Expecting value"
  | expectingKey => "Expecting property name enclosed in double quotes"
  | expectingColon => "Expecting ':' delimiter"
  | expectingComma => "Expecting ',' delimiter"
  | unterminatedString => "Unterminated string starting at"
  | controlCharacter => "Invalid control character at"
  | badEscape => "Invalid \\escape"
  | badCodeEscape => "Invalid \\uXXXX escape"
  | extraData => "Extra data"
  | byteOrderMark => "Unexpected UTF-8 BOM (decode using utf-8-sig)"
  | longInteger f => f.message

/-- A problem and the text that was left when it was met. -/
structure Stop where
  problem : Problem
  rest : List Char

/-- A problem at a position of a text. -/
structure Fault where
  problem : Problem
  line : Nat
  column : Nat
  position : Nat
  deriving DecidableEq, Repr

def Fault.message (f : Fault) : String :=
  match f.problem with
  | .longInteger long => long.message
  | problem => s!"{problem.message}: line {f.line} column {f.column} (char {f.position})"

/-- The fault at a position of a text. -/
def Fault.at (problem : Problem) (text : List Char) (position : Nat) : Fault :=
  let before := text.take position
  let lastLine := before.reverse.takeWhile (· != '\n')
  ⟨problem, before.count '\n' + 1, lastLine.length + 1, position⟩

def isBlank (c : Char) : Bool :=
  c == ' ' || c == '\t' || c == '\n' || c == '\r'

def skipBlanks (s : List Char) : List Char :=
  s.dropWhile isBlank

/-- The character of a one-letter escape. -/
def escaped? : Char → Option Char
  | '"' => some '"'
  | '\\' => some '\\'
  | '/' => some '/'
  | 'b' => some '\x08'
  | 'f' => some '\x0c'
  | 'n' => some '\n'
  | 'r' => some '\r'
  | 't' => some '\t'
  | _ => none

/-- Four hexadecimal digits, and another group of four when the two are the halves of a pair and
something follows them.  `start` is the text from the backslash on. -/
def readCode (start : List Char) (s : List Char) : Except Stop (Char × List Char) :=
  match Digits.number? 16 (s.take 4), s.drop 4 with
  | some code, rest =>
    if (s.take 4).length < 4 ∨ rest.isEmpty then .error ⟨.badCodeEscape, start.drop 1⟩
    else
      match rest with
      | '\\' :: 'u' :: more =>
        match Digits.number? 16 (more.take 4) with
        | some low =>
          if 0xd800 ≤ code ∧ code < 0xdc00 ∧ 0xdc00 ≤ low ∧ low < 0xe000 ∧ 4 < more.length then
            .ok (Char.ofNat (0x10000 + (code - 0xd800) * 0x400 + (low - 0xdc00)), more.drop 4)
          else .ok (Char.ofNat code, rest)
        | none => .ok (Char.ofNat code, rest)
      | _ => .ok (Char.ofNat code, rest)
  | none, _ => .error ⟨.badCodeEscape, start.drop 1⟩

/-- The characters of a string behind its opening quote, in front of those already read (last
first).  `opening` is the text from that quote on. -/
def readString (opening : List Char) :
    Nat → List Char → List Char → Except Stop (String × List Char)
  | 0, _, _ => .error ⟨.unterminatedString, opening⟩
  | _, _, [] => .error ⟨.unterminatedString, opening⟩
  | _ + 1, read, '"' :: rest => .ok (String.ofList read.reverse, rest)
  | fuel + 1, read, '\\' :: rest =>
    match rest with
    | [] => .error ⟨.unterminatedString, opening⟩
    | 'u' :: digits => do
      let (c, rest) ← readCode ('\\' :: rest) digits
      readString opening fuel (c :: read) rest
    | c :: more =>
      match escaped? c with
      | some c => readString opening fuel (c :: read) more
      | none => .error ⟨.badEscape, '\\' :: rest⟩
  | fuel + 1, read, c :: rest =>
    if c.toNat < 0x20 then .error ⟨.controlCharacter, c :: rest⟩
    else readString opening fuel (c :: read) rest

/-- A number.  A point or an exponent that no digit follows is left in the rest. -/
def readNumber (s : List Char) : Except Stop (Value × List Char) :=
  let negative := s.head? == some '-'
  let unsigned := if negative then s.drop 1 else s
  let whole := match unsigned with
    | '0' :: _ => ['0']
    | _ => unsigned.takeWhile Char.isDigit
  if whole.isEmpty then .error ⟨.expectingValue, s⟩
  else
    let rest := unsigned.drop whole.length
    let fraction := match rest with
      | '.' :: more => more.takeWhile Char.isDigit
      | _ => []
    let rest := if fraction.isEmpty then rest else rest.drop (fraction.length + 1)
    let (sign, exponent, width) := match rest with
      | 'e' :: '-' :: more | 'E' :: '-' :: more => (true, more.takeWhile Char.isDigit, 2)
      | 'e' :: '+' :: more | 'E' :: '+' :: more => (false, more.takeWhile Char.isDigit, 2)
      | 'e' :: more | 'E' :: more => (false, more.takeWhile Char.isDigit, 1)
      | _ => (false, [], 0)
    let rest := if exponent.isEmpty then rest else rest.drop (exponent.length + width)
    if fraction.isEmpty ∧ exponent.isEmpty then
      if digitLimit < whole.length then .error ⟨.longInteger (.read whole.length), s⟩
      else
        let n : Int := Digits.decimal whole
        .ok (.int (if negative then -n else n), rest)
    else
      let e : Int := Digits.decimal exponent
      let e := (if sign then -e else e) - fraction.length
      .ok (.float (Binary64.ofDecimal negative (Digits.decimal (whole ++ fraction)) e), rest)

/-- A value without parts. -/
def readScalar (s : List Char) : Except Stop (Value × List Char) :=
  match s with
  | 'n' :: 'u' :: 'l' :: 'l' :: rest => .ok (.null, rest)
  | 't' :: 'r' :: 'u' :: 'e' :: rest => .ok (.bool true, rest)
  | 'f' :: 'a' :: 'l' :: 's' :: 'e' :: rest => .ok (.bool false, rest)
  | 'N' :: 'a' :: 'N' :: rest => .ok (.float .nan, rest)
  | 'I' :: 'n' :: 'f' :: 'i' :: 'n' :: 'i' :: 't' :: 'y' :: rest =>
    .ok (.float (.infinite false), rest)
  | '-' :: 'I' :: 'n' :: 'f' :: 'i' :: 'n' :: 'i' :: 't' :: 'y' :: rest =>
    .ok (.float (.infinite true), rest)
  | _ => readNumber s

mutual

/-- One value.  Every nested call has consumed a character, so twice the length of the text is
enough fuel. -/
def readValue : Nat → List Char → Except Stop (Value × List Char)
  | 0, s => .error ⟨.expectingValue, s⟩
  | fuel + 1, s =>
    match s with
    | '"' :: rest => do
      let (text, rest) ← readString s (rest.length + 1) [] rest
      return (.str text, rest)
    | '{' :: rest =>
      let rest := skipBlanks rest
      match rest with
      | '}' :: rest => .ok (.map [], rest)
      | _ => readMembers fuel [] rest
    | '[' :: rest =>
      let rest := skipBlanks rest
      match rest with
      | ']' :: rest => .ok (.list [], rest)
      | _ => readItems fuel [] rest
    | _ => readScalar s

/-- The members of an object after those already read. -/
def readMembers : Nat → Mapping → List Char → Except Stop (Value × List Char)
  | 0, _, s => .error ⟨.expectingKey, s⟩
  | fuel + 1, read, s =>
    match s with
    | '"' :: rest => do
      let (key, rest) ← readString s (rest.length + 1) [] rest
      let rest := skipBlanks rest
      let ':' :: rest := rest | .error ⟨.expectingColon, rest⟩
      let (value, rest) ← readValue fuel (skipBlanks rest)
      let read := Mapping.set read (.str key) value
      match skipBlanks rest with
      | '}' :: rest => return (.map read, rest)
      | ',' :: rest => readMembers fuel read (skipBlanks rest)
      | rest => .error ⟨.expectingComma, rest⟩
    | _ => .error ⟨.expectingKey, s⟩

/-- The items of an array after those already read (last first). -/
def readItems : Nat → List Value → List Char → Except Stop (Value × List Char)
  | 0, _, s => .error ⟨.expectingValue, s⟩
  | fuel + 1, read, s => do
    let (value, rest) ← readValue fuel s
    match skipBlanks rest with
    | ']' :: rest => return (.list (value :: read).reverse, rest)
    | ',' :: rest => readItems fuel (value :: read) (skipBlanks rest)
    | rest => .error ⟨.expectingComma, rest⟩

end

/-- The value of a JSON text. -/
def read (text : String) : Except Fault Value :=
  let chars := text.toList
  let fault (stop : Stop) : Fault := .at stop.problem chars (chars.length - stop.rest.length)
  match chars with
  | '\ufeff' :: _ => .error (.at .byteOrderMark chars 0)
  | _ =>
    match readValue (2 * chars.length + 2) (skipBlanks chars) with
    | .error stop => .error (fault stop)
    | .ok (value, rest) =>
      match skipBlanks rest with
      | [] => .ok value
      | rest => .error (fault ⟨.extraData, rest⟩)

end BusinessModel.Json
