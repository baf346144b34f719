import BusinessModel.Text.Printable

/-!
# Quoted text

A text is quoted with single quotes, or with double quotes when it holds a single quote and no
double one.  Inside, the quote and the backslash are escaped by a backslash, tab, line feed and
carriage return have letters, and every other unprintable character is written as a two-, four- or
eight-digit code.
-/

namespace BusinessModel

/-- The lower-case hexadecimal digit of a number below sixteen. -/
def hexDigit (n : Nat) : Char :=
  if n < 10 then Char.ofNat (48 + n) else Char.ofNat (87 + n)

/-- The last `width` hexadecimal digits of a number. -/
def hexDigits : Nat → Nat → List Char
  | 0, _ => []
  | width + 1, n => hexDigits width (n / 16) ++ [hexDigit (n % 16)]

namespace Quoted

/-- The quote that surrounds a text. -/
def quoteFor (s : List Char) : Char :=
  if s.contains '\'' && !s.contains '"' then '"' else '\''

/-- The escape of an unprintable character: two, four or eight hexadecimal digits. -/
def codeEscape (code : Nat) : List Char :=
  if code < 0x100 then '\\' :: 'x' :: hexDigits 2 code
  else if code < 0x10000 then '\\' :: 'u' :: hexDigits 4 code
  else '\\' :: 'U' :: hexDigits 8 code

/-- One character of a text between `quote`s. -/
def encodeChar (quote c : Char) : List Char :=
  if c = quote ∨ c = '\\' then ['\\', c]
  else if c = '\t' then ['\\', 't']
  else if c = '\n' then ['\\', 'n']
  else if c = '\r' then ['\\', 'r']
  else if isPrintable c then [c]
  else codeEscape c.toNat

/-- The quoted form of a list of characters. -/
def encode (s : List Char) : List Char :=
  let quote := quoteFor s
  quote :: (s.flatMap (encodeChar quote) ++ [quote])

/-- One byte of a byte string between `quote`s: only ASCII characters show as themselves. -/
def encodeByte (quote : Char) (b : UInt8) : List Char :=
  if b < 0x80 then encodeChar quote (Char.ofNat b.toNat) else codeEscape b.toNat

end Quoted

/-- The quoted form of a text. -/
def quoted (s : String) : String :=
  String.ofList (Quoted.encode s.toList)

/-- The quoted form of a byte string, marked by a leading `b`. -/
def quotedBytes (bytes : List UInt8) : String :=
  let quote := Quoted.quoteFor (bytes.map fun b => Char.ofNat b.toNat)
  String.ofList ('b' :: quote :: (bytes.flatMap (Quoted.encodeByte quote) ++ [quote]))

/-- The quoted form of the character that stands at a place of a text; the end of the text shows as
the character zero. -/
def quotedAt (c : Option Char) : String :=
  quoted (String.singleton (c.getD (Char.ofNat 0)))

end BusinessModel
