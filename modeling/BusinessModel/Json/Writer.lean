import BusinessModel.Value.Display

/-!
# Writing JSON

A value is written either on one line or with two spaces of indentation per level.  Texts are
written in printable ASCII: everything else is escaped, characters above U+FFFF by a pair of codes.
Only values that JSON knows are written as such; others are written by their display text.
-/

namespace BusinessModel.Json

/-- A character inside a string. -/
def escapeChar (c : Char) : List Char :=
  let code := c.toNat
  let unit (n : Nat) : List Char := '\\' :: 'u' :: hexDigits 4 n
  if c = '"' ∨ c = '\\' then ['\\', c]
  else if c = '\n' then ['\\', 'n']
  else if c = '\r' then ['\\', 'r']
  else if c = '\t' then ['\\', 't']
  else if code = 8 then ['\\', 'b']
  else if code = 12 then ['\\', 'f']
  else if 0x20 ≤ code ∧ code < 0x7f then [c]
  else if code < 0x10000 then unit code
  else unit (0xd800 + (code - 0x10000) / 0x400) ++ unit (0xdc00 + (code - 0x10000) % 0x400)

def writeString (s : String) : String :=
  String.ofList ('"' :: (s.toList.flatMap escapeChar ++ ['"']))

def writeScalar : Scalar → String
  | .null => "null"
  | .bool b => if b then "true" else "false"
  | .int n => n.repr
  | .float .nan => "NaN"
  | .float (.infinite negative) => if negative then "-Infinity" else "Infinity"
  | .float x => floatText x
  | s => writeString s.display

mutual

/-- A value on one line. -/
def writeLine : Value → String
  | .scalar s => writeScalar s
  | .list items | .tuple items => "[" ++ ", ".intercalate (writeLines items) ++ "]"
  | .set members => "[" ++ ", ".intercalate (members.map writeScalar) ++ "]"
  | .map entries => "\x7b" ++ ", ".intercalate (writeMembers entries) ++ "\x7d"

def writeLines : List Value → List String
  | [] => []
  | item :: rest => writeLine item :: writeLines rest

def writeMembers : List (Scalar × Value) → List String
  | [] => []
  | (key, value) :: rest =>
    (writeString key.display ++ ": " ++ writeLine value) :: writeMembers rest

end

/-- The parts of a collection on lines of their own, one level deeper than its brackets. -/
def block (level : Nat) (opening closing : String) (parts : List String) : String :=
  let indent (n : Nat) : String := "".pushn ' ' (2 * n)
  if parts.isEmpty then opening ++ closing
  else
    opening ++ "\n" ++ ",\n".intercalate (parts.map (indent (level + 1) ++ ·)) ++ "\n"
      ++ indent level ++ closing

mutual

/-- A value with its parts on lines of their own, at a level of indentation. -/
def writeBlock (level : Nat) : Value → String
  | .scalar s => writeScalar s
  | .list items | .tuple items => block level "[" "]" (writeBlocks (level + 1) items)
  | .set members => block level "[" "]" (members.map writeScalar)
  | .map entries => block level "\x7b" "\x7d" (writeMemberBlocks (level + 1) entries)

def writeBlocks (level : Nat) : List Value → List String
  | [] => []
  | item :: rest => writeBlock level item :: writeBlocks level rest

def writeMemberBlocks (level : Nat) : List (Scalar × Value) → List String
  | [] => []
  | (key, value) :: rest =>
    (writeString key.display ++ ": " ++ writeBlock level value) :: writeMemberBlocks level rest

end

/-- The text of a value over several lines. -/
def writeIndented (v : Value) : String :=
  writeBlock 0 v

/-- An object from its members. -/
def object (members : List (String × Value)) : Value :=
  .map (members.map fun member => (.str member.1, member.2))

def texts (items : List String) : Value :=
  .list (items.map Value.str)

end BusinessModel.Json
