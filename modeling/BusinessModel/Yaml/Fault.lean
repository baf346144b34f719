import BusinessModel.Number.Numeral
import BusinessModel.Text.Utf8
import BusinessModel.Value.Display
import BusinessModel.Yaml.Cursor

/-!
# Faults of documents

What can be wrong with the text of a document, from its characters to the nodes that its values are
built from.  A fault is a problem and, unless it concerns a single character of the raw text, the
place where it was met.  A misfit is well-formed, but there is no value that it could be: a scalar
whose text is none of its type, or something that values here cannot hold, which are finite and made
of whole characters.  It has no place.
-/

namespace BusinessModel.Yaml

/-- The three shapes of nodes. -/
inductive NodeShape where
  | scalar
  | sequence
  | mapping
  deriving DecidableEq, Repr

/-- What should stand at a place instead of the character that was found there. -/
inductive Expected where
  | nameCharacter
  | digit
  | digitOrPoint
  | digitOrSpace
  | space
  | lineRest
  | closingAngle
  | exclamation
  | address
  | addressEscape
  | blockIndicators
  | escapeDigits (count : Nat)
  deriving DecidableEq, Repr

/-- What is wrong with a document. -/
inductive Problem where
  | unacceptable (code position : Nat)
  | expected (what : Expected) (found : Option Char)
  | noToken (found : Option Char)
  | misplacedEntry
  | misplacedKey
  | misplacedValue
  | noColon
  | zeroIndent
  | unknownEscape (found : Option Char)
  | unfinished
  | separatorInside
  | undecodable (fault : Utf8.Fault)
  | noDocumentStart (found : String)
  | repeatedVersion
  | incompatibleVersion
  | repeatedHandle (handle : String)
  | undefinedHandle (handle : String)
  | noContent (found : String)
  | noBlockEnd (found : String)
  | noSequenceEnd (found : String)
  | noMappingEnd (found : String)
  | anotherDocument
  | undefinedAlias (name : String)
  | repeatedAnchor
  | unknownTag (tag : String)
  | notOfShape (shape found : NodeShape)
  | unusableKey
  | notMergeable (found : NodeShape)
  | itemNotMergeable (found : NodeShape)
  | pairsNotSequence (found : NodeShape)
  | pairNotMapping (found : NodeShape)
  | pairNotSingle (count : Nat)
  | notAscii (reason : String)
  | notBase64 (reason : String)
  deriving DecidableEq, Repr

/-- A problem and the place where it was met. -/
structure Fault where
  problem : Problem
  mark : Option Mark
  deriving DecidableEq, Repr

/-- Why there is no value. -/
inductive Misfit where
  | noCharacter (code : Nat)
  /-- The code of one half of a character that takes two; values hold whole characters only. -/
  | halfCharacter (code : Nat)
  /-- A collection that is nested in itself; values are finite. -/
  | endless
  | emptyText
  | notInteger (base : Nat) (text : String)
  | longInteger (f : LongInteger)
  | notNumber (text : String)
  | tooLarge
  | notBoolean (text : String)
  | notTime
  | noText
  | calendar (fault : CalendarFault)
  deriving DecidableEq, Repr

/-- Why a text has no value. -/
inductive Failure where
  | malformed (fault : Fault)
  | misfit (m : Misfit)
  deriving DecidableEq, Repr

namespace NodeShape

def name : NodeShape → String
  | scalar => "scalar"
  | sequence => "sequence"
  | mapping => "mapping"

end NodeShape

namespace Expected

def text : Expected → String
  | nameCharacter => "alphabetic or numeric character"
  | digit => "a digit"
  | digitOrPoint => "a digit or '.'"
  | digitOrSpace => "a digit or ' '"
  | space => "' '"
  | lineRest => "a comment or a line break"
  | closingAngle => "'>'"
  | exclamation => "'!'"
  | address => "URI"
  | addressEscape => "URI escape sequence of 2 hexadecimal numbers"
  | blockIndicators => "chomping or indentation indicators"
  | escapeDigits count => s!"escape sequence of {count} hexadecimal numbers"

end Expected

namespace Problem

/-- A code in at least four hexadecimal digits. -/
def codeText (code : Nat) : String :=
  let width := if code < 0x10000 then 4 else if code < 0x100000 then 5 else 6
  String.ofList (hexDigits width code)

def message : Problem → String
  | unacceptable code position =>
    s!"unacceptable character #x{codeText code}: special characters are not allowed\n"
      ++ s!"  in \"<unicode string>\", position {position}"
  | expected what found => s!"expected {what.text}, but found {quotedAt found}"
  | noToken found => s!"found character {quotedAt found} that cannot start any token"
  | misplacedEntry => "sequence entries are not allowed here"
  | misplacedKey => "mapping keys are not allowed here"
  | misplacedValue => "mapping values are not allowed here"
  | noColon => "could not find expected ':'"
  | zeroIndent => "expected indentation indicator in the range 1-9, but found 0"
  | unknownEscape found => s!"found unknown escape character {quotedAt found}"
  | unfinished => "found unexpected end of stream"
  | separatorInside => "found unexpected document separator"
  | undecodable fault => fault.message
  | noDocumentStart found => s!"expected '<document start>', but found {quoted found}"
  | repeatedVersion => "found duplicate YAML directive"
  | incompatibleVersion => "found incompatible YAML document (version 1.* is required)"
  | repeatedHandle handle => s!"duplicate tag handle {quoted handle}"
  | undefinedHandle handle => s!"found undefined tag handle {quoted handle}"
  | noContent found => s!"expected the node content, but found {quoted found}"
  | noBlockEnd found => s!"expected <block end>, but found {quoted found}"
  | noSequenceEnd found => s!"expected ',' or ']', but got {quoted found}"
  | noMappingEnd found => s!"expected ',' or '\x7d', but got {quoted found}"
  | anotherDocument => "but found another document"
  | undefinedAlias name => s!"found undefined alias {quoted name}"
  | repeatedAnchor => "second occurrence"
  | unknownTag tag => s!"could not determine a constructor for the tag {quoted tag}"
  | notOfShape shape found => s!"expected a {shape.name} node, but found {found.name}"
  | unusableKey => "found unhashable key"
  | notMergeable found =>
    s!"expected a mapping or list of mappings for merging, but found {found.name}"
  | itemNotMergeable found => s!"expected a mapping for merging, but found {found.name}"
  | pairsNotSequence found => s!"expected a sequence, but found {found.name}"
  | pairNotMapping found => s!"expected a mapping of length 1, but found {found.name}"
  | pairNotSingle count => s!"expected a single mapping item, but found {count} items"
  | notAscii reason => s!"failed to convert base64 data into ascii: {reason}"
  | notBase64 reason => s!"failed to decode base64 data: {reason}"

end Problem

/-- Whether there would be a value if values were endless or held half characters. -/
def Misfit.isBeyond : Misfit → Bool
  | halfCharacter _ | endless => true
  | _ => false

/-- What is said about a misfit. -/
def Misfit.message : Misfit → String
  | noCharacter code =>
    if code < 0x80000000 then "chr() arg not in range(0x110000)"
    else "Python int too large to convert to C int"
  | halfCharacter code => s!"the code {Problem.codeText code} is only half of a character"
  | endless => "a collection holds itself"
  | emptyText => "string index out of range"
  | notInteger base text => Numeral.refusal base text
  | longInteger f => f.message
  | notNumber text => s!"could not convert string to float: {quoted text}"
  | tooLarge => "int too large to convert to float"
  | notBoolean text => quoted text
  | notTime => "'NoneType' object has no attribute 'groupdict'"
  | noText => "expected string or bytes-like object, got 'list'"
  | calendar fault => fault.message

namespace Cursor

/-- The refusal of the character at a place. -/
def refuse {α : Type} (c : Cursor) (problem : Problem) : Except Fault α :=
  .error ⟨problem, some c.mark⟩

/-- The refusal of a character that is not the expected one. -/
def expecting {α : Type} (c : Cursor) (what : Expected) : Except Fault α :=
  c.refuse (.expected what c.peek)

end Cursor

end BusinessModel.Yaml
