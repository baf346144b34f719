import BusinessModel.Text.Pattern

/-!
# Tags

The tag of a node says how its value is built.  Untagged plain text gets its tag from the text:
words for truth values and for nothing, numbers in several notations, dates and times; all other
text is a string.

* `Tag.ofText` — the tag that plain text has by itself
* `Tag.core?` — the tags that values can be built for
-/

namespace BusinessModel.Yaml

/-- The tags that values can be built for. -/
inductive CoreTag where
  | null
  | bool
  | int
  | float
  | binary
  | timestamp
  | orderedPairs
  | pairs
  | set
  | str
  | seq
  | map
  deriving DecidableEq, Repr

namespace Tag

/-- The stem of the tags of the language itself. -/
def coreStem : String := "tag:yaml.org,2002:"

def core (name : String) : String := coreStem ++ name

/-- The tag of keys whose values are merged into their mapping. -/
def merge : String := core "merge"

/-- The tag of keys whose values stand for their whole mapping. -/
def value : String := core "value"

def str : String := core "str"

def seq : String := core "seq"

def map : String := core "map"

/-- The core tag of a name. -/
def core? (tag : String) : Option CoreTag :=
  let names : List (String × CoreTag) :=
    [("null", .null), ("bool", .bool), ("int", .int), ("float", .float), ("binary", .binary),
      ("timestamp", .timestamp), ("omap", .orderedPairs), ("pairs", .pairs), ("set", .set),
      ("str", .str), ("seq", .seq), ("map", .map)]
  names.findSome? fun entry => if tag = core entry.1 then some entry.2 else none

/-! ### Tags of plain text -/

section Patterns

open Pattern

def sign : Pattern := optional (oneOf "+-")

def digits : Pattern := .charIn [('0', '9'), ('_', '_')] false

/-- A number that begins with a digit and may go on with underscores. -/
def digitRun : Pattern := all [digit, .star digits]

/-- Parts of a number to the base sixty. -/
def sixtieths : Pattern :=
  plus (all [char ':', optional (.charIn [('0', '5')] false), digit])

/-- An exponent with its sign. -/
def signedExponent : Pattern := all [oneOf "eE", oneOf "+-", plus digit]

def boolPattern : Pattern :=
  words ["yes", "Yes", "YES", "no", "No", "NO", "true", "True", "TRUE", "false", "False", "FALSE",
    "on", "On", "ON", "off", "Off", "OFF"]

def floatPattern : Pattern :=
  any
    [all [sign, digitRun, char '.', .star digits, optional signedExponent],
      all [char '.', digitRun, optional signedExponent],
      all [sign, digitRun, sixtieths, char '.', .star digits],
      all [sign, words [".inf", ".Inf", ".INF"]],
      words [".nan", ".NaN", ".NAN"]]

def intPattern : Pattern :=
  let nonZero : Pattern := all [.charIn [('1', '9')] false, .star digits]
  all [sign, any
    [all [text "0b", plus (oneOf "01_")],
      all [char '0', plus (.charIn [('0', '7'), ('_', '_')] false)],
      char '0',
      nonZero,
      all [text "0x",
        plus (.charIn [('0', '9'), ('a', 'f'), ('A', 'F'), ('_', '_')] false)],
      all [nonZero, sixtieths]]]

/-- Words for nothing.  No text at all is one too, but not a lone line feed. -/
def nullPattern : Pattern := words ["~", "null", "Null", "NULL"]

/-- A calendar day in full, or a day and a time of it. -/
def timestampPattern : Pattern :=
  let short : Pattern := all [digit, optional digit]
  let pair : Pattern := times 2 digit
  let blanks : Pattern := oneOf " \t"
  any
    [all [times 4 digit, char '-', pair, char '-', pair],
      all [times 4 digit, char '-', short, char '-', short,
        any [oneOf "Tt", plus blanks], short, char ':', pair, char ':', pair,
        optional (all [char '.', .star digit]),
        optional (all [.star blanks,
          any [char 'Z', all [oneOf "+-", short, optional (all [char ':', pair])]]])]]

end Patterns

/-- The tags that plain text can have by itself, with the texts that have them. -/
def textTags : List (String × Pattern) :=
  [("bool", boolPattern), ("float", floatPattern), ("int", intPattern),
    ("merge", Pattern.text "<<"), ("null", nullPattern), ("timestamp", timestampPattern),
    ("value", Pattern.text "="), ("yaml", Pattern.oneOf "!&*")]

/-- The tag that plain text has by itself. -/
def ofText (text : String) : String :=
  if text.isEmpty then core "null"
  else match textTags.find? fun entry => entry.2.matchesLine text.toList with
  | some entry => core entry.1
  | none => str

/-- The tag of a scalar: the one that is written, unless it only marks the text as plain, else the
one that the text has by itself if it is plain. -/
def ofScalar (written : Option String) (plain : Bool) (text : String) : String :=
  match written with
  | some tag => if tag = "!" then ofText text else tag
  | none => if plain then ofText text else str

/-- The tag of a collection: the one that is written, or else a default. -/
def ofCollection (written : Option String) (default : String) : String :=
  match written with
  | some tag => if tag = "!" then default else tag
  | none => default

end Tag

end BusinessModel.Yaml
