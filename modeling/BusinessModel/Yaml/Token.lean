import BusinessModel.Yaml.Fault

/-!
# Tokens

The words of a document: the marks that structure it, the properties of its nodes and its scalars.
Blocks have no brackets in the text; the tokens that open and close them stand where the indentation
grows and shrinks.
-/

namespace BusinessModel.Yaml

/-- An instruction in front of a document. -/
inductive Directive where
  | version (major minor : Nat)
  | handle (name stem : String)
  | unknown
  deriving DecidableEq, Repr

/-- A tag as it is written: a handle that stands for a stem, and what follows it. -/
structure TagWords where
  handle : Option String
  suffix : String
  deriving DecidableEq, Repr

/-- What a token says. -/
inductive Word where
  | streamEnd
  | directive (d : Directive)
  | documentStart
  | documentEnd
  | blockSequenceStart
  | blockMappingStart
  | blockEnd
  | flowSequenceStart
  | flowSequenceEnd
  | flowMappingStart
  | flowMappingEnd
  | blockEntry
  | flowEntry
  | key
  | value
  | reference (name : String)
  | anchor (name : String)
  | tag (words : TagWords)
  | scalar (text : String) (plain : Bool)
  deriving DecidableEq, Repr

/-- A word and the places where it begins and ends. -/
structure Token where
  word : Word
  start : Mark
  stop : Mark
  deriving DecidableEq, Repr

/-- The name of a word in reports. -/
def Word.name : Word → String
  | streamEnd => "<stream end>"
  | directive _ => "<directive>"
  | documentStart => "<document start>"
  | documentEnd => "<document end>"
  | blockSequenceStart => "<block sequence start>"
  | blockMappingStart => "<block mapping start>"
  | blockEnd => "<block end>"
  | flowSequenceStart => "["
  | flowSequenceEnd => "]"
  | flowMappingStart => "\x7b"
  | flowMappingEnd => "\x7d"
  | blockEntry => "-"
  | flowEntry => ","
  | key => "?"
  | value => ":"
  | reference _ => "<alias>"
  | anchor _ => "<anchor>"
  | tag _ => "<tag>"
  | scalar _ _ => "<scalar>"

end BusinessModel.Yaml
