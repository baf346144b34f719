/-!
# Words of a command line

A command line falls into words at its blanks, tabs and line ends.  A backslash takes away what the
next character means, single quotes what every character between them means.  Between double quotes
a backslash does so only in front of a double quote or another backslash, and stands for itself
otherwise.

* `shellWords` — the words of a command line
-/

namespace BusinessModel

/-- How the next character of a command line is read. -/
inductive ShellMode where
  | between
  | word
  | quoted (quote : Char)
  /-- Behind a backslash, between some quotes or none. -/
  | escaped (quote : Option Char)
  deriving DecidableEq, Repr

/-- Whether a character separates words. -/
def isWordGap (c : Char) : Bool := c == ' ' || c == '\t' || c == '\r' || c == '\n'

/-- How it goes on behind a character outside quotes that separates nothing, and the word with that
character, last character first. -/
def ShellMode.enter (word : List Char) (c : Char) : ShellMode × List Char :=
  if c = '\\' then (.escaped none, word)
  else if c = '\'' ∨ c = '"' then (.quoted c, word)
  else (.word, c :: word)

/-- The words of the rest of a command line, of which a part of the first one is read already, last
character first.  Whatever is open at the end ends there. -/
def wordsFrom : ShellMode → List Char → List Char → List String
  | .between, _, [] => []
  | _, word, [] => [String.ofList word.reverse]
  | .between, _, c :: rest =>
    if isWordGap c then wordsFrom .between [] rest
    else
      let (mode, word) := ShellMode.enter [] c
      wordsFrom mode word rest
  | .word, word, c :: rest =>
    if isWordGap c then String.ofList word.reverse :: wordsFrom .between [] rest
    else
      let (mode, word) := ShellMode.enter word c
      wordsFrom mode word rest
  | .quoted quote, word, c :: rest =>
    if c = quote then wordsFrom .word word rest
    else if c = '\\' ∧ quote = '"' then wordsFrom (.escaped (some quote)) word rest
    else wordsFrom (.quoted quote) (c :: word) rest
  | .escaped none, word, c :: rest => wordsFrom .word (c :: word) rest
  | .escaped (some quote), word, c :: rest =>
    let word := if c = quote ∨ c = '\\' then word else '\\' :: word
    wordsFrom (.quoted quote) (c :: word) rest

/-- The words of a command line. -/
def shellWords (line : String) : List String := wordsFrom .between [] line.toList

end BusinessModel
