/-!
# White space

The characters that separate words in any script: the ASCII blanks and line ends with the four
information separators, and the spaces and separators of Unicode.
-/

namespace BusinessModel

/-- Whether a character is white space. -/
def isSpace (c : Char) : Bool :=
  c == ' ' || ('\t' ≤ c && c ≤ '\r') || ('\x1c' ≤ c && c ≤ '\x1f') || c == '\x85' || c == '\xa0' ||
    c == '\u1680' || ('\u2000' ≤ c && c ≤ '\u200a') || c == '\u2028' || c == '\u2029' ||
    c == '\u202f' || c == '\u205f' || c == '\u3000'

/-- Without white space at the end. -/
def trimRight (s : List Char) : List Char :=
  (s.reverse.dropWhile isSpace).reverse

/-- Without white space at either end. -/
def trim (s : List Char) : List Char :=
  trimRight (s.dropWhile isSpace)

end BusinessModel
