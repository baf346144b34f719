/-!
# Terminal control sequences

A terminal control sequence is an escape character and a bracket, then parameters, then marks, then
a single character that names what is to be done.  It changes how a terminal shows text, and has no
place in text that goes elsewhere.

* `withoutControls` — a text without its control sequences
-/

namespace BusinessModel

/-- Whether a character may be part of the parameters: a digit or one of `:;<=>?`. -/
def isControlParameter (c : Char) : Bool := '0' ≤ c && c ≤ '?'

/-- Whether a character may be a mark: a blank or one of the signs in front of the digits. -/
def isControlMark (c : Char) : Bool := ' ' ≤ c && c ≤ '/'

/-- Whether a character ends a control sequence: a letter or one of the signs around them. -/
def isControlEnd (c : Char) : Bool := '@' ≤ c && c ≤ '~'

/-- How many characters the control sequence in front of a text has; none if there is none. -/
def controlLength : List Char → Nat
  | '\x1b' :: '[' :: rest =>
    let parameters := rest.takeWhile isControlParameter
    let behind := rest.drop parameters.length
    let marks := behind.takeWhile isControlMark
    match behind.drop marks.length with
    | c :: _ => if isControlEnd c then parameters.length + marks.length + 3 else 0
    | [] => 0
  | _ => 0

/-- Characters behind the first `skipped` ones, without the control sequences among them. -/
def dropControls : Nat → List Char → List Char
  | _, [] => []
  | skipped + 1, _ :: rest => dropControls skipped rest
  | 0, c :: rest =>
    match controlLength (c :: rest) with
    | 0 => c :: dropControls 0 rest
    | length + 1 => dropControls length rest

/-- A text without its control sequences. -/
def withoutControls (s : String) : String :=
  String.ofList (dropControls 0 s.toList)

end BusinessModel
