import BusinessModel.Number.Binary64
import BusinessModel.Number.Digits
import BusinessModel.Number.LongInteger
import BusinessModel.Text.Digit
import BusinessModel.Text.Quoted
import BusinessModel.Text.Space

/-!
# Numerals

Numbers written by themselves: integers in some base, and doubles in decimal notation.  Blanks may
stand on both sides, and single underscores between the digits of an integer.  The digits may be
those of any script, and beyond ASCII any white space counts as a blank.

* `Numeral.integer` — the integer of a text in some base
* `Numeral.double?` — the double of a text, if it is one
-/

namespace BusinessModel.Numeral

/-- A numeral in ASCII: digits and white space of other scripts are replaced, and the numeral ends
in a question mark where anything else stands. -/
def plain : List Char → List Char
  | [] => []
  | c :: rest =>
    if c.toNat < 128 then c :: plain rest
    else if isSpace c then ' ' :: plain rest
    else
      match decimalDigit? c with
      | some digit => Char.ofNat (48 + digit) :: plain rest
      | none => ['?']

/-- Whether a character may stand around a numeral in ASCII. -/
def isBlank (c : Char) : Bool := c == ' ' || ('\t' ≤ c && c ≤ '\r')

/-- A text without its sign, and whether the sign is a minus. -/
def signed (s : List Char) : Bool × List Char :=
  match s with
  | '-' :: rest => (true, rest)
  | '+' :: rest => (false, rest)
  | _ => (false, s)

def withSign (negative : Bool) (n : Int) : Int :=
  if negative then -n else n

/-! ### Integers -/

/-- Why a text is no integer. -/
inductive IntegerFault where
  | notInteger
  | long (count : Nat)
  deriving DecidableEq, Repr

/-- How much is shown of a text that is no integer. -/
def shownLength : Nat := 200

/-- What is said about a text that is no integer in some base. -/
def refusal (base : Nat) (text : String) : String :=
  let shown := String.ofList ((quoted text).toList.take shownLength)
  s!"invalid literal for int() with base {base}: {shown}"

/-- The digits of a number in some base behind the mark that may name the base. -/
def withoutBaseMark (base : Nat) (s : List Char) : List Char :=
  match base, s with
  | 2, '0' :: 'b' :: rest | 2, '0' :: 'B' :: rest => withoutSeparator rest
  | 8, '0' :: 'o' :: rest | 8, '0' :: 'O' :: rest => withoutSeparator rest
  | 16, '0' :: 'x' :: rest | 16, '0' :: 'X' :: rest => withoutSeparator rest
  | _, _ => s
where
  /-- The text without one underscore in front. -/
  withoutSeparator (s : List Char) : List Char :=
    match s with
    | '_' :: rest => rest
    | _ => s

/-- The digits of a run in which single underscores may stand between digits. -/
def joined? : List Char → Option (List Char)
  | [] => none
  | [c] => if c = '_' then none else some [c]
  | c :: '_' :: rest => if c = '_' then none else (joined? rest).map (c :: ·)
  | c :: rest => if c = '_' then none else (joined? rest).map (c :: ·)

/-- The integer of a text in some base.  The decimal digits are counted before anything behind them
is looked at. -/
def integer (base : Nat) (s : List Char) : Except IntegerFault Int :=
  let (negative, s) := signed ((plain s).dropWhile isBlank)
  let s := withoutBaseMark base s
  let run := s.takeWhile fun c => (Digits.value? base c).isSome || c == '_'
  match joined? run with
  | none => .error .notInteger
  | some digits =>
    if base = 10 ∧ digitLimit < digits.length then .error (.long digits.length)
    else
      match Digits.number? base digits with
      | some n =>
        if (s.drop run.length).all isBlank then .ok (withSign negative n)
        else .error .notInteger
      | none => .error .notInteger

/-! ### Doubles -/

/-- A decimal number in ASCII: digits with at most one point among them, and an exponent. -/
def decimal? (s : List Char) : Option Binary64 := do
  let (negative, s) := signed s
  let whole := s.takeWhile Char.isDigit
  let rest := s.dropWhile Char.isDigit
  let (fraction, rest) := match rest with
    | '.' :: more => (more.takeWhile Char.isDigit, more.dropWhile Char.isDigit)
    | _ => ([], rest)
  if whole.isEmpty && fraction.isEmpty then none
  else
    let exponent : Int ← match rest with
      | [] => some 0
      | c :: more =>
        let (minus, digits) := signed more
        if (c = 'e' ∨ c = 'E') ∧ !digits.isEmpty ∧ digits.all Char.isDigit then
          some (withSign minus (Digits.decimal digits))
        else none
    return Binary64.ofDecimal negative (Digits.decimal (whole ++ fraction))
      (exponent - fraction.length)

/-- The double of a text: a decimal number or a word for infinity or for no number. -/
def double? (s : List Char) : Option Binary64 :=
  let s := (((plain s).dropWhile isBlank).reverse.dropWhile isBlank).reverse
  let (negative, word) := signed s
  let word := String.ofList (word.map Char.toLower)
  if word = "inf" ∨ word = "infinity" then some (.infinite negative)
  else if word = "nan" then some .nan
  else decimal? s

end BusinessModel.Numeral
