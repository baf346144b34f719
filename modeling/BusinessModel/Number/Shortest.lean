import BusinessModel.Number.Binary64

/-!
# Shortest decimal text of a double

The text of a double has the fewest digits that read back as the same double; among those the digits
nearest to its value, an exact tie going to the even last digit.  `Binary64.shortest?` finds the
digits by testing, for one digit, two digits and so on, the two neighbours of the value on that
decimal grid; `DecimalLayout` says how digits are written down.
-/

namespace BusinessModel

/-- How digits and a point are written. -/
structure DecimalLayout where
  /-- Positional notation is used when the point stands after more than `pointAbove` digits
  (negative counts zeros between the point and the first digit) … -/
  pointAbove : Int
  /-- … and after at most `pointUpTo` digits; outside that range an exponent is written. -/
  pointUpTo : Int
  /-- The least number of digits of an exponent. -/
  exponentDigits : Nat
  infinity : String
  notNumber : String

/-- A decimal `0.d₁d₂… · 10 ^ point` by its digits, without trailing zeros. -/
structure ShortDecimal where
  digits : List Char
  point : Int

namespace Binary64

/-- The power of ten just above `num / den`: the least `k` with `num / den < 10 ^ k`. -/
def decimalPoint (num den : Nat) : Int :=
  if den ≤ num then decimalLength (num / den)
  else
    let inverse := den / num
    let length : Int := decimalLength inverse
    if num * inverse = den ∧ inverse = Nat.pow 10 (decimalLength inverse - 1) then 2 - length
    else 1 - length

/-- The text of a natural in decimal digits without its trailing zeros. -/
def significant (n : Nat) : List Char :=
  (n.repr.toList.reverse.dropWhile (· == '0')).reverse

/-- The best decimal with `count` digits that reads back as `x`, the double `num / den` whose
decimal point is `point`. -/
def nearestWith (x : Binary64) (num den : Nat) (point : Int) (count : Nat) : Option Nat :=
  let shift := point - count
  let scaled : Nat × Nat :=
    if 0 ≤ shift then (num, den * Nat.pow 10 shift.toNat)
    else (num * Nat.pow 10 (-shift).toNat, den)
  let low := scaled.1 / scaled.2
  let readsBack (n : Nat) : Bool := ofDecimal false n shift == x
  let twice := 2 * (scaled.1 % scaled.2)
  match readsBack low, readsBack (low + 1) with
  | true, true =>
    some (if twice < scaled.2 then low else if scaled.2 < twice then low + 1 else low + low % 2)
  | true, false => some low
  | false, true => some (low + 1)
  | false, false => none

/-- The digits of the shortest decimal that reads back as a positive finite double; seventeen
digits always suffice. -/
def shortest (mantissa : Nat) (exponent : Int) : ShortDecimal :=
  let num := if 0 ≤ exponent then mantissa * Nat.pow 2 exponent.toNat else mantissa
  let den := if 0 ≤ exponent then 1 else Nat.pow 2 (-exponent).toNat
  let point := decimalPoint num den
  let x : Binary64 := .finite false mantissa exponent
  let found := (List.range 17).findSome? fun i =>
    (nearestWith x num den point (i + 1)).map fun n => (n, i + 1)
  match found with
  | some (n, count) => ⟨significant n, point + (decimalLength n - count : Int)⟩
  | none => ⟨['0'], 1⟩

end Binary64

namespace ShortDecimal

/-- The exponent part: a sign and at least `width` digits. -/
def exponentText (width : Nat) (n : Int) : List Char :=
  let digits := n.natAbs.repr.toList
  'e' :: (if n < 0 then '-' else '+') :: (List.replicate (width - digits.length) '0' ++ digits)

/-- The written form of a decimal. -/
def write (layout : DecimalLayout) (d : ShortDecimal) : List Char :=
  if layout.pointAbove < d.point ∧ d.point ≤ layout.pointUpTo then
    if d.point ≤ 0 then '0' :: '.' :: (List.replicate (-d.point).toNat '0' ++ d.digits)
    else
      let whole := d.point.toNat
      if d.digits.length ≤ whole then
        d.digits ++ List.replicate (whole - d.digits.length) '0' ++ ['.', '0']
      else d.digits.take whole ++ '.' :: d.digits.drop whole
  else
    let tail := d.digits.drop 1
    d.digits.take 1 ++ (if tail.isEmpty then [] else '.' :: tail)
      ++ exponentText layout.exponentDigits (d.point - 1)

end ShortDecimal

/-- The text of a double in a layout. -/
def Binary64.text (layout : DecimalLayout) : Binary64 → String
  | .nan => layout.notNumber
  | .infinite negative => (if negative then "-" else "") ++ layout.infinity
  | .finite negative mantissa exponent =>
    let sign := if negative then "-" else ""
    let digits :=
      if mantissa = 0 then ['0', '.', '0'] else (shortest mantissa exponent).write layout
    sign ++ String.ofList digits

end BusinessModel
