/-!
# Double-precision numbers

A finite double is a sign, a natural mantissa and a power of two, so every operation below is exact
integer arithmetic followed by one rounding.  The two laws that everything else leans on are that
`roundDiv` is within half a unit of its quotient and sends a tie to the even neighbour.

* `Binary64.ofQuotient` — the double nearest to a quotient of naturals
* `Binary64.ofDecimal` — the double nearest to `digits · 10 ^ exponent`
* `Binary64.add`, `Binary64.mul` — the rounded sum and product
* `Binary64.toRatio?` — the exact value of a finite double
-/

namespace BusinessModel

/-- A double: `± mantissa · 2 ^ exponent`, an infinity, or not a number.  Values made by this module
are canonical: the mantissa has 53 bits, or fewer at the least exponent. -/
inductive Binary64 where
  | finite (negative : Bool) (mantissa : Nat) (exponent : Int)
  | infinite (negative : Bool)
  | nan
  deriving DecidableEq, Repr, Inhabited

/-- The integer nearest to `num / den`, a tie going to the even neighbour. -/
def roundDiv (num den : Nat) : Nat :=
  let below := num / den
  let twice := 2 * (num % den)
  if twice < den then below
  else if den < twice then below + 1
  else below + below % 2

/-- The number of decimal digits of a natural, one for zero. -/
def decimalLength (n : Nat) : Nat :=
  n.repr.length

namespace Binary64

/-- The exponent of the smallest doubles. -/
def leastExponent : Int := -1074

/-- The exponent of the largest doubles. -/
def greatestExponent : Int := 971

/-- The mantissa that one more bit would overflow from below: `2 ^ 52`. -/
def leadingBit : Nat := Nat.pow 2 52

/-- Zero with a sign. -/
def zero (negative : Bool) : Binary64 :=
  .finite negative 0 leastExponent

/-- The quotient `num / den` measured in units of `2 ^ exponent`, as a new quotient. -/
def inUnits (num den : Nat) (exponent : Int) : Nat × Nat :=
  if 0 ≤ exponent then (num, den * Nat.pow 2 exponent.toNat)
  else (num * Nat.pow 2 (-exponent).toNat, den)

/-- A rounded mantissa with its exponent: a carry out of 53 bits moves the exponent, and an exponent
beyond the greatest gives an infinity. -/
def normalize (negative : Bool) (mantissa : Nat) (exponent : Int) : Binary64 :=
  let (mantissa, exponent) :=
    if mantissa = 2 * leadingBit then (leadingBit, exponent + 1) else (mantissa, exponent)
  if greatestExponent < exponent then .infinite negative else .finite negative mantissa exponent

/-- The double nearest to `± num / den`, for a positive `den`. -/
def ofQuotient (negative : Bool) (num den : Nat) : Binary64 :=
  if num = 0 then zero negative
  else
    let guess : Int := (num.log2 : Int) - (den.log2 : Int) - 52
    let atGuess := inUnits num den guess
    let exponent := if atGuess.1 / atGuess.2 < leadingBit then guess - 1 else guess
    let exponent := if exponent < leastExponent then leastExponent else exponent
    let quotient := inUnits num den exponent
    normalize negative (roundDiv quotient.1 quotient.2) exponent

/-- The double nearest to `± mantissa · 2 ^ exponent`. -/
def ofDyadic (negative : Bool) (mantissa : Nat) (exponent : Int) : Binary64 :=
  if 0 ≤ exponent then ofQuotient negative (mantissa * Nat.pow 2 exponent.toNat) 1
  else ofQuotient negative mantissa (Nat.pow 2 (-exponent).toNat)

/-- The double nearest to `± digits · 10 ^ exponent`.  Decimals far outside the range of doubles
are decided by their length, so no huge power is computed. -/
def ofDecimal (negative : Bool) (digits : Nat) (exponent : Int) : Binary64 :=
  let top := exponent + decimalLength digits
  if digits = 0 then zero negative
  else if 400 < top then .infinite negative
  else if top < -400 then zero negative
  else if 0 ≤ exponent then ofQuotient negative (digits * Nat.pow 10 exponent.toNat) 1
  else ofQuotient negative digits (Nat.pow 10 (-exponent).toNat)

/-- The double nearest to an integer. -/
def ofInt (n : Int) : Binary64 :=
  ofQuotient (n < 0) n.natAbs 1

/-- The same number with the other sign. -/
def neg : Binary64 → Binary64
  | .finite negative mantissa exponent => .finite (!negative) mantissa exponent
  | .infinite negative => .infinite (!negative)
  | .nan => .nan

/-- The rounded product. -/
def mul : Binary64 → Binary64 → Binary64
  | .finite n m e, .finite n' m' e' => ofDyadic (n != n') (m * m') (e + e')
  | .finite n m _, .infinite n' => if m = 0 then .nan else .infinite (n != n')
  | .infinite n, .finite n' m' _ => if m' = 0 then .nan else .infinite (n != n')
  | .infinite n, .infinite n' => .infinite (n != n')
  | _, _ => .nan

/-- The signed mantissa of a finite number, in units of `2 ^ base` for a `base` at most its own
exponent. -/
def aligned (negative : Bool) (mantissa : Nat) (exponent base : Int) : Int :=
  let m : Int := mantissa * Nat.pow 2 (exponent - base).toNat
  if negative then -m else m

/-- The rounded sum.  Two negative zeros add up to a negative zero. -/
def add : Binary64 → Binary64 → Binary64
  | .finite n m e, .finite n' m' e' =>
    let base := if e ≤ e' then e else e'
    let sum := aligned n m e base + aligned n' m' e' base
    if sum = 0 then zero (n && n') else ofDyadic (sum < 0) sum.natAbs base
  | .finite _ _ _, .infinite n => .infinite n
  | .infinite n, .finite _ _ _ => .infinite n
  | .infinite n, .infinite n' => if n = n' then .infinite n else .nan
  | _, _ => .nan

/-- The exact value of a finite double as a numerator and a positive denominator. -/
def toRatio? : Binary64 → Option (Int × Nat)
  | .finite negative mantissa exponent =>
    let magnitude : Int × Nat :=
      if 0 ≤ exponent then (mantissa * Nat.pow 2 exponent.toNat, 1)
      else (mantissa, Nat.pow 2 (-exponent).toNat)
    some (if negative then -magnitude.1 else magnitude.1, magnitude.2)
  | _ => none

/-- Whether a double is a whole number. -/
def isWhole (x : Binary64) : Bool :=
  match x.toRatio? with
  | some (num, den) => num % (den : Int) == 0
  | none => false

/-- Numeric equality with an integer. -/
def eqInt (x : Binary64) (n : Int) : Bool :=
  match x.toRatio? with
  | some (num, den) => num == n * (den : Int)
  | none => false

/-- Numeric equality: the two zeros are equal, and not-a-number equals nothing. -/
def numEq : Binary64 → Binary64 → Bool
  | .nan, _ => false
  | .finite n m e, .finite n' m' e' => (m == 0 && m' == 0) || (n == n' && m == m' && e == e')
  | x, y => x == y

end Binary64

end BusinessModel
