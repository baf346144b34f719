/-!
# Digits

Naturals from digits in a base up to sixteen; letters of either case stand for the digits from ten
on.
-/

namespace BusinessModel.Digits

/-- The value of a digit in some base. -/
def value? (base : Nat) (c : Char) : Option Nat :=
  let n :=
    if '0' ≤ c ∧ c ≤ '9' then c.toNat - 48
    else if 'a' ≤ c ∧ c ≤ 'f' then c.toNat - 87
    else if 'A' ≤ c ∧ c ≤ 'F' then c.toNat - 55
    else base
  if n < base then some n else none

/-- The number of some digits in some base, if all of them are digits. -/
def number? (base : Nat) (digits : List Char) : Option Nat :=
  digits.foldl (fun n c => do return (← n) * base + (← value? base c)) (some 0)

/-- The number of some decimal digits. -/
def decimal (digits : List Char) : Nat :=
  digits.foldl (fun n c => n * 10 + (c.toNat - 48)) 0

end BusinessModel.Digits
