import BusinessModel.Value

/-!
# The order of sets

A set of numbers is written down in the order of a hash table, which has a slot for every residue of
a hash: at least eight slots, and more than twice as many as there are members.  A member whose slot
is taken goes to the first free one of a run behind it, and else tries on from a slot that the
higher digits of its hash decide.

* `Scalar.hash?` — the hash of a number
* `Scalar.arranged` — the members of a set in the order in which they are written down
-/

namespace BusinessModel

/-- The modulus of hashes, a Mersenne prime. -/
def hashModulus : Nat := Nat.pow 2 61 - 1

/-- A hash is never minus one. -/
def settledHash (hash : Int) : Int := if hash = -1 then -2 else hash

namespace Scalar

/-- The hash of a number: its residue, with its sign.  Equal numbers have the same hash; what is not
a number has none. -/
def hash? : Scalar → Option Int
  | .bool b => some (if b then 1 else 0)
  | .int n => some (settledHash (n.tmod hashModulus))
  | .float (.finite negative mantissa exponent) =>
    -- Powers of two repeat after 61 steps, so this holds for negative exponents, too.
    let residue : Int := mantissa * Nat.pow 2 (exponent % 61).toNat % hashModulus
    some (settledHash (if negative then -residue else residue))
  | .float (.infinite negative) => some (if negative then -314159 else 314159)
  | _ => none

/-- The number of slots for some members. -/
def slotCount (members : Nat) : Nat :=
  if members < 5 then 8 else Nat.pow 2 (Nat.log2 (2 * members) + 1)

/-- The first free slot of a run of ten, if the run ends within the table, or the slot itself; if
there is none, the search goes on elsewhere, `rest` being what is left of the hash. -/
def freeSlot (count : Nat) (taken : List Nat) : Nat → Nat → Nat → Nat
  | 0, slot, _ => slot
  | tries + 1, slot, rest =>
    let run := if slot + 9 < count then 10 else 1
    match (List.range' slot run).find? fun s => !taken.contains s with
    | some free => free
    | none => freeSlot count taken tries ((slot * 5 + 1 + rest / 32) % count) (rest / 32)

/-- Members and their slots, in the order in which they are put in. -/
def slotted (count : Nat) (hashes : List (Int × Scalar)) : List (Nat × Scalar) :=
  hashes.foldl (fun slots entry =>
    let hash := (entry.1.emod (Nat.pow 2 64)).toNat
    slots ++ [(freeSlot count (slots.map (·.1)) (count + 13) (hash % count) hash, entry.2)]) []

/-- The members of a set in the order in which they are written down: numbers by their slots,
anything else as it comes. -/
def arranged (members : List Scalar) : List Scalar :=
  match members.mapM fun member => member.hash?.map (·, member) with
  | some hashes =>
    let slots := slotted (slotCount members.length) hashes
    (slots.mergeSort fun a b => decide (a.1 ≤ b.1)).map (·.2)
  | none => members

end Scalar

end BusinessModel
