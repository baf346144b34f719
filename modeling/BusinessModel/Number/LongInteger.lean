/-!
# Long integers

Integers are of any size, but their decimal texts are not: an integer with more than `digitLimit`
digits is neither read from decimal digits nor written with them.  Other bases have no limit, so
such integers do occur.
-/

namespace BusinessModel

/-- The most decimal digits that the text of an integer has. -/
def digitLimit : Nat := 4300

/-- An integer that has no decimal text. -/
inductive LongInteger where
  /-- It was to be read from so many digits. -/
  | read (count : Nat)
  /-- It was to be written. -/
  | written
  deriving DecidableEq, Repr

def LongInteger.message (f : LongInteger) : String :=
  let digits := match f with
    | read count => s!": value has {count} digits"
    | written => ""
  s!"Exceeds the limit ({digitLimit} digits) for integer string conversion{digits}; "
    ++ "use sys.set_int_max_str_digits() to increase the limit"

/-- Whether an integer has a decimal text. -/
def isWritableInteger (n : Int) : Bool :=
  n.natAbs < Nat.pow 10 digitLimit

end BusinessModel
