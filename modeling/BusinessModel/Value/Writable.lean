import BusinessModel.Number.LongInteger
import BusinessModel.Value

/-!
# Values that have a text

Every value has a text but those that hold an integer too long to be written.  A message cannot
show such a value.

* `Value.isWritable` — whether a value has a text
-/

namespace BusinessModel

/-- Whether a scalar has a text. -/
def Scalar.isWritable : Scalar → Bool
  | .int n => isWritableInteger n
  | _ => true

mutual

/-- Whether a value has a text. -/
def Value.isWritable : Value → Bool
  | .scalar s => s.isWritable
  | .list items | .tuple items => areItemsWritable items
  | .set members => members.all Scalar.isWritable
  | .map entries => areEntriesWritable entries

/-- Whether all items of a list have a text. -/
def Value.areItemsWritable : List Value → Bool
  | [] => true
  | item :: rest => item.isWritable && areItemsWritable rest

/-- Whether all keys and values of a mapping have a text. -/
def Value.areEntriesWritable : List (Scalar × Value) → Bool
  | [] => true
  | (key, value) :: rest => key.isWritable && value.isWritable && areEntriesWritable rest

end

end BusinessModel
