import BusinessModel.Pointer
import BusinessModel.Schema.TextPattern
import BusinessModel.Value.Display
import BusinessModel.Value.Writable

/-!
# Schemas

A schema is a conjunction of assertions about a value.  Assertions about mappings, lists, texts or
numbers say nothing about other values.  `Schema.violations` lists every assertion that fails, with
its place below the value and its cause; a value is valid when nothing fails.

* `Schema.violations`, `Schema.isValid`
* `Fault.message`, `Fault.code` — the sentence and the code of a failed assertion
-/

namespace BusinessModel

/-- The types that a schema can ask for. -/
inductive TypeName where
  | array
  | boolean
  | integer
  | null
  | number
  | object
  | string
  deriving DecidableEq, Repr, Inhabited

namespace TypeName

def all : List TypeName := [array, boolean, integer, null, number, object, string]

def name : TypeName → String
  | array => "array"
  | boolean => "boolean"
  | integer => "integer"
  | null => "null"
  | number => "number"
  | object => "object"
  | string => "string"

def ofName? (name : String) : Option TypeName :=
  all.find? fun t => t.name == name

/-- Whether a value has a type.  Whole doubles are integers too; tuples, sets, dates, times and byte
strings have none of the types. -/
def holds : TypeName → Value → Bool
  | array, .list _ => true
  | boolean, .bool _ => true
  | integer, .int _ => true
  | integer, .float x => x.isWhole
  | null, .null => true
  | number, .int _ => true
  | number, .float _ => true
  | object, .map _ => true
  | string, .str _ => true
  | _, _ => false

end TypeName

namespace Scalar

/-- The exact value of a number: a numerator and a positive denominator. -/
def ratio? : Scalar → Option (Int × Nat)
  | .int n => some (n, 1)
  | .float x => x.toRatio?
  | _ => none

def isNumber : Scalar → Bool
  | .int _ | .float _ => true
  | _ => false

/-- Whether one number is below another. -/
def below (a b : Scalar) : Bool :=
  a.isNumber && b.isNumber &&
    match a, b with
    | .float .nan, _ => false
    | _, .float .nan => false
    | .float (.infinite negative), b => negative && b != .float (.infinite true)
    | _, .float (.infinite negative) => !negative
    | a, b =>
      match a.ratio?, b.ratio? with
      | some (m, c), some (n, d) => m * d < n * c
      | _, _ => false

/-- Equality of scalars as a schema sees it: numbers by value, truth values apart from them. -/
def same (a b : Scalar) : Bool :=
  match a, b with
  | .bool b, .bool c => b == c
  | .bool _, _ => false
  | _, .bool _ => false
  | a, b => a.sameKey b

end Scalar

mutual

/-- Equality of values as a schema sees it: the order of members does not matter. -/
def Value.same : Value → Value → Bool
  | .scalar a, .scalar b => a.same b
  | .list items, .list others => sameItems items others
  | .list items, .tuple others => sameItems items others
  | .tuple items, .list others => sameItems items others
  | .tuple items, .tuple others => sameItems items others
  | .set members, .set others =>
    members.length == others.length && members.all fun m => others.any m.same
  | .map entries, .map others => entries.length == others.length && sameEntries entries others
  | _, _ => false

def Value.sameItems : List Value → List Value → Bool
  | [], [] => true
  | a :: rest, b :: others => a.same b && sameItems rest others
  | _, _ => false

def Value.sameEntries : List (Scalar × Value) → Mapping → Bool
  | [], _ => true
  | (key, value) :: rest, others =>
    (match others.find? fun e => e.1.sameKey key with
      | some other => value.same other.2
      | none => false) && sameEntries rest others

end

/-- Whether the items of a list are pairwise different. -/
def Value.distinct : List Value → Bool
  | [] => true
  | item :: rest => !rest.any item.same && distinct rest

/-- An assertion about a value, or a conjunction of them. -/
inductive Schema where
  /-- Everything is valid. -/
  | anything
  /-- Nothing is valid. -/
  | nothing
  | all (parts : List Schema)
  | anyOf (parts : List Schema)
  | hasType (types : List TypeName)
  | exactly (wanted : Value)
  | oneOf (choices : List Value)
  /-- Members that a mapping must have. -/
  | required (names : List String)
  /-- Schemas for the members that a mapping has. -/
  | members (schemas : List (String × Schema))
  /-- A schema for the members that are not among the known ones. -/
  | others (known : List String) (schema : Schema)
  /-- The known members are the only ones. -/
  | noOthers (known : List String)
  /-- Schemas for the first items of a list. -/
  | leadingItems (schemas : List Schema)
  /-- A schema for the items behind the first `start`. -/
  | items (start : Nat) (schema : Schema)
  /-- There are no items behind the first `count`. -/
  | noItemsAfter (count : Nat)
  | minItems (count : Nat)
  | maxItems (count : Nat)
  | distinctItems
  | minLength (count : Nat)
  | maxLength (count : Nat)
  | pattern (p : TextPattern)
  | minimum (bound : Scalar)
  | above (bound : Scalar)
  | maximum (bound : Scalar)
  /-- Values that are valid under the condition must be valid under the consequence. -/
  | implies (condition consequence : Schema)
  deriving Inhabited

namespace Schema

/-- Why an assertion fails. -/
inductive Fault where
  | forbidden (value : Value)
  | noAlternative (value : Value)
  | wrongType (value : Value) (types : List TypeName)
  | notExactly (wanted : Value)
  | notAmong (value : Value) (choices : List Value)
  | missing (name : String)
  | unexpected (keys : List Scalar)
  | tooManyItems (count : Nat) (extra : List Value)
  | tooFewItems (value : Value) (count : Nat)
  | tooLongList (value : Value) (count : Nat)
  | repeatedItems (value : Value)
  | tooShort (value : Value) (count : Nat)
  | tooLong (value : Value) (count : Nat)
  | noMatch (value : Value) (p : TextPattern)
  | belowMinimum (value : Value) (bound : Scalar)
  | notAbove (value : Value) (bound : Scalar)
  | aboveMaximum (value : Value) (bound : Scalar)
  /-- A schema document asserts something by a keyword that schemas here cannot say. -/
  | unsaid (keyword : String)

namespace Fault

/-- Keys that should not be there, in the order of their texts. -/
def unexpectedText (keys : List Scalar) : String :=
  let sortedKeys := keys.mergeSort fun a b => decide (a.display ≤ b.display)
  let verb := if keys.length = 1 then "was" else "were"
  s!"({commaSeparated (sortedKeys.map Scalar.inspect)} {verb} unexpected)"

/-- What is said of a text or list with too few parts. -/
def shortText (count : Nat) : String :=
  if count = 1 then "should be non-empty" else "is too short"

/-- What is said of a text or list with too many parts. -/
def longText (count : Nat) : String :=
  if count = 0 then "is expected to be empty" else "is too long"

def message : Fault → String
  | forbidden value => s!"False schema does not allow {value.inspect}"
  | noAlternative value => s!"{value.inspect} is not valid under any of the given schemas"
  | wrongType value types =>
    s!"{value.inspect} is not of type {commaSeparated (types.map fun t => quoted t.name)}"
  | notExactly wanted => s!"{wanted.inspect} was expected"
  | notAmong value choices => s!"{value.inspect} is not one of {(Value.list choices).inspect}"
  | missing name => s!"{quoted name} is a required property"
  | unexpected keys => s!"Additional properties are not allowed {unexpectedText keys}"
  | tooManyItems count extra =>
    let noun := if count = 1 then "item" else "items"
    let shown := match extra with
      | [one] => one.inspect
      | extra => (Value.list extra).inspect
    s!"Expected at most {count} {noun} but found {extra.length} extra: {shown}"
  | tooFewItems value count | tooShort value count => s!"{value.inspect} {shortText count}"
  | tooLongList value count | tooLong value count => s!"{value.inspect} {longText count}"
  | repeatedItems value => s!"{value.inspect} has non-unique elements"
  | noMatch value p => s!"{value.inspect} does not match {quoted p.source}"
  | belowMinimum value bound => s!"{value.inspect} is less than the minimum of {bound.inspect}"
  | notAbove value bound =>
    s!"{value.inspect} is less than or equal to the minimum of {bound.inspect}"
  | aboveMaximum value bound =>
    s!"{value.inspect} is greater than the maximum of {bound.inspect}"
  | unsaid keyword => s!"{quoted keyword} cannot be said by a schema"

/-- The values that a message shows. -/
def shown : Fault → List Value
  | forbidden value | noAlternative value | notExactly value => [value]
  | wrongType value _ | noMatch value _ | repeatedItems value => [value]
  | tooFewItems value _ | tooShort value _ | tooLongList value _ | tooLong value _ => [value]
  | notAmong value choices => value :: choices
  | missing _ | unsaid _ => []
  | unexpected keys => keys.map Value.scalar
  | tooManyItems _ extra => extra
  | belowMinimum value bound | notAbove value bound | aboveMaximum value bound =>
    [value, .scalar bound]

/-- The code of a failed assertion; assertions that documents rarely meet share one. -/
def code : Fault → String
  | missing _ => "MISSING_REQUIRED_FIELD"
  | unexpected _ => "UNKNOWN_FIELD"
  | notAmong _ _ => "ENUM_MISMATCH"
  | notExactly _ => "CONST_VIOLATION"
  | wrongType _ _ => "WRONG_TYPE"
  | noMatch _ _ => "PATTERN_MISMATCH"
  | tooShort _ _ => "MIN_LENGTH_VIOLATION"
  | tooFewItems _ _ | tooLongList _ _ | tooManyItems _ _ => "WRONG_LENGTH"
  | _ => "SCHEMA_ERROR"

end Fault

/-- A failed assertion and its place below the checked value. -/
structure Violation where
  place : Pointer
  fault : Fault

/-- Whether everything that a violation shows has a text. -/
def Violation.isWritable (v : Violation) : Bool := v.fault.shown.all Value.isWritable

/-- The violations of a part, seen from the whole.  What a schema forbids altogether is held against
the whole, everything else against the part. -/
def under (schema : Schema) (step : Step) (violations : List Violation) : List Violation :=
  match schema with
  | .nothing => violations
  | _ => violations.map fun v => ⟨step :: v.place, v.fault⟩

/-- A single violation, unless the assertion holds. -/
def failing (holds : Bool) (fault : Fault) : List Violation :=
  if holds then [] else [⟨[], fault⟩]

/-- The keys of a mapping that are not among the known ones. -/
def unknownKeys (known : List String) (entries : Mapping) : List Scalar :=
  (entries.filter fun e => !known.any fun name => e.1 == .str name).map (·.1)

mutual

/-- Every assertion that fails for a value. -/
def violations : Schema → Value → List Violation
  | .anything, _ => []
  | .nothing, value => [⟨[], .forbidden value⟩]
  | .all parts, value => violationsOfAll parts value
  | .anyOf parts, value => failing (validUnderAny parts value) (.noAlternative value)
  | .hasType types, value => failing (types.any (·.holds value)) (.wrongType value types)
  | .exactly wanted, value => failing (wanted.same value) (.notExactly wanted)
  | .oneOf choices, value => failing (choices.any (·.same value)) (.notAmong value choices)
  | .required names, .map entries =>
    names.flatMap fun name => failing (Mapping.hasKey entries name) (.missing name)
  | .members schemas, .map entries => violationsOfMembers schemas entries
  | .others known schema, .map entries =>
    (entries.filter fun e => !known.any fun name => e.1 == .str name).flatMap fun e =>
      under schema (.key e.1.display) (violations schema e.2)
  | .noOthers known, .map entries =>
    let unknown := unknownKeys known entries
    failing unknown.isEmpty (.unexpected unknown)
  | .leadingItems schemas, .list elements => violationsOfLeading schemas 0 elements
  | .items start schema, .list elements =>
    (elements.zipIdx.drop start).flatMap fun item =>
      under schema (.index item.2) (violations schema item.1)
  | .noItemsAfter count, .list elements =>
    failing (elements.length ≤ count) (.tooManyItems count (elements.drop count))
  | .minItems count, .list elements =>
    failing (count ≤ elements.length) (.tooFewItems (.list elements) count)
  | .maxItems count, .list elements =>
    failing (elements.length ≤ count) (.tooLongList (.list elements) count)
  | .distinctItems, .list elements =>
    failing (Value.distinct elements) (.repeatedItems (.list elements))
  | .minLength count, .str s => failing (count ≤ s.length) (.tooShort (.str s) count)
  | .maxLength count, .str s => failing (s.length ≤ count) (.tooLong (.str s) count)
  | .pattern p, .str s => failing (p.foundIn s) (.noMatch (.str s) p)
  | .minimum bound, .scalar s => failing (!s.below bound) (.belowMinimum (.scalar s) bound)
  | .above bound, .scalar s =>
    failing (!s.isNumber || bound.below s) (.notAbove (.scalar s) bound)
  | .maximum bound, .scalar s => failing (!bound.below s) (.aboveMaximum (.scalar s) bound)
  | .implies condition consequence, value =>
    if (violations condition value).isEmpty then violations consequence value else []
  | _, _ => []

def violationsOfAll : List Schema → Value → List Violation
  | [], _ => []
  | part :: rest, value => violations part value ++ violationsOfAll rest value

def validUnderAny : List Schema → Value → Bool
  | [], _ => false
  | part :: rest, value => (violations part value).isEmpty || validUnderAny rest value

def violationsOfMembers : List (String × Schema) → Mapping → List Violation
  | [], _ => []
  | (name, schema) :: rest, entries =>
    (match Mapping.get? entries name with
      | some value => under schema (.key name) (violations schema value)
      | none => []) ++ violationsOfMembers rest entries

def violationsOfLeading : List Schema → Nat → List Value → List Violation
  | schema :: rest, i, element :: elements =>
    under schema (.index i) (violations schema element) ++ violationsOfLeading rest (i + 1) elements
  | _, _, _ => []

end

/-- Whether nothing fails for a value. -/
def isValid (schema : Schema) (value : Value) : Bool :=
  (violations schema value).isEmpty

end Schema

end BusinessModel
