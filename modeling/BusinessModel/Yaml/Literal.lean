import BusinessModel.Number.Numeral
import BusinessModel.Text.Lowercase
import BusinessModel.Yaml.Fault

/-!
# Literals

The values of scalars with a tag: numbers in several notations, truth values, dates and times, and
bytes in base 64.

Integers: underscores count for nothing; `0b` and `0x` begin the bases two and sixteen, another
leading zero the base eight, and colons separate digits to the base sixty.  Doubles: underscores
count for nothing and colons separate digits to the base sixty too.
-/

namespace BusinessModel.Yaml.Literal

open Numeral (signed withSign)

/-! ### Integers -/

/-- The integer of a text in some base. -/
def integer (base : Nat) (s : List Char) : Except Misfit Int :=
  (Numeral.integer base s).mapError fun
    | .notInteger => .notInteger base (String.ofList s)
    | .long count => .longInteger (.read count)

/-- The integer of digits to the base sixty. -/
def sexagesimal (parts : List Int) : Int :=
  parts.foldl (fun n part => n * 60 + part) 0

/-- The value of a text with an integer tag. -/
def int (text : String) : Except Misfit Int := do
  let s := text.toList.filter (· != '_')
  if s.isEmpty then .error .emptyText
  else
    let (negative, s) := signed s
    match s with
    | [] => .error .emptyText
    | ['0'] => return 0
    | '0' :: 'b' :: digits => return withSign negative (← integer 2 digits)
    | '0' :: 'x' :: digits => return withSign negative (← integer 16 digits)
    | '0' :: _ => return withSign negative (← integer 8 s)
    | _ =>
      if s.contains ':' then
        let parts ← ((String.ofList s).splitOn ":").mapM fun part => integer 10 part.toList
        return withSign negative (sexagesimal parts)
      else return withSign negative (← integer 10 s)

/-! ### Doubles -/

/-- The double of a text. -/
def double (s : List Char) : Except Misfit Binary64 :=
  match Numeral.double? s with
  | some x => .ok x
  | none => .error (.notNumber (String.ofList s))

/-- The double of digits to the base sixty, last first, of which the first counts `unit`.  The sum
starts with the last digit. -/
def sexagesimalDouble (unit : Nat) (sum : Binary64) : List Binary64 → Except Misfit Binary64
  | [] => .ok sum
  | digit :: rest =>
    match Binary64.ofInt unit with
    | .infinite _ => .error .tooLarge
    | x => sexagesimalDouble (unit * 60) (sum.add (digit.mul x)) rest

/-- Whether a text is the literal for what is no number. -/
def isNotNumber (text : String) : Bool :=
  let (_, s) := signed (lowercaseFrom [] (text.toList.filter (· != '_')))
  String.ofList s == ".nan"

/-- The value of a text with a double tag. -/
def float (text : String) : Except Misfit Binary64 := do
  let s := lowercaseFrom [] (text.toList.filter (· != '_'))
  if s.isEmpty then .error .emptyText
  else
    let (negative, s) := signed s
    let withSign (x : Binary64) : Binary64 := if negative then x.neg else x
    let word := String.ofList s
    if word = ".inf" then return .infinite negative
    else if word = ".nan" then return .nan
    else if s.contains ':' then
      let digits ← (word.splitOn ":").mapM fun part => double part.toList
      return withSign (← sexagesimalDouble 1 (Binary64.zero false) digits.reverse)
    else return withSign (← double s)

/-! ### Truth values -/

/-- The value of a text with a truth value tag, in any case. -/
def bool (text : String) : Except Misfit Bool :=
  let word := lowercase text
  if word = "yes" ∨ word = "true" ∨ word = "on" then .ok true
  else if word = "no" ∨ word = "false" ∨ word = "off" then .ok false
  else .error (.notBoolean word)

/-! ### Dates and times -/

/-- A number of at least `least` and at most `most` digits, and what follows it. -/
def number? (least most : Nat) (s : List Char) : Option (Nat × List Char) :=
  let digits := (s.take most).takeWhile Char.isDigit
  if digits.length < least then none else some (Digits.decimal digits, s.drop digits.length)

/-- What follows one expected character. -/
def after? (c : Char) (s : List Char) : Option (List Char) :=
  match s with
  | [] => none
  | ch :: rest => if ch = c then some rest else none

/-- The parts of a date or time as they are written. -/
structure Stamp where
  year : Nat
  month : Nat
  day : Nat
  time : Option (Nat × Nat × Nat)
  microsecond : Nat
  offset : Option Int

/-- The microseconds of a fraction of a second: its first six digits. -/
def microseconds (digits : List Char) : Nat :=
  let used := digits.take 6
  Digits.decimal used * Nat.pow 10 (6 - used.length)

/-- An offset from universal time in seconds, and what follows it. -/
def offset? (s : List Char) : Option (Int × List Char) :=
  match s with
  | 'Z' :: rest => some (0, rest)
  | '+' :: rest | '-' :: rest => do
    let (hours, rest) ← number? 1 2 rest
    let (minutes, rest) := match after? ':' rest >>= number? 2 2 with
      | some (minutes, rest) => (minutes, rest)
      | none => (0, rest)
    let seconds : Int := hours * 3600 + minutes * 60
    return (withSign (s.head? == some '-') seconds, rest)
  | _ => none

/-- Whether nothing but one line end follows. -/
def atEnd (s : List Char) : Bool := s == [] || s == ['\n']

/-- The parts of a time behind its date, and what follows them. -/
def clock? (s : List Char) : Option ((Nat × Nat × Nat) × Nat × Option Int × List Char) := do
  let (hour, s) ← number? 1 2 s
  let (minute, s) ← after? ':' s >>= number? 2 2
  let (second, s) ← after? ':' s >>= number? 2 2
  let (microsecond, s) := match s with
    | '.' :: rest => (microseconds (rest.takeWhile Char.isDigit), rest.dropWhile Char.isDigit)
    | _ => (0, s)
  let (offset, s) := match offset? (s.dropWhile isBlank) with
    | some (offset, s) => (some offset, s)
    | none => (none, s)
  return ((hour, minute, second), microsecond, offset, s)

/-- The parts of a date, and of a time if one follows. -/
def stamp? (s : List Char) : Option Stamp := do
  let (year, s) ← number? 4 4 s
  let (month, s) ← after? '-' s >>= number? 1 2
  let (day, s) ← after? '-' s >>= number? 1 2
  if atEnd s then return ⟨year, month, day, none, 0, none⟩
  else
    let s ← match s with
      | 'T' :: rest | 't' :: rest => some rest
      | c :: rest => if isBlank c then some (rest.dropWhile isBlank) else none
      | [] => none
    let (time, microsecond, offset, s) ← clock? s
    if atEnd s then return ⟨year, month, day, some time, microsecond, offset⟩ else none

/-- The value of a text with a timestamp tag. -/
def timestamp (text : String) : Except Misfit Scalar := do
  match stamp? text.toList with
  | none => .error .notTime
  | some stamp =>
    let checked : Except CalendarFault Scalar := do
      match stamp.time with
      | none => return .date (← Date.make stamp.year stamp.month stamp.day)
      | some (hour, minute, second) =>
        let offset ← stamp.offset.mapM DateTime.checkOffset
        let date ← Date.make stamp.year stamp.month stamp.day
        return .datetime (← DateTime.make date hour minute second stamp.microsecond offset)
    checked.mapError .calendar

/-! ### Bytes -/

/-- The value of a character of base 64. -/
def base64Value? (c : Char) : Option Nat :=
  if 'A' ≤ c ∧ c ≤ 'Z' then some (c.toNat - 65)
  else if 'a' ≤ c ∧ c ≤ 'z' then some (c.toNat - 71)
  else if '0' ≤ c ∧ c ≤ '9' then some (c.toNat + 4)
  else if c = '+' then some 62
  else if c = '/' then some 63
  else none

/-- The state of decoding: the bytes so far (last first), how many characters of the current group
of four have come, the bits of the last of them that are not used yet, and the padding signs in a
row. -/
structure Base64 where
  bytes : List UInt8
  position : Nat
  left : Nat
  pads : Nat

namespace Base64

/-- A character that carries six bits. -/
def push (s : Base64) (bits : Nat) : Base64 :=
  match s.position with
  | 0 => ⟨s.bytes, 1, bits, 0⟩
  | 1 => ⟨UInt8.ofNat (s.left * 4 + bits / 16) :: s.bytes, 2, bits % 16, 0⟩
  | 2 => ⟨UInt8.ofNat (s.left * 16 + bits / 4) :: s.bytes, 3, bits % 4, 0⟩
  | _ => ⟨UInt8.ofNat (s.left * 64 + bits) :: s.bytes, 0, 0, 0⟩

/-- What is wrong with data that end in the middle of a group. -/
def shortage (s : Base64) : String :=
  if s.position = 1 then
    s!"Invalid base64-encoded string: number of data characters ({s.bytes.length / 3 * 4 + 1}) "
      ++ "cannot be 1 more than a multiple of 4"
  else "Incorrect padding"

/-- Decode to the end or to a completed group of padding; characters outside the alphabet count for
nothing. -/
def decode (s : Base64) : List Char → Except String (List UInt8)
  | [] => if s.position = 0 then .ok s.bytes.reverse else .error s.shortage
  | c :: rest =>
    if c = '=' then
      if 2 ≤ s.position ∧ 4 ≤ s.position + s.pads + 1 then .ok s.bytes.reverse
      else decode (if 2 ≤ s.position then { s with pads := s.pads + 1 } else s) rest
    else
      match base64Value? c with
      | some bits => decode (s.push bits) rest
      | none => decode s rest

end Base64

/-- What is wrong with data that are not ASCII: the first run of characters beyond it. -/
def beyondAscii? (s : List Char) : Option String :=
  let isAscii (c : Char) : Bool := c.toNat < 128
  let position := (s.takeWhile isAscii).length
  match (s.drop position).takeWhile fun c => !isAscii c with
  | [] => none
  | [c] =>
    let shown := String.ofList (Quoted.codeEscape c.toNat)
    some (s!"'ascii' codec can't encode character '{shown}' in position {position}: "
      ++ "ordinal not in range(128)")
  | run =>
    let last := position + run.length - 1
    some (s!"'ascii' codec can't encode characters in position {position}-{last}: "
      ++ "ordinal not in range(128)")

/-- The value of a text with a binary tag. -/
def binary (text : String) : Except Problem (List UInt8) :=
  match beyondAscii? text.toList with
  | some reason => .error (.notAscii reason)
  | none => ((Base64.mk [] 0 0 0).decode text.toList).mapError .notBase64

end BusinessModel.Yaml.Literal
