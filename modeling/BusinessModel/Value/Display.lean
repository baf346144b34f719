import BusinessModel.Number.Shortest
import BusinessModel.Text.Quoted
import BusinessModel.Value.SetOrder

/-!
# Values inside messages

A message shows a value in one of two ways: `Value.display` is the value as a reader says it, with
texts bare, and `Value.inspect` the value as it would be written down, with texts quoted.  The two
differ on texts, dates and times only; the parts of a collection are always inspected.
-/

namespace BusinessModel

/-- Numbers have a point or an exponent: an exponent of at least two digits when the point would
stand more than sixteen digits to the right or four zeros to the left. -/
def floatLayout : DecimalLayout where
  pointAbove := -4
  pointUpTo := 16
  exponentDigits := 2
  infinity := "inf"
  notNumber := "nan"

/-- The shortest text of a double. -/
def floatText (x : Binary64) : String :=
  x.text floatLayout

/-- Items separated by commas. -/
def commaSeparated (items : List String) : String :=
  ", ".intercalate items

namespace Date

/-- A date by its parts. -/
def inspect (d : Date) : String :=
  s!"datetime.date({d.year}, {d.month}, {d.day})"

end Date

namespace DateTime

/-- A span of seconds by whole days, the last of them not yet full, and the seconds into it. -/
def inspectSpan (seconds : Int) : String :=
  let days := seconds / 86400
  let rest := seconds % 86400
  let parts := (if days = 0 then [] else [s!"days={days}"])
    ++ (if rest = 0 then [] else [s!"seconds={rest}"])
  let shown := if parts.isEmpty then "0" else commaSeparated parts
  s!"datetime.timedelta({shown})"

/-- A time by its parts: trailing zero seconds and microseconds are left out. -/
def inspect (t : DateTime) : String :=
  let base := [t.date.year, t.date.month, t.date.day, t.hour, t.minute]
  let fine :=
    if t.microsecond = 0 then (if t.second = 0 then [] else [t.second])
    else [t.second, t.microsecond]
  let zone := match t.offset with
    | none => []
    | some seconds =>
      if seconds = 0 then ["tzinfo=datetime.timezone.utc"]
      else [s!"tzinfo=datetime.timezone({inspectSpan seconds})"]
  s!"datetime.datetime({commaSeparated ((base ++ fine).map Nat.repr ++ zone)})"

end DateTime

/-- Which part of a date or time is out of range, and of which range. -/
def CalendarFault.message : CalendarFault → String
  | yearRange year => s!"year {year} is out of range"
  | monthRange => "month must be in 1..12"
  | dayRange => "day is out of range for month"
  | hourRange => "hour must be in 0..23"
  | minuteRange => "minute must be in 0..59"
  | secondRange => "second must be in 0..59"
  | offsetRange seconds =>
    "offset must be a timedelta strictly between -timedelta(hours=24) and timedelta(hours=24), not "
      ++ s!"{DateTime.inspectSpan seconds}."

/-- A scalar as it would be written down. -/
def Scalar.inspect : Scalar → String
  | .null => "None"
  | .bool b => if b then "True" else "False"
  | .int n => n.repr
  | .float x => floatText x
  | .str s => quoted s
  | .bytes content => quotedBytes content
  | .date d => d.inspect
  | .datetime t => t.inspect

/-- A scalar as a reader says it. -/
def Scalar.display : Scalar → String
  | .str s => s
  | .date d => d.text
  | .datetime t => t.text " "
  | s => s.inspect

mutual

/-- A value as it would be written down. -/
def Value.inspect : Value → String
  | .scalar s => s.inspect
  | .list items => s!"[{commaSeparated (inspectItems items)}]"
  | .tuple items =>
    match inspectItems items with
    | [one] => s!"({one},)"
    | parts => s!"({commaSeparated parts})"
  | .set members =>
    if members.isEmpty then "set()"
    else "\x7b" ++ commaSeparated ((Scalar.arranged members).map Scalar.inspect) ++ "\x7d"
  | .map entries => "\x7b" ++ commaSeparated (inspectEntries entries) ++ "\x7d"

/-- The items of a list as they would be written down. -/
def Value.inspectItems : List Value → List String
  | [] => []
  | item :: rest => item.inspect :: inspectItems rest

/-- The entries of a mapping as they would be written down. -/
def Value.inspectEntries : List (Scalar × Value) → List String
  | [] => []
  | (key, value) :: rest => s!"{key.inspect}: {value.inspect}" :: inspectEntries rest

end

/-- A value as a reader says it. -/
def Value.display : Value → String
  | .scalar s => s.display
  | v => v.inspect

/-- A list of texts as it would be written down. -/
def inspectTexts (texts : List String) : String :=
  s!"[{commaSeparated (texts.map quoted)}]"

end BusinessModel
