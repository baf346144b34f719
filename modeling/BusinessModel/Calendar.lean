/-!
# Dates and times

Dates of the proleptic Gregorian calendar from year 1 to year 9999, and times of day with an
optional offset from universal time.  `Date.make` and `DateTime.make` check every part and name the
first one that is out of range.

* `DateTime.instant` — seconds and microseconds since the beginning of year 1 in universal time, by
  which times with an offset are compared
-/

namespace BusinessModel

/-- A calendar day. -/
structure Date where
  year : Nat
  month : Nat
  day : Nat
  deriving DecidableEq, Repr, Inhabited

/-- A time of a day, with its offset from universal time in seconds when it is known. -/
structure DateTime where
  date : Date
  hour : Nat
  minute : Nat
  second : Nat
  microsecond : Nat
  offset : Option Int
  deriving DecidableEq, Repr, Inhabited

/-- What is wrong with the parts of a date or time. -/
inductive CalendarFault where
  | yearRange (year : Nat)
  | monthRange
  | dayRange
  | hourRange
  | minuteRange
  | secondRange
  | offsetRange (seconds : Int)
  deriving DecidableEq, Repr

namespace Date

def isLeapYear (year : Nat) : Bool :=
  year % 4 == 0 && (year % 100 != 0 || year % 400 == 0)

def daysInMonth (year month : Nat) : Nat :=
  if month = 2 then (if isLeapYear year then 29 else 28)
  else if month = 4 ∨ month = 6 ∨ month = 9 ∨ month = 11 then 30
  else 31

/-- A checked date. -/
def make (year month day : Nat) : Except CalendarFault Date :=
  if year < 1 ∨ 9999 < year then .error (.yearRange year)
  else if month < 1 ∨ 12 < month then .error .monthRange
  else if day < 1 ∨ daysInMonth year month < day then .error .dayRange
  else .ok ⟨year, month, day⟩

/-- The number of days since the first of January of year 1. -/
def ordinal (d : Date) : Nat :=
  let past := d.year - 1
  let months := (List.range (d.month - 1)).foldl (fun days m => days + daysInMonth d.year (m + 1)) 0
  past * 365 + past / 4 - past / 100 + past / 400 + months + d.day - 1

/-- The month, among some months of a year, and the day in it that a number of days leads to. -/
def monthAndDay (year : Nat) : List Nat → Nat → Nat × Nat
  | [], days => (12, days + 1)
  | month :: later, days =>
    let length := daysInMonth year month
    if days < length then (month, days + 1) else monthAndDay year later (days - length)

/-- The date so many days after the first of January of year 1.  Cycles of 400, 100 and 4 years are
counted off first; the last of four centuries and the last of four years are a day longer. -/
def ofOrdinal (days : Nat) : Date :=
  let inEra := days % 146097
  let century := min (inEra / 36524) 3
  let inCentury := inEra - century * 36524
  let inCycle := inCentury % 1461
  let yearOfCycle := min (inCycle / 365) 3
  let year := days / 146097 * 400 + century * 100 + inCentury / 1461 * 4 + yearOfCycle + 1
  let (month, day) := monthAndDay year (List.range' 1 12) (inCycle - yearOfCycle * 365)
  ⟨year, month, day⟩

/-- A natural with leading zeros up to a width. -/
def padded (width n : Nat) : String :=
  let digits := n.repr.toList
  String.ofList (List.replicate (width - digits.length) '0' ++ digits)

/-- Year, month and day joined by dashes. -/
def text (d : Date) : String :=
  s!"{padded 4 d.year}-{padded 2 d.month}-{padded 2 d.day}"

end Date

namespace DateTime

/-- A checked time of day. -/
def make (date : Date) (hour minute second microsecond : Nat) (offset : Option Int) :
    Except CalendarFault DateTime :=
  if 23 < hour then .error .hourRange
  else if 59 < minute then .error .minuteRange
  else if 59 < second then .error .secondRange
  else .ok ⟨date, hour, minute, second, microsecond, offset⟩

/-- An offset lies strictly between minus and plus one day. -/
def checkOffset (seconds : Int) : Except CalendarFault Int :=
  if -86400 < seconds ∧ seconds < 86400 then .ok seconds else .error (.offsetRange seconds)

/-- Microseconds since the beginning of year 1, in universal time when the offset is known. -/
def instant (t : DateTime) : Int :=
  let seconds : Int := t.date.ordinal * 86400 + t.hour * 3600 + t.minute * 60 + t.second
  (seconds - t.offset.getD 0) * 1000000 + t.microsecond

/-- The time in universal time that is so many microseconds after the beginning of year 1. -/
def ofInstant (microseconds : Nat) : DateTime :=
  let seconds := microseconds / 1000000
  ⟨Date.ofOrdinal (seconds / 86400), seconds / 3600 % 24, seconds / 60 % 60, seconds % 60,
    microseconds % 1000000, some 0⟩

/-- Whether two times are the same moment; a time without an offset is only the same as another
without one. -/
def sameMoment (t u : DateTime) : Bool :=
  t.offset.isSome == u.offset.isSome && t.instant == u.instant

/-- An offset as hours and minutes, with seconds only if there are any. -/
def offsetText (seconds : Int) : String :=
  let n := seconds.natAbs
  let rest := if n % 60 = 0 then "" else s!":{Date.padded 2 (n % 60)}"
  let sign := if seconds < 0 then "-" else "+"
  s!"{sign}{Date.padded 2 (n / 3600)}:{Date.padded 2 (n / 60 % 60)}{rest}"

/-- Date and time with a separator between them, a fraction only if there is one. -/
def text (separator : String) (t : DateTime) : String :=
  let fraction := if t.microsecond = 0 then "" else s!".{Date.padded 6 t.microsecond}"
  let zone := match t.offset with
    | none => ""
    | some seconds => offsetText seconds
  let time := s!"{Date.padded 2 t.hour}:{Date.padded 2 t.minute}:{Date.padded 2 t.second}"
  s!"{t.date.text}{separator}{time}{fraction}{zone}"

end DateTime

end BusinessModel
