import BuildLine.Decimal.Shortest

/-!
# Dates and times of day

Calendar dates of the years 1 to 9999, times of day to the microsecond, and moments: a date with a
time and, where one was given, the offset from universal time. Each has two texts. The *display* is
the ordered notation with hyphens and colons; the *literal* names the kind of value and lists its
parts, leaving out seconds and microseconds from the right while they are zero.
-/

namespace BuildLine.Data

open Decimal (padded)

/-- A day of the calendar. -/
structure Date where
  /-- From 1 to 9999. -/
  year : Nat
  /-- From 1 to 12. -/
  month : Nat
  /-- From 1 to the length of the month. -/
  day : Nat
  deriving DecidableEq, Repr

/-- A time of day. -/
structure TimeOfDay where
  /-- From 0 to 23. -/
  hour : Nat
  /-- From 0 to 59. -/
  minute : Nat
  /-- From 0 to 59. -/
  second : Nat
  /-- From 0 to 999999. -/
  microsecond : Nat
  deriving DecidableEq, Repr

/-- A date and a time of day, at an offset from universal time if one is known. -/
structure Moment where
  /-- The day. -/
  date : Date
  /-- The time of that day. -/
  time : TimeOfDay
  /-- Minutes ahead of universal time. -/
  offset : Option Int
  deriving DecidableEq, Repr

/-- Years divisible by four, without the full centuries that are not divisible by four hundred. -/
def isLeap (year : Nat) : Bool :=
  year % 4 == 0 && (year % 100 != 0 || year % 400 == 0)

/-- The number of days of a month. -/
def monthLength (year month : Nat) : Nat :=
  if month = 2 then if isLeap year then 29 else 28
  else if [4, 6, 9, 11].contains month then 30 else 31

/-- The day exists. -/
def Date.isValid (d : Date) : Bool :=
  1 ≤ d.year && d.year ≤ 9999 && 1 ≤ d.month && d.month ≤ 12 && 1 ≤ d.day &&
    d.day ≤ monthLength d.year d.month

/-- Parts of a literal, with commas between them. -/
def argumentList (ns : List Nat) : String :=
  String.intercalate ", " (ns.map toString)

/-- The parts of a time that a literal lists. -/
def TimeOfDay.parts (t : TimeOfDay) : List Nat :=
  if t.microsecond ≠ 0 then [t.hour, t.minute, t.second, t.microsecond]
  else if t.second ≠ 0 then [t.hour, t.minute, t.second]
  else [t.hour, t.minute]

/-- Year, month and day between hyphens. -/
def Date.display (d : Date) : String :=
  padded 4 d.year ++ "-" ++ padded 2 d.month ++ "-" ++ padded 2 d.day

/-- The literal of a date. -/
def Date.literal (d : Date) : String :=
  "datetime.date(" ++ argumentList [d.year, d.month, d.day] ++ ")"

/-- Hours, minutes and seconds between colons, and the microseconds if there are any. -/
def TimeOfDay.display (t : TimeOfDay) : String :=
  padded 2 t.hour ++ ":" ++ padded 2 t.minute ++ ":" ++ padded 2 t.second ++
    (if t.microsecond = 0 then "" else "." ++ padded 6 t.microsecond)

/-- The literal of a time of day. -/
def TimeOfDay.literal (t : TimeOfDay) : String :=
  "datetime.time(" ++ argumentList t.parts ++ ")"

/-- An offset as signed hours and minutes. -/
def offsetDisplay (minutes : Int) : String :=
  let n := minutes.natAbs
  (if minutes < 0 then "-" else "+") ++ padded 2 (n / 60) ++ ":" ++ padded 2 (n % 60)

/-- The literal of an offset: universal time has a name, any other offset is a length of time in
seconds, counted from the start of a day. -/
def offsetLiteral (minutes : Int) : String :=
  if minutes = 0 then "datetime.timezone.utc"
  else if minutes < 0 then
    s!"datetime.timezone(datetime.timedelta(days=-1, seconds={86400 + minutes * 60}))"
  else s!"datetime.timezone(datetime.timedelta(seconds={minutes * 60}))"

/-- Date and time with a space between them, and the offset if one is known. -/
def Moment.display (m : Moment) : String :=
  m.date.display ++ " " ++ m.time.display ++ (m.offset.map offsetDisplay).getD ""

/-- The literal of a moment. -/
def Moment.literal (m : Moment) : String :=
  "datetime.datetime(" ++
    argumentList ([m.date.year, m.date.month, m.date.day] ++ m.time.parts) ++
    (match m.offset with
      | none => ""
      | some z => ", tzinfo=" ++ offsetLiteral z) ++ ")"

end BuildLine.Data
