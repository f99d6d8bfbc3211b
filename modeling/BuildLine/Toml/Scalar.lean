import BuildLine.Data.Value
import BuildLine.Toml.Lexeme

/-!
# Numbers, dates and times of TOML

Dates and times are tried before numbers, because a year is a number, too. What is read is the
longest form that fits: where a time does not follow a date, the date stands alone, and where no
exponent follows a number, the letter after it is left for the next part to refuse.
-/

namespace BuildLine.Toml

open Data (Date TimeOfDay Moment Number Value)
open Decimal (Binary64)

/-- The longest run of decimal digits an integer may have. -/
def integerDigitLimit : Nat := 4300

/-! ### Digits -/

/-- The value of a decimal digit. -/
def digit? (c : Char) : Option Nat :=
  if c.isDigit then some (c.toNat - 48) else none

/-- A number of exactly two digits, within bounds. -/
def twoDigits? (low high : Nat) : List Char → Option (Nat × List Char)
  | a :: b :: r => do
    let n := 10 * (← digit? a) + (← digit? b)
    if low ≤ n && n ≤ high then some (n, r) else none
  | _ => none

/-- The given character. -/
def mark? (c : Char) : List Char → Option (List Char)
  | a :: r => if a = c then some r else none
  | [] => none

/-- More digits of a run, with single low lines between them. -/
def moreDigits (isDigit : Char → Bool) : List Char → List Char × List Char
  | '_' :: c :: r =>
    if isDigit c then
      let (ds, rest) := moreDigits isDigit r
      (c :: ds, rest)
    else ([], '_' :: c :: r)
  | c :: r =>
    if isDigit c then
      let (ds, rest) := moreDigits isDigit r
      (c :: ds, rest)
    else ([], c :: r)
  | [] => ([], [])

/-- A run of digits that starts with a digit. -/
def digitRun? (isDigit : Char → Bool) : List Char → Option (List Char × List Char)
  | c :: r =>
    if isDigit c then
      let (ds, rest) := moreDigits isDigit r
      some (c :: ds, rest)
    else none
  | [] => none

/-- The number that digits spell in a base. -/
def valueIn (base : Nat) (ds : List Char) : Nat :=
  ds.foldl (fun n c => base * n + (hexDigit? c).getD 0) 0

/-! ### Dates and times -/

/-- A day, month by month and day by day within the numbers a calendar has. -/
def date? (s : List Char) : Option (Date × List Char) := do
  let (century, s) ← twoDigits? 0 99 s
  let (year, s) ← twoDigits? 0 99 s
  let s ← mark? '-' s
  let (month, s) ← twoDigits? 1 12 s
  let s ← mark? '-' s
  let (day, s) ← twoDigits? 1 31 s
  return (⟨100 * century + year, month, day⟩, s)

/-- A fraction of a second: the first six digits count, the others are read and dropped. -/
def microseconds (s : List Char) : Nat × List Char :=
  match s with
  | '.' :: r =>
    match r.takeWhile Char.isDigit with
    | [] => (0, s)
    | ds =>
      let ds' := ds.take 6
      (valueIn 10 (ds' ++ List.replicate (6 - ds'.length) '0'), r.dropWhile Char.isDigit)
  | _ => (0, s)

/-- A time of day. -/
def time? (s : List Char) : Option (TimeOfDay × List Char) := do
  let (hour, s) ← twoDigits? 0 23 s
  let s ← mark? ':' s
  let (minute, s) ← twoDigits? 0 59 s
  let s ← mark? ':' s
  let (second, s) ← twoDigits? 0 59 s
  let (micro, s) := microseconds s
  return (⟨hour, minute, second, micro⟩, s)

/-- Hours and minutes of an offset. -/
def offsetMinutes? (s : List Char) : Option (Nat × List Char) := do
  let (hour, s) ← twoDigits? 0 23 s
  let s ← mark? ':' s
  let (minute, s) ← twoDigits? 0 59 s
  return (60 * hour + minute, s)

/-- An offset from universal time, if one follows. -/
def offset (s : List Char) : Option Int × List Char :=
  match s with
  | 'Z' :: r => (some 0, r)
  | 'z' :: r => (some 0, r)
  | '+' :: r => match offsetMinutes? r with
    | some (n, r) => (some n, r)
    | none => (none, s)
  | '-' :: r => match offsetMinutes? r with
    | some (n, r) => (some (-n), r)
    | none => (none, s)
  | _ => (none, s)

/-- The time after a date, with the letter or blank between them. -/
def timeAfterDate? (s : List Char) : Option (TimeOfDay × List Char) :=
  match s with
  | c :: r => if c = 'T' || c = 't' || c = ' ' then time? r else none
  | [] => none

/-- A date or a moment, if a date stands here. A day that no calendar has is a fault. -/
def dateOrMoment? (s : List Char) : Option (Reading Value) :=
  (date? s).map fun (d, r) =>
    if !d.isValid then .error .malformed
    else match timeAfterDate? r with
      | none => .ok (.date d, r)
      | some (t, r) =>
        let (z, r) := offset r
        .ok (.moment ⟨d, t, z⟩, r)

/-! ### Numbers -/

/-- A run of digits in base sixteen, two or eight. -/
def prefixedNumber? (s : List Char) : Option (Number × List Char) :=
  match s with
  | '0' :: 'x' :: r => based 16 r
  | '0' :: 'b' :: r => based 2 r
  | '0' :: 'o' :: r => based 8 r
  | _ => none
where
  /-- The run itself. -/
  based (base : Nat) (r : List Char) : Option (Number × List Char) :=
    (digitRun? (fun c => (hexDigit? c).any (· < base)) r).map fun (ds, r) =>
      (.whole (valueIn base ds), r)

/-- The integer part of a decimal number: zero, or a run that does not start with zero. -/
def integerPart? (s : List Char) : Option (List Char × List Char) :=
  match s with
  | '0' :: r => some (['0'], r)
  | s => digitRun? Char.isDigit s

/-- A fraction, if one follows. -/
def fraction? (s : List Char) : Option (List Char × List Char) := do
  digitRun? Char.isDigit (← mark? '.' s)

/-- A sign, and what it is put on. -/
def sign (s : List Char) : Bool × List Char :=
  match s with
  | '-' :: r => (true, r)
  | '+' :: r => (false, r)
  | _ => (false, s)

/-- An exponent, if one follows. -/
def exponent? (s : List Char) : Option (Int × List Char) :=
  match s with
  | c :: r =>
    if c = 'e' || c = 'E' then
      let (negative, r) := sign r
      (digitRun? Char.isDigit r).map fun (ds, r) =>
        let n : Int := valueIn 10 ds
        (if negative then -n else n, r)
    else none
  | [] => none

/-- A decimal number: an integer, or with a fraction or an exponent a floating point number. -/
def decimal? (s : List Char) : Option (Reading Number) := do
  let (negative, r) := sign s
  let (whole, r) ← integerPart? r
  let (fraction, r) := match fraction? r with
    | some (ds, r) => (some ds, r)
    | none => (none, r)
  let (exponent, r) := match exponent? r with
    | some (e, r) => (some e, r)
    | none => (none, r)
  if fraction.isNone && exponent.isNone then
    if integerDigitLimit < whole.length then some (.error (.longInteger whole.length))
    else
      let n : Int := valueIn 10 whole
      some (.ok (.whole (if negative then -n else n), r))
  else
    let places := fraction.getD []
    let x := Binary64.ofDecimal negative (valueIn 10 (whole ++ places))
      (exponent.getD 0 - places.length)
    some (.ok (.real x, r))

/-- The names of the floating point values that are no decimal numbers. -/
def specialFloat? (s : List Char) : Option (Number × List Char) :=
  let (negative, r) := sign s
  match r with
  | 'i' :: 'n' :: 'f' :: r => some (.real (.infinite negative), r)
  | 'n' :: 'a' :: 'n' :: r => some (.real .nan, r)
  | _ => none

/-- A truth value. -/
def bool? (s : List Char) : Option (Bool × List Char) :=
  match s with
  | 't' :: 'r' :: 'u' :: 'e' :: r => some (true, r)
  | 'f' :: 'a' :: 'l' :: 's' :: 'e' :: r => some (false, r)
  | _ => none

/-- A value that holds no other values. -/
def scalar (s : List Char) : Reading Value :=
  match text? s with
  | some r => r.map fun (t, r) => (.text t, r)
  | none =>
  match bool? s with
  | some (b, r) => .ok (.bool b, r)
  | none =>
  match dateOrMoment? s with
  | some r => r
  | none =>
  match time? s with
  | some (t, r) => .ok (.time t, r)
  | none =>
  match prefixedNumber? s with
  | some (n, r) => .ok (.number n, r)
  | none =>
  match decimal? s with
  | some r => r.map fun (n, r) => (.number n, r)
  | none =>
  match specialFloat? s with
  | some (n, r) => .ok (.number n, r)
  | none => .error .malformed

end BuildLine.Toml
