import BuildLine.Data.Calendar
import BuildLine.Text.Quoted

/-!
# Data trees

The values that a job description may hold: texts, numbers, truth values, dates and times, lists
and tables, and the value that stands for nothing. Tables keep the order in which their keys came.

Every value has a *literal*, which shows texts between quotes, and a *display*, which shows a text
as it is and any other value by its literal, except that dates and times are displayed in ordered
notation.
-/

namespace BuildLine.Data

open Decimal (Binary64)

/-- An integer or a floating point number. -/
inductive Number where
  /-- An integer of any size. -/
  | whole (n : Int)
  /-- A floating point number. -/
  | real (x : Binary64)
  deriving DecidableEq, Repr

/-- A data tree. -/
inductive Value where
  /-- Nothing. -/
  | null
  /-- A truth value. -/
  | bool (b : Bool)
  /-- A number. -/
  | number (n : Number)
  /-- A text. -/
  | text (s : String)
  /-- A day. -/
  | date (d : Date)
  /-- A time of day. -/
  | time (t : TimeOfDay)
  /-- A day with a time. -/
  | moment (m : Moment)
  /-- Values in order. -/
  | list (items : List Value)
  /-- Values under keys, in the order in which the keys came. -/
  | table (entries : List (String × Value))
  deriving Repr

/-- Keys with values, in the order in which the keys came. -/
abbrev Table := List (String × Value)

namespace Number

/-- The text of a number. -/
def text : Number → String
  | .whole n => toString n
  | .real x => x.text

/-- Not above zero. A not-a-number is not on that side of zero. -/
def isNonPositive : Number → Bool
  | .whole n => n ≤ 0
  | .real x => x.isNonPositive

end Number

namespace Value

mutual

/-- The text that shows the value with its kind: texts between quotes, lists in brackets, tables
in braces. -/
def literal : Value → String
  | .null => "None"
  | .bool b => if b then "True" else "False"
  | .number n => n.text
  | .text s => Text.Quoted.literal s
  | .date d => d.literal
  | .time t => t.literal
  | .moment m => m.literal
  | .list items => "[" ++ String.intercalate ", " (literals items) ++ "]"
  | .table entries => "\x7b" ++ String.intercalate ", " (entryLiterals entries) ++ "\x7d"

/-- The literals of values. -/
def literals : List Value → List String
  | [] => []
  | v :: vs => v.literal :: literals vs

/-- The literals of the entries of a table. -/
def entryLiterals : List (String × Value) → List String
  | [] => []
  | (k, v) :: es => (Text.Quoted.literal k ++ ": " ++ v.literal) :: entryLiterals es

end

/-- The text that stands for the value where only a text can stand. -/
def display : Value → String
  | .text s => s
  | .date d => d.display
  | .time t => t.display
  | .moment m => m.display
  | v => v.literal

/-- The word for the kind of a value. -/
def kind : Value → String
  | .null => "NoneType"
  | .bool _ => "bool"
  | .number (.whole _) => "int"
  | .number (.real _) => "float"
  | .text _ => "str"
  | .date _ => "datetime.date"
  | .time _ => "datetime.time"
  | .moment _ => "datetime.datetime"
  | .list _ => "list"
  | .table _ => "dict"

end Value

namespace Table

/-- The value under a key. -/
def get? (t : Table) (key : String) : Option Value :=
  List.lookup key t

/-- The keys in order. -/
def keys (t : Table) : List String :=
  t.map Prod.fst

/-- The key is taken. -/
def has (t : Table) (key : String) : Bool :=
  t.any fun e => e.1 == key

/-- Give the key a value: in place if the key is taken, at the end otherwise. -/
def put (key : String) (v : Value) : Table → Table
  | [] => [(key, v)]
  | e :: t => if e.1 = key then (key, v) :: t else e :: put key v t

/-- The table without a key. -/
def without (t : Table) (key : String) : Table :=
  t.filter fun e => e.1 != key

end Table

end BuildLine.Data
