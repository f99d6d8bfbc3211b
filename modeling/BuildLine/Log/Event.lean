import BuildLine.Data.Value
import BuildLine.Text.Blank

/-!
# Events

An event of the log has a level, a text, and fields with values. It is written in one line: time,
level, text, and the fields in the order of their names. Level and text have columns of their own
and are padded to the width of the column; two fields, for the name of the logger, come right after
the text and show their value only.
-/

namespace BuildLine.Log

open Data (Value Table)

/-- How serious an event is. -/
inductive Level where
  /-- For those who look for faults. -/
  | debug
  /-- For everybody. -/
  | info
  /-- Something may be wrong. -/
  | warning
  /-- Something is wrong. -/
  | error
  /-- Nothing works any more. -/
  | critical
  deriving DecidableEq, Repr

/-- The word for a level. -/
def Level.word : Level → String
  | .debug => "debug"
  | .info => "info"
  | .warning => "warning"
  | .error => "error"
  | .critical => "critical"

/-- Something that happened. -/
structure Event where
  /-- How serious it is. -/
  level : Level
  /-- What happened. -/
  text : String
  /-- What it happened to. -/
  fields : Table := []
  deriving Repr

namespace Event

/-- The event with fields that are bound to whoever tells of it; fields of the event win. -/
def withBound (bound : Table) (e : Event) : Event :=
  { e with fields := bound.filter (fun b => !Table.has e.fields b.1) ++ e.fields }

/-- The text with spaces behind it up to a width. -/
def pad (width : Nat) (s : String) : String :=
  s ++ String.ofList (List.replicate (width - s.length) ' ')

/-- The characters that a value cannot hold without being quoted. -/
def isDelicate (c : Char) : Bool :=
  [' ', '\t', '=', '\r', '\n', '"', '\''].contains c

/-- The value of a field as it is written. -/
def valueText : Value → String
  | .text s => if s.toList.any isDelicate then Text.Quoted.literal s else s
  | v => v.literal

/-- Only texts are redacted before they are written. -/
def redactValue (redact : String → String) : Value → Value
  | .text s => .text (redact s)
  | v => v

/-- The columns of a line have these names already. -/
def columnNames : List String := ["timestamp", "level", "event"]

/-- The fields whose value is shown right after the text. -/
def loggerNames : List String := ["logger", "logger_name"]

/-- The fields in the order of their names, without those that have a place of their own. -/
def sortedFields (fields : Table) : Table :=
  (fields.filter fun f => !(columnNames ++ loggerNames).contains f.1).mergeSort
    fun a b => decide (a.1 ≤ b.1)

/-- The values shown right after the text, in brackets. -/
def loggerTexts (fields : Table) : List String :=
  loggerNames.filterMap fun n => (fields.get? n).map fun v => "[" ++ v.display ++ "]"

/-- **The line that tells of an event.** The values are redacted before they are written, so that
quoting cannot hide a secret. -/
def line (stamp : String) (redact : String → String) (e : Event) : String :=
  let fields : Table := e.fields.map fun f => (f.1, redactValue redact f.2)
  let columns := [redact stamp, "[" ++ pad 9 (redact e.level.word) ++ "]", pad 30 (redact e.text)]
  let rest := (sortedFields fields).map fun f => f.1 ++ "=" ++ valueText f.2
  let all := String.intercalate " " (columns ++ loggerTexts fields ++ rest)
  String.ofList (Text.trimRight (· = ' ') all.toList)

end Event

end BuildLine.Log
