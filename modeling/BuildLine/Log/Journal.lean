import BuildLine.Log.Event
import BuildLine.Log.Secrets
import BuildLine.Settings

/-!
# The journal

The journal keeps the lines that a run has told, for the report, and the secrets that no line may
show. A line is redacted when it is told and never changed afterwards. When there are more lines
than the journal may hold, it drops all but the last `keptLines`, so that dropping happens seldom.

The *screen* is everything that was shown while the journal was kept: its lines, and what was shown
without being kept.
-/

namespace BuildLine.Log

/-- How many lines stay when the journal gets too long. -/
def keptLines : Nat := 1000

/-- The last `n` elements of a list. Mathlib calls this `List.rtake`, but what runs does without
Mathlib. -/
def lastOf (n : Nat) (l : List α) : List α :=
  l.drop (l.length - n)

/-- What was told, and what must not be told. -/
structure Journal where
  /-- What the clock shows on every line. -/
  stamp : String := "2020-01-01T00:00:00.000000Z"
  /-- What must not be told. -/
  secrets : Secrets := []
  /-- The lines that were told, the oldest first. -/
  lines : List String := []
  /-- Everything that was shown, the oldest first. -/
  screen : List String := []
  deriving Repr

/-- What somebody tells the journal. -/
inductive Notice where
  /-- A line. -/
  | line (s : String)
  /-- An event. -/
  | event (e : Event)
  /-- Something to be shown but not to be kept. -/
  | shown (s : String)
  deriving Repr

namespace Journal

/-- The text without the secrets. -/
def redact (j : Journal) (s : String) : String :=
  j.secrets.redact s

/-- The lines that stay. -/
def trimmed (lines : List String) : List String :=
  if lines.length > Settings.maxLogLines then lastOf keptLines lines else lines

/-- Tell a line. -/
def emit (j : Journal) (s : String) : Journal :=
  let s := j.redact s
  { j with lines := trimmed (j.lines ++ [s]), screen := j.screen ++ [s] }

/-- Tell of an event. -/
def record (j : Journal) (e : Event) : Journal :=
  j.emit (e.line j.stamp j.redact)

/-- Show something without keeping it. -/
def display (j : Journal) (s : String) : Journal :=
  { j with screen := j.screen ++ [s] }

/-- Take a notice. -/
def take (j : Journal) : Notice → Journal
  | .line s => j.emit s
  | .event e => j.record e
  | .shown s => j.display s

/-- Take notices in order. -/
def takeAll (j : Journal) (ns : List Notice) : Journal :=
  ns.foldl take j

/-- Remember a secret. -/
def register (j : Journal) (value : Option String) : Journal :=
  match value with
  | none => j
  | some s => { j with secrets := j.secrets.register s }

/-- Forget a secret. -/
def forget (j : Journal) (value : Option String) : Journal :=
  match value with
  | none => j
  | some s => { j with secrets := j.secrets.forget s }

/-- Forget all secrets. -/
def forgetSecrets (j : Journal) : Journal :=
  { j with secrets := [] }

/-- Forget all lines. -/
def forgetLines (j : Journal) : Journal :=
  { j with lines := [] }

end Journal

end BuildLine.Log
