/-!
# Verdicts

The verdict on a stage or on a whole job, and the coloured dot that stands for it in a report.
-/

namespace BuildLine.Run

/-- The verdict on a stage or a job. -/
inductive Status where
  /-- Not begun. -/
  | pending
  /-- Under way. -/
  | running
  /-- Ended badly. -/
  | failed
  /-- Ended well. -/
  | passed
  /-- Stopped because it took too long. -/
  | timeout
  /-- Not run. -/
  | skipped
  /-- Interrupted. -/
  | cancelled
  deriving DecidableEq, Repr

namespace Status

/-- The dot of a verdict: green for passed, red for failed, blue for under way, white for skipped
or interrupted, yellow for not begun. -/
def dot : Status → Char
  | passed => '🟢'
  | failed | timeout => '🔴'
  | running => '🔵'
  | skipped | cancelled => '⚪'
  | pending => '🟡'

end Status

end BuildLine.Run
