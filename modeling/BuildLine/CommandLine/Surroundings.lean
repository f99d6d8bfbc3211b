import BuildLine.Job.Context
import BuildLine.Log.Journal

/-!
# What a run from the command line is told

The context of a run comes from the flags, the environment and the checkout. A checkout that cannot
be read is no reason to stop; the journal is told, and the run gets by without it.
-/

namespace BuildLine.CommandLine

open Job Log Source

/-- What the journal is told of a checkout that cannot be read. -/
def checkoutEvent (f : Checkout.Fault) : Event :=
  { level := .warning, text := "Cannot read git checkout", fields := [("error", .text f.message)] }

/-- **The context of a run,** and the journal after it has been told of the checkout. -/
def context (settings : Settings) (answers : Checkout.Answers) (env : Environment)
    (flags : Context.Flags) (journal : Journal) : Except Remote.Fault Context × Journal :=
  let (ctx, complaint) := Context.gather settings answers env flags
  match complaint with
  | none => (ctx, journal)
  | some f => (ctx, journal.record (checkoutEvent f))

end BuildLine.CommandLine
