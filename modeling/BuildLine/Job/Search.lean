import BuildLine.Files.Pattern
import BuildLine.Job.Stage

/-!
# The commands of a stage

A stage becomes commands where a tree of files and a context are given: one command, or one for
every file that its pattern finds below its directory.
-/

namespace BuildLine.Job.Stage

open Files

/-- The names from the root of the file system to the directory of the stage, as they are written;
`root` is the directory of the job. -/
def directory (s : Stage) (root : Place) : List String :=
  (Written.ofText (s.cwd.getD "")).fromRoot root

/-- The files that the pattern of a stage finds. -/
def discover (s : Stage) (pattern : String) (t : Tree) (root : Place) :
    Except Pattern.Fault (List String) :=
  (Pattern.parse pattern).map fun p => p.search t (s.directory root)

/-- **The commands of a stage.** -/
def commands (s : Stage) (t : Tree) (root : Place) (ctx : Context) :
    Except Pattern.Fault (List String) :=
  match s.work with
  | .once _ => .ok [s.command ctx]
  | .forEach pattern => (s.discover pattern t root).map fun files => files.map (s.commandFor ctx)

end BuildLine.Job.Stage
