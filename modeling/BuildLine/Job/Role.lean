import BuildLine.Data.Value

/-!
# Roles and states

The *role* of a stage says what the stage is for and thereby where it stands in its phase: roles
are listed in the order in which they run. The *state* of a job is the place it has reached; every
role has the state of running it, and the rest are the beginnings and ends of the two phases.
-/

namespace BuildLine.Job

/-- Where a job stands. -/
inductive State where
  /-- Nothing has run yet. -/
  | pending
  /-- Installing what the build needs. -/
  | installing
  /-- Building. -/
  | building
  /-- Testing the examples of the documentation. -/
  | testingDocs
  /-- Testing. -/
  | testing
  /-- Measuring. -/
  | benchmarking
  /-- Generating documentation. -/
  | generatingDocs
  /-- The main phase has passed. -/
  | succeeded
  /-- The main phase has failed. -/
  | failed
  /-- A phase was interrupted. -/
  | cancelled
  /-- The publish phase has not begun. -/
  | notRun
  /-- Asking whether to publish. -/
  | checkPredicate
  /-- There was nothing to publish. -/
  | skipped
  /-- Installing the tool that renders the site. -/
  | installingDocTool
  /-- Rendering the site. -/
  | renderingSite
  /-- Importing the history of the site. -/
  | importingHistory
  /-- Pushing the site. -/
  | pushing
  /-- The publish phase has passed. -/
  | published
  /-- The publish phase has failed. -/
  | publishFailed
  deriving DecidableEq, Repr

/-- The word for a state. -/
def State.word : State → String
  | .pending => "pending"
  | .installing => "installing"
  | .building => "building"
  | .testingDocs => "testing-docs"
  | .testing => "testing"
  | .benchmarking => "benchmarking"
  | .generatingDocs => "generating-docs"
  | .succeeded => "succeeded"
  | .failed => "failed"
  | .cancelled => "cancelled"
  | .notRun => "not-run"
  | .checkPredicate => "check-predicate"
  | .skipped => "skipped"
  | .installingDocTool => "installing-doc-tool"
  | .renderingSite => "rendering-site"
  | .importingHistory => "importing-history"
  | .pushing => "pushing"
  | .published => "published"
  | .publishFailed => "publish-failed"

/-- All states, in the order in which a job can reach them. -/
def State.all : List State :=
  [.pending, .installing, .building, .testingDocs, .testing, .benchmarking, .generatingDocs,
   .succeeded, .failed, .cancelled, .notRun, .checkPredicate, .skipped, .installingDocTool,
   .renderingSite, .importingHistory, .pushing, .published, .publishFailed]

/-- The state that a word names. -/
def State.ofWord? (w : String) : Option State :=
  State.all.find? fun s => s.word == w

/-- What a stage is for. -/
inductive Role where
  /-- Install what the build needs. -/
  | install
  /-- Build. -/
  | build
  /-- Test the examples of the documentation. -/
  | docTest
  /-- Test. -/
  | test
  /-- Measure. -/
  | bench
  /-- Generate documentation. -/
  | docGen
  /-- Install the tool that renders the site. -/
  | docTool
  /-- Render the site. -/
  | render
  /-- Import the history of the site. -/
  | history
  /-- Push the site. -/
  | push
  deriving DecidableEq, Repr

namespace Role

/-- The word for a role. -/
def word : Role → String
  | install => "install"
  | build => "build"
  | docTest => "doc-test"
  | test => "test"
  | bench => "bench"
  | docGen => "doc-gen"
  | docTool => "doc-tool"
  | render => "render"
  | history => "import"
  | push => "push"

/-- All roles, in the order in which they run. -/
def all : List Role :=
  [install, build, docTest, test, bench, docGen, docTool, render, history, push]

/-- The place of a role in the order in which roles run. -/
def rank : Role → Nat
  | install => 0
  | build => 1
  | docTest => 2
  | test => 3
  | bench => 4
  | docGen => 5
  | docTool => 6
  | render => 7
  | history => 8
  | push => 9

/-- The state of running a stage of the role. -/
def state : Role → State
  | install => .installing
  | build => .building
  | docTest => .testingDocs
  | test => .testing
  | bench => .benchmarking
  | docGen => .generatingDocs
  | docTool => .installingDocTool
  | render => .renderingSite
  | history => .importingHistory
  | push => .pushing

/-- The roles of the main phase after the installation. -/
def main : List Role := [build, docTest, test, bench, docGen]

/-- The roles of the publish phase. -/
def publish : List Role := [docTool, render, history, push]

/-- The role that a word names. -/
def ofWord? (w : String) : Option Role :=
  all.find? fun r => r.word == w

theorem mem_all (r : Role) : r ∈ all := by cases r <;> decide

/-- The rank of a role is its place in the list of all roles. -/
theorem all_getElem?_rank (r : Role) : all[r.rank]? = some r := by cases r <;> rfl

/-- Reading a role back. -/
@[simp] theorem ofWord?_word (r : Role) : ofWord? r.word = some r := by cases r <;> decide

end Role

end BuildLine.Job
