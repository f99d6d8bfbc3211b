import BuildLine.Source.Remote

/-!
# Checkouts

The branch and the remote of the checkout that a job runs in. Both are found by asking the version
control system with a command each; here the answers to the two questions are given, and an answer
may be missing because its command failed. The remote is rewritten to a plain locator, which drops
any user, token or port of the secure shell that was written in it.
-/

namespace BuildLine.Source

open Text

/-- Branch and remote of a working copy. -/
structure Checkout where
  /-- The branch, empty if there is none. -/
  branch : String
  /-- The remote, empty if there is none. -/
  remote : String
  deriving DecidableEq, Repr

namespace Checkout

/-- What the two commands printed; nothing if the command failed. -/
structure Answers where
  /-- The answer to the question for the remote. -/
  remote : Option String
  /-- The answer to the question for the branch. -/
  branch : Option String
  deriving DecidableEq, Repr

/-- Why a checkout cannot be read. -/
inductive Fault where
  /-- A command failed. -/
  | commandFailed (command : String)
  /-- The remote is not written in a form that can be rewritten. -/
  | notRewritable (remote : String)
  /-- The remote names no repository. -/
  | remote (f : Remote.Fault)
  deriving DecidableEq, Repr

/-- The wording of a fault. -/
def Fault.message : Fault → String
  | .commandFailed c => "Command '" ++ c ++ "' returned non-zero exit status 128."
  | .notRewritable r => "Only https & ssh remotes are supported. (Remote: " ++ r ++ ")"
  | .remote f => f.message

/-- The command that asks for the remote. -/
def askRemote : String := "git remote -v | grep push | head -n1 | awk '\x7bprint $2\x7d'"

/-- The command that asks for the branch. -/
def askBranch : String := "git rev-parse --abbrev-ref HEAD"

/-- The commands in the order in which they are run. -/
def questions : List String := [askRemote, askBranch]

/-- **The remote as a plain locator.** -/
def rewriteRemote (remote : String) : Except Fault String := do
  let cs := remote.toList
  if !(".git".toList.isSuffixOf cs && (cs.contains '@' || occurs "://".toList cs)) then
    throw (.notRewritable remote)
  let r ← (Remote.parse remote).mapError .remote
  return "https://" ++ r.host ++ "/" ++ r.slug ++ ".git"

/-- An answer without the blanks around it. -/
def answer (command : String) : Option String → Except Fault String
  | none => .error (.commandFailed command)
  | some s => .ok (String.ofList (trim s.toList))

/-- **The checkout that the answers describe.** The branch is asked for only if the remote can be
rewritten. A checkout that is not on a branch says so by the word that stands for any checkout. -/
def ofAnswers (a : Answers) : Except Fault Checkout := do
  let remote ← answer askRemote a.remote
  let remote ← if remote.isEmpty then pure remote else rewriteRemote remote
  let branch ← answer askBranch a.branch
  return { branch := if branch = "HEAD" then "" else branch, remote }

/-- The text that shows a checkout of the given kind. -/
def display (kind : String) (c : Checkout) : String :=
  kind ++ " <" ++ c.branch ++ ": " ++ c.remote ++ ">"

/-- The slug of the checkout. -/
def slug (c : Checkout) : Except Remote.Fault String :=
  (Remote.parse c.remote).map Remote.slug

end Checkout

end BuildLine.Source
