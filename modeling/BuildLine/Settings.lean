import BuildLine.Data.Value

/-!
# Settings

The names and limits that a run works with. Six of them can be set from the environment; they name
the manifest, the branch that publishes, and the *variables* that carry the context of a run. The
other two are fixed.
-/

namespace BuildLine

/-- Names with texts, in the order in which the names came. -/
abbrev Environment := List (String × String)

namespace Environment

/-- The text under a name. -/
def get? (env : Environment) (name : String) : Option String :=
  List.lookup name env

/-- Give a name a text: in place if the name is taken, at the end otherwise. -/
def put (name text : String) : Environment → Environment
  | [] => [(name, text)]
  | e :: env => if e.1 = name then (name, text) :: env else e :: put name text env

/-- An environment in which every name occurs once: a later pair of the same name gives its text
to the earlier one. -/
def ofPairs (ps : List (String × String)) : Environment :=
  ps.foldl (fun env p => put p.1 p.2 env) []

end Environment

/-- The settings of a run. -/
structure Settings where
  /-- The file that describes the job. -/
  manifest : String := "linear_ci.toml"
  /-- The branch that publishes unless the manifest names another. -/
  publishBranch : String := "master"
  /-- The variable that holds the branch. -/
  branchVar : String := "TRAVIS_BRANCH"
  /-- The variable that holds the number of the pull request. -/
  pullRequestVar : String := "TRAVIS_PULL_REQUEST"
  /-- The variable that holds owner and name of the repository. -/
  repoSlugVar : String := "TRAVIS_REPO_SLUG"
  /-- The variable that holds the credential. -/
  tokenVar : String := "GH_TOKEN"
  deriving DecidableEq, Repr

namespace Settings

/-- The variable under which a step that asks for the credential finds it. -/
def secretVar : String := "LINEAR_CI_TOKEN"

/-- The most lines that the log keeps. -/
def maxLogLines : Nat := 1500

/-- The settings that an environment asks for. -/
def ofEnvironment (env : Environment) : Settings :=
  let get name fallback := (env.get? name).getD fallback
  { manifest := get "LINEAR_CI_MANIFEST" "linear_ci.toml"
    publishBranch := get "LINEAR_CI_PUBLISH_BRANCH" "master"
    branchVar := get "LINEAR_CI_BRANCH_VAR" "TRAVIS_BRANCH"
    pullRequestVar := get "LINEAR_CI_PULL_REQUEST_VAR" "TRAVIS_PULL_REQUEST"
    repoSlugVar := get "LINEAR_CI_REPO_SLUG_VAR" "TRAVIS_REPO_SLUG"
    tokenVar := get "LINEAR_CI_TOKEN_VAR" "GH_TOKEN" }

end Settings

end BuildLine
