import BuildLine.Settings
import BuildLine.Source.Checkout

/-!
# The context of a run

What a run is told from outside: the branch that is built, whether it is built for a pull request,
the credential, and the slug of the repository. The credential is never shown and never stands for
a placeholder of a command.

`ofEnvironment` reads the context from variables and lets the checkout fill in branch and slug;
`gather` lets flags override both, and gets by without a checkout that cannot be read.
-/

namespace BuildLine.Job

open Source Text

/-- What a run is told from outside. -/
structure Context where
  /-- The branch that is built. -/
  branch : String
  /-- The build is for a pull request. -/
  isPullRequest : Bool
  /-- The credential. -/
  credential : Option String
  /-- Owner and name of the repository. -/
  repoSlug : Option String
  deriving DecidableEq, Repr

/-- The words that say that a build is not for a pull request. -/
def falseWords : List String := ["", "false", "0", "no", "off"]

/-- The build is for a pull request: the variable is set and, apart from blanks and case, not one
of the words for no. Only ASCII letters have a case here, since no other character has one of
theirs as its lower case in these words. -/
def parsePullRequest : Option String → Bool
  | none => false
  | some s => !falseWords.contains (String.ofList ((trim s.toList).map Char.toLower))

namespace Context

open Data (Value)

/-- The literal of a text that may be missing. -/
def literal? : Option String → String
  | none => "None"
  | some s => Quoted.literal s

/-- The text that shows a context, with a mask in the place of the credential. -/
def display (c : Context) : String :=
  "RunContext(branch=" ++ Quoted.literal c.branch ++
    ", is_pull_request=" ++ (Value.bool c.isPullRequest).literal ++
    ", credential=" ++ literal? (c.credential.map fun _ => "***") ++
    ", repo_slug=" ++ literal? c.repoSlug ++ ")"

/-- What the placeholders of a command stand for. -/
def placeholders (c : Context) : List (String × Option String) :=
  [("branch", some c.branch), ("repo_slug", c.repoSlug)]

/-- A variable that is set to something. -/
def filled? (env : Environment) (name : String) : Option String :=
  (env.get? name).filter fun s => !s.isEmpty

/-- The slug that a checkout can fill in: none without a remote. -/
def checkoutSlug : Option Checkout → Except Remote.Fault (Option String)
  | none => .ok none
  | some c => if c.remote.isEmpty then .ok none else c.slug.map some

/-- **The context that the environment describes.** -/
def ofEnvironment (settings : Settings) (env : Environment) (checkout : Option Checkout) :
    Except Remote.Fault Context := do
  let branch := filled? env settings.branchVar <|> checkout.map Checkout.branch
  let slug ← match filled? env settings.repoSlugVar with
    | some s => pure (some s)
    | none => checkoutSlug checkout
  return {
    branch := branch.getD ""
    isPullRequest := parsePullRequest (env.get? settings.pullRequestVar)
    credential := filled? env settings.tokenVar
    repoSlug := slug }

/-- What the command line says about the context. -/
structure Flags where
  /-- The branch. -/
  branch : Option String := none
  /-- The build is for a pull request. -/
  pullRequest : Option Bool := none
  /-- Owner and name of the repository. -/
  repoSlug : Option String := none
  deriving DecidableEq, Repr

/-- The context with the flags put over it. -/
def override (flags : Flags) (c : Context) : Context :=
  { c with
    branch := flags.branch.getD c.branch
    isPullRequest := flags.pullRequest.getD c.isPullRequest
    repoSlug := flags.repoSlug <|> c.repoSlug }

/-- **The context of a run from the command line,** and the complaint about a checkout that cannot
be read. Flags win over variables, which win over the checkout. -/
def gather (settings : Settings) (answers : Checkout.Answers) (env : Environment) (flags : Flags) :
    Except Remote.Fault Context × Option Checkout.Fault :=
  match Checkout.ofAnswers answers with
  | .ok checkout => ((ofEnvironment settings env (some checkout)).map (override flags), none)
  | .error f => ((ofEnvironment settings env none).map (override flags), some f)

end Context

end BuildLine.Job
