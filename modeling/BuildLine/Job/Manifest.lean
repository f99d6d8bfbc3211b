import BuildLine.Job.Spec
import BuildLine.Text.Numeral
import BuildLine.Toml.Document

/-!
# Manifests

A manifest is a document with one table `job` that describes a job: `platform`, `language`,
`toolchain`, `env`, the lists `install` and `script`, and the table `after_success`. An entry of a
list is a table that describes a stage; a step of the installation may also be just a command.

Every part is checked as it is read, in the order of the definitions below, and the first fault is
reported. Options of the job that are none of the above are left to `Spec.create`.
-/

namespace BuildLine.Job.Manifest

open Data (Value Table Number)

/-- Why a manifest describes no job. -/
inductive Fault where
  /-- The text is not a document. -/
  | notDocument
  /-- An integer of the document is too long to be read. -/
  | longInteger (digits : Nat)
  /-- There is no table for the job. -/
  | noJob
  /-- A value of another kind than the one that is wanted. -/
  | wrongKind (what kinds : String) (got : Value)
  /-- An entry of a list of stages is no table. -/
  | notTable (place : String) (got : Value)
  /-- Keys that have no meaning in their place. -/
  | unknownKeys (place : String) (names : List String)
  /-- An entry lacks a key. -/
  | missingKey (place key : String)
  /-- A limit of time that is not above zero. -/
  | notPositive (stage : String) (got : Number)
  /-- A pattern that is empty or begins at the root of the file system. -/
  | notRelative (stage pattern : String)
  /-- A stage that runs for every file asks for the credential. -/
  | secretForEach (stage : String)
  /-- An option of the job has the name of the one argument that is not an option. -/
  | reserved (name : String)
  /-- The parts do not make a specification. -/
  | spec (f : SpecFault)
  deriving Repr

/-- The wording of a fault. -/
def Fault.message : Fault → String
  | .notDocument => "Manifest is not valid TOML"
  | .longInteger n => Text.Numeral.tooLongMessage n
  | .noJob => "A manifest needs a [job] table"
  | .wrongKind what kinds got => what ++ " must be a " ++ kinds ++ ", got: " ++ got.literal
  | .notTable place got => "Entries of " ++ place ++ " must be tables, got: " ++ got.literal
  | .unknownKeys place names => "Unknown keys in " ++ place ++ ": " ++ listNames names
  | .missingKey place key =>
    "An entry of " ++ place ++ " is missing " ++ Text.Quoted.literal key
  | .notPositive stage got => "timeout of " ++ stage ++ " must be positive, got: " ++ got.text
  | .notRelative stage pattern =>
    "for_each of " ++ stage ++ " must be a pattern relative to the working directory, got: " ++
      Text.Quoted.literal pattern
  | .secretForEach stage => stage ++ ": for_each stages cannot receive the credential"
  | .reserved name =>
    "JobSpec.create() got multiple values for argument " ++ Text.Quoted.literal name
  | .spec f => f.message

/-- The fault is one of the manifest, about which its author can be told in a line. The others come
from what the manifest is read with. -/
def Fault.isComplaint : Fault → Bool
  | .longInteger _ | .reserved _ | .spec .noPlatform => false
  | _ => true

/-! ### Values of a wanted kind -/

/-- A text. -/
def text (what : String) : Value → Except Fault String
  | .text s => .ok s
  | v => .error (.wrongKind what "str" v)

/-- A truth value. -/
def truth (what : String) : Value → Except Fault Bool
  | .bool b => .ok b
  | v => .error (.wrongKind what "bool" v)

/-- A list. -/
def items (what : String) : Value → Except Fault (List Value)
  | .list vs => .ok vs
  | v => .error (.wrongKind what "list" v)

/-- A table. -/
def entries (what : String) : Value → Except Fault Table
  | .table t => .ok t
  | v => .error (.wrongKind what "dict" v)

/-- A number. -/
def number (what : String) : Value → Except Fault Number
  | .number n => .ok n
  | v => .error (.wrongKind what "int or float" v)

/-- The value under a key, read by `f` if it is there. -/
def field (t : Table) (key : String) (fallback : α) (f : Value → Except Fault α) :
    Except Fault α :=
  match t.get? key with
  | none => .ok fallback
  | some v => f v

/-- The value under a key, read by `f` if it is there and is not the empty value. -/
def optional (t : Table) (key : String) (f : Value → Except Fault α) : Except Fault (Option α) :=
  match t.get? key with
  | none | some .null => .ok none
  | some v => (f v).map some

/-- The value under a key that has to be there. -/
def required (place : String) (t : Table) (key : String) : Except Fault Value :=
  match t.get? key with
  | none => .error (.missingKey place key)
  | some v => .ok v

/-! ### Stages -/

/-- The keys of a stage. -/
def stageKeys : List String :=
  ["name", "run", "role", "for_each", "cwd", "timeout", "env", "secret"]

/-- Refuse the keys of a table that are none of `known`. -/
def checkKeys (place : String) (known : List String) (t : Table) : Except Fault Unit :=
  let unknown := t.keys.filter fun k => !known.contains k
  if unknown.isEmpty then .ok () else .error (.unknownKeys place unknown)

/-- A limit of time. -/
def limit (name : String) (v : Value) : Except Fault Number := do
  let n ← number ("timeout of " ++ name) v
  if n.isNonPositive then throw (.notPositive name n)
  return n

/-- What a stage runs. -/
def work (t : Table) (name : String) (secret : Bool) : Except Fault Work :=
  match t.get? "for_each" with
  | none => .ok (.once (if secret then some Settings.secretVar else none))
  | some v => do
    let pattern ← text ("for_each of " ++ name) v
    if pattern.isEmpty || pattern.startsWith "/" then throw (.notRelative name pattern)
    if secret then throw (.secretForEach name)
    return .forEach pattern

/-- An entry of a list of stages. -/
def table (place : String) : Value → Except Fault Table
  | .table t => .ok t
  | v => .error (.notTable place v)

/-- The role of a stage; where there is a fallback, it may be left out. -/
def role (place name : String) (fallback : Option Role) (t : Table) : Except Fault Role :=
  match t.get? "role", fallback with
  | none, some r => .ok r
  | _, _ => do
    let word ← text ("role of " ++ name) (← required place t "role")
    (Role.parse (.text word)).mapError .spec

/-- The stage that an entry of a list describes; where the list allows it, the role may be left
out. -/
def stage (place : String) (defaultRole : Option Role) (entry : Value) : Except Fault Stage := do
  let t ← table place entry
  checkKeys place stageKeys t
  let name ← text ("name in " ++ place) (← required place t "name")
  let run ← text ("run of " ++ name) (← required place t "run")
  let role ← role place name defaultRole t
  let env ← field t "env" [] (entries ("env of " ++ name))
  let cwd ← optional t "cwd" (text ("cwd of " ++ name))
  let timeout ← optional t "timeout" (limit name)
  let secret ← field t "secret" false (truth ("secret of " ++ name))
  let work ← work t name secret
  return {
    name, run, role, cwd, timeout, work
    env := env.map fun e => (e.1, .text e.2.display) }

/-- A step of the installation. -/
def installStep : Value → Except Fault InstallStep
  | .text run => .ok (.command run)
  | v => (stage "job.install" (some .install) v).map .stage

/-! ### The job -/

/-- The keys of the table of what is published. -/
def publishKeys : List String := ["branch", "pull_request", "steps"]

/-- What is published, and when. -/
def publishBlock (settings : Settings) (v : Value) : Except Fault PublishBlock := do
  let t ← entries "job.after_success" v
  let branch ← field t "branch" settings.publishBranch (text "job.after_success.branch")
  let allowPullRequest ← field t "pull_request" false (truth "job.after_success.pull_request")
  let steps ← field t "steps" [] (items "job.after_success.steps")
  let steps ← steps.mapM (stage "job.after_success.steps" none)
  checkKeys "job.after_success" publishKeys t
  return { rule := { branch, allowPullRequest }, steps }

/-- The keys of the job. -/
def jobKeys : List String :=
  ["platform", "toolchain", "install", "script", "after_success", "language", "env"]

/-- The draft that a table describes. -/
def draft (settings : Settings) (job : Table) : Except Fault Draft := do
  let install ← field job "install" [] (items "job.install")
  let install ← install.mapM installStep
  let script ← field job "script" [] (items "job.script")
  let script ← script.mapM (stage "job.script" none)
  let afterSuccess ← optional job "after_success" (publishBlock settings)
  let language ← field job "language" "" (text "job.language")
  let toolchain ← field job "toolchain" "stable" (text "job.toolchain")
  let env ← field job "env" [] (entries "job.env")
  let platform ← field job "platform" "linux" (text "job.platform")
  let unknown := job.keys.filter fun k => !jobKeys.contains k
  if unknown.contains "cls" then throw (.reserved "cls")
  return {
    platform := some (.text platform), toolchain := .text toolchain, install, script, afterSuccess
    language := .text language, env, unknown }

/-- **The specification that a document describes.** -/
def parse (settings : Settings) (document : Table) : Except Fault Spec :=
  match document.get? "job" with
  | some (.table job) => do
    let d ← draft settings job
    (Spec.create d).mapError .spec
  | _ => .error .noJob

/-- The specification that the text of a manifest describes. -/
def read (settings : Settings) (s : String) : Except Fault Spec :=
  match Toml.read s with
  | .ok document => parse settings document
  | .error .malformed => .error .notDocument
  | .error (.longInteger n) => .error (.longInteger n)

/-! ### The built-in job -/

/-- The manifest of the built-in job: build a project, test the examples of its book, test, measure
and document it, and publish the rendered book. -/
def builtinText : String := "
[job]
platform = \"xenial\"
language = \"rust\"
toolchain = \"stable\"
install = [\"pip install --user ghp-import\"]

[[job.script]]
name = \"build\"
role = \"build\"
run = \"cargo build\"

[[job.script]]
name = \"doc-test\"
role = \"doc-test\"
for_each = \"mdbook/**/*.md\"
run = \"rustdoc --test \x7bfile\x7d -L ./target/debug/deps\"

[[job.script]]
name = \"test\"
role = \"test\"
run = \"cargo test\"

[[job.script]]
name = \"bench\"
role = \"bench\"
run = \"cargo bench\"

[[job.script]]
name = \"doc\"
role = \"doc-gen\"
run = \"cargo doc\"

[job.after_success]
branch = \"master\"
pull_request = false

[[job.after_success.steps]]
name = \"install-mdbook\"
role = \"doc-tool\"
run = \"cargo install mdbook\"

[[job.after_success.steps]]
name = \"build-book\"
role = \"render\"
cwd = \"mdbook\"
run = \"mdbook build\"

[[job.after_success.steps]]
name = \"import-book\"
role = \"import\"
run = \"ghp-import -n mdbook/book\"

[[job.after_success.steps]]
name = \"push\"
role = \"push\"
secret = true
env = \x7b GIT_TERMINAL_PROMPT = \"0\" \x7d
run = '''git -c credential.helper='!f() \x7b echo username=x-access-token; " ++
  "echo \"password=$\x7bLINEAR_CI_TOKEN\x7d\"; \x7d; f' push -fq " ++
  "https://github.com/\x7brepo_slug\x7d.git gh-pages'''\n"

/-- The built-in job. -/
def builtin (settings : Settings) : Except Fault Spec :=
  read settings builtinText

end BuildLine.Job.Manifest
