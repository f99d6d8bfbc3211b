import BuildLine.CommandLine.Options
import BuildLine.Files.Tree
import BuildLine.Job.Context

/-!
# Requests

What the words of the command line ask for: to show the plan of a job, to run it, or to tell about
the program. A request that makes no sense is refused, with a hint at the help where the refusal is
about what the command expects.
-/

namespace BuildLine.CommandLine

open Files

/-- The commands. -/
inductive Command where
  /-- Run the job. -/
  | run
  /-- Show its plan. -/
  | plan
  deriving DecidableEq, Repr

namespace Command

/-- The word for a command. -/
def word : Command → String
  | run => "run"
  | plan => "plan"

/-- The command that a word stands for. -/
def ofWord? (w : String) : Option Command :=
  [run, plan].find? fun c => c.word = w

/-- The options that a command knows. -/
def form : Command → Form
  | run =>
    { options :=
        [("--manifest", .text), ("--root", .text), ("--branch", .text),
         ("--pull-request", .nothing), ("--no-pull-request", .nothing), ("--repo-slug", .text),
         ("--strict-publish", .nothing), ("--dry-run", .nothing), ("--help", .nothing)]
      mixed := true }
  | plan =>
    { options := [("--manifest", .text), ("--root", .text), ("--help", .nothing)], mixed := true }

/-- The options that come before a command. -/
def outerForm : Form :=
  { options := [("--version", .nothing), ("--help", .nothing)], mixed := false }

end Command

/-- Where a job is described and where it runs. -/
structure Target where
  /-- The manifest that was asked for. -/
  manifest : Option String := none
  /-- The directory of the job. -/
  root : String := "."
  deriving DecidableEq, Repr

/-- How a job is to be run. -/
structure RunOptions where
  /-- What is said about the context. -/
  flags : Job.Context.Flags := {}
  /-- A failure to publish counts. -/
  strictPublish : Bool := false
  /-- Nothing is run. -/
  dryRun : Bool := false
  deriving DecidableEq, Repr

/-- What the command line asks for. -/
inductive Request where
  /-- The version. -/
  | version
  /-- Help, on a command if there is one. -/
  | help (command : Option Command)
  /-- The plan of a job. -/
  | plan (target : Target)
  /-- A run of a job. -/
  | run (target : Target) (options : RunOptions)
  deriving DecidableEq, Repr

/-- What is wrong with a path. -/
inductive PathFault where
  /-- It leads nowhere. -/
  | missing
  /-- It leads to a directory where a file is needed. -/
  | isDirectory
  /-- It leads to a file where a directory is needed. -/
  | isFile
  deriving DecidableEq, Repr

/-- Why a request is refused. -/
inductive Refusal where
  /-- Nothing is asked for. -/
  | nothing
  /-- No command is named. -/
  | noCommand
  /-- There is no such command. -/
  | unknownCommand (word : String)
  /-- Something is wrong with an option. -/
  | option (f : OptionFault)
  /-- Something is wrong with the path that an option was given. -/
  | path (option kind path : String) (f : PathFault)
  /-- There are operands where none are expected. -/
  | operands (words : List String)
  deriving DecidableEq, Repr

namespace Refusal

/-- The wording of a fault of a path. -/
def pathMessage (kind path : String) : PathFault → String
  | .missing => kind ++ " " ++ Text.Quoted.literal path ++ " does not exist."
  | .isDirectory => kind ++ " " ++ Text.Quoted.literal path ++ " is a directory."
  | .isFile => kind ++ " " ++ Text.Quoted.literal path ++ " is a file."

/-- The wording of a refusal. -/
def message : Refusal → String
  | nothing | noCommand => "Missing command."
  | unknownCommand w => "No such command " ++ Text.Quoted.literal w ++ "."
  | option (.unknown n) => "No such option " ++ Text.Quoted.literal n ++ "."
  | option (.noText n) => "Option " ++ Text.Quoted.literal n ++ " requires an argument."
  | option (.givenText n) => "Option " ++ Text.Quoted.literal n ++ " does not take a value."
  | path o k p f => "Invalid value for '" ++ o ++ "': " ++ pathMessage k p f
  | operands ws =>
    "Got unexpected extra argument" ++ (if ws.length = 1 then "" else "s") ++ " (" ++
      String.intercalate " " ws ++ ")"

/-- The refusal comes with a hint at the help. -/
def hints : Refusal → Bool
  | option (.noText _) | option (.givenText _) => false
  | _ => true

end Refusal

namespace Request

/-- Check the path that an option was given. -/
def checkPath (t : Tree) (here : Place) (option path : String) : Except Refusal Unit :=
  let kind := if option = "--manifest" then "File" else "Directory"
  match t.look here path with
  | .error _ => .error (.path option kind path .missing)
  | .ok .dir =>
    if option = "--manifest" then .error (.path option kind path .isDirectory) else .ok ()
  | .ok _ => if option = "--root" then .error (.path option kind path .isFile) else .ok ()

/-- Check the paths that options were given, in the order of the options. -/
def checkPaths (t : Tree) (here : Place) (f : Filled) : List String → Except Refusal Unit
  | [] => .ok ()
  | n :: ns => do
    if n = "--manifest" || n = "--root" then
      checkPath t here n ((f.text? n).getD "")
    checkPaths t here f ns

/-- Where a job is described and where it runs. -/
def targetOf (f : Filled) : Target :=
  { manifest := f.text? "--manifest", root := (f.text? "--root").getD "." }

/-- How a job is to be run. -/
def optionsOf (f : Filled) : RunOptions :=
  { flags :=
      { branch := f.text? "--branch"
        pullRequest := f.last? "--pull-request" "--no-pull-request"
        repoSlug := f.text? "--repo-slug" }
    strictPublish := f.has "--strict-publish"
    dryRun := f.has "--dry-run" }

/-- What the words behind a command ask for. -/
def ofCommand (t : Tree) (here : Place) (c : Command) (words : List String) :
    Except Refusal Request := do
  let f ← (c.form.fill words).mapError .option
  if f.has "--help" then return help (some c)
  checkPaths t here f f.names
  if !f.operands.isEmpty then throw (.operands f.operands)
  match c with
  | .plan => return plan (targetOf f)
  | .run => return run (targetOf f) (optionsOf f)

/-- What an option asks for that comes before the command. -/
def ofOuter : List (String × String) → Option Request
  | [] => none
  | (name, _) :: _ => some (if name = "--version" then version else help none)

/-- What is made of a word that names no command: it may be an option behind two hyphens. -/
def ofStranger (word : String) (words : List String) : Except Refusal Request := do
  let f ← (Command.outerForm.fill (word :: words)).mapError .option
  match ofOuter f.options with
  | some r => return r
  | none => throw (.unknownCommand word)

/-- **What the words of the command line ask for,** or why it is refused and in which command. -/
def read (t : Tree) (here : Place) (words : List String) :
    Except (Option Command × Refusal) Request := do
  if words.isEmpty then throw (none, .nothing)
  let f ← (Command.outerForm.fill words).mapError fun e => (none, .option e)
  match ofOuter f.options, f.operands with
  | some r, _ => return r
  | none, [] => throw (none, .noCommand)
  | none, word :: words =>
    match Command.ofWord? word with
    | some c => (ofCommand t here c words).mapError fun e => (some c, e)
    | none => (ofStranger word words).mapError fun e => (none, e)

end Request

end BuildLine.CommandLine
