import BuildLine.Job.Stage

/-!
# Job specifications

A specification is the checked and ordered description of a job: where it runs, what it installs,
its main stages, and what it publishes. `Spec.create` makes one from a draft. It checks the parts
in a fixed order, and the first fault found is the one reported: toolchain, roles of the three
lists, missing platform, unknown options, names. In between it puts every list in the order of the
roles; stages of one role keep the order in which they were drafted.
-/

namespace BuildLine.Job

open Data (Table Value)

/-- The checked and ordered description of a job. -/
structure Spec where
  /-- Where the job runs. -/
  platform : Value
  /-- The toolchain that the job uses. -/
  toolchain : String
  /-- What is installed first. -/
  install : List Stage
  /-- The main stages after the installation. -/
  script : List Stage
  /-- What is published afterwards, and when. -/
  afterSuccess : Option PublishBlock := none
  /-- The language of what is built. -/
  language : Value := .text ""
  /-- Variables for all commands. -/
  env : Table := []
  deriving Repr

/-- A step of the installation, as drafted. -/
inductive InstallStep where
  /-- A command, which gets its name from its place. -/
  | command (run : String)
  /-- A stage. -/
  | stage (s : Stage)
  deriving Repr

/-- What a specification is made from. -/
structure Draft where
  /-- Where the job runs. -/
  platform : Option Value := none
  /-- The toolchain. -/
  toolchain : Value := .text "stable"
  /-- The steps of the installation. -/
  install : List InstallStep := []
  /-- The main stages. -/
  script : List Stage := []
  /-- What is published, and when. -/
  afterSuccess : Option PublishBlock := none
  /-- The language. -/
  language : Value := .text ""
  /-- Variables. -/
  env : Table := []
  /-- The names of options that no job has. -/
  unknown : List String := []
  deriving Repr

/-- Why a draft is no specification. -/
inductive SpecFault where
  /-- The word names no role. -/
  | unknownRole (word : Value)
  /-- There is no such toolchain. -/
  | unsupportedToolchain (toolchain : Value)
  /-- A stage stands in a phase that has no place for its role. -/
  | misplaced (stage : String) (role : Role) (phase : String)
  /-- No platform is given. -/
  | noPlatform
  /-- Options that no job has. -/
  | unknownOptions (names : List String)
  /-- A name with characters that a name cannot have, or none at all. -/
  | badName (name : String)
  /-- Two stages of one name. -/
  | nameTaken (name : String)
  deriving Repr

/-- Names in order, as a literal list. -/
def listNames (names : List String) : String :=
  (Value.list ((names.mergeSort fun a b => decide (a ≤ b)).map Value.text)).literal

/-- The wording of a fault. -/
def SpecFault.message : SpecFault → String
  | .unknownRole w =>
    "Unknown role " ++ w.literal ++ ". Known roles: " ++
      String.intercalate ", " (Role.all.map Role.word)
  | .unsupportedToolchain t => "Unsupported toolchain: " ++ t.display
  | .misplaced s r p =>
    "Stage " ++ s ++ " has role " ++ r.word ++ " which is not allowed in the " ++ p ++ " phase"
  | .noPlatform => Text.Quoted.literal "platform"
  | .unknownOptions ns => "Unknown job options: " ++ listNames ns
  | .badName n =>
    "Stage names should be made of letters, digits, - and _. Got: " ++ Text.Quoted.literal n
  | .nameTaken n => "Stage name taken: " ++ n

/-- The role that a word names. -/
def Role.parse (word : Value) : Except SpecFault Role :=
  match word with
  | .text w =>
    match Role.ofWord? w with
    | some r => .ok r
    | none => .error (.unknownRole word)
  | _ => .error (.unknownRole word)

namespace Spec

/-- The toolchains there are. -/
def toolchains : List String := ["stable"]

/-- The toolchain of a draft. -/
def checkToolchain (t : Value) : Except SpecFault String :=
  match t with
  | .text s => if toolchains.contains s then .ok s else .error (.unsupportedToolchain t)
  | _ => .error (.unsupportedToolchain t)

/-- The steps of the installation as stages, counted from `i`. -/
def installStages (i : Nat) : List InstallStep → List Stage
  | [] => []
  | .command run :: steps =>
    { name := s!"install-{i}", run, role := .install } :: installStages (i + 1) steps
  | .stage s :: steps => s :: installStages (i + 1) steps

/-- The stages in the order of their roles. -/
def sorted (stages : List Stage) : List Stage :=
  stages.mergeSort fun a b => a.role.rank ≤ b.role.rank

/-- The stages of a phase in the order of their roles, if the phase has a place for all of them. -/
def ordered (allowed : List Role) (phase : String) (stages : List Stage) :
    Except SpecFault (List Stage) :=
  match stages.find? fun s => !allowed.contains s.role with
  | some s => .error (.misplaced s.name s.role phase)
  | none => .ok (sorted stages)

/-- The block with its steps in the order of their roles. -/
def orderedBlock : Option PublishBlock → Except SpecFault (Option PublishBlock)
  | none => .ok none
  | some b => do
    let steps ← ordered Role.publish "publish" b.steps
    return some { b with steps }

/-- The characters of a name. -/
def isNameChar (c : Char) : Bool :=
  c.isAlphanum || c = '-' || c = '_'

/-- A name is not empty and made of letters, digits, hyphens and underscores. -/
def isName (n : String) : Bool :=
  !n.isEmpty && n.toList.all isNameChar

/-- Refuse names that are no names and names that were seen before. -/
def checkNames (seen : List String) : List String → Except SpecFault Unit
  | [] => .ok ()
  | n :: ns =>
    if !isName n then .error (.badName n)
    else if seen.contains n then .error (.nameTaken n)
    else checkNames (n :: seen) ns

/-- The steps of the installation and the stages after them. -/
def mainStages (s : Spec) : List Stage :=
  s.install ++ s.script

/-- The steps of the publish phase. -/
def publishSteps (s : Spec) : List Stage :=
  match s.afterSuccess with
  | none => []
  | some b => b.steps

/-- All stages in the order in which they run. -/
def stages (s : Spec) : List Stage :=
  s.mainStages ++ s.publishSteps

/-- The variables of the job, each name once. -/
def vars (s : Spec) : Table :=
  s.env.foldl (fun t e => Data.Table.put e.1 e.2 t) []

/-- **The specification that a draft describes.** -/
def create (d : Draft) : Except SpecFault Spec := do
  let toolchain ← checkToolchain d.toolchain
  let install ← ordered [.install] "install" (installStages 0 d.install)
  let script ← ordered Role.main "main" d.script
  let afterSuccess ← orderedBlock d.afterSuccess
  let some platform := d.platform | throw .noPlatform
  if !d.unknown.isEmpty then throw (.unknownOptions d.unknown)
  let spec : Spec :=
    { platform, toolchain, install, script, afterSuccess, language := d.language, env := d.env }
  checkNames [] (spec.stages.map Stage.name)
  return spec

end Spec

end BuildLine.Job
