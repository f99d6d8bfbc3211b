import BuildLine.Files.Tree
import BuildLine.Job.Manifest

/-!
# Reading the manifest of a job from a file

The manifest is the file that was asked for, else the one that the settings name in the directory
of the job, else the built-in job.
-/

namespace BuildLine.Job.Manifest

open Files

/-- Why a file gives no specification. -/
inductive LoadFault where
  /-- The file cannot be read. -/
  | file (f : Files.Fault) (path : String)
  /-- The octets of the file are no text. -/
  | encoding (f : Text.Utf8.Fault)
  /-- The text describes no job. -/
  | manifest (f : Fault)
  deriving Repr

/-- The wording of a fault. -/
def LoadFault.message : LoadFault → String
  | .file f path =>
    s!"[Errno {f.number}] " ++ f.message ++ ": " ++ Text.Quoted.literal path
  | .encoding f => f.message
  | .manifest f => f.message

/-- **The specification in a file.** -/
def load (settings : Settings) (t : Tree) (here : Place) (path : String) :
    Except LoadFault Spec := do
  let w := Written.ofText path
  let octets ← (t.read (w.fromRoot here)).mapError fun f => .file f w.text
  let text ← (Text.Utf8.decode octets).mapError .encoding
  (read settings (String.ofList (Text.Utf8.plainLines text))).mapError .manifest

/-- The path of the manifest in the directory `root`. -/
def defaultPath (settings : Settings) (root : String) : Written :=
  (Written.ofText root).under (Written.ofText settings.manifest)

/-- The specification of a job, for which a file may have been named. -/
def choose (settings : Settings) (t : Tree) (here : Place) (path : Option String) (root : String) :
    Except LoadFault Spec :=
  match path with
  | some p => load settings t here p
  | none =>
    let w := defaultPath settings root
    if t.exists? (w.fromRoot here) then load settings t here w.text
    else (builtin settings).mapError .manifest

end BuildLine.Job.Manifest
