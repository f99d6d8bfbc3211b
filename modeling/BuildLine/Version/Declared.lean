import BuildLine.Toml.Document
import BuildLine.Version

/-!
# The declared version

The version of an installation is the one it was installed with. A copy that was never installed
has the version that its project file declares, under `version` in the table `tool.poetry`; without
a project file the version is not known.
-/

namespace BuildLine.Version

open Data (Value Table)

/-- Why a declared version cannot be told. -/
inductive DeclaredFault where
  /-- The project file is no document. -/
  | document (f : Toml.Fault)
  /-- A key is missing. -/
  | missing (key : String)
  /-- A key is looked up in something that is no table. -/
  | noTable (got : Value)
  /-- The version is no text. -/
  | noText (got : Value)
  /-- The text is no version. -/
  | version (f : Fault)
  deriving Repr

/-- The wording of a fault. -/
def DeclaredFault.message : DeclaredFault → String
  | .document .malformed => ""
  | .document (.longInteger n) => Text.Numeral.tooLongMessage n
  | .missing key => Text.Quoted.literal key
  | .noTable (.list _) => "list indices must be integers or slices, not str"
  | .noTable (.text _) => "string indices must be integers, not 'str'"
  | .noTable v => "'" ++ v.kind ++ "' object is not subscriptable"
  | .noText v => "'" ++ v.kind ++ "' object has no attribute 'split'"
  | .version f => f.message

/-- The value under a key. -/
def lookUp (key : String) : Value → Except DeclaredFault Value
  | .table t =>
    match t.lookup key with
    | some v => .ok v
    | none => .error (.missing key)
  | v => .error (.noTable v)

/-- The version that a project file declares. -/
def ofProject (project : String) : Except DeclaredFault (Option Version) := do
  let t ← (Toml.read project).mapError .document
  match ← lookUp "version" (← lookUp "poetry" (← lookUp "tool" (.table t))) with
  | .text s => (parse s).mapError .version
  | v => throw (.noText v)

/-- **The version of an installation,** from the version it was installed with and the text of its
project file. -/
def declared (installed project : Option String) : Except DeclaredFault (Option Version) :=
  match installed, project with
  | some s, _ => (parse s).mapError .version
  | none, some p => ofProject p
  | none, none => .ok none

end BuildLine.Version
