import BuildLine.Text.Occurrence

/-!
# Secrets and redaction

A secret is a text that must never be shown. `redact` puts a mask in the place of every occurrence
of every secret, one secret after the other. Longer secrets come first, so that a secret that holds
another one is masked as a whole; secrets of one length come in the order in which they were
registered.
-/

namespace BuildLine.Log

open Text

/-- The registered secrets, each once and none of them empty. -/
abbrev Secrets := List String

/-- What is shown in the place of a secret. -/
def mask : List Char := ['*', '*', '*']

/-- The text with every occurrence of the secrets masked, in the order of the list. -/
def maskInOrder (secrets : List (List Char)) (s : List Char) : List Char :=
  secrets.foldl (fun s secret => replaceAll secret mask s) s

namespace Secrets

/-- Remember a text as a secret. The empty text is none. -/
def register (secrets : Secrets) (value : String) : Secrets :=
  if value.isEmpty || secrets.contains value then secrets else secrets ++ [value]

/-- Forget a secret. -/
def forget (secrets : Secrets) (value : String) : Secrets :=
  secrets.filter (· ≠ value)

/-- The secrets from the longest to the shortest. -/
def longestFirst (secrets : Secrets) : List (List Char) :=
  (secrets.map String.toList).mergeSort fun a b => b.length ≤ a.length

/-- **The text with every occurrence of every secret masked.** -/
def redact (secrets : Secrets) (s : String) : String :=
  String.ofList (maskInOrder secrets.longestFirst s.toList)

end Secrets

end BuildLine.Log
