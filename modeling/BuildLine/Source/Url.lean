import BuildLine.Text.Occurrence
import BuildLine.Text.Split
import BuildLine.Text.Blank

/-!
# Locators

A locator of the form `scheme://authority/path?query#fragment`, cut into the three parts that name
a repository: scheme, authority and path. Cutting is generous: what is missing is empty, and a text
without a scheme is all path. Two authorities are refused: one with a square bracket that has no
partner, and one with a character that becomes a separator when the text is normalised, since such
a character would let one host pass for another.
-/

namespace BuildLine.Source

open Text

/-- The parts of a locator that name a repository. -/
structure Url where
  /-- What stands before the first colon, in lower case. -/
  scheme : List Char
  /-- User, host and port. -/
  authority : List Char
  /-- The path, without the parameters of its last segment where the scheme has such. -/
  path : List Char
  deriving DecidableEq, Repr

namespace Url

/-- An authority that is refused. -/
inductive Fault where
  /-- A square bracket has no partner. -/
  | loneBracket
  /-- A character turns into a separator when the authority is normalised. -/
  | hiddenSeparator (authority : List Char)
  deriving DecidableEq, Repr

/-- The wording of a fault. -/
def Fault.message : Fault → String
  | .loneBracket => "Invalid IPv6 URL"
  | .hiddenSeparator a =>
    "netloc '" ++ String.ofList a ++ "' contains invalid characters under NFKC normalization"

/-- The characters of a scheme. -/
def isSchemeChar (c : Char) : Bool :=
  c.isAlphanum || c = '+' || c = '-' || c = '.'

/-- The schemes whose last path segment may carry parameters after a semicolon. The missing scheme
is one of them. -/
def withParameters : List String :=
  ["", "ftp", "hdl", "prospero", "http", "imap", "https", "shttp", "rtsp", "rtspu", "sip", "sips",
   "mms", "sftp", "tel"]

/-- The characters whose compatibility form holds a slash, question mark, hash, at sign or colon. -/
def hiddenSeparators : List Nat :=
  [0x2047, 0x2048, 0x2049, 0x2100, 0x2101, 0x2105, 0x2106, 0x2a74, 0xfe13, 0xfe16, 0xfe55, 0xfe56,
   0xfe5f, 0xfe6b, 0xff03, 0xff0f, 0xff1a, 0xff1f, 0xff20]

/-- Control characters and the space; they are dropped from the front of a locator. -/
def isControlOrSpace (c : Char) : Bool :=
  c.toNat ≤ 0x20

/-- The text as it is cut: nothing invisible in front, no tabs and line ends anywhere. -/
def cleaned (s : List Char) : List Char :=
  (trimLeft isControlOrSpace s).filter fun c => !(c = '\t' || c = '\r' || c = '\n')

/-- The scheme in lower case and the text after its colon. The scheme begins with a letter. -/
def cutScheme (s : List Char) : List Char × List Char :=
  match cutFirst? ':' s with
  | none => ([], s)
  | some (scheme, rest) =>
    match scheme with
    | [] => ([], s)
    | c :: _ =>
      if c.isAlpha && scheme.all isSchemeChar then (scheme.map Char.toLower, rest) else ([], s)

/-- The authority behind two slashes and the text after it. -/
def cutAuthority : List Char → List Char × List Char
  | '/' :: '/' :: s =>
    let ends c := c = '/' || c = '?' || c = '#'
    (s.takeWhile (!ends ·), s.dropWhile (!ends ·))
  | s => ([], s)

/-- The text before the first `c`, or all of it. -/
def before (c : Char) (s : List Char) : List Char :=
  s.takeWhile (· != c)

/-- The path without the parameters of its last segment. -/
def withoutParameters (path : List Char) : List Char :=
  match cutLast? '/' path with
  | none => before ';' path
  | some (front, last) => front ++ '/' :: before ';' last

/-- Refuse an authority that could be mistaken for another. -/
def checkAuthority (a : List Char) : Except Fault Unit :=
  if a.contains '[' != a.contains ']' then .error .loneBracket
  else if a.any fun c => hiddenSeparators.contains c.toNat then .error (.hiddenSeparator a)
  else .ok ()

/-- **The parts of a locator.** -/
def split (s : List Char) : Except Fault Url := do
  let (scheme, rest) := cutScheme (cleaned s)
  let (authority, rest) := cutAuthority rest
  checkAuthority authority
  let path := before '?' (before '#' rest)
  return {
    scheme, authority
    path := if withParameters.contains (String.ofList scheme) then withoutParameters path
      else path }

end Url

end BuildLine.Source
