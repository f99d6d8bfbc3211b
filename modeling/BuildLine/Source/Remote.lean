import BuildLine.Source.Url
import BuildLine.Text.Digit

/-!
# Remotes

A remote is where a checkout was fetched from. It is written as a locator, or in the short form
`user@host:path`. Either way it names a host, an owner, which may itself be a path, and a
repository; owner and repository together are its *slug*.

In a locator of the secure shell the owner may stand where other locators have a port: what stands
behind the colon is then the front of the path, unless it is made of digits.
-/

namespace BuildLine.Source

open Text

/-- Where a checkout was fetched from. -/
structure Remote where
  /-- The host, with its port where the scheme keeps one. -/
  host : String
  /-- The owner of the repository. -/
  owner : String
  /-- The name of the repository. -/
  name : String
  /-- The remote as it was written. -/
  written : String
  deriving DecidableEq, Repr

namespace Remote

/-- Why a text is no remote. -/
inductive Fault where
  /-- Neither a locator nor the short form. -/
  | unsupported (remote : String)
  /-- The path has fewer than two segments. -/
  | noPath (remote : String)
  /-- The locator cannot be cut. -/
  | url (f : Url.Fault)
  deriving DecidableEq, Repr

/-- The wording of a fault. -/
def Fault.message : Fault → String
  | .unsupported r => "Unsupported remote: " ++ r
  | .noPath r => "Remote has no owner/repo path: " ++ r
  | .url f => f.message

/-- Owner and repository. -/
def slug (r : Remote) : String :=
  r.owner ++ "/" ++ r.name

/-- What stands before the first colon and after it. -/
def cutColon (s : List Char) : List Char × List Char :=
  (cutFirst? ':' s).getD (s, [])

/-- Host and path of a locator. -/
def ofUrl (url : Url) : List Char × List Char :=
  let authority := afterLast '@' url.authority
  if "ssh".toList.isPrefixOf url.scheme then
    let (host, port) := cutColon authority
    if port.isEmpty || allDigits port then (host, url.path)
    else (host, port ++ '/' :: trimLeft (· = '/') url.path)
  else (authority, url.path)

/-- Host and path of a written remote. -/
def hostAndPath (s : String) : Except Fault (List Char × List Char) :=
  let cs := s.toList
  if occurs "://".toList cs then ((Url.split cs).mapError .url).map ofUrl
  else if cs.contains '@' && cs.contains ':' then .ok (cutColon (afterLast '@' cs))
  else .error (.unsupported s)

/-- The segments of a path that are not empty. -/
def segments (path : List Char) : List (List Char) :=
  (splitAt '/' path).filter fun p => !p.isEmpty

/-- **The remote that a text names.** -/
def parse (s : String) : Except Fault Remote := do
  let (host, path) ← hostAndPath s
  let parts := segments path
  match parts.getLast? with
  | none => throw (.noPath s)
  | some last =>
    if parts.length < 2 then throw (.noPath s)
    return {
      host := String.ofList host
      owner := String.ofList (joinWith ['/'] parts.dropLast)
      name := String.ofList (dropTail ".git".toList last)
      written := s }

end Remote

end BuildLine.Source
