import BuildLine.Log.Secrets
import BuildLine.Text.Split
import BuildLine.Text.Utf8

/-!
# Transcripts

What is kept of the output of a command. The output is decoded, octets that are no text becoming
replacement characters, and taken apart into lines, which are redacted one by one. A line may be
ended by a line feed, by a carriage return, or by both; what follows the last end is a line only if
it is not empty.
-/

namespace BuildLine.Run.Transcript

open Log Text

/-- The lines of a text. -/
def linesOf (s : List Char) : List (List Char) :=
  let ls := splitAt '\n' (Utf8.plainLines s)
  if ls.getLast? = some [] then ls.dropLast else ls

/-- **The redacted lines of a text.** -/
def redacted (secrets : Secrets) (s : List Char) : List String :=
  (linesOf s).map fun l => secrets.redact (String.ofList l)

/-- The text of lines. -/
def joined (lines : List String) : String :=
  String.intercalate "\n" lines

/-- The times at which lines end, where octets come with times; a pair of octets may end a line
together. -/
def endTimes : List (Nat × UInt8) → List Nat
  | [] => []
  | (_, 13) :: (t, 10) :: bs => t :: endTimes bs
  | (t, b) :: bs => if b = 13 || b = 10 then t :: endTimes bs else endTimes bs

/-- The octets of an output, each with its time. -/
def timed (output : List (Nat × List UInt8)) : List (Nat × UInt8) :=
  output.flatMap fun e => e.2.map fun b => (e.1, b)

/-- **The redacted lines of an output,** each with the time at which it is there; the line that
nothing ends is there when the output ends. -/
def ofOutput (secrets : Secrets) (output : List (Nat × List UInt8)) (ends : Nat) :
    List (Nat × String) :=
  let octets := timed output
  let lines := redacted secrets (Utf8.repair (octets.map Prod.snd))
  (endTimes octets ++ [ends]).zip lines

end BuildLine.Run.Transcript
