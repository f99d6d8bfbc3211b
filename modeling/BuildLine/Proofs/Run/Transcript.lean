import BuildLine.Proofs.Log.MaskingOrder
import BuildLine.Proofs.Text.Lines
import BuildLine.Run.Local

/-!
# What a transcript hides

The output of a command is redacted line by line. So a secret that stands within a line is masked,
but one that has a line feed in it is never seen as a whole while the lines are redacted, and comes
together again when they are joined. Where exactly this happens is said by `secret_in_output_iff`,
and `secret_over_two_lines` is a command that prints such a secret.

What is heard of a command are always the first of the redacted lines of what it writes, however it
is stopped (`exists_lines_follow`).
-/

namespace BuildLine.Run

open Log Text

namespace Transcript

variable {secrets : Secrets} {s : List Char} {line : String}

theorem newline_not_mem_of_mem_linesOf {l : List Char} (h : l ∈ linesOf s) : '\n' ∉ l := by
  simp only [linesOf] at h
  split at h
  · exact not_mem_of_mem_splitAt (List.mem_of_mem_dropLast h)
  · exact not_mem_of_mem_splitAt h

/-- There is no line feed in a redacted line. -/
theorem newline_not_mem_of_mem_redacted (h : line ∈ redacted secrets s) : '\n' ∉ line.toList := by
  obtain ⟨l, hl, rfl⟩ := List.mem_map.mp h
  rw [Secrets.redact, String.toList_ofList, String.toList_ofList]
  intro hmem
  -- masking brings no line feed about
  have hinfix := infix_of_maskInOrder (by decide) ((List.singleton_infix_iff _ _).mpr hmem)
  exact newline_not_mem_of_mem_linesOf hl ((List.singleton_infix_iff _ _).mp hinfix)

theorem secret_not_infix_of_mem_redacted {c : String} (hc : c ∈ secrets) (hne : c ≠ "")
    (hstar : '*' ∉ c.toList) (h : line ∈ redacted secrets s) : ¬ c.toList <:+: line.toList := by
  obtain ⟨l, -, rfl⟩ := List.mem_map.mp h
  exact Secrets.not_infix_redact hc hne hstar _

theorem toList_joined (lines : List String) :
    (joined lines).toList = joinWith ['\n'] (lines.map String.toList) := by
  rw [joined, String.toList_intercalate, joinWith_eq_intercalate]
  rfl

/-- **Where a secret stands in redacted lines**: nowhere, unless it begins in one of them and ends
in a later one. -/
theorem infix_joined_iff {c : String} (hc : c ∈ secrets) (hne : c ≠ "") (hstar : '*' ∉ c.toList)
    {lines : List String} (h : lines <+: redacted secrets s) :
    c.toList <:+: (joined lines).toList ↔ Straddles '\n' c.toList (lines.map String.toList) := by
  have hlines {l : List Char} (hl : l ∈ lines.map String.toList) :
      ∃ line ∈ redacted secrets s, line.toList = l := by
    obtain ⟨line, hline, rfl⟩ := List.mem_map.mp hl
    exact ⟨line, h.subset hline, rfl⟩
  rw [toList_joined, infix_joinWith_iff (by simpa using hne)]
  · refine or_iff_right fun ⟨l, hl, hcl⟩ => ?_
    obtain ⟨line, hline, rfl⟩ := hlines hl
    exact secret_not_infix_of_mem_redacted hc hne hstar hline hcl
  · intro l hl
    obtain ⟨line, hline, rfl⟩ := hlines hl
    exact newline_not_mem_of_mem_redacted hline

/-- The text of an output. -/
def textOf (output : List (Nat × List UInt8)) : List Char :=
  Utf8.repair ((timed output).map Prod.snd)

theorem lines_ofOutput (secrets : Secrets) (output : List (Nat × List UInt8)) (ends : Nat) :
    (ofOutput secrets output ends).map Prod.snd <+: redacted secrets (textOf output) := by
  rw [ofOutput, List.zip_eq_zip_take_min, List.map_snd_zip (by simp)]
  exact List.take_prefix ..

end Transcript

/-- What is kept of the output of a command that has come to its end. -/
def Reply.logs? : Reply → Option String
  | .status s => some s.logs
  | .cancelled _ | .failed _ => none

namespace Local

open Shell

variable {m : Manner} {secrets : Secrets} {call : Call} {environment : Environment} {s : State}

/-- However a command is stopped, what is heard of it are the first lines of one of its courses. -/
theorem exists_lines_follow (m : Manner) (secrets : Secrets) (start : Start) (limit : Option Time)
    (fuel : Nat) (f : Following) :
    ∃ signals, (follow m secrets start limit fuel f).lines <+:
      Transcript.ofOutput secrets (Course.of start signals).output
        (Course.of start signals).outputEnds := by
  fun_induction follow m secrets start limit fuel f with
  | case1 f => exact ⟨f.signals, List.prefix_rfl⟩
  | case2 fuel f => exact ⟨f.signals, List.prefix_rfl⟩
  | case3 fuel f => exact ⟨f.signals, List.take_prefix ..⟩
  | case4 => assumption
  | case5 => assumption

/-- **What is heard of a command** that is started, and what is kept of it: the first redacted lines
of what it writes, which depends on the signals that it gets. -/
theorem exists_lines_run (m : Manner) (secrets : Secrets)
    (henv : environmentOf call.env = .ok environment)
    (hdir : checkDirectory s.tree call.cwd = .ok ()) :
    let start : Start := { source := call.command, here := call.cwd, environment, tree := s.tree }
    let r := (executor m).run secrets call s
    ∃ signals lines,
      lines <+: Transcript.redacted secrets (Transcript.textOf (Course.of start signals).output) ∧
        r.2.2.heard = s.heard ++ lines ∧
        ∀ logs, r.2.1.logs? = some logs → logs = Transcript.joined lines := by
  intro start
  obtain ⟨signals, hlines⟩ :=
    exists_lines_follow m secrets start (call.timeout.bind milliseconds) maxHappenings {}
  refine ⟨signals, _, (hlines.map Prod.snd).trans (Transcript.lines_ofOutput ..), ?_⟩
  simp only [executor, henv, hdir, started]
  split
  · exact ⟨rfl, nofun⟩
  · exact ⟨rfl, fun logs hlogs => (Option.some.inj hlogs).symm⟩

/-- A command that writes two lines. -/
def twoLines : Call :=
  { command := "echo one; echo two", cwd := [], env := [] }

/-- How commands are run where nothing but what they write is told. -/
def quiet : Manner :=
  { echo := false, keep := false }

/-- **When a secret gets through**: whatever a command writes, a secret stands in the lines that are
heard exactly if it begins in one of them and ends in a later one, and so never if there is no line
feed in it. This is so for every text and as many of its lines as are heard, and such lines of what
a command writes are what is heard and kept of it if it is started. -/
theorem secret_in_output_iff (m : Manner) (secrets : Secrets)
    (henv : environmentOf call.env = .ok environment)
    (hdir : checkDirectory s.tree call.cwd = .ok ()) :
    (∀ text lines, lines <+: Transcript.redacted secrets text →
      ∀ c ∈ secrets, c ≠ "" → '*' ∉ c.toList →
        (c.toList <:+: (Transcript.joined lines).toList ↔
          Straddles '\n' c.toList (lines.map String.toList)) ∧
        ('\n' ∉ c.toList → ¬ c.toList <:+: (Transcript.joined lines).toList)) ∧
      let start : Start := { source := call.command, here := call.cwd, environment, tree := s.tree }
      let r := (executor m).run secrets call s
      ∃ signals lines,
        lines <+: Transcript.redacted secrets (Transcript.textOf (Course.of start signals).output) ∧
          r.2.2.heard = s.heard ++ lines ∧
          ∀ logs, r.2.1.logs? = some logs → logs = Transcript.joined lines := by
  refine ⟨fun text lines hlines c hc hne hstar => ?_, exists_lines_run m secrets henv hdir⟩
  have hiff := Transcript.infix_joined_iff hc hne hstar hlines
  exact ⟨hiff, fun hbreak hinfix => hbreak (hiff.mp hinfix).sep_mem⟩

/-- A secret without a line feed does not get through, though it stands in what is written. -/
theorem secret_in_output_iff_one_line :
    environmentOf twoLines.env = .ok [] ∧ checkDirectory [] twoLines.cwd = .ok () ∧
      ∀ logs, ((executor quiet).run ["one"] twoLines {}).2.1.logs? = some logs →
        ¬ "one".toList <:+: logs.toList := by
  have henv : environmentOf twoLines.env = .ok [] := rfl
  have hdir : checkDirectory [] twoLines.cwd = .ok () := by cbv
  obtain ⟨hsecret, signals, lines, hlines, -, hlogs⟩ :=
    secret_in_output_iff (s := {}) quiet ["one"] henv hdir
  refine ⟨henv, hdir, fun logs h => hlogs logs h ▸ ?_⟩
  exact (hsecret _ lines hlines "one" (by simp) (by decide) (by decide)).2 (by decide)

/-- **A secret of two lines gets through.** -/
theorem secret_over_two_lines :
    let secret := "one\ntwo"
    let r := (executor quiet).run [secret] twoLines {}
    secret.toList <:+: (Transcript.joined r.2.2.heard).toList ∧
      ∃ logs, r.2.1.logs? = some logs ∧ secret.toList <:+: logs.toList := by
  intro secret r
  have hrun : (r.2.2.heard, r.2.1.logs?) = (["one", "two"], some secret) := by cbv
  obtain ⟨hheard, hlogs⟩ := Prod.mk.inj hrun
  have hjoined : Transcript.joined ["one", "two"] = secret := by decide
  rw [hheard, hjoined]
  exact ⟨List.infix_rfl, secret, hlogs, List.infix_rfl⟩

end Local

end BuildLine.Run
