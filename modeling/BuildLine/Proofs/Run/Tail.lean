import BuildLine.Proofs.Log.Kept
import BuildLine.Proofs.Run.Report

/-!
# The end of the log

A report on a run that went wrong ends with the last lines of the log. They are cut from the lines
of the journal, which have been cut before, and perhaps many times. What the journal is known to
keep is enough for the report: no line that it needs is among those that were dropped.
-/

namespace BuildLine

namespace Run

open Job Log

namespace Report

variable {all lines : List String} {k : Nat} {now : Int} {spec : Spec} {o : JobOutcome}

/-- The lines of a report before the log. -/
def boxes (now : Int) (spec : Spec) (o : JobOutcome) : List String :=
  ["", "```linear-ci", title spec o] ++ mainBox now spec o ++ publishBox now spec o.publish ++
    ["```"]

/-- Something went wrong: the job has not passed, or its publish phase has failed or was
interrupted. -/
def WentWrong (o : JobOutcome) : Prop :=
  o.status ≠ .passed ∨ o.publish.state = .publishFailed ∨ o.publish.state = .cancelled

instance (o : JobOutcome) : Decidable (WentWrong o) :=
  inferInstanceAs (Decidable (_ ∨ _))

theorem isBroken_iff : isBroken o = true ↔ WentWrong o := by
  simp [isBroken, JobOutcome.succeeded, WentWrong, or_assoc]

theorem graph_eq (tail : Int) :
    graph tail now lines spec o =
      boxes now spec o ++ if tail ≠ 0 ∧ WentWrong o then logTail tail lines else [] := by
  simp only [graph, Bool.and_eq_true, decide_eq_true_eq, isBroken_iff]
  split
  · rfl
  · exact (List.append_nil _).symm

/-- The end of a report shows the last of all lines, if the journal has kept enough of them. -/
theorem logTail_eq (h : Keeps all lines) (hk : k ≤ keptLines) :
    logTail k lines =
      ["", "Last " ++ toString (min k all.length) ++ " log lines:", "```"] ++
        lastOf (min k all.length) all ++ ["```"] := by
  have htail : tailOf k lines = lastOf k all := by
    rw [tailOf, if_pos (Int.natCast_nonneg k), Int.toNat_natCast, h.lastOf_eq hk]
  simp only [logTail, htail, length_lastOf, lastOf_min]

end Report

namespace Order

open Report

variable (o : Order σ) (spec : Spec) (ctx : Context) (journal : Journal) (state : σ)

theorem lines_startJournal : (startJournal ctx journal).lines = [] := by
  unfold startJournal
  cases ctx.credential <;> rfl

/-- A run leaves the last of the lines that it has told. -/
theorem keeps_run :
    let start := startJournal ctx journal
    Keeps ((o.told spec ctx start.secrets state).filterMap start.lineOf)
      (o.run spec ctx journal state).journal.lines := by
  intro start
  have hstart : Keeps [] start.lines := by
    rw [lines_startJournal]
    exact ⟨List.suffix_rfl, Nat.min_le_right ..⟩
  rw [run_eq]
  have hkeeps := Journal.keeps_takeAll hstart (o.told spec ctx start.secrets state)
  cases ctx.credential <;> exact hkeeps

/-- **The report on a run that went wrong ends with the last lines of this run,** and every other
report ends before them. -/
theorem report_ends_with_last_lines {out : JobOutcome}
    (hout : (o.run spec ctx journal state).outcome = .ok out) {k : Nat} (hpos : 1 ≤ k)
    (hk : k ≤ 1000) (now : Int) :
    let made := o.run spec ctx journal state
    let start := startJournal ctx journal
    let told := o.told spec ctx start.secrets state
    let lines := told.filterMap start.lineOf
    let m := min k lines.length
    made.journal = (start.takeAll told).forget ctx.credential ∧
      render k now made.journal.lines spec out =
        "\n" ++ "\n".intercalate (boxes now spec out ++
          if WentWrong out then
            ["", "Last " ++ toString m ++ " log lines:", "```"] ++ lastOf m lines ++ ["```"]
          else []) ∧
      ∀ earlier : List String,
        let again := o.run spec ctx { journal with lines := earlier } state
        again.outcome = .ok out ∧
          render k now again.journal.lines spec out = render k now made.journal.lines spec out := by
  intro made start told lines m
  have hmade : made = { outcome := _, journal := _, state := _ } := o.run_eq spec ctx journal state
  refine ⟨by rw [hmade], ?_, fun earlier => ?_⟩
  · have hkeeps := o.keeps_run spec ctx journal state
    rw [render_eq, graph_eq, logTail_eq hkeeps hk]
    have htail : (k : Int) ≠ 0 := by omega
    simp only [htail, ne_eq, not_false_eq_true, true_and]
    rfl
  · -- the lines are forgotten before anything is told
    intro again
    have hagain : again = made := by
      simp only [again, made, run_eq]
      rfl
    rw [hagain]
    exact ⟨hout, rfl⟩

/-- The last line of a run in which a command has failed, at the end of its report. -/
theorem report_ends_with_last_lines_failed :
    let spec : Spec :=
      { platform := .text "linux", toolchain := "stable", install := []
        script := [{ name := "build", run := "make", role := .build }] }
    let ctx : Context := ⟨"main", false, none, none⟩
    let script : Script := { replies := [("make", .exit 2)] }
    let o : Order Script.State := { executor := script.executor, root := ["job"] }
    let journal : Journal := { lines := ["earlier"] }
    let lines := (o.told spec ctx [] {}).filterMap (startJournal ctx journal).lineOf
    ∃ out, (o.run spec ctx journal {}).outcome = .ok out ∧ WentWrong out ∧
      render 1 0 (o.run spec ctx journal {}).journal.lines spec out =
        "\n" ++ "\n".intercalate (boxes 0 spec out ++
          (["", "Last 1 log lines:", "```"] ++ lastOf 1 lines ++ ["```"])) := by
  intro spec ctx script o journal lines
  have hsecrets : (startJournal ctx journal).secrets = [] := rfl
  have hmade : ∃ out, o.madeOutcome spec ctx [] {} = .ok out ∧ WentWrong out :=
    ⟨_, by cbv, by cbv; decide⟩
  obtain ⟨out, hout, hwrong⟩ := hmade
  have hrun : (o.run spec ctx journal {}).outcome = .ok out := by rw [run_eq, hsecrets, hout]
  refine ⟨out, hrun, hwrong, ?_⟩
  obtain ⟨-, hrender, -⟩ :=
    o.report_ends_with_last_lines spec ctx journal {} hrun (Nat.le_refl 1) (by decide) 0
  -- the start of the job is always told
  have hm : min 1 lines.length = 1 := Nat.min_eq_left (Nat.succ_le_succ (Nat.zero_le _))
  rw [hsecrets, if_pos hwrong, hm] at hrender
  exact hrender

end Order

end Run

end BuildLine
