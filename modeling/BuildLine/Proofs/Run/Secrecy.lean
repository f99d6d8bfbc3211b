import Mathlib
import BuildLine.Proofs.Log.Redaction
import BuildLine.Proofs.Run.History
import BuildLine.Run.Script

/-!
# The credential stays out of what a run leaves

The credential becomes a secret before the first line is told and is forgotten after the last one,
and all that is told in between goes through the journal. So nothing that a run leaves behind to be
read has the credential in it: neither the journal, at any moment of the run, nor the output that is
kept with a result. What the commands print, what the executor tells, which secrets there are
besides and how the run ends does not matter.

The one condition is that there is no asterisk in the credential; see `Secrets.not_infix_redact`.
-/

namespace BuildLine.Run

open Job Log

variable {c : String}

/-- The output that is kept with a result is redacted. -/
theorem Visit.logs_of_mem_results {secrets : Secrets} {v : Visit} {r : StageResult}
    (h : r ∈ v.results secrets) : ∃ text, r.logs = secrets.redact text := by
  obtain ⟨a, -, ha⟩ := List.mem_filterMap.mp h
  unfold Attempt.result? at ha
  split at ha
  · obtain rfl := Option.some.inj ha
    exact ⟨_, rfl⟩
  · cases ha
  · cases ha

namespace Order

variable (o : Order σ) (spec : Spec) {ctx : Context} (journal : Journal) (state : σ)

theorem mem_secrets_startJournal (hc : ctx.credential = some c) (hne : c ≠ "") :
    c ∈ (startJournal ctx journal).secrets := by
  simp only [startJournal, hc, Journal.register]
  exact Secrets.mem_register_self _ hne

theorem hides_of_mem_moments (hc : ctx.credential = some c) (hne : c ≠ "")
    (hstar : '*' ∉ c.toList) {j : Journal} (hj : j ∈ o.moments spec ctx journal state) :
    j.Hides c := by
  have hstart : (startJournal ctx journal).Hides c :=
    Journal.hides_register.mpr (Journal.hides_forgetLines journal c)
  have htold (ns : List Notice) : ((startJournal ctx journal).takeAll ns).Hides c :=
    hstart.takeAll (mem_secrets_startJournal journal hc hne) hne hstar ns
  simp only [moments, List.cons_append, List.mem_cons, List.mem_append, List.mem_map,
    List.not_mem_nil, or_false] at hj
  -- before the credential is a secret, while it is one, and after it was forgotten
  rcases hj with rfl | ⟨ns, -, rfl⟩ | rfl
  · exact Journal.hides_forgetLines journal c
  · exact htold ns
  · exact Journal.hides_forget.mpr (htold _)

theorem logs_of_mem_results {secrets : Secrets} {out : JobOutcome} {r : StageResult}
    (h : o.madeOutcome spec ctx secrets state = .ok out)
    (hr : r ∈ out.stageResults ++ out.publish.stepResults) :
    ∃ text, r.logs = secrets.redact text := by
  obtain ⟨hmain, hpublish⟩ := o.results_of_madeOutcome spec ctx secrets state h
  rw [hmain, hpublish, ← List.flatMap_append] at hr
  obtain ⟨v, -, hv⟩ := List.mem_flatMap.mp hr
  exact v.logs_of_mem_results hv

/-- **A run keeps its credential to itself**: it is in no line of the journal, at no moment of the
run, of which the journal that the run leaves is the last, and it is in no output that is kept with
a result. -/
theorem credential_hidden (hc : ctx.credential = some c) (hne : c ≠ "") (hstar : '*' ∉ c.toList) :
    (∀ j ∈ o.moments spec ctx journal state, ∀ line ∈ j.lines, ¬ c.toList <:+: line.toList) ∧
      (o.moments spec ctx journal state).getLast? = some (o.run spec ctx journal state).journal ∧
      ∀ out, (o.run spec ctx journal state).outcome = .ok out →
        ∀ r ∈ out.stageResults ++ out.publish.stepResults, ¬ c.toList <:+: r.logs.toList := by
  refine ⟨fun j hj => o.hides_of_mem_moments spec journal state hc hne hstar hj,
    o.getLast?_moments spec ctx journal state, fun out hout r hr => ?_⟩
  rw [run_eq] at hout
  obtain ⟨text, htext⟩ := o.logs_of_mem_results spec state hout hr
  rw [htext]
  exact Secrets.not_infix_redact (mem_secrets_startJournal journal hc hne) hne hstar text

/-- A command that prints the credential: the run passes, and what it keeps is masked. -/
theorem credential_hidden_printed :
    let o : Order Script.State :=
      { executor := Script.executor { logs := "with tok in" }, root := ["job"] }
    let spec : Spec :=
      { platform := .text "linux", toolchain := "stable", install := []
        script := [{ name := "build", run := "make", role := .build }] }
    let ctx : Context :=
      { branch := "main", isPullRequest := false, credential := some "tok", repoSlug := none }
    (∀ j ∈ o.moments spec ctx {} {}, ∀ line ∈ j.lines, ¬ "tok".toList <:+: line.toList) ∧
      (o.run spec ctx {} {}).outcome.toOption.map (fun out => out.results.map StageResult.logs) =
        some ["with *** in"] := by
  intro o spec ctx
  have hc : ctx.credential = some "tok" := rfl
  obtain ⟨hlines, -, -⟩ := o.credential_hidden spec {} {} hc (by decide) (by decide)
  refine ⟨hlines, ?_⟩
  have hsecrets : (startJournal ctx {}).secrets = ["tok"] := by decide
  have hout : (o.madeOutcome spec ctx ["tok"] {}).toOption.map
      (fun out => out.results.map StageResult.logs) = some ["with *** in"] := by cbv
  rw [run_eq, hsecrets]
  exact hout

end Order

end BuildLine.Run
