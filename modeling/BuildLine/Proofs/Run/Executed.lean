import BuildLine.CommandLine.Plan
import BuildLine.Proofs.Data.Lists
import BuildLine.Proofs.Job.Admission
import BuildLine.Proofs.Run.Account
import BuildLine.Proofs.Run.Trail

/-!
# The stages that were executed

An outcome lists the stages that were executed, and a plan lists those that are going to be. The
two are made in different ways: a plan goes through the stages, while an outcome goes through the
results and drops a name that repeats the one before. That nothing is lost or listed twice in this
way comes from two sides. In every run the results of a stage stand together, so dropping repeats
leaves at most one name for each visit (`withoutRepeats_flatMap_sublist`); and in an accepted job
all names are different, so a name that is listed belongs to one stage only.

Hence the executed names are a part of the planned ones, and a part of a list without repetitions is
known by its members (`eq_filter_of_sublist`).
-/

namespace BuildLine

open Files Job Log Run

/-! ### Dropping repeats -/

namespace Run

variable {n : String} {ns ms : List String}

theorem withoutRepeats_cons (n : String) (ns : List String) :
    withoutRepeats (n :: ns) =
      if (withoutRepeats ns).head? = some n then withoutRepeats ns else n :: withoutRepeats ns := by
  rw [withoutRepeats]
  cases withoutRepeats ns with
  | nil => rfl
  | cons m ms =>
    simp only [List.head?_cons, Option.some.injEq]
    split
    · rename_i hnm
      rw [if_pos hnm.symm]
    · rename_i hnm
      rw [if_neg fun hmn => hnm hmn.symm]

theorem mem_withoutRepeats : n ∈ withoutRepeats ns ↔ n ∈ ns := by
  induction ns with
  | nil => exact Iff.rfl
  | cons m ns ih =>
    rw [withoutRepeats_cons, List.mem_cons, ← ih]
    split
    · rename_i hhead
      rw [or_iff_right_of_imp]
      rintro rfl
      exact List.mem_of_mem_head? hhead
    · exact List.mem_cons

theorem withoutRepeats_cons_sublist :
    (withoutRepeats (n :: ns)).Sublist (n :: withoutRepeats ns) := by
  rw [withoutRepeats_cons]
  split
  · exact List.sublist_cons_self ..
  · exact .refl _

/-- A name that repeats the one before is dropped. -/
theorem withoutRepeats_cons_cons : withoutRepeats (n :: n :: ns) = withoutRepeats (n :: ns) := by
  have hhead : (withoutRepeats (n :: ns)).head? = some n := by
    rw [withoutRepeats_cons]
    split
    · assumption
    · rfl
  rw [withoutRepeats_cons, if_pos hhead]

/-- One name is left where a name stands several times together. -/
theorem withoutRepeats_append_sublist (h : ∀ m ∈ ms, m = n) :
    (withoutRepeats (ms ++ ns)).Sublist (n :: withoutRepeats ns) := by
  induction ms with
  | nil => exact List.sublist_cons_self ..
  | cons m ms ih =>
    obtain ⟨rfl, hms⟩ := List.forall_mem_cons.mp h
    cases ms with
    | nil => exact withoutRepeats_cons_sublist
    | cons k ms =>
      obtain rfl : k = m := hms k (List.mem_cons_self ..)
      rw [List.cons_append, List.cons_append, withoutRepeats_cons_cons]
      exact ih hms

/-- If each list has one name only, this name is left at most once for each list. -/
theorem withoutRepeats_flatMap_sublist {f : α → List String} {g : α → String} {as : List α}
    (h : ∀ a ∈ as, ∀ m ∈ f a, m = g a) :
    (withoutRepeats (as.flatMap f)).Sublist (as.map g) := by
  induction as with
  | nil => exact .refl _
  | cons a as ih =>
    obtain ⟨ha, has⟩ := List.forall_mem_cons.mp h
    rw [List.flatMap_cons, List.map_cons]
    exact (withoutRepeats_append_sublist ha).trans ((ih has).cons_cons _)

end Run

/-! ### Plans -/

namespace CommandLine.Plan

/-- The rows of a plan that list stages, with their numbers. -/
def listing (stages : List Stage) : List String :=
  stages.mapIdx fun i s => row (number i ++ " " ++ s.name) (detail s)

theorem stageRows_eq (index : Nat) (stages : List Stage) :
    stageRows index stages =
      stages.mapIdx fun i s => row (number (index + i) ++ " " ++ s.name) (detail s) := by
  induction stages generalizing index with
  | nil => rfl
  | cons s stages ih =>
    rw [stageRows, ih, List.mapIdx_cons]
    simp only [Nat.add_zero, Nat.add_assoc, Nat.add_comm 1]

/-- **A plan lists the main stages and the steps of the publish phase**, with one row before the
former and at most one before the latter. -/
theorem exists_rows_eq (spec : Spec) :
    ∃ head condition, rows spec =
        head :: (listing spec.mainStages ++ condition ++ listing spec.publishSteps) ∧
      condition.length ≤ 1 := by
  have hlisting (stages : List Stage) : stageRows 0 stages = listing stages := by
    simp only [stageRows_eq, listing, Nat.zero_add]
  refine ⟨row "Platform" (spec.platform.display ++ " / " ++ spec.toolchain), ?_⟩
  unfold rows Spec.publishSteps
  simp only [hlisting]
  cases spec.afterSuccess with
  | none => exact ⟨[], by simp [listing], Nat.zero_le 1⟩
  | some b => exact ⟨[row "After success" (condition b.rule)], by simp, Nat.le_refl 1⟩

end CommandLine.Plan

/-! ### Stages and results -/

namespace Run

/-- The command ran to its end, however it ended. -/
def Attempt.Returned (a : Attempt) : Prop :=
  ∃ s, a.reply = .status s

instance (a : Attempt) : Decidable a.Returned :=
  match h : a.reply with
  | .status s => .isTrue ⟨s, h⟩
  | .cancelled _ => .isFalse (by rintro ⟨s, hs⟩; cases h.symm.trans hs)
  | .failed _ => .isFalse (by rintro ⟨s, hs⟩; cases h.symm.trans hs)

variable {w : Surroundings σ} {secrets : Secrets}

theorem Attempt.returned_iff {a : Attempt} : a.Returned ↔ ∃ r, a.result? secrets = some r := by
  constructor
  · rintro ⟨s, hs⟩
    exact ⟨resultOf secrets a.index a.stage a.call.command s, by rw [result?, hs]⟩
  · rintro ⟨r, hr⟩
    obtain ⟨s, hs, -⟩ := eq_of_result?_eq_some hr
    exact ⟨s, hs⟩

theorem Attempt.name_of_result? {a : Attempt} {r : StageResult} (h : a.result? secrets = some r) :
    r.name = a.stage.name := by
  obtain ⟨s, -, rfl⟩ := eq_of_result?_eq_some h
  rfl

/-- The results of a visit have the name of the stage that is visited. -/
theorem name_of_mem_results {index : Nat} {stages : List Stage} {s : σ} {v : Visit}
    (hv : v ∈ (visits w secrets index stages s).1) {r : StageResult}
    (hr : r ∈ v.results secrets) : r.name = v.stage.name := by
  obtain ⟨a, ha, hresult⟩ := List.mem_filterMap.mp hr
  rw [Attempt.name_of_result? hresult, (place_of_mem_attempts hv ha).2]

/-- If the stage runs for every file, there is one. -/
def FindsFile (stage : Stage) (tree : Tree) (root : Place) : Prop :=
  ∀ pattern, stage.pattern? = some pattern →
    ∃ file files, stage.discover pattern tree root = .ok (file :: files)

/-- Every stage of the phase that runs for every file finds one where the phase comes to it. -/
def FindsFiles (w : Surroundings σ) (secrets : Secrets) (stages : List Stage) (s : σ) : Prop :=
  ∀ i stage, stages[i]? = some stage →
    FindsFile stage (w.executor.tree (arrival w secrets 0 stages s i)) w.root

theorem FindsFile.commands_ne_nil {stage : Stage} {tree : Tree} {root : Place} {ctx : Context}
    (h : FindsFile stage tree root) : stage.commands tree root ctx ≠ .ok [] := by
  intro hnone
  unfold Stage.commands at hnone
  cases hwork : stage.work with
  | once v =>
    rw [hwork] at hnone
    cases hnone
  | forEach pattern =>
    obtain ⟨file, files, hdiscover⟩ := h pattern (by rw [Stage.pattern?, hwork])
    simp only [hwork, hdiscover] at hnone
    cases hnone

section Phase

variable {stages : List Stage} {s : σ}

/-- **A phase in which everything passes finishes,** unless it breaks down. -/
theorem finished_of_passes
    (hpasses : ∀ a ∈ (visits w secrets 0 stages s).1.flatMap Visit.attempts, a.reply.Passes)
    (hsound : ¬ ∃ i n f, endingOf (visits w secrets 0 stages s).1 = .stopped i n (.broken f)) :
    endingOf (visits w secrets 0 stages s).1 = .finished := by
  cases hend : endingOf (visits w secrets 0 stages s).1 with
  | finished => rfl
  | stopped i n e =>
    have hbroken (f : Failure) : e ≠ .broken f := by
      rintro rfl
      exact hsound ⟨i, n, f, hend⟩
    obtain ⟨front, a, hattempts, -, hstop, -⟩ := exists_last_of_stopped hend hbroken
    have ha := hpasses a (by rw [hattempts]; simp)
    rw [Reply.stop?_eq_none.mpr ha] at hstop
    cases hstop

/-- **In a phase that finishes and finds its files every stage has a result.** -/
theorem exists_returned_of_finished
    (hend : endingOf (visits w secrets 0 stages s).1 = .finished)
    (hfiles : FindsFiles w secrets stages s) {stage : Stage} (hstage : stage ∈ stages) :
    ∃ a ∈ (visits w secrets 0 stages s).1.flatMap Visit.attempts,
      a.stage = stage ∧ a.Returned := by
  obtain ⟨i, hi⟩ := List.mem_iff_getElem?.mp hstage
  have hcommands := below_of_finished hend hi
  have hne : ((visits w secrets 0 stages s).1.flatMap (Visit.results secrets)).filter
      (fun r => r.index = i) ≠ [] := by
    intro hnil
    rw [hnil] at hcommands
    exact (hfiles i stage hi).commands_ne_nil hcommands
  obtain ⟨r, hr⟩ := List.exists_mem_of_ne_nil _ hne
  rw [List.mem_filter, flatMap_results, decide_eq_true_iff] at hr
  obtain ⟨hr, rfl⟩ := hr
  obtain ⟨a, ha, hresult⟩ := List.mem_filterMap.mp hr
  obtain ⟨st, hst, rfl⟩ := eq_of_result?_eq_some hresult
  have hplace := getElem?_index_of_mem_attempts ha
  exact ⟨a, ha, Option.some.inj (hplace.symm.trans hi), st, hst⟩

end Phase

/-! ### Runs -/

namespace Order

variable (o : Order σ) (spec : Spec) (ctx : Context) {state : σ}

/-- The visits of the publish phase are visits of steps that are published. -/
theorem publishVisits_cases (secrets : Secrets) (state : σ) :
    (o.publishVisits spec ctx secrets state).1 = [] ∨
      (o.publishVisits spec ctx secrets state).1 =
        (visits (o.surroundings spec ctx) secrets 0 (spec.publishing ctx)
          (o.mainVisits spec ctx secrets state).2).1 := by
  cases hend : endingOf (o.mainVisits spec ctx secrets state).1 with
  | stopped i n e => exact .inl (o.publishVisits_of_stopped spec ctx secrets state hend)
  | finished => exact .inr (by rw [o.publishVisits_of_finished spec ctx secrets state hend])

/-- The stages that a run visits are stages of the job, in their order. -/
theorem map_stage_sublist (secrets : Secrets) (state : σ) :
    (((o.mainVisits spec ctx secrets state).1 ++ (o.publishVisits spec ctx secrets state).1).map
      Visit.stage).Sublist spec.stages := by
  rw [List.map_append]
  refine List.Sublist.append ?_ ?_
  · rw [mainVisits, map_stage_visits]
    exact List.take_sublist ..
  · rcases o.publishVisits_cases spec ctx secrets state with h | h
    · rw [h]
      exact List.nil_sublist _
    · rw [h, map_stage_visits]
      exact (List.take_sublist ..).trans (spec.publishing_sublist ctx)

theorem name_of_mem_results_run {v : Visit}
    (hv : v ∈ (o.mainVisits spec ctx secrets state).1 ++ (o.publishVisits spec ctx secrets state).1)
    {r : StageResult} (hr : r ∈ v.results secrets) : r.name = v.stage.name := by
  rcases List.mem_append.mp hv with hv | hv
  · exact name_of_mem_results hv hr
  · rcases o.publishVisits_cases spec ctx secrets state with h | h
    · rw [h] at hv
      cases hv
    · rw [h] at hv
      exact name_of_mem_results hv hr

variable {out : JobOutcome}

theorem results_eq (h : o.madeOutcome spec ctx secrets state = .ok out) :
    out.results = (o.attempted spec ctx secrets state).filterMap (Attempt.result? secrets) := by
  obtain ⟨hmain, hpublish⟩ := o.results_of_madeOutcome spec ctx secrets state h
  rw [JobOutcome.results, hmain, hpublish, flatMap_results, flatMap_results,
    ← List.filterMap_append, ← List.flatMap_append]
  rfl

/-- **Every stage is listed once,** in the order of the job. -/
theorem executed_sublist (h : o.madeOutcome spec ctx secrets state = .ok out) :
    out.executed.Sublist (spec.stages.map Stage.name) := by
  obtain ⟨hmain, hpublish⟩ := o.results_of_madeOutcome spec ctx secrets state h
  rw [JobOutcome.executed, JobOutcome.results, hmain, hpublish, ← List.flatMap_append,
    List.map_flatMap]
  refine (withoutRepeats_flatMap_sublist (g := fun v => v.stage.name) fun v hv m hm => ?_).trans ?_
  · obtain ⟨r, hr, rfl⟩ := List.mem_map.mp hm
    exact o.name_of_mem_results_run spec ctx hv hr
  · have hstages := (o.map_stage_sublist spec ctx secrets state).map Stage.name
    rwa [List.map_map] at hstages

/-- A name is listed if a command of its stage has returned. -/
theorem mem_executed_iff (h : o.madeOutcome spec ctx secrets state = .ok out) {n : String} :
    n ∈ out.executed ↔
      ∃ a ∈ o.attempted spec ctx secrets state, a.stage.name = n ∧ a.Returned := by
  rw [JobOutcome.executed, mem_withoutRepeats, o.results_eq spec ctx h, List.mem_map]
  constructor
  · rintro ⟨r, hr, rfl⟩
    obtain ⟨a, ha, hresult⟩ := List.mem_filterMap.mp hr
    exact ⟨a, ha, (Attempt.name_of_result? hresult).symm, Attempt.returned_iff.mpr ⟨r, hresult⟩⟩
  · rintro ⟨a, ha, rfl, hreturned⟩
    obtain ⟨r, hr⟩ := Attempt.returned_iff.mp hreturned
    exact ⟨r, List.mem_filterMap.mpr ⟨a, ha, hr⟩, Attempt.name_of_result? hr⟩

/-- A run in which everything passes and whose rule holds comes to all stages. -/
theorem finished_of_passes_run (h : o.madeOutcome spec ctx secrets state = .ok out)
    (hpasses : ∀ a ∈ o.attempted spec ctx secrets state, a.reply.Passes)
    (hrule : ∀ b, spec.afterSuccess = some b → b.rule.holds ctx = true) :
    endingOf (o.mainVisits spec ctx secrets state).1 = .finished ∧
      (o.publishVisits spec ctx secrets state).1 =
        (visits (o.surroundings spec ctx) secrets 0 spec.publishSteps
          (o.mainVisits spec ctx secrets state).2).1 ∧
      endingOf (o.publishVisits spec ctx secrets state).1 = .finished := by
  obtain ⟨hmain, hpublish⟩ := (o.exists_outcome_iff spec ctx secrets state).mp ⟨out, h⟩
  rw [attempted, List.flatMap_append, List.forall_mem_append] at hpasses
  have hfinished := finished_of_passes hpasses.1 hmain
  have hsteps : spec.publishing ctx = spec.publishSteps := by
    unfold Job.Spec.publishing Spec.publishSteps
    cases hb : spec.afterSuccess with
    | none => rfl
    | some b => exact if_pos (hrule b hb)
  have hvisits := o.publishVisits_of_finished spec ctx secrets state hfinished
  rw [hsteps] at hvisits
  rw [hvisits] at hpasses hpublish ⊢
  exact ⟨hfinished, rfl, finished_of_passes hpasses.2 hpublish⟩

/-- **The executed stages are a part of the planned ones**: those of which a command has returned,
in the order of the plan and each of them once. They are all of them if everything passes, the job
publishes and no stage is without files. -/
theorem executed_of_run {d : Draft} (hspec : Spec.create d = .ok spec) (journal : Journal)
    (state : σ) (hout : (o.run spec ctx journal state).outcome = .ok out) :
    let secrets := (startJournal ctx journal).secrets
    let w := o.surroundings spec ctx
    let attempted := o.attempted spec ctx secrets state
    let planned := (spec.mainStages ++ spec.publishSteps).map Stage.name
    (o.transcribed.run spec ctx journal ([], state)).state.1 = attempted.map Attempt.exchange ∧
      (∃ head condition, CommandLine.Plan.rows spec =
          head :: (CommandLine.Plan.listing spec.mainStages ++ condition ++
            CommandLine.Plan.listing spec.publishSteps) ∧
        condition.length ≤ 1) ∧
      out.executed.Nodup ∧
      out.executed =
        planned.filter (fun n => ∃ a ∈ attempted, a.stage.name = n ∧ a.Returned) ∧
      ((∀ a ∈ attempted, a.reply.Passes) →
        (∀ b, spec.afterSuccess = some b → b.rule.holds ctx = true) →
        FindsFiles w secrets spec.mainStages state →
        FindsFiles w secrets spec.publishSteps (o.mainVisits spec ctx secrets state).2 →
          out.executed = planned) := by
  intro secrets w attempted planned
  obtain ⟨-, -, hstate⟩ := o.run_transcribed spec ctx [] state journal
  have h : o.madeOutcome spec ctx secrets state = .ok out := by rwa [run_eq] at hout
  have hdistinct : planned.Nodup :=
    (Spec.checkNames_eq_ok_iff.mp (Spec.create_eq_ok_iff.mp hspec).names).2.1
  have hsublist := o.executed_sublist spec ctx h
  have hfilter : out.executed =
      planned.filter (fun n => ∃ a ∈ attempted, a.stage.name = n ∧ a.Returned) := by
    refine eq_filter_of_sublist hsublist hdistinct fun n _ => ?_
    rw [decide_eq_true_iff]
    exact o.mem_executed_iff spec ctx h
  refine ⟨by rw [hstate]; rfl, CommandLine.Plan.exists_rows_eq spec, hdistinct.sublist hsublist,
    hfilter, fun hpasses hrule hmainFiles hpublishFiles => ?_⟩
  obtain ⟨hmain, hvisits, hpublish⟩ := o.finished_of_passes_run spec ctx h hpasses hrule
  rw [hvisits] at hpublish
  rw [hfilter, List.filter_eq_self]
  intro n hn
  obtain ⟨stage, hstage, rfl⟩ := List.mem_map.mp hn
  rw [decide_eq_true_iff]
  simp only [attempted, Order.attempted, List.flatMap_append, hvisits]
  rcases List.mem_append.mp hstage with hstage | hstage
  · obtain ⟨a, ha, rfl, hreturned⟩ := exists_returned_of_finished hmain hmainFiles hstage
    exact ⟨a, List.mem_append_left _ ha, rfl, hreturned⟩
  · obtain ⟨a, ha, rfl, hreturned⟩ := exists_returned_of_finished hpublish hpublishFiles hstage
    exact ⟨a, List.mem_append_right _ ha, rfl, hreturned⟩

/-- A run with a file to check and a step to publish. -/
theorem executed_of_run_published :
    let check : Stage :=
      { name := "check", run := "check {file}", role := .test, work := .forEach "*.md" }
    let push : Stage := { name := "push", run := "git push", role := .push }
    let block : PublishBlock := { rule := { branch := "main" }, steps := [push] }
    let d : Draft :=
      { platform := some (.text "linux"), script := [check], afterSuccess := some block }
    let spec : Spec :=
      { platform := .text "linux", toolchain := "stable", install := [], script := [check]
        afterSuccess := some block }
    let ctx : Context := ⟨"main", false, none, none⟩
    let o : Order Script.State := { executor := Script.executor {}, root := ["job"] }
    let st : Script.State := { tree := [(["job"], .dir), (["job", "a.md"], .file [])] }
    Spec.create d = .ok spec ∧
      ∃ out, (o.run spec ctx {} st).outcome = .ok out ∧ out.executed = ["check", "push"] := by
  intro check push block d spec ctx o st
  have hspec : Spec.create d = .ok spec := by cbv
  have hsecrets : (startJournal ctx {}).secrets = [] := rfl
  have hmade : ∃ out, o.madeOutcome spec ctx [] st = .ok out := ⟨_, by cbv⟩
  obtain ⟨out, hout⟩ := hmade
  have hrun : (o.run spec ctx {} st).outcome = .ok out := by rw [run_eq, hsecrets, hout]
  obtain ⟨-, -, -, -, hall⟩ := o.executed_of_run spec ctx hspec {} st hrun
  refine ⟨hspec, out, hrun, hall ?_ ?_ ?_ ?_⟩
  · have hstops : (o.attempted spec ctx [] st).map (fun a => a.reply.stop?) = [none, none] := by
      cbv
    intro a ha
    have hmem : a.reply.stop? ∈ [none, none] := hstops ▸ List.mem_map_of_mem ha
    exact Reply.stop?_eq_none.mp (by simpa using hmem)
  · rintro b ⟨⟩
    rfl
  · rintro (_ | i) stage ⟨⟩ pattern ⟨⟩
    exact ⟨"a.md", [], by cbv⟩
  · rintro (_ | i) stage ⟨⟩ pattern ⟨⟩

end Order

end Run

end BuildLine
