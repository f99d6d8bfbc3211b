import BuildLine.Proofs.Run.Following
import BuildLine.Proofs.Run.Variables
import Mathlib.Data.List.Forall2

/-!
# What a run does does not depend on the credential

Two runs are *twins* if nothing but the credential sets them apart, and what the process keeps for
it in its variables. Twins that follow one script go side by side: they visit the same stages,
attempt the same commands there in the same places, and get the same replies (`Visit.Alike`). The
credential shows in two things only, the one variable under which a stage asks for it, and the
output that is kept with a result, in which either run masks its own.

It does not even matter whether there is a credential. Only the script is asked to be the same, so
this does not say what a command makes of a credential that it has been given.
-/

namespace BuildLine.Run

open Files Job Log

/-! ### What is alike -/

/-- Two tasks that nothing sets apart but the variable of the credential. -/
structure Task.Alike (t u : Task) : Prop where
  /-- They stand at the same place of their phase. -/
  index : t.index = u.index
  /-- They belong to the same stage. -/
  stage : t.stage = u.stage
  /-- They have the same command. -/
  command : t.call.command = u.call.command
  /-- They run in the same directory. -/
  cwd : t.call.cwd = u.call.cwd
  /-- They may take the same time. -/
  timeout : t.call.timeout = u.call.timeout
  /-- Under all names but the one for the credential they have the same variable. -/
  env : ∀ k, t.stage.secretVar ≠ some k → t.call.env.get? k = u.call.env.get? k

/-- Two attempts at tasks that are alike, with the same reply. -/
structure Attempt.Alike (a b : Attempt) : Prop where
  /-- The tasks are alike. -/
  task : a.toTask.Alike b.toTask
  /-- The replies are the same. -/
  reply : a.reply = b.reply

/-- Two visits with attempts that are alike, and the same stop. -/
structure Visit.Alike (v u : Visit) : Prop where
  /-- They are at the same place of their phase. -/
  index : v.index = u.index
  /-- They are at the same stage. -/
  stage : v.stage = u.stage
  /-- The attempts are alike. -/
  attempts : List.Forall₂ Attempt.Alike v.attempts u.attempts
  /-- They stop in the same way. -/
  stop : v.stop? = u.stop?

/-- A result without the output that is kept with it. -/
def StageResult.withoutLogs (r : StageResult) : StageResult :=
  { r with logs := "" }

/-- What the publish phase came to, without output. -/
def PublishOutcome.withoutLogs (p : PublishOutcome) : PublishOutcome :=
  { p with stepResults := p.stepResults.map StageResult.withoutLogs }

/-- What a job came to, without output. -/
def JobOutcome.withoutLogs (out : JobOutcome) : JobOutcome :=
  { out with
    stageResults := out.stageResults.map StageResult.withoutLogs
    publish := out.publish.withoutLogs }

/-! ### Twins -/

/-- The surroundings of twins. -/
structure Surroundings.Twins (w₁ w₂ : Surroundings σ) : Prop where
  /-- They have the same root. -/
  root : w₁.root = w₂.root
  /-- They are for the same branch. -/
  branch : w₁.ctx.branch = w₂.ctx.branch
  /-- They are for the same repository. -/
  repoSlug : w₁.ctx.repoSlug = w₂.ctx.repoSlug
  /-- All commands share the same variables. -/
  env : ∀ k, w₁.env.get? k = w₂.env.get? k

/-- Two runs that follow one script and that nothing sets apart but the credential: the variables of
the process are the same apart from those that hold it. -/
structure Order.Twins (script : Script) (o₁ : Order Script.State) (ctx₁ : Context)
    (o₂ : Order Script.State) (ctx₂ : Context) : Prop where
  /-- The first one follows the script. -/
  executor₁ : o₁.executor = script.executor
  /-- The second one follows the script. -/
  executor₂ : o₂.executor = script.executor
  /-- They have the same settings. -/
  settings : o₁.settings = o₂.settings
  /-- They have the same root. -/
  root : o₁.root = o₂.root
  /-- They are for the same branch. -/
  branch : ctx₁.branch = ctx₂.branch
  /-- They are both for a pull request, or neither of them is. -/
  isPullRequest : ctx₁.isPullRequest = ctx₂.isPullRequest
  /-- They are for the same repository. -/
  repoSlug : ctx₁.repoSlug = ctx₂.repoSlug
  /-- Without those that hold the credential the variables of the process are the same. -/
  environment : ∀ k, (o₁.withoutCredential ctx₁).get? k = (o₂.withoutCredential ctx₂).get? k

variable {w₁ w₂ : Surroundings Script.State} {script : Script} {secrets₁ secrets₂ : Secrets}

/-! ### Side by side -/

namespace Surroundings.Twins

theorem commands_eq (h : w₁.Twins w₂) (tree : Tree) (stage : Stage) :
    stage.commands tree w₁.root w₁.ctx = stage.commands tree w₂.root w₂.ctx := by
  have hplaceholders : w₁.ctx.placeholders = w₂.ctx.placeholders := by
    rw [Context.placeholders, Context.placeholders, h.branch, h.repoSlug]
  have hfor : stage.commandFor w₁.ctx = stage.commandFor w₂.ctx := by
    funext file
    rw [Stage.commandFor, Stage.commandFor, hplaceholders]
  rw [Stage.commands, Stage.commands, Stage.command, Stage.command, hplaceholders, hfor, h.root]

theorem taskFor_alike (h : w₁.Twins w₂) (index : Nat) (stage : Stage) (cwd : Place)
    (command : String) :
    (taskFor index stage cwd (stageEnv w₁ stage) command).Alike
      (taskFor index stage cwd (stageEnv w₂ stage) command) where
  index := rfl
  stage := rfl
  command := rfl
  cwd := rfl
  timeout := rfl
  env k hk := by
    -- under this name the credential is not given, and the layers below are the same
    have hk' : ¬ stage.secretVar = some k := hk
    simp only [taskFor, get?_stageEnv, hk', false_and, if_false, h.env]

/-- Twins have the same tasks at a stage, apart from the credential. -/
theorem tasksOf_alike (h : w₁.Twins w₂) (tree : Tree) (index : Nat) (stage : Stage) :
    (∃ f, tasksOf w₁ tree index stage = .error f ∧ tasksOf w₂ tree index stage = .error f) ∨
      ∃ ts us, tasksOf w₁ tree index stage = .ok ts ∧ tasksOf w₂ tree index stage = .ok us ∧
        List.Forall₂ Task.Alike ts us := by
  unfold tasksOf
  rw [h.commands_eq, h.root]
  cases stage.commands tree w₂.root w₂.ctx with
  | error f => exact Or.inl ⟨_, rfl, rfl⟩
  | ok commands =>
    cases tree.settle (stage.directory w₂.root) with
    | error snag => exact Or.inl ⟨_, rfl, rfl⟩
    | ok cwd =>
      refine Or.inr ⟨_, _, rfl, rfl, ?_⟩
      rw [List.forall₂_map_left_iff, List.forall₂_map_right_iff]
      exact List.forall₂_same.mpr fun command _ => h.taskFor_alike index stage cwd command

end Surroundings.Twins

theorem stopOf_eq_of_alike {as bs : List Attempt} (h : List.Forall₂ Attempt.Alike as bs) :
    stopOf as = stopOf bs := by
  induction h with
  | nil => rfl
  | cons hab _ ih => rw [stopOf_cons, stopOf_cons, hab.reply, ih]

/-- Tasks that are alike make attempts that are alike, since a script looks at nothing but the
commands. -/
theorem attempts_alike {ts us : List Task} (h : List.Forall₂ Task.Alike ts us)
    {st₁ st₂ : Script.State} :
    List.Forall₂ Attempt.Alike (attempts script.executor secrets₁ ts st₁).1
      (attempts script.executor secrets₂ us st₂).1 := by
  induction h generalizing st₁ st₂ with
  | nil => exact .nil
  | @cons t u ts us htu _ ih =>
    have hreply : (script.executor.attempt secrets₁ t st₁).1.reply =
        (script.executor.attempt secrets₂ u st₂).1.reply := by
      rw [Script.reply_attempt, Script.reply_attempt, htu.command]
    have hfirst : (script.executor.attempt secrets₁ t st₁).1.Alike
        (script.executor.attempt secrets₂ u st₂).1 := ⟨htu, hreply⟩
    cases hstop : (script.executor.attempt secrets₁ t st₁).1.reply.stop? with
    | none =>
      rw [attempts_cons_of_none ts hstop, attempts_cons_of_none us (hreply ▸ hstop)]
      exact .cons hfirst ih
    | some e =>
      rw [attempts_cons_of_some ts hstop, attempts_cons_of_some us (hreply ▸ hstop)]
      exact .cons hfirst .nil

section Visits

variable (h : w₁.Twins w₂) (hw₁ : w₁.executor = script.executor)
  (hw₂ : w₂.executor = script.executor)

include h hw₁ hw₂

theorem visit_alike (index : Nat) (stage : Stage) {st₁ st₂ : Script.State}
    (htree : st₁.tree = st₂.tree) :
    (visit w₁ secrets₁ index stage st₁).1.Alike (visit w₂ secrets₂ index stage st₂).1 := by
  have htree₁ : w₁.executor.tree st₁ = st₁.tree := by rw [hw₁]; rfl
  have htree₂ : w₂.executor.tree st₂ = st₁.tree := by rw [hw₂, htree]; rfl
  rcases h.tasksOf_alike st₁.tree index stage with ⟨f, h₁, h₂⟩ | ⟨ts, us, h₁, h₂, hts⟩
  · obtain ⟨hattempts₁, -, hstop₁⟩ := visit_of_error secrets₁ (htree₁.symm ▸ h₁)
    obtain ⟨hattempts₂, -, hstop₂⟩ := visit_of_error secrets₂ (htree₂.symm ▸ h₂)
    exact ⟨rfl, rfl, by rw [hattempts₁, hattempts₂]; exact .nil, hstop₁.trans hstop₂.symm⟩
  · obtain ⟨hattempts₁, -, hstop₁⟩ := visit_of_ok secrets₁ (htree₁.symm ▸ h₁)
    obtain ⟨hattempts₂, -, hstop₂⟩ := visit_of_ok secrets₂ (htree₂.symm ▸ h₂)
    have halike : List.Forall₂ Attempt.Alike (attempts w₁.executor secrets₁ ts st₁).1
        (attempts w₂.executor secrets₂ us st₂).1 := by
      rw [hw₁, hw₂]
      exact attempts_alike hts
    exact ⟨rfl, rfl, by rwa [hattempts₁, hattempts₂],
      by rw [hstop₁, hstop₂, stopOf_eq_of_alike halike]⟩

/-- **Twins go side by side** through a phase. -/
theorem visits_alike (index : Nat) (stages : List Stage) {st₁ st₂ : Script.State}
    (htree : st₁.tree = st₂.tree) :
    List.Forall₂ Visit.Alike (visits w₁ secrets₁ index stages st₁).1
        (visits w₂ secrets₂ index stages st₂).1 ∧
      (visits w₁ secrets₁ index stages st₁).2.tree =
        (visits w₂ secrets₂ index stages st₂).2.tree := by
  induction stages generalizing index st₁ st₂ with
  | nil => exact ⟨.nil, htree⟩
  | cons stage stages ih =>
    have hvisit : (visit w₁ secrets₁ index stage st₁).1.Alike
        (visit w₂ secrets₂ index stage st₂).1 := visit_alike h hw₁ hw₂ index stage htree
    -- the kept calls may differ, but all that the next stage looks at are the files
    have hleft : (visit w₁ secrets₁ index stage st₁).2.tree =
        (visit w₂ secrets₂ index stage st₂).2.tree := by
      have hstill := script.still
      simp only [visit, hw₁, hw₂]
      exact (hstill.tree_attempts _ st₁).trans (htree.trans (hstill.tree_attempts _ st₂).symm)
    cases hstop : (visit w₁ secrets₁ index stage st₁).1.stop? with
    | none =>
      rw [visits_cons_of_none stages hstop, visits_cons_of_none stages (hvisit.stop ▸ hstop)]
      obtain ⟨hrest, htrees⟩ := ih (index + 1) hleft
      exact ⟨.cons hvisit hrest, htrees⟩
    | some e =>
      rw [visits_cons_of_some stages hstop, visits_cons_of_some stages (hvisit.stop ▸ hstop)]
      exact ⟨.cons hvisit .nil, hleft⟩

end Visits

/-! ### What comes of it -/

section Alike

variable {vs us : List Visit}

theorem endingOf_eq_of_alike (h : List.Forall₂ Visit.Alike vs us) : endingOf vs = endingOf us := by
  induction h with
  | nil => rfl
  | @cons v u vs us hvu _ ih =>
    cases hstop : v.stop? with
    | none => rw [endingOf_cons_of_none vs hstop, endingOf_cons_of_none us (hvu.stop ▸ hstop), ih]
    | some e =>
      rw [endingOf_cons_of_some vs hstop, endingOf_cons_of_some us (hvu.stop ▸ hstop), hvu.index,
        hvu.stage]

theorem statesAfter_eq_of_alike (h : List.Forall₂ Visit.Alike vs us) (states : List Job.State) :
    statesAfter states vs = statesAfter states us := by
  induction h generalizing states with
  | nil => rfl
  | @cons v u vs us hvu _ ih =>
    have hstep : advanceTo states v.stage.role.state = advanceTo states u.stage.role.state := by
      rw [hvu.stage]
    exact (congrArg (statesAfter · vs) hstep).trans (ih _)

theorem result_withoutLogs_eq {a b : Attempt} (h : a.Alike b) :
    (a.result? secrets₁).map StageResult.withoutLogs =
      (b.result? secrets₂).map StageResult.withoutLogs := by
  rw [Attempt.result?, Attempt.result?, h.reply, h.task.index, h.task.stage, h.task.command]
  cases b.reply <;> rfl

theorem results_withoutLogs_eq (h : List.Forall₂ Visit.Alike vs us) :
    (vs.flatMap (Visit.results secrets₁)).map StageResult.withoutLogs =
      (us.flatMap (Visit.results secrets₂)).map StageResult.withoutLogs := by
  have hattempts {as bs : List Attempt} (h : List.Forall₂ Attempt.Alike as bs) :
      (as.filterMap (Attempt.result? secrets₁)).map StageResult.withoutLogs =
        (bs.filterMap (Attempt.result? secrets₂)).map StageResult.withoutLogs := by
    simp only [List.map_filterMap]
    induction h with
    | nil => rfl
    | cons hab _ ih => rw [List.filterMap_cons, List.filterMap_cons, ih, result_withoutLogs_eq hab]
  induction h with
  | nil => rfl
  | cons hvu _ ih =>
    rw [List.flatMap_cons, List.flatMap_cons, List.map_append, List.map_append, ih]
    exact congrArg (· ++ _) (hattempts hvu.attempts)

theorem attempts_alike_of_visits (h : List.Forall₂ Visit.Alike vs us) :
    List.Forall₂ Attempt.Alike (vs.flatMap Visit.attempts) (us.flatMap Visit.attempts) := by
  induction h with
  | nil => exact .nil
  | cons hvu _ ih => exact List.rel_append hvu.attempts ih

end Alike

theorem publishOutcome_withoutLogs (ending : Ending) (results : List StageResult)
    (states : List Job.State) :
    (Order.publishOutcome ending results states).map PublishOutcome.withoutLogs =
      Order.publishOutcome ending (results.map StageResult.withoutLogs) states := by
  rcases ending with - | ⟨index, step, code | - | f⟩ <;> rfl

theorem jobOutcome_withoutLogs (ending : Ending) (results : List StageResult)
    (states : List Job.State) (publish : Except Failure PublishOutcome) :
    (Order.jobOutcome ending results states publish).map JobOutcome.withoutLogs =
      Order.jobOutcome ending (results.map StageResult.withoutLogs) states
        (publish.map PublishOutcome.withoutLogs) := by
  rcases ending with - | ⟨index, stage, code | - | f⟩
  · cases publish <;> rfl
  · rfl
  · rfl
  · rfl

theorem publishResult_withoutLogs_eq {ctx₁ ctx₂ : Context} (spec : Spec)
    (hholds : ∀ rule : PublishRule, rule.holds ctx₁ = rule.holds ctx₂) {vs us : List Visit}
    (h : List.Forall₂ Visit.Alike vs us) :
    (publishResult spec ctx₁ secrets₁ vs).map PublishOutcome.withoutLogs =
      (publishResult spec ctx₂ secrets₂ us).map PublishOutcome.withoutLogs := by
  unfold publishResult
  cases spec.afterSuccess with
  | none => rfl
  | some b =>
    simp only [hholds]
    split
    · rw [publishOutcome_withoutLogs, publishOutcome_withoutLogs, endingOf_eq_of_alike h,
        statesAfter_eq_of_alike h, results_withoutLogs_eq h]
    · rfl

namespace Order.Twins

variable {o₁ o₂ : Order Script.State} {ctx₁ ctx₂ : Context}

theorem surroundings (h : Twins script o₁ ctx₁ o₂ ctx₂) (spec : Spec) :
    (o₁.surroundings spec ctx₁).Twins (o₂.surroundings spec ctx₂) where
  root := h.root
  branch := h.branch
  repoSlug := h.repoSlug
  env k := by
    rw [Order.surroundings, Order.surroundings, get?_sharedEnv, get?_sharedEnv, h.environment]

theorem holds_eq (h : Twins script o₁ ctx₁ o₂ ctx₂) (rule : PublishRule) :
    rule.holds ctx₁ = rule.holds ctx₂ := by
  rw [PublishRule.holds, PublishRule.holds, h.branch, h.isPullRequest]

theorem mainVisits_alike (h : Twins script o₁ ctx₁ o₂ ctx₂) (spec : Spec)
    (secrets₁ secrets₂ : Secrets) (st : Script.State) :
    List.Forall₂ Visit.Alike (o₁.mainVisits spec ctx₁ secrets₁ st).1
        (o₂.mainVisits spec ctx₂ secrets₂ st).1 ∧
      (o₁.mainVisits spec ctx₁ secrets₁ st).2.tree =
        (o₂.mainVisits spec ctx₂ secrets₂ st).2.tree :=
  visits_alike (h.surroundings spec) h.executor₁ h.executor₂ 0 spec.mainStages rfl

theorem publishVisits_alike (h : Twins script o₁ ctx₁ o₂ ctx₂) (spec : Spec)
    (secrets₁ secrets₂ : Secrets) (st : Script.State) :
    List.Forall₂ Visit.Alike (o₁.publishVisits spec ctx₁ secrets₁ st).1
      (o₂.publishVisits spec ctx₂ secrets₂ st).1 := by
  obtain ⟨hmain, htree⟩ := h.mainVisits_alike spec secrets₁ secrets₂ st
  have hpublishing : spec.publishing ctx₁ = spec.publishing ctx₂ := by
    simp only [Job.Spec.publishing, h.holds_eq]
  have hending := endingOf_eq_of_alike hmain
  cases hend : endingOf (o₂.mainVisits spec ctx₂ secrets₂ st).1 with
  | finished =>
    simp only [publishVisits, hending, hend, hpublishing]
    exact (visits_alike (h.surroundings spec) h.executor₁ h.executor₂ 0 _ htree).1
  | stopped index stage e =>
    simp only [publishVisits, hending, hend]
    exact .nil

/-- **The credential interferes with nothing**: twins make the same calls, apart from the variable
under which a stage is given the credential, and come to the same, apart from the output that is
kept. -/
theorem noninterference (h : Twins script o₁ ctx₁ o₂ ctx₂) (spec : Spec)
    (journal₁ journal₂ : Journal) (tree : Tree) :
    let as := o₁.attempted spec ctx₁ (startJournal ctx₁ journal₁).secrets { tree }
    let bs := o₂.attempted spec ctx₂ (startJournal ctx₂ journal₂).secrets { tree }
    let made₁ := o₁.run spec ctx₁ journal₁ { tree }
    let made₂ := o₂.run spec ctx₂ journal₂ { tree }
    made₁.state.calls = as.map (fun a => a.call) ∧ made₂.state.calls = bs.map (fun b => b.call) ∧
      List.Forall₂ Attempt.Alike as bs ∧
      made₁.outcome.map JobOutcome.withoutLogs = made₂.outcome.map JobOutcome.withoutLogs := by
  intro as bs made₁ made₂
  have hcalls₁ : made₁.state.calls = _ := Script.calls_run h.executor₁ spec ctx₁ journal₁ { tree }
  have hcalls₂ : made₂.state.calls = _ := Script.calls_run h.executor₂ spec ctx₂ journal₂ { tree }
  obtain ⟨hmain, -⟩ := h.mainVisits_alike spec (startJournal ctx₁ journal₁).secrets
    (startJournal ctx₂ journal₂).secrets { tree }
  have hpublish := h.publishVisits_alike spec (startJournal ctx₁ journal₁).secrets
    (startJournal ctx₂ journal₂).secrets { tree }
  refine ⟨by rw [hcalls₁]; rfl, by rw [hcalls₂]; rfl,
    attempts_alike_of_visits (List.rel_append hmain hpublish), ?_⟩
  simp only [made₁, made₂, run_eq, madeOutcome]
  rw [jobOutcome_withoutLogs, jobOutcome_withoutLogs, endingOf_eq_of_alike hmain,
    results_withoutLogs_eq hmain, statesAfter_eq_of_alike hmain,
    publishResult_withoutLogs_eq spec h.holds_eq hpublish]

/-- Twins with a step that is given the credential, one of which has a copy of it in its
variables. -/
theorem noninterference_push :
    let push : Stage :=
      { name := "push", run := "git push", role := .push, work := .once (some "TOKEN") }
    let spec : Spec :=
      { platform := .text "linux", toolchain := "stable", install := []
        script := [{ name := "build", run := "make", role := .build }]
        afterSuccess := some { rule := { branch := "main" }, steps := [push] } }
    let ctx (credential : String) : Context :=
      { branch := "main", isPullRequest := false, credential := some credential, repoSlug := none }
    let script : Script := { logs := "one and two" }
    let o₁ : Order Script.State :=
      { executor := script.executor, root := ["job"]
        environment := [("GH_TOKEN", "one"), ("HOME", "/"), ("COPY", "one")] }
    let o₂ : Order Script.State :=
      { executor := script.executor, root := ["job"]
        environment := [("HOME", "/"), ("GH_TOKEN", "two")] }
    Twins script o₁ (ctx "one") o₂ (ctx "two") ∧
      List.Forall₂ Attempt.Alike
        (o₁.attempted spec (ctx "one") (startJournal (ctx "one") {}).secrets {})
        (o₂.attempted spec (ctx "two") (startJournal (ctx "two") {}).secrets {}) ∧
      (o₁.run spec (ctx "one") {} {}).outcome.map JobOutcome.withoutLogs =
        (o₂.run spec (ctx "two") {} {}).outcome.map JobOutcome.withoutLogs := by
  intro push spec ctx script o₁ o₂
  have hleft : o₁.withoutCredential (ctx "one") = o₂.withoutCredential (ctx "two") := by decide
  have htwins : Twins script o₁ (ctx "one") o₂ (ctx "two") :=
    ⟨rfl, rfl, rfl, rfl, rfl, rfl, rfl, fun k => by rw [hleft]⟩
  obtain ⟨-, -, halike, hout⟩ := htwins.noninterference spec {} {} []
  exact ⟨htwins, halike, hout⟩

end Order.Twins

end BuildLine.Run
