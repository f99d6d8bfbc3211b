import Mathlib.Data.List.Destutter
import BuildLine.Proofs.Job.Ordering
import BuildLine.Proofs.Run.Account

/-!
# The trail of states

A phase notes the state of every stage that it comes to, unless it is in this state already. This
alone would let a state return after another one. It does not, since the stages of a specification
are in the order of their roles: equal states are then neighbours, to leave out those that repeat
the one before is to keep each state once (`foldl_advanceTo`), and what is kept has the order of the
roles. So the states that a phase passes through are a part of the one path that goes through all of
them (`IsTrail`), and the main statement, `states_of_run`, says which part it is and in what state
it ends.
-/

namespace BuildLine

open Files Job Log

namespace Job.State

/-- The place of a state among all states. -/
def place (s : State) : Nat :=
  all.idxOf s

theorem mem_all (s : State) : s ∈ all := by cases s <;> decide

theorem place_injective {s t : State} (h : s.place = t.place) : s = t :=
  (List.idxOf_inj (mem_all s)).mp h

/-- The states of roles have the order of the roles. -/
theorem place_state (r : Role) : r.state.place = r.rank + if r.rank < 6 then 1 else 7 := by
  cases r <;> decide

theorem place_state_le {r r' : Role} (h : r.rank ≤ r'.rank) : r.state.place ≤ r'.state.place := by
  rw [place_state, place_state]
  split_ifs <;> omega

end Job.State

namespace Run

/-- The states of the main phase in their order. -/
def mainPath : List Job.State :=
  [.installing, .building, .testingDocs, .testing, .benchmarking, .generatingDocs]

/-- The states of the publish phase in their order. -/
def publishPath : List Job.State :=
  [.installingDocTool, .renderingSite, .importingHistory, .pushing]

/-- The stages that a phase comes to that is stopped at a place, or at none. -/
def reached (stop : Option Nat) (stages : List Stage) : List Stage :=
  match stop with
  | none => stages
  | some k => stages.take (k + 1)

/-- **A trail along a path**: the states of stages, each once and in the order of the path. -/
structure IsTrail (path : List Job.State) (stages : List Stage) (trail : List Job.State) :
    Prop where
  /-- The trail is a part of the path. -/
  sublist : trail.Sublist path
  /-- It has the states of the stages and no others. -/
  mem_iff : ∀ s, s ∈ trail ↔ ∃ stage ∈ stages, stage.role.state = s

/-- The state in which the main phase ends stands for its verdict. -/
inductive Closes : Status → Job.State → Prop
  /-- The job has succeeded. -/
  | passed : Closes .passed .succeeded
  /-- The job has failed. -/
  | failed : Closes .failed .failed
  /-- The job was interrupted. -/
  | cancelled : Closes .cancelled .cancelled

/-! ### Passing through states -/

/-- To pass through states is to leave out those that repeat the one before. -/
theorem foldl_advanceTo (before : List Job.State) (a : Job.State) (ss : List Job.State) :
    ss.foldl advanceTo (before ++ [a]) = before ++ ss.destutter' (· ≠ ·) a := by
  induction ss generalizing before a with
  | nil => rfl
  | cons b ss ih =>
    by_cases hab : a = b
    · have hstay : advanceTo (before ++ [a]) b = before ++ [a] := by simp [advanceTo, hab]
      rw [List.foldl_cons, hstay, ih, List.destutter'_cons_neg _ (by simpa using hab)]
    · have hstep : advanceTo (before ++ [a]) b = (before ++ [a]) ++ [b] := by
        simp [advanceTo, hab]
      rw [List.foldl_cons, hstep, ih, List.destutter'_cons_pos _ hab, List.append_assoc]
      rfl

instance : Std.Antisymm fun s t : Job.State => s.place ≤ t.place :=
  ⟨fun _ _ hst hts => Job.State.place_injective (le_antisymm hst hts)⟩

/-- **States in order, passed through from a state that is none of them,** are kept once each. -/
theorem foldl_advanceTo_of_pairwise {start : Job.State} {ss : List Job.State}
    (hss : ss.Pairwise fun s t => s.place ≤ t.place) (hstart : start ∉ ss) :
    ss.foldl advanceTo [start] = start :: ss.dedup := by
  rw [← hss.destutter_eq_dedup]
  refine (foldl_advanceTo [] start ss).trans ?_
  cases ss with
  | nil => rfl
  | cons s ss =>
    have hne : start ≠ s := fun h => hstart (by simp [h])
    rw [List.destutter'_cons_pos _ hne, List.destutter_cons']
    rfl

/-- States in order that lie on a path are a part of it. -/
theorem dedup_sublist_path {path ss : List Job.State}
    (hpath : path.Pairwise fun s t => s.place ≤ t.place)
    (hss : ss.Pairwise fun s t => s.place ≤ t.place) (hmem : ss ⊆ path) :
    ss.dedup.Sublist path := by
  refine List.sublist_of_subperm_of_pairwise ?_ (hss.sublist (List.dedup_sublist ss)) hpath
  exact List.subperm_of_subset (List.nodup_dedup ss) fun s hs => hmem (List.mem_dedup.mp hs)

/-- **Stages in the order of their roles leave a trail.** -/
theorem exists_trail (start : Job.State) {path : List Job.State} {stages : List Stage}
    (hpath : path.Pairwise fun s t => s.place ≤ t.place) (hstart : start ∉ path)
    (hranked : Ranked stages) (hmem : ∀ stage ∈ stages, stage.role.state ∈ path) :
    ∃ trail, (stages.map fun stage => stage.role.state).foldl advanceTo [start] = start :: trail ∧
      IsTrail path stages trail := by
  have hss : (stages.map fun stage => stage.role.state).Pairwise fun s t => s.place ≤ t.place :=
    List.pairwise_map.mpr (hranked.imp fun h => Job.State.place_state_le h)
  have hsub : (stages.map fun stage => stage.role.state) ⊆ path := by
    intro s hs
    obtain ⟨stage, hstage, rfl⟩ := List.mem_map.mp hs
    exact hmem stage hstage
  refine ⟨_, foldl_advanceTo_of_pairwise hss fun h => hstart (hsub h),
    dedup_sublist_path hpath hss hsub, fun s => ?_⟩
  rw [List.mem_dedup, List.mem_map]

/-! ### The stages that a phase comes to -/

variable {w : Surroundings σ} {secrets : Secrets}

/-- The stages that are visited are the first ones. -/
theorem map_stage_visits (index : Nat) (stages : List Stage) (s : σ) :
    (visits w secrets index stages s).1.map Visit.stage =
      stages.take (visits w secrets index stages s).1.length := by
  induction stages generalizing index s with
  | nil => rfl
  | cons stage stages ih =>
    cases hstop : (visit w secrets index stage s).1.stop? with
    | none =>
      rw [visits_cons_of_none stages hstop, List.map_cons, List.length_cons, List.take_succ_cons,
        ih]
      rfl
    | some e =>
      rw [visits_cons_of_some stages hstop]
      rfl

/-- **The stages that are visited are those that the account says the phase came to.** -/
theorem reached_of_account? {stages : List Stage} {s : σ} {results : List StageResult}
    {acc : Account}
    (h : (endingOf (visits w secrets 0 stages s).1).account? results = some acc) :
    (visits w secrets 0 stages s).1.map Visit.stage = reached acc.failedAt stages := by
  rw [map_stage_visits]
  rcases hend : endingOf (visits w secrets 0 stages s).1 with - | ⟨k, n, e⟩
  · have hfailedAt : acc.failedAt = none := by
      rw [hend] at h
      rw [← Option.some.inj h]
    rw [(visits_of_finished hend).1, List.take_length, hfailedAt]
    rfl
  · obtain ⟨us, v, hvs, -, -, -, -, hk, -⟩ := visits_of_stopped hend
    rw [Ending.failedAt_of_account? h hend, hvs, List.length_append, hk, Nat.zero_add]
    rfl

theorem statesAfter_eq (states : List Job.State) (vs : List Visit) :
    statesAfter states vs =
      ((vs.map Visit.stage).map fun s => s.role.state).foldl advanceTo states := by
  rw [List.map_map, List.foldl_map]
  rfl

theorem ranked_reached {stages : List Stage} (h : Ranked stages) (stop : Option Nat) :
    Ranked (reached stop stages) := by
  cases stop with
  | none => exact h
  | some k => exact h.sublist (List.take_sublist _ _)

theorem reached_subset (stop : Option Nat) (stages : List Stage) :
    reached stop stages ⊆ stages := by
  cases stop with
  | none => exact fun _ h => h
  | some k => exact List.take_subset _ _

/-- **A phase through stages in the order of their roles leaves a trail**: that of the stages that
its account says it came to. -/
theorem exists_trail_of_account? (start : Job.State) {path : List Job.State}
    (hpath : path.Pairwise fun s t => s.place ≤ t.place) (hstart : start ∉ path)
    {stages : List Stage} (hranked : Ranked stages)
    (hmem : ∀ stage ∈ stages, stage.role.state ∈ path) {s : σ} {results : List StageResult}
    {acc : Account}
    (h : (endingOf (visits w secrets 0 stages s).1).account? results = some acc) :
    ∃ trail, statesAfter [start] (visits w secrets 0 stages s).1 = start :: trail ∧
      IsTrail path (reached acc.failedAt stages) trail := by
  rw [statesAfter_eq, reached_of_account? h]
  exact exists_trail start hpath hstart (ranked_reached hranked acc.failedAt)
    fun stage hstage => hmem stage (reached_subset _ _ hstage)

/-! ### Runs -/

theorem states_of_jobOutcome {ending : Ending} {results : List StageResult}
    {states : List Job.State} {publish : Except Failure PublishOutcome} {out : JobOutcome}
    (h : Order.jobOutcome ending results states publish = .ok out) :
    out.states = states ++ [out.state] ∧ Closes out.status out.state := by
  obtain ⟨p, -, -, rfl⟩ | ⟨index, stage, code, -, rfl⟩ | ⟨index, stage, -, rfl⟩ :=
    Order.jobOutcome_eq_ok h
  · simp [JobOutcome.state, Closes.passed]
  · simp [JobOutcome.state, Closes.failed]
  · simp [JobOutcome.state, Closes.cancelled]

theorem states_of_publishOutcome {ending : Ending} {results : List StageResult}
    {states : List Job.State} {out : PublishOutcome}
    (h : Order.publishOutcome ending results states = .ok out) :
    out.states = states ++ [out.state] ∧
      out.state ∈ [Job.State.published, .publishFailed, .cancelled] := by
  obtain ⟨-, rfl⟩ | ⟨index, step, code, -, rfl⟩ | ⟨index, step, -, rfl⟩ :=
    Order.publishOutcome_eq_ok h
  all_goals simp

namespace Order

variable {spec : Spec} {d : Draft} (o : Order σ) (ctx : Context)

theorem pairwise_mainPath : mainPath.Pairwise fun s t => s.place ≤ t.place := by decide

theorem pairwise_publishPath : publishPath.Pairwise fun s t => s.place ≤ t.place := by decide

theorem state_mem_mainPath : ∀ r ∈ Role.install :: Role.main, r.state ∈ mainPath := by decide

theorem state_mem_publishPath : ∀ r ∈ Role.publish, r.state ∈ publishPath := by decide

/-- **The main phase leaves a trail** and then comes to the state of its verdict. -/
theorem exists_main_trail (hspec : Spec.create d = .ok spec) {state : σ} {out : JobOutcome}
    (h : o.madeOutcome spec ctx secrets state = .ok out) :
    ∃ trail, out.states = .pending :: trail ++ [out.state] ∧
      IsTrail mainPath (reached out.failedAt spec.mainStages) trail ∧
      Closes out.status out.state := by
  obtain ⟨hstates, hcloses⟩ := states_of_jobOutcome h
  obtain ⟨hranked, hroles⟩ := Spec.roles_mainStages hspec
  obtain ⟨trail, htrail, hpath⟩ := exists_trail_of_account? .pending pairwise_mainPath (by decide)
    hranked (fun stage hstage => state_mem_mainPath _ (hroles stage hstage))
    (o.account_of_madeOutcome spec ctx h)
  refine ⟨trail, ?_, hpath, hcloses⟩
  rw [hstates, ← htrail]
  rfl

/-- **The publish phase leaves a trail** if it is run. -/
theorem exists_publish_trail (hspec : Spec.create d = .ok spec) {state : σ} {out : JobOutcome}
    (h : o.madeOutcome spec ctx secrets state = .ok out) {b : PublishBlock}
    (hpassed : out.status = .passed) (hb : spec.afterSuccess = some b)
    (hholds : b.rule.holds ctx = true) :
    ∃ trail, out.publish.states = .checkPredicate :: trail ++ [out.publish.state] ∧
      IsTrail publishPath (reached out.publish.failedAt b.steps) trail ∧
      out.publish.state ∈ [Job.State.published, .publishFailed, .cancelled] := by
  obtain ⟨-, hresult⟩ := o.publish_of_holds spec ctx h hpassed hb hholds
  obtain ⟨hstates, hcloses⟩ := states_of_publishOutcome hresult
  obtain ⟨hranked, hroles⟩ := Spec.roles_steps hspec hb
  obtain ⟨trail, htrail, hpath⟩ := exists_trail_of_account? .checkPredicate pairwise_publishPath
    (by decide) hranked (fun stage hstage => state_mem_publishPath _ (hroles stage hstage))
    (account_of_publishOutcome hresult)
  refine ⟨trail, ?_, hpath, hcloses⟩
  rw [hstates, ← htrail]

/-- **The states of a run are a path of the machine.** The main phase begins as pending, passes
through the states of the stages that it comes to, and ends in the state of its verdict. There are
states of publishing only if the job has passed and has something to publish, and then the phase is
skipped or leaves a trail of its own. -/
theorem states_of_run (hspec : Spec.create d = .ok spec) (journal : Journal) (state : σ)
    {out : JobOutcome} (hout : (o.run spec ctx journal state).outcome = .ok out) :
    (∃ trail, out.states = .pending :: trail ++ [out.state] ∧
      IsTrail mainPath (reached out.failedAt spec.mainStages) trail ∧
      Closes out.status out.state) ∧
    (out.publish.states = [] ↔ out.publish.state = .notRun) ∧
    (out.publish.state = .notRun ↔ out.status ≠ .passed ∨ spec.afterSuccess = none) ∧
    ∀ b, out.status = .passed → spec.afterSuccess = some b →
      (out.publish.states = [.checkPredicate, .skipped] ↔ b.rule.holds ctx = false) ∧
      (out.publish.state = .skipped ↔ b.rule.holds ctx = false) ∧
      (b.rule.holds ctx = true → ∃ trail,
        out.publish.states = .checkPredicate :: trail ++ [out.publish.state] ∧
        IsTrail publishPath (reached out.publish.failedAt b.steps) trail ∧
        out.publish.state ∈ [Job.State.published, .publishFailed, .cancelled]) := by
  have h : o.madeOutcome spec ctx (startJournal ctx journal).secrets state = .ok out := by
    rwa [run_eq] at hout
  refine ⟨o.exists_main_trail ctx hspec h, ?_⟩
  by_cases hpassed : out.status = .passed
  · obtain ⟨-, hresult⟩ := o.publish_of_madeOutcome spec ctx h hpassed
    cases hb : spec.afterSuccess with
    | none =>
      simp only [publishResult, hb] at hresult
      have hpublish := Except.ok.inj hresult
      simp [← hpublish, hpassed]
    | some b =>
      cases hholds : b.rule.holds ctx with
      | false =>
        simp only [publishResult, hb, hholds] at hresult
        have hpublish := Except.ok.inj hresult
        simp [← hpublish, hpassed, hholds]
      | true =>
        obtain ⟨trail, hstates, hpath, hcloses⟩ :=
          o.exists_publish_trail ctx hspec h hpassed hb hholds
        -- the phase ends in a state that is none of those of a phase that is not run
        have hnotRun : out.publish.state ≠ .notRun := fun hstate => by simp [hstate] at hcloses
        have hskipped : out.publish.state ≠ .skipped := fun hstate => by simp [hstate] at hcloses
        have hlast : out.publish.states ≠ [.checkPredicate, .skipped] := fun heq => by
          have hend := congrArg List.getLast? (hstates.symm.trans heq)
          rw [List.getLast?_concat] at hend
          exact hskipped (Option.some.inj hend)
        refine ⟨iff_of_false (by simp [hstates]) hnotRun, iff_of_false hnotRun (by simp [hpassed]),
          fun b' _ hb' => ?_⟩
        obtain rfl := Option.some.inj hb'
        exact ⟨iff_of_false hlast (by simp [hholds]), iff_of_false hskipped (by simp [hholds]),
          fun _ => ⟨trail, hstates, hpath, hcloses⟩⟩
  · rw [o.publish_of_not_passed spec ctx h hpassed]
    simp [hpassed]

/-- A run of stages that were given in another order than that of their roles, whose publish phase
fails. -/
theorem states_of_run_site :
    let build : Stage := { name := "build", run := "make", role := .build }
    let test : Stage := { name := "test", run := "make test", role := .test }
    let push : Stage := { name := "push", run := "git push", role := .push }
    let block : PublishBlock := { rule := { branch := "main" }, steps := [push] }
    let d : Draft :=
      { platform := some (.text "linux"), script := [test, build], afterSuccess := some block }
    let spec : Spec :=
      { platform := .text "linux", toolchain := "stable", install := [], script := [build, test]
        afterSuccess := some block }
    let ctx : Context :=
      { branch := "main", isPullRequest := false, credential := none, repoSlug := none }
    let script : Script := { replies := [("git push", .exit 128)] }
    let o : Order Script.State := { executor := script.executor, root := ["job"] }
    Spec.create d = .ok spec ∧ ∃ out, (o.run spec ctx {} {}).outcome = .ok out ∧
      out.states = [.pending, .building, .testing, .succeeded] ∧
      out.publish.states = [.checkPredicate, .pushing, .publishFailed] ∧
      Closes out.status out.state ∧
      ∃ trail, IsTrail publishPath (reached out.publish.failedAt [push]) trail := by
  intro build test push block d spec ctx script o
  have hspec : Spec.create d = .ok spec := by cbv
  have hsecrets : (startJournal ctx {}).secrets = [] := rfl
  have hmade : ∃ out, o.madeOutcome spec ctx [] {} = .ok out ∧
      out.states = [.pending, .building, .testing, .succeeded] ∧
      out.publish.states = [.checkPredicate, .pushing, .publishFailed] ∧
      out.status = .passed := ⟨_, by cbv, by cbv, by cbv, by cbv⟩
  obtain ⟨out, hout, hmain, hpublish, hpassed⟩ := hmade
  have hrun : (o.run spec ctx {} {}).outcome = .ok out := by rw [run_eq, hsecrets, hout]
  obtain ⟨⟨-, -, -, hcloses⟩, -, -, hblock⟩ := states_of_run o ctx hspec {} {} hrun
  obtain ⟨-, -, htrail⟩ := hblock block hpassed rfl
  obtain ⟨trail, -, hpath, -⟩ := htrail (by decide)
  exact ⟨hspec, out, hrun, hmain, hpublish, hcloses, trail, hpath⟩

end Order

end Run

end BuildLine
