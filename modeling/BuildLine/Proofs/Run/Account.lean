import BuildLine.Proofs.Run.Halt
import BuildLine.Proofs.Run.Transcribed

/-!
# What a phase accounts for

The two phases of a job leave outcomes of different types, but both account for what was done in
the same way: with a verdict, the place and the name of the stage that stopped the phase, the exit
code of the command that failed, and the results of the commands. This much of an outcome is its
`Account`. An account is put together from two sources, since the place and the name are taken from
the loop and the rest from what stopped it; that the two always speak of the same stage and of the
last call is `Account.Agrees`.

The main statement is `outcome_agrees`: both accounts of a run agree with the calls that were made.
-/

namespace BuildLine.Run

open Files Job Log

/-! ### Accounts -/

/-- What is left of a phase. -/
structure Account where
  /-- The verdict on the phase. -/
  status : Status
  /-- The place of the stage that stopped the phase. -/
  failedAt : Option Nat
  /-- The name of this stage. -/
  failedName : Option String
  /-- The exit code of the command that failed. -/
  exitCode : Option Int
  /-- The results of the commands. -/
  results : List StageResult

/-- The account of the main phase. -/
def JobOutcome.account (o : JobOutcome) : Account :=
  { status := o.status, failedAt := o.failedAt, failedName := o.failedStage, exitCode := o.exitCode
    results := o.stageResults }

/-- The verdict that the state of a publish phase stands for. -/
def PublishOutcome.verdict (o : PublishOutcome) : Status :=
  match o.state with
  | .published => .passed
  | .publishFailed => .failed
  | .cancelled => .cancelled
  | _ => .skipped

/-- The account of the publish phase. -/
def PublishOutcome.account (o : PublishOutcome) : Account :=
  { status := o.verdict, failedAt := o.failedAt, failedName := o.failedStep, exitCode := o.exitCode
    results := o.stepResults }

/-- The account of a phase that did not break down. -/
def Ending.account? (results : List StageResult) : Ending → Option Account
  | .finished =>
    some { status := .passed, failedAt := none, failedName := none, exitCode := none, results }
  | .stopped i n (.failed code) =>
    some { status := .failed, failedAt := some i, failedName := some n, exitCode := some code
           results }
  | .stopped i n .cancelled =>
    some { status := .cancelled, failedAt := some i, failedName := some n, exitCode := none
           results }
  | .stopped _ _ (.broken _) => none

theorem account_of_jobOutcome {ending : Ending} {results : List StageResult}
    {states : List Job.State} {publish : Except Failure PublishOutcome} {out : JobOutcome}
    (h : Order.jobOutcome ending results states publish = .ok out) :
    ending.account? results = some out.account := by
  obtain ⟨p, rfl, -, rfl⟩ | ⟨index, stage, code, rfl, rfl⟩ | ⟨index, stage, rfl, rfl⟩ :=
    Order.jobOutcome_eq_ok h
  all_goals rfl

theorem account_of_publishOutcome {ending : Ending} {results : List StageResult}
    {states : List Job.State} {out : PublishOutcome}
    (h : Order.publishOutcome ending results states = .ok out) :
    ending.account? results = some out.account := by
  obtain ⟨rfl, rfl⟩ | ⟨index, step, code, rfl, rfl⟩ | ⟨index, step, rfl, rfl⟩ :=
    Order.publishOutcome_eq_ok h
  all_goals rfl

namespace Ending

variable {ending : Ending} {results : List StageResult} {acc : Account}

/-- **The accounts there are.** -/
theorem account?_eq_some (h : ending.account? results = some acc) :
    (ending = .finished ∧ acc = {
      status := .passed, failedAt := none, failedName := none, exitCode := none, results }) ∨
    (∃ i n code, ending = .stopped i n (.failed code) ∧ acc = {
      status := .failed, failedAt := some i, failedName := some n, exitCode := some code,
      results }) ∨
    ∃ i n, ending = .stopped i n .cancelled ∧ acc = {
      status := .cancelled, failedAt := some i, failedName := some n, exitCode := none,
      results } := by
  rcases ending with - | ⟨i, n, code | - | f⟩
  · exact Or.inl ⟨rfl, (Option.some.inj h).symm⟩
  · exact Or.inr (Or.inl ⟨i, n, code, rfl, (Option.some.inj h).symm⟩)
  · exact Or.inr (Or.inr ⟨i, n, rfl, (Option.some.inj h).symm⟩)
  · cases h

/-- A phase has passed if it has finished. -/
theorem status_of_account? (h : ending.account? results = some acc) :
    acc.status = .passed ↔ ending = .finished := by
  obtain ⟨rfl, rfl⟩ | ⟨i, n, code, rfl, rfl⟩ | ⟨i, n, rfl, rfl⟩ := account?_eq_some h
  · exact iff_of_true rfl rfl
  · exact iff_of_false nofun nofun
  · exact iff_of_false nofun nofun

/-- The place in an account is the one of the stage that stopped the phase. -/
theorem failedAt_of_account? (h : ending.account? results = some acc) {index : Nat}
    {stage : String} {e : Stop} (hend : ending = .stopped index stage e) :
    acc.failedAt = some index := by
  obtain ⟨rfl, rfl⟩ | ⟨i, n, code, rfl, rfl⟩ | ⟨i, n, rfl, rfl⟩ := account?_eq_some h
  · cases hend
  · rw [(Ending.stopped.inj hend).1]
  · rw [(Ending.stopped.inj hend).1]

theorem results_of_account? (h : ending.account? results = some acc) : acc.results = results := by
  obtain ⟨-, rfl⟩ | ⟨i, n, code, -, rfl⟩ | ⟨i, n, -, rfl⟩ := account?_eq_some h
  all_goals rfl

end Ending

/-! ### Results -/

variable {w : Surroundings σ} {secrets : Secrets}

theorem eq_of_result?_eq_some {a : Attempt} {r : StageResult} (h : a.result? secrets = some r) :
    ∃ s, a.reply = .status s ∧ r = resultOf secrets a.index a.stage a.call.command s := by
  unfold Attempt.result? at h
  split at h
  · exact ⟨_, by assumption, (Option.some.inj h).symm⟩
  · cases h
  · cases h

variable (secrets) in
theorem result?_of_passes {a : Attempt} (h : a.reply.Passes) :
    ∃ r, a.result? secrets = some r ∧ r.status = .passed ∧ r.index = a.index ∧
      r.command = a.call.command := by
  obtain ⟨s, hs, hcode, htime⟩ := h
  refine ⟨resultOf secrets a.index a.stage a.call.command s, ?_, ?_, rfl, rfl⟩
  · rw [Attempt.result?, hs]
  · exact Reply.verdict_eq_passed.mpr ⟨hcode, htime⟩

variable (secrets) in
theorem result?_of_fails {a : Attempt} {code : Int} (h : a.reply.Fails code) :
    ∃ r, a.result? secrets = some r ∧ (r.status = .failed ∨ r.status = .timeout) ∧
      r.index = a.index ∧ r.exitCode = code := by
  obtain ⟨s, hs, hbad, rfl⟩ := h
  refine ⟨resultOf secrets a.index a.stage a.call.command s, ?_, ?_, rfl, rfl⟩
  · rw [Attempt.result?, hs]
  · simp only [resultOf, verdict]
    split_ifs <;> simp_all

theorem result?_of_cancels {a : Attempt} (h : a.reply.Cancels) : a.result? secrets = none := by
  obtain ⟨m, hm⟩ := h
  rw [Attempt.result?, hm]

/-- Attempts that pass have results that pass. -/
theorem status_of_mem_filterMap {as : List Attempt} (h : ∀ a ∈ as, a.reply.Passes)
    {r : StageResult} (hr : r ∈ as.filterMap (Attempt.result? secrets)) : r.status = .passed := by
  obtain ⟨a, ha, hresult⟩ := List.mem_filterMap.mp hr
  obtain ⟨r', hr', hpassed, -⟩ := result?_of_passes secrets (h a ha)
  rw [hr'] at hresult
  rw [← Option.some.inj hresult, hpassed]

/-- Attempts that pass have one result each. -/
theorem map_command_filterMap {as : List Attempt} (h : ∀ a ∈ as, a.reply.Passes) :
    (as.filterMap (Attempt.result? secrets)).map StageResult.command =
      as.map fun a => a.call.command := by
  induction as with
  | nil => rfl
  | cons a as ih =>
    rw [List.forall_mem_cons] at h
    obtain ⟨r, hr, -, -, hcommand⟩ := result?_of_passes secrets h.1
    rw [List.filterMap_cons_some hr, List.map_cons, List.map_cons, ih h.2, hcommand]

/-- The results of a stage are those of the attempts that were made for it. -/
theorem filter_filterMap_index (as : List Attempt) (i : Nat) :
    (as.filterMap (Attempt.result? secrets)).filter (fun r => r.index = i) =
      (as.filter fun a => a.index = i).filterMap (Attempt.result? secrets) := by
  induction as with
  | nil => rfl
  | cons a as ih =>
    cases hr : a.result? secrets with
    | none => by_cases hi : a.index = i <;> simp [hr, hi, ih]
    | some r =>
      have hindex : r.index = a.index := by
        obtain ⟨s, -, rfl⟩ := eq_of_result?_eq_some hr
        rfl
      by_cases hi : a.index = i <;> simp [hr, hi, hindex, ih]

/-- The results have the order of the attempts. -/
theorem pairwise_index_filterMap {as : List Attempt}
    (h : as.Pairwise fun a b => a.index ≤ b.index) :
    (as.filterMap (Attempt.result? secrets)).Pairwise fun r r' => r.index ≤ r'.index := by
  refine List.pairwise_filterMap.mpr (h.imp fun {a b} hab r hr r' hr' => ?_)
  obtain ⟨s, -, rfl⟩ := eq_of_result?_eq_some hr
  obtain ⟨s', -, rfl⟩ := eq_of_result?_eq_some hr'
  exact hab

/-! ### Agreement -/

/-- **An account agrees with what the phase did**: with the calls that it made for `stages` from the
state `s` on, and what came of them. -/
structure Account.Agrees (acc : Account) (w : Surroundings σ) (secrets : Secrets)
    (stages : List Stage) (s : σ) : Prop where
  /-- The phase has passed if every call has. -/
  passed_iff : acc.status = .passed ↔
    ∀ a ∈ (visits w secrets 0 stages s).1.flatMap Visit.attempts, a.reply.Passes
  /-- Then nothing is said of a failure. -/
  of_passed : acc.status = .passed →
    acc.failedAt = none ∧ acc.failedName = none ∧ acc.exitCode = none
  /-- The phase has failed if a call has returned without passing. -/
  failed_iff : acc.status = .failed ↔
    ∃ a ∈ (visits w secrets 0 stages s).1.flatMap Visit.attempts, ∃ code, a.reply.Fails code
  /-- Then the last result, and no other, has not passed, and what is said of the failure is said of
  this result. -/
  of_failed : acc.status = .failed →
    ∃ rs r stage, acc.results = rs ++ [r] ∧ (∀ r' ∈ rs, r'.status = .passed) ∧
      r.status ≠ .passed ∧ acc.failedAt = some r.index ∧ stages[r.index]? = some stage ∧
      acc.failedName = some stage.name ∧ acc.exitCode = some r.exitCode
  /-- The phase was interrupted if a call was. -/
  cancelled_iff : acc.status = .cancelled ↔
    ∃ a ∈ (visits w secrets 0 stages s).1.flatMap Visit.attempts, a.reply.Cancels
  /-- Then all results have passed, and the stage that is named is the one of this call. -/
  of_cancelled : acc.status = .cancelled →
    (∀ r ∈ acc.results, r.status = .passed) ∧ acc.exitCode = none ∧
      ∃ a ∈ (visits w secrets 0 stages s).1.flatMap Visit.attempts, a.reply.Cancels ∧
        acc.failedAt = some a.index ∧ stages[a.index]? = some a.stage ∧
        acc.failedName = some a.stage.name
  /-- Every stage in front of the one that stopped the phase has one result for each of the commands
  that it had when the phase came to it. -/
  below : ∀ i stage, stages[i]? = some stage → (∀ k, acc.failedAt = some k → i < k) →
    stage.commands (w.executor.tree (arrival w secrets 0 stages s i)) w.root w.ctx =
      .ok ((acc.results.filter fun r => r.index = i).map StageResult.command)
  /-- The results have the order of the stages. -/
  ordered : acc.results.Pairwise fun r r' => r.index ≤ r'.index
  /-- There are no results of later stages. -/
  bounded : ∀ k, acc.failedAt = some k → ∀ r ∈ acc.results, r.index ≤ k

section Phase

variable {stages : List Stage} {s : σ}

/-- **A stage that was completed has one result for each of its commands.** -/
theorem commands_of_completed {i : Nat} {v : Visit}
    (hv : (visits w secrets 0 stages s).1[i]? = some v) (hstop : v.stop? = none) :
    v.stage.commands (w.executor.tree (arrival w secrets 0 stages s i)) w.root w.ctx =
      .ok ((((visits w secrets 0 stages s).1.flatMap (Visit.results secrets)).filter
        fun r => r.index = i).map StageResult.command) := by
  have hcompleted := completed_of_mem_visits (List.mem_of_getElem? hv) hstop
  have hattempts := filter_attempts w secrets 0 stages s i
  rw [hv, Nat.zero_add] at hattempts
  obtain ⟨stage, -, rfl⟩ := getElem?_visits hv
  rw [flatMap_results, filter_filterMap_index, hattempts]
  refine (commands_of_tasksOf (hcompleted.tasks : tasksOf w _ _ _ = _)).trans ?_
  simp only [Option.map_some, Option.getD_some]
  rw [map_command_filterMap hcompleted.passes, List.map_map]
  rfl

theorem below_of_finished (h : endingOf (visits w secrets 0 stages s).1 = .finished) {i : Nat}
    {stage : Stage} (hstage : stages[i]? = some stage) :
    stage.commands (w.executor.tree (arrival w secrets 0 stages s i)) w.root w.ctx =
      .ok ((((visits w secrets 0 stages s).1.flatMap (Visit.results secrets)).filter
        fun r => r.index = i).map StageResult.command) := by
  obtain ⟨hlength, hall⟩ := visits_of_finished h
  have hi : i < (visits w secrets 0 stages s).1.length := by
    rw [hlength]
    exact (List.getElem?_eq_some_iff.mp hstage).1
  have hv := List.getElem?_eq_getElem hi
  obtain ⟨-, hstage'⟩ := index_of_getElem?_visits hv
  obtain rfl := Option.some.inj (hstage.symm.trans hstage')
  exact commands_of_completed hv (hall _ (List.getElem_mem hi))

theorem below_of_stopped {k : Nat} {n : String} {e : Stop}
    (h : endingOf (visits w secrets 0 stages s).1 = .stopped k n e) {i : Nat} {stage : Stage}
    (hstage : stages[i]? = some stage) (hik : i < k) :
    stage.commands (w.executor.tree (arrival w secrets 0 stages s i)) w.root w.ctx =
      .ok ((((visits w secrets 0 stages s).1.flatMap (Visit.results secrets)).filter
        fun r => r.index = i).map StageResult.command) := by
  obtain ⟨us, v, hvs, hall, -, -, -, hk, -⟩ := visits_of_stopped h
  have hi : i < us.length := by omega
  have hu : (visits w secrets 0 stages s).1[i]? = some us[i] := by
    rw [hvs, List.getElem?_append_left hi, List.getElem?_eq_getElem hi]
  obtain ⟨-, hstage'⟩ := index_of_getElem?_visits hu
  obtain rfl := Option.some.inj (hstage.symm.trans hstage')
  exact commands_of_completed hu (hall _ (List.getElem_mem hi))

/-- The results have the order of the stages. -/
theorem pairwise_index_results :
    ((visits w secrets 0 stages s).1.flatMap (Visit.results secrets)).Pairwise
      fun r r' => r.index ≤ r'.index := by
  rw [flatMap_results]
  exact pairwise_index_filterMap pairwise_index_attempts

/-- A phase that is stopped has no results of the stages after the one that stops it. -/
theorem index_le_of_mem_results {k : Nat} {n : String} {e : Stop}
    (h : endingOf (visits w secrets 0 stages s).1 = .stopped k n e) {r : StageResult}
    (hr : r ∈ (visits w secrets 0 stages s).1.flatMap (Visit.results secrets)) : r.index ≤ k := by
  obtain ⟨us, v, hvs, -, -, -, -, hk, -⟩ := visits_of_stopped h
  rw [flatMap_results] at hr
  obtain ⟨a, ha, hresult⟩ := List.mem_filterMap.mp hr
  obtain ⟨c, -, rfl⟩ := eq_of_result?_eq_some hresult
  obtain ⟨u, hu, hau⟩ := List.mem_flatMap.mp ha
  obtain ⟨i, hi⟩ := List.mem_iff_getElem?.mp hu
  have hlt : i < us.length + 1 := by
    have hlt := (List.getElem?_eq_some_iff.mp hi).1
    rwa [hvs, List.length_append] at hlt
  have hplace : a.index = i := by
    rw [(place_of_mem_attempts hu hau).1, (index_of_getElem?_visits hi).1, Nat.zero_add]
  simp only [resultOf]
  omega

/-- The stage at the place of a call is the stage that the call was made for. -/
theorem getElem?_index_of_mem_attempts {a : Attempt}
    (h : a ∈ (visits w secrets 0 stages s).1.flatMap Visit.attempts) :
    stages[a.index]? = some a.stage := by
  obtain ⟨v, hv, ha⟩ := List.mem_flatMap.mp h
  obtain ⟨i, hi⟩ := List.mem_iff_getElem?.mp hv
  obtain ⟨hindex, hstage⟩ := index_of_getElem?_visits hi
  obtain ⟨haindex, hastage⟩ := place_of_mem_attempts hv ha
  rw [haindex, hindex, Nat.zero_add, hastage, hstage]

theorem agrees_of_finished (h : endingOf (visits w secrets 0 stages s).1 = .finished) :
    Account.Agrees
      { status := .passed, failedAt := none, failedName := none, exitCode := none
        results := (visits w secrets 0 stages s).1.flatMap (Visit.results secrets) }
      w secrets stages s where
  passed_iff := iff_of_true rfl (passes_of_finished h)
  of_passed _ := ⟨rfl, rfl, rfl⟩
  failed_iff := by
    refine iff_of_false nofun ?_
    rintro ⟨a, ha, code, hfails⟩
    exact (passes_of_finished h a ha).not_fails code hfails
  of_failed := nofun
  cancelled_iff := by
    refine iff_of_false nofun ?_
    rintro ⟨a, ha, hcancels⟩
    exact (passes_of_finished h a ha).not_cancels hcancels
  of_cancelled := nofun
  below _ _ hstage _ := below_of_finished h hstage
  ordered := pairwise_index_results
  bounded := nofun

theorem agrees_of_failed {k : Nat} {n : String} {code : Int}
    (h : endingOf (visits w secrets 0 stages s).1 = .stopped k n (.failed code)) :
    Account.Agrees
      { status := .failed, failedAt := some k, failedName := some n, exitCode := some code
        results := (visits w secrets 0 stages s).1.flatMap (Visit.results secrets) }
      w secrets stages s := by
  obtain ⟨front, a, has, hfront, hstop, rfl, rfl⟩ := exists_last_of_stopped h nofun
  have hfails : a.reply.Fails code := Reply.stop?_eq_failed.mp hstop
  have ha : a ∈ (visits w secrets 0 stages s).1.flatMap Visit.attempts := by simp [has]
  refine
    { passed_iff := iff_of_false nofun fun hall => (hall a ha).not_fails code hfails
      of_passed := nofun
      failed_iff := iff_of_true rfl ⟨a, ha, code, hfails⟩
      of_failed := fun _ => ?_
      cancelled_iff := iff_of_false nofun ?_
      of_cancelled := nofun
      below := fun _ _ hstage hlt => below_of_stopped h hstage (hlt _ rfl)
      ordered := pairwise_index_results
      bounded := fun _ hk _ hr => Option.some.inj hk ▸ index_le_of_mem_results h hr }
  · -- the last result is that of the last call
    obtain ⟨r, hr, hstatus, hindex, hcode⟩ := result?_of_fails secrets hfails
    have hnot : r.status ≠ .passed := by rcases hstatus with h | h <;> rw [h] <;> nofun
    refine ⟨front.filterMap (Attempt.result? secrets), r, a.stage, ?_,
      fun r' hr' => status_of_mem_filterMap hfront hr', hnot, by rw [hindex],
      by rw [hindex, getElem?_index_of_mem_attempts ha], rfl, by rw [hcode]⟩
    rw [flatMap_results, has, List.filterMap_append, List.filterMap_cons_some hr,
      List.filterMap_nil]
  · rintro ⟨b, hb, hcancels⟩
    rw [has, List.mem_append, List.mem_singleton] at hb
    rcases hb with hb | rfl
    · exact (hfront b hb).not_cancels hcancels
    · exact hcancels.not_fails code hfails

theorem agrees_of_cancelled {k : Nat} {n : String}
    (h : endingOf (visits w secrets 0 stages s).1 = .stopped k n .cancelled) :
    Account.Agrees
      { status := .cancelled, failedAt := some k, failedName := some n, exitCode := none
        results := (visits w secrets 0 stages s).1.flatMap (Visit.results secrets) }
      w secrets stages s := by
  obtain ⟨front, a, has, hfront, hstop, rfl, rfl⟩ := exists_last_of_stopped h nofun
  have hcancels : a.reply.Cancels := Reply.stop?_eq_cancelled.mp hstop
  have ha : a ∈ (visits w secrets 0 stages s).1.flatMap Visit.attempts := by simp [has]
  refine
    { passed_iff := iff_of_false nofun fun hall => (hall a ha).not_cancels hcancels
      of_passed := nofun
      failed_iff := iff_of_false nofun ?_
      of_failed := nofun
      cancelled_iff := iff_of_true rfl ⟨a, ha, hcancels⟩
      of_cancelled := fun _ => ⟨fun r hr => ?_, rfl, a, ha, hcancels, rfl,
        getElem?_index_of_mem_attempts ha, rfl⟩
      below := fun _ _ hstage hlt => below_of_stopped h hstage (hlt _ rfl)
      ordered := pairwise_index_results
      bounded := fun _ hk _ hr => Option.some.inj hk ▸ index_le_of_mem_results h hr }
  · rintro ⟨b, hb, code, hfails⟩
    rw [has, List.mem_append, List.mem_singleton] at hb
    rcases hb with hb | rfl
    · exact (hfront b hb).not_fails code hfails
    · exact hcancels.not_fails code hfails
  · -- the last call has no result
    rw [flatMap_results, has, List.filterMap_append,
      List.filterMap_cons_none (result?_of_cancels hcancels), List.filterMap_nil,
      List.append_nil] at hr
    exact status_of_mem_filterMap hfront hr

/-- **Every account that a phase leaves agrees with what the phase did.** -/
theorem agrees_of_account? {acc : Account}
    (h : (endingOf (visits w secrets 0 stages s).1).account?
      ((visits w secrets 0 stages s).1.flatMap (Visit.results secrets)) = some acc) :
    acc.Agrees w secrets stages s := by
  obtain ⟨hend, rfl⟩ | ⟨k, n, code, hend, rfl⟩ | ⟨k, n, hend, rfl⟩ := Ending.account?_eq_some h
  · exact agrees_of_finished hend
  · exact agrees_of_failed hend
  · exact agrees_of_cancelled hend

end Phase

/-! ### Runs -/

namespace Order

variable (o : Order σ) (spec : Spec) (ctx : Context)

theorem account_of_madeOutcome {state : σ} {out : JobOutcome}
    (h : o.madeOutcome spec ctx secrets state = .ok out) :
    (endingOf (o.mainVisits spec ctx secrets state).1).account?
      ((o.mainVisits spec ctx secrets state).1.flatMap (Visit.results secrets)) =
        some out.account :=
  account_of_jobOutcome h

theorem status_of_madeOutcome {state : σ} {out : JobOutcome}
    (h : o.madeOutcome spec ctx secrets state = .ok out) :
    out.status = .passed ↔ endingOf (o.mainVisits spec ctx secrets state).1 = .finished :=
  Ending.status_of_account? (o.account_of_madeOutcome spec ctx h)

/-- What the publish phase of a run came to whose main phase has passed. -/
theorem publish_of_madeOutcome {state : σ} {out : JobOutcome}
    (h : o.madeOutcome spec ctx secrets state = .ok out) (hpassed : out.status = .passed) :
    o.publishVisits spec ctx secrets state =
        visits (o.surroundings spec ctx) secrets 0 (spec.publishing ctx)
          (o.mainVisits spec ctx secrets state).2 ∧
      publishResult spec ctx secrets (o.publishVisits spec ctx secrets state).1 =
        .ok out.publish := by
  have hend := (o.status_of_madeOutcome spec ctx h).mp hpassed
  exact ⟨o.publishVisits_of_finished spec ctx secrets state hend,
    (results_of_jobOutcome h).2.1 hend⟩

/-- The outcome of a publish phase that is run. -/
theorem publish_of_holds {state : σ} {out : JobOutcome}
    (h : o.madeOutcome spec ctx secrets state = .ok out) (hpassed : out.status = .passed)
    {b : PublishBlock} (hb : spec.afterSuccess = some b) (hholds : b.rule.holds ctx = true) :
    let publish := visits (o.surroundings spec ctx) secrets 0 b.steps
      (o.mainVisits spec ctx secrets state).2
    o.publishVisits spec ctx secrets state = publish ∧
      publishOutcome (endingOf publish.1) (publish.1.flatMap (Visit.results secrets))
        (statesAfter [.checkPredicate] publish.1) = .ok out.publish := by
  intro publish
  have hsteps : spec.publishing ctx = b.steps := by simp [Job.Spec.publishing, hb, hholds]
  obtain ⟨hpublish, hresult⟩ := o.publish_of_madeOutcome spec ctx h hpassed
  rw [hsteps] at hpublish
  rw [hpublish] at hresult
  simp only [publishResult, hb, hholds, if_true] at hresult
  exact ⟨hpublish, hresult⟩

theorem publish_of_not_passed {state : σ} {out : JobOutcome}
    (h : o.madeOutcome spec ctx secrets state = .ok out) (hpassed : out.status ≠ .passed) :
    out.publish = {} :=
  (results_of_jobOutcome h).2.2 fun hend =>
    hpassed ((o.status_of_madeOutcome spec ctx h).mpr hend)

theorem publishVisits_of_not_passed {state : σ} {out : JobOutcome}
    (h : o.madeOutcome spec ctx secrets state = .ok out) (hpassed : out.status ≠ .passed) :
    (o.publishVisits spec ctx secrets state).1 = [] := by
  cases hend : endingOf (o.mainVisits spec ctx secrets state).1 with
  | finished => exact absurd ((o.status_of_madeOutcome spec ctx h).mpr hend) hpassed
  | stopped index stage e => exact o.publishVisits_of_stopped spec ctx secrets state hend

/-- **The outcome of a run agrees with its calls.** The calls are those that stand in the transcript
of the executor, first the ones of the main phase and then the ones of the publish phase. Nothing is
published unless the main phase has passed, and if it has and the rule of the publish block holds,
the publish phase has an account of its own, which agrees with its calls. -/
theorem outcome_agrees (journal : Journal) (state : σ) :
    let secrets := (startJournal ctx journal).secrets
    let w := o.surroundings spec ctx
    let main := o.mainVisits spec ctx secrets state
    let publish := o.publishVisits spec ctx secrets state
    let kept := o.transcribed.run spec ctx journal ([], state)
    kept.outcome = (o.run spec ctx journal state).outcome ∧
      kept.state.1 = (main.1.flatMap Visit.attempts ++ publish.1.flatMap Visit.attempts).map
        Attempt.exchange ∧
      ∀ out, kept.outcome = .ok out →
        out.account.Agrees w secrets spec.mainStages state ∧
          (out.status ≠ .passed → out.publish.state = .notRun) ∧
          ∀ b, out.status = .passed → spec.afterSuccess = some b → b.rule.holds ctx = true →
            publish = visits w secrets 0 b.steps main.2 ∧
              out.publish.account.Agrees w secrets b.steps main.2 := by
  intro secrets w main publish kept
  obtain ⟨hout, -, hstate⟩ := o.run_transcribed spec ctx [] state journal
  refine ⟨hout, ?_, fun out h => ?_⟩
  · rw [hstate, attempted, List.nil_append, List.flatMap_append]
  · replace h : o.madeOutcome spec ctx secrets state = .ok out := by
      rw [hout, run_eq] at h
      exact h
    refine ⟨agrees_of_account? (o.account_of_madeOutcome spec ctx h), fun hpassed => ?_,
      fun b hpassed hb hholds => ?_⟩
    · rw [o.publish_of_not_passed spec ctx h hpassed]
    · obtain ⟨hpublish, hresult⟩ := o.publish_of_holds spec ctx h hpassed hb hholds
      exact ⟨hpublish, agrees_of_account? (account_of_publishOutcome hresult)⟩

end Order

end BuildLine.Run
