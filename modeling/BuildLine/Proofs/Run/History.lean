import BuildLine.Proofs.Run.Visit
import Mathlib.Data.List.Infix

/-!
# What a run does

The history of a run are the visits that it makes, first those of the main phase and then, if that
phase has finished and the job publishes, those of the publish phase. `run_eq` reads everything that
is left of a run off its history: what it came to, what was told, and the state of the executor.

What was told is kept as one list of notices, so that the journal can be had not only as it is in
the end but as it is at any moment of the run (`moments`).
-/

namespace BuildLine

open Data (Table)
open Files Job Log

/-- The steps that a run publishes: those of the publish block if its rule holds. -/
def Job.Spec.publishing (spec : Spec) (ctx : Context) : List Stage :=
  match spec.afterSuccess with
  | none => []
  | some b => if b.rule.holds ctx then b.steps else []

/-- What is published is all that there is to publish, or nothing. -/
theorem Job.Spec.publishing_sublist (spec : Spec) (ctx : Context) :
    (spec.publishing ctx).Sublist spec.publishSteps := by
  unfold publishing publishSteps
  cases spec.afterSuccess with
  | none => exact .refl _
  | some b =>
    dsimp only
    split
    · exact .refl _
    · exact List.nil_sublist _

namespace Run

/-- The states that a phase has passed through after visits. -/
def statesAfter (states : List Job.State) (vs : List Visit) : List Job.State :=
  vs.foldl (fun states v => advanceTo states v.stage.role.state) states

/-- What the publish phase of a run came to that has made visits in this phase. -/
def publishResult (spec : Spec) (ctx : Context) (secrets : Secrets) (vs : List Visit) :
    Except Failure PublishOutcome :=
  match spec.afterSuccess with
  | none => .ok {}
  | some b =>
    if b.rule.holds ctx then
      Order.publishOutcome (endingOf vs) (vs.flatMap (Visit.results secrets))
        (statesAfter [.checkPredicate] vs)
    else .ok { state := .skipped, states := [.checkPredicate, .skipped] }

namespace Order

variable (o : Order σ) (spec : Spec) (ctx : Context) (secrets : Secrets) (journal : Journal)
  (state : σ)

/-- **The visits of the main phase,** and the state in which they leave the executor. -/
def mainVisits : List Visit × σ :=
  visits (o.surroundings spec ctx) secrets 0 spec.mainStages state

/-- **The visits of the publish phase,** and the state in which they leave the executor. There are
none unless the main phase has finished. -/
def publishVisits : List Visit × σ :=
  let main := o.mainVisits spec ctx secrets state
  match endingOf main.1 with
  | .finished => visits (o.surroundings spec ctx) secrets 0 (spec.publishing ctx) main.2
  | .stopped .. => ([], main.2)

/-- Nothing is published after a main phase that has stopped. -/
theorem publishVisits_of_stopped {index : Nat} {stage : String} {e : Stop}
    (h : endingOf (o.mainVisits spec ctx secrets state).1 = .stopped index stage e) :
    (o.publishVisits spec ctx secrets state).1 = [] := by
  simp only [publishVisits, h]

theorem publishVisits_of_finished
    (h : endingOf (o.mainVisits spec ctx secrets state).1 = .finished) :
    o.publishVisits spec ctx secrets state =
      visits (o.surroundings spec ctx) secrets 0 (spec.publishing ctx)
        (o.mainVisits spec ctx secrets state).2 := by
  simp only [publishVisits, h]

/-- **The attempts that a run makes,** in order. -/
def attempted : List Attempt :=
  ((o.mainVisits spec ctx secrets state).1 ++
    (o.publishVisits spec ctx secrets state).1).flatMap Visit.attempts

/-- What is told in the publish phase of a run that has made visits in this phase. -/
def publishTold (vs : List Visit) : List Notice :=
  match spec.afterSuccess with
  | none => []
  | some b =>
    match b.rule.check ctx with
    | .error refusal => [.event (o.skipEvent refusal)]
    | .ok () => vs.flatMap (Visit.told o.root) ++ (o.publishClosing (endingOf vs)).map .event

/-- **What is told during a run,** in order. -/
def told : List Notice :=
  let main := (o.mainVisits spec ctx secrets state).1
  .event (o.startEvent spec ctx) :: main.flatMap (Visit.told o.root) ++
    (o.mainClosing (endingOf main)).map .event ++
    match endingOf main with
    | .finished => o.publishTold spec ctx (o.publishVisits spec ctx secrets state).1
    | .stopped .. => []

/-- What a run comes to. -/
def madeOutcome : Except Failure JobOutcome :=
  let main := (o.mainVisits spec ctx secrets state).1
  jobOutcome (endingOf main) (main.flatMap (Visit.results secrets)) (statesAfter [.pending] main)
    (publishResult spec ctx secrets (o.publishVisits spec ctx secrets state).1)

/-- The journal with which a run starts: without lines, and with the credential as a secret. -/
def startJournal (ctx : Context) (journal : Journal) : Journal :=
  journal.forgetLines.register ctx.credential

/-- **The journals that a run goes through**: without lines, with the credential as a secret and
then with everything that is told, notice by notice, and in the end without that secret. -/
def moments : List Journal :=
  let start := startJournal ctx journal
  let told := o.told spec ctx start.secrets state
  journal.forgetLines :: told.inits.map start.takeAll ++
    [(start.takeAll told).forget ctx.credential]

/-! ### The publish phase -/

theorem publish_eq (w : Surroundings σ) (hroot : w.root = o.root) (hctx : w.ctx = ctx) :
    let r := visits w journal.secrets 0 (spec.publishing ctx) state
    let q := o.publish w spec.afterSuccess journal state
    q.1 = publishResult spec ctx journal.secrets r.1 ∧
      q.2.journal = journal.takeAll (o.publishTold spec ctx r.1) ∧ q.2.state = r.2 := by
  subst hctx
  cases hb : spec.afterSuccess with
  | none => simp [publish, publishResult, publishTold, Job.Spec.publishing, hb]
  | some b =>
    cases hr : b.rule.holds w.ctx with
    | true =>
      simp [publish, publishResult, publishTold, Job.Spec.publishing, hb, hr, PublishRule.check,
        runStages_eq, Progress.recordAll_eq, Progress.afterVisits, Journal.takeAll_append, hroot,
        statesAfter]
    | false =>
      -- a rule that does not hold refuses with a reason, and the reason is told
      have hc : ∃ refusal, b.rule.check w.ctx = .error refusal := by
        unfold PublishRule.check
        rw [hr]
        split_ifs <;> simp_all
      obtain ⟨refusal, hc⟩ := hc
      simp [publish, publishResult, publishTold, Job.Spec.publishing, hb, hr, hc, Progress.record]

/-! ### The whole run -/

/-- How far a run has come when its main phase is over and its end has been told. -/
def afterMain : Progress σ :=
  let main := o.mainVisits spec ctx journal.secrets state
  let start : Progress σ := { journal, state, states := [.pending] }
  ((start.record (o.startEvent spec ctx)).afterVisits o.root journal.secrets main).recordAll
    (o.mainClosing (endingOf main.1))

theorem afterMain_eq :
    let main := o.mainVisits spec ctx journal.secrets state
    o.afterMain spec ctx journal state =
      { journal := journal.takeAll (.event (o.startEvent spec ctx) ::
          main.1.flatMap (Visit.told o.root) ++ (o.mainClosing (endingOf main.1)).map .event)
        state := main.2
        results := main.1.flatMap (Visit.results journal.secrets)
        states := statesAfter [.pending] main.1 } := by
  intro main
  rw [afterMain, Progress.recordAll_eq]
  simp [main, Progress.afterVisits, Progress.record, Journal.takeAll_append, statesAfter]

theorem runPhases_def :
    let main := o.mainVisits spec ctx journal.secrets state
    let q := o.afterMain spec ctx journal state
    let r : Except Failure PublishOutcome × Progress σ := match endingOf main.1 with
      | .finished => o.publish (o.surroundings spec ctx) spec.afterSuccess q.journal q.state
      | .stopped .. => (.ok {}, q)
    o.runPhases spec ctx journal state =
      (jobOutcome (endingOf main.1) q.results q.states r.1, r.2) := by
  intro main q r
  let start : Progress σ := { journal, state, states := [.pending] }
  have hmain : runStages (o.surroundings spec ctx) 0 spec.mainStages
      (start.record (o.startEvent spec ctx)) =
        (endingOf main.1, (start.record (o.startEvent spec ctx)).afterVisits o.root
          journal.secrets main) := runStages_eq ..
  simp only [runPhases, start] at hmain ⊢
  rw [hmain]
  simp only [r, q, afterMain, Progress.recordAll_eq]
  rfl

/-- A job that has stopped in its main phase comes to the same whatever the publish phase is. -/
theorem jobOutcome_stopped (index : Nat) (stage : String) (e : Stop) (results : List StageResult)
    (states : List Job.State) (a b : Except Failure PublishOutcome) :
    jobOutcome (.stopped index stage e) results states a =
      jobOutcome (.stopped index stage e) results states b := by
  cases e <;> rfl

theorem runPhases_eq :
    let r := o.runPhases spec ctx journal state
    r.1 = o.madeOutcome spec ctx journal.secrets state ∧
      r.2.journal = journal.takeAll (o.told spec ctx journal.secrets state) ∧
      r.2.state = (o.publishVisits spec ctx journal.secrets state).2 := by
  intro r
  have hr : r = _ := o.runPhases_def spec ctx journal state
  -- what the publish phase would do after the main phase, whether it is reached or not
  obtain ⟨hout, htold, hleft⟩ := o.publish_eq spec ctx
    (o.afterMain spec ctx journal state).journal (o.afterMain spec ctx journal state).state
    (o.surroundings spec ctx) rfl rfl
  rw [afterMain_eq] at hr hout htold hleft
  simp only [Journal.secrets_takeAll] at hout htold hleft
  cases hend : endingOf (o.mainVisits spec ctx journal.secrets state).1 with
  | finished =>
    simp only [hend] at hr hout htold hleft
    simp only [hr, hout, htold, hleft, madeOutcome, told, publishVisits, hend,
      ← Journal.takeAll_append, and_self]
  | stopped index stage e =>
    simp only [hend] at hr
    simp only [hr, madeOutcome, told, publishVisits, hend, List.append_nil, and_self, and_true]
    exact jobOutcome_stopped ..

/-- **A run is its history.** -/
theorem run_eq :
    let start := startJournal ctx journal
    o.run spec ctx journal state =
      { outcome := o.madeOutcome spec ctx start.secrets state
        journal := (start.takeAll (o.told spec ctx start.secrets state)).forget ctx.credential
        state := (o.publishVisits spec ctx start.secrets state).2 } := by
  intro start
  obtain ⟨hout, htold, hleft⟩ := o.runPhases_eq spec ctx start state
  rw [← hout, ← htold, ← hleft]
  rfl

/-- The last journal that a run goes through is the one that it leaves. -/
theorem getLast?_moments :
    (o.moments spec ctx journal state).getLast? = some (o.run spec ctx journal state).journal := by
  rw [run_eq, moments]
  exact List.getLast?_concat

/-! ### Results -/

/-- **What a job comes to** that does not break down. -/
theorem jobOutcome_eq_ok {ending : Ending} {results : List StageResult} {states : List Job.State}
    {publish : Except Failure PublishOutcome} {out : JobOutcome}
    (h : jobOutcome ending results states publish = .ok out) :
    (∃ p, ending = .finished ∧ publish = .ok p ∧
      out = { status := .passed, stageResults := results, publish := p,
              states := states ++ [.succeeded] }) ∨
    (∃ index stage code, ending = .stopped index stage (.failed code) ∧
      out = { status := .failed, failedAt := some index, failedStage := some stage,
              exitCode := some code, stageResults := results, states := states ++ [.failed] }) ∨
    ∃ index stage, ending = .stopped index stage .cancelled ∧
      out = { status := .cancelled, failedAt := some index, failedStage := some stage,
              stageResults := results, states := states ++ [.cancelled] } := by
  rcases ending with - | ⟨index, stage, code | - | f⟩
  · cases publish with
    | error f => cases h
    | ok p => exact Or.inl ⟨p, rfl, rfl, (Except.ok.inj h).symm⟩
  · exact Or.inr (Or.inl ⟨index, stage, code, rfl, (Except.ok.inj h).symm⟩)
  · exact Or.inr (Or.inr ⟨index, stage, rfl, (Except.ok.inj h).symm⟩)
  · cases h

/-- **What a publish phase comes to** that is run and does not break down. -/
theorem publishOutcome_eq_ok {ending : Ending} {results : List StageResult}
    {states : List Job.State} {p : PublishOutcome}
    (h : publishOutcome ending results states = .ok p) :
    (ending = .finished ∧
      p = { state := .published, stepResults := results, states := states ++ [.published] }) ∨
    (∃ index step code, ending = .stopped index step (.failed code) ∧
      p = { state := .publishFailed, failedAt := some index, failedStep := some step,
            exitCode := some code, stepResults := results, states := states ++ [.publishFailed] }) ∨
    ∃ index step, ending = .stopped index step .cancelled ∧
      p = { state := .cancelled, failedAt := some index, failedStep := some step,
            stepResults := results, states := states ++ [.cancelled] } := by
  rcases ending with - | ⟨index, step, code | - | f⟩
  · exact Or.inl ⟨rfl, (Except.ok.inj h).symm⟩
  · exact Or.inr (Or.inl ⟨index, step, code, rfl, (Except.ok.inj h).symm⟩)
  · exact Or.inr (Or.inr ⟨index, step, rfl, (Except.ok.inj h).symm⟩)
  · cases h

theorem results_of_jobOutcome {ending : Ending} {results : List StageResult}
    {states : List Job.State} {publish : Except Failure PublishOutcome} {out : JobOutcome}
    (h : jobOutcome ending results states publish = .ok out) :
    out.stageResults = results ∧ (ending = .finished → publish = .ok out.publish) ∧
      (ending ≠ .finished → out.publish = {}) := by
  obtain ⟨p, rfl, rfl, rfl⟩ | ⟨index, stage, code, rfl, rfl⟩ | ⟨index, stage, rfl, rfl⟩ :=
    jobOutcome_eq_ok h
  · exact ⟨rfl, fun _ => rfl, fun hne => absurd rfl hne⟩
  · exact ⟨rfl, nofun, fun _ => rfl⟩
  · exact ⟨rfl, nofun, fun _ => rfl⟩

theorem stepResults_of_publishOutcome {ending : Ending} {results : List StageResult}
    {states : List Job.State} {p : PublishOutcome}
    (h : publishOutcome ending results states = .ok p) : p.stepResults = results := by
  obtain ⟨-, rfl⟩ | ⟨index, step, code, -, rfl⟩ | ⟨index, step, -, rfl⟩ := publishOutcome_eq_ok h
  all_goals rfl

/-- **The results are those of the visits,** phase by phase. -/
theorem results_of_madeOutcome {out : JobOutcome}
    (h : o.madeOutcome spec ctx secrets state = .ok out) :
    out.stageResults =
        (o.mainVisits spec ctx secrets state).1.flatMap (Visit.results secrets) ∧
      out.publish.stepResults =
        (o.publishVisits spec ctx secrets state).1.flatMap (Visit.results secrets) := by
  obtain ⟨hmain, hfinished, hstopped⟩ := results_of_jobOutcome h
  refine ⟨hmain, ?_⟩
  rw [publishVisits] at hfinished ⊢
  cases hend : endingOf (o.mainVisits spec ctx secrets state).1 with
  | stopped index stage e =>
    rw [hstopped (by rw [hend]; nofun)]
    rfl
  | finished =>
    have hpublish := hfinished hend
    simp only [hend] at hpublish ⊢
    unfold publishResult at hpublish
    cases hb : spec.afterSuccess with
    | none =>
      simp only [hb, Except.ok.injEq] at hpublish
      simp [← hpublish, Job.Spec.publishing, hb]
    | some b =>
      simp only [hb] at hpublish
      split at hpublish
      · exact stepResults_of_publishOutcome hpublish
      · rename_i hholds
        -- no step is visited if the rule does not hold
        have hsteps : spec.publishing ctx = [] := by simp [Job.Spec.publishing, hb, hholds]
        rw [← Except.ok.inj hpublish, hsteps]
        rfl

/-! ### Breakdowns -/

theorem ending_of_jobOutcome_eq_error {ending : Ending} {results : List StageResult}
    {states : List Job.State} {publish : Except Failure PublishOutcome} {f : Failure}
    (h : jobOutcome ending results states publish = .error f) :
    (∃ index stage, ending = .stopped index stage (.broken f)) ∨
      ending = .finished ∧ publish = .error f := by
  rcases ending with - | ⟨index, stage, code | - | f'⟩
  · cases publish with
    | error f' =>
      obtain rfl := Except.error.inj h
      exact Or.inr ⟨rfl, rfl⟩
    | ok p => cases h
  · cases h
  · cases h
  · obtain rfl := Except.error.inj h
    exact Or.inl ⟨index, stage, rfl⟩

theorem ending_of_publishOutcome_eq_error {ending : Ending} {results : List StageResult}
    {states : List Job.State} {f : Failure}
    (h : publishOutcome ending results states = .error f) :
    ∃ index step, ending = .stopped index step (.broken f) := by
  rcases ending with - | ⟨index, step, code | - | f'⟩
  · cases h
  · cases h
  · cases h
  · obtain rfl := Except.error.inj h
    exact ⟨index, step, rfl⟩

/-- **A run breaks down only if one of its phases does.** -/
theorem ending_of_madeOutcome_eq_error {f : Failure}
    (h : o.madeOutcome spec ctx secrets state = .error f) :
    ∃ index stage,
      endingOf (o.mainVisits spec ctx secrets state).1 = .stopped index stage (.broken f) ∨
        endingOf (o.publishVisits spec ctx secrets state).1 = .stopped index stage (.broken f) := by
  rcases ending_of_jobOutcome_eq_error h with ⟨index, stage, hend⟩ | ⟨-, hpublish⟩
  · exact ⟨index, stage, Or.inl hend⟩
  · unfold publishResult at hpublish
    split at hpublish
    · cases hpublish
    · split at hpublish
      · obtain ⟨index, step, hend⟩ := ending_of_publishOutcome_eq_error hpublish
        exact ⟨index, step, Or.inr hend⟩
      · cases hpublish

/-- A publish phase that stops has been run. -/
theorem of_endingOf_publishVisits {i : Nat} {n : String} {e : Stop}
    (h : endingOf (o.publishVisits spec ctx secrets state).1 = .stopped i n e) :
    endingOf (o.mainVisits spec ctx secrets state).1 = .finished ∧
      ∃ b, spec.afterSuccess = some b ∧ b.rule.holds ctx = true := by
  cases hend : endingOf (o.mainVisits spec ctx secrets state).1 with
  | stopped index stage e' =>
    rw [o.publishVisits_of_stopped spec ctx secrets state hend] at h
    cases h
  | finished =>
    rw [o.publishVisits_of_finished spec ctx secrets state hend] at h
    refine ⟨rfl, ?_⟩
    cases hb : spec.afterSuccess with
    | none =>
      simp only [Job.Spec.publishing, hb] at h
      cases h
    | some b =>
      cases hholds : b.rule.holds ctx with
      | true => exact ⟨b, rfl, hholds⟩
      | false =>
        simp only [Job.Spec.publishing, hb, hholds] at h
        cases h

/-- **A run comes to an outcome unless one of its phases breaks down.** -/
theorem exists_outcome_iff :
    (∃ out, o.madeOutcome spec ctx secrets state = .ok out) ↔
      (¬ ∃ i n f, endingOf (o.mainVisits spec ctx secrets state).1 = .stopped i n (.broken f)) ∧
        ¬ ∃ i n f,
          endingOf (o.publishVisits spec ctx secrets state).1 = .stopped i n (.broken f) := by
  constructor
  · rintro ⟨out, hout⟩
    refine ⟨?_, ?_⟩
    · rintro ⟨i, n, f, hend⟩
      simp only [madeOutcome, hend] at hout
      cases hout
    · rintro ⟨i, n, f, hend⟩
      obtain ⟨hfinished, b, hb, hholds⟩ := o.of_endingOf_publishVisits spec ctx secrets state hend
      have hresult := (results_of_jobOutcome hout).2.1 hfinished
      simp only [publishResult, hb, hholds, if_true, hend] at hresult
      cases hresult
  · rintro ⟨hmain, hpublish⟩
    cases hout : o.madeOutcome spec ctx secrets state with
    | ok out => exact ⟨out, rfl⟩
    | error f =>
      obtain ⟨i, n, hend | hend⟩ := o.ending_of_madeOutcome_eq_error spec ctx secrets state hout
      · exact absurd ⟨i, n, f, hend⟩ hmain
      · exact absurd ⟨i, n, f, hend⟩ hpublish

end Order

end Run

end BuildLine
