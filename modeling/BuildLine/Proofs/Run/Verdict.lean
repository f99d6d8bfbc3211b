import BuildLine.Proofs.Run.Account

/-!
# The exit code of a run

An exit code is what the outside world gets to know of a run, so it should tell what became of the
calls that the run made. The two phases do not count alike for it. A call of the main phase that
does not pass always shows, a call of the publish phase only if the exit code is asked to be strict,
and an interruption shows in either phase.

That the publish phase does not touch the verdict on the main phase is a statement about two runs.
They are made with two executors that need not have anything to do with each other, except that they
*respond alike* (`RespondAlike`) to the calls that the main phase makes: with the same replies, and
leaving the same files. As long as they do the two runs visit the same stages and make the same
attempts, apart from what the executors tell of them (`Visit.silent`), and so the outcomes differ in
nothing but what became of the publish phase.

Both parts are put together in `code_of_run`.
-/

namespace BuildLine.Run

open Files Job Log

/-! ### What the code tells -/

/-- **A code for the ways of counting tells what became of calls** of the two phases. -/
structure CodeTells (code : Bool → Nat) (main publish : List Attempt) : Prop where
  /-- The code of an interruption is that of a run in which a call was interrupted. -/
  cancelled_iff : ∀ strict, code strict = 130 ↔ ∃ a ∈ main ++ publish, a.reply.Cancels
  /-- The code of a failure is that of a run in which a main call has not passed. -/
  failed_iff : ∀ strict, code strict = 1 ↔ ∃ a ∈ main, ∃ n, a.reply.Fails n
  /-- The code of a failure to publish is that of a run in which a publish call has not passed, if
  this counts. -/
  unpublished_iff : ∀ strict, code strict = 2 ↔
    strict = true ∧ ∃ a ∈ publish, ∃ n, a.reply.Fails n
  /-- Every other run has the code of a success. -/
  zero_iff : ∀ strict, code strict = 0 ↔
    (¬ ∃ a ∈ main ++ publish, a.reply.Cancels) ∧ (¬ ∃ a ∈ main, ∃ n, a.reply.Fails n) ∧
      ¬ (strict = true ∧ ∃ a ∈ publish, ∃ n, a.reply.Fails n)
  /-- No two of these things happen in one run. -/
  exclusive : ¬ ((∃ a ∈ main ++ publish, a.reply.Cancels) ∧ ∃ a ∈ main, ∃ n, a.reply.Fails n) ∧
    ¬ ((∃ a ∈ main ++ publish, a.reply.Cancels) ∧ ∃ a ∈ publish, ∃ n, a.reply.Fails n) ∧
    ¬ ((∃ a ∈ main, ∃ n, a.reply.Fails n) ∧ ∃ a ∈ publish, ∃ n, a.reply.Fails n)

/-- A code tells what became of calls if it has one value for each thing that can have become of
them, and no other. -/
theorem CodeTells.of_iff {code : Bool → Nat} {main publish : List Attempt}
    (hcancelled : ∀ strict, code strict = 130 ↔ ∃ a ∈ main ++ publish, a.reply.Cancels)
    (hfailed : ∀ strict, code strict = 1 ↔ ∃ a ∈ main, ∃ n, a.reply.Fails n)
    (hunpublished : ∀ strict, code strict = 2 ↔
      strict = true ∧ ∃ a ∈ publish, ∃ n, a.reply.Fails n)
    (hrange : ∀ strict, code strict = 130 ∨ code strict = 1 ∨ code strict = 2 ∨ code strict = 0) :
    CodeTells code main publish where
  cancelled_iff := hcancelled
  failed_iff := hfailed
  unpublished_iff := hunpublished
  zero_iff strict := by
    rw [← hcancelled strict, ← hfailed strict, ← hunpublished strict]
    have := hrange strict
    omega
  exclusive := by
    -- what happens does not depend on how it is counted, so count strictly
    have hunpublished' := hunpublished true
    simp only [true_and] at hunpublished'
    rw [← hcancelled true, ← hfailed true, ← hunpublished']
    omega

/-- The outcomes that a run can come to: whatever is not a success of the main phase leaves the
publish phase out. -/
structure JobOutcome.Sensible (out : JobOutcome) : Prop where
  /-- The main phase was brought to an end. -/
  status : out.status = .passed ∨ out.status = .failed ∨ out.status = .cancelled
  /-- Nothing is published unless it has passed. -/
  publish : out.status ≠ .passed → out.publish.state = .notRun

namespace JobOutcome

variable {out : JobOutcome}

theorem Sensible.code_eq_cancelled (h : out.Sensible) (strict : Bool) :
    out.code strict = 130 ↔ out.status = .cancelled ∨ out.publish.state = .cancelled := by
  obtain ⟨hstatus | hstatus | hstatus, hpublish⟩ := h
  · by_cases hc : out.publish.state = .cancelled
    · simp [code, hstatus, hc, cancelledCode]
    · simp only [code, hstatus, hc, publishFailureCode]
      split_ifs <;> simp_all
  · simp [code, hstatus, hpublish (by simp [hstatus]), failureCode]
  · simp [code, hstatus, cancelledCode]

theorem code_eq_failed (strict : Bool) :
    out.code strict = 1 ↔ out.status ≠ .passed ∧ out.status ≠ .cancelled := by
  unfold code cancelledCode failureCode publishFailureCode
  split_ifs <;> simp_all

theorem Sensible.code_eq_unpublished (h : out.Sensible) (strict : Bool) :
    out.code strict = 2 ↔ strict = true ∧ out.publish.state = .publishFailed := by
  obtain ⟨hstatus | hstatus | hstatus, hpublish⟩ := h
  · unfold code cancelledCode failureCode publishFailureCode PublishOutcome.failed
    split_ifs <;> simp_all
  · simp [code, hstatus, hpublish (by simp [hstatus]), failureCode]
  · simp [code, hstatus, hpublish (by simp [hstatus]), cancelledCode]

theorem code_range (strict : Bool) :
    out.code strict = 130 ∨ out.code strict = 1 ∨ out.code strict = 2 ∨ out.code strict = 0 := by
  unfold code cancelledCode failureCode publishFailureCode
  split_ifs <;> simp

end JobOutcome

variable {w : Surroundings σ} {secrets : Secrets}

namespace Order

variable (o : Order σ) (spec : Spec) (ctx : Context) {state : σ} {out : JobOutcome}

theorem sensible_of_madeOutcome (h : o.madeOutcome spec ctx secrets state = .ok out) :
    out.Sensible where
  status := by
    obtain ⟨-, hacc⟩ | ⟨i, n, code, -, hacc⟩ | ⟨i, n, -, hacc⟩ :=
      Ending.account?_eq_some (o.account_of_madeOutcome spec ctx h)
    · exact Or.inl (congrArg Account.status hacc)
    · exact Or.inr (Or.inl (congrArg Account.status hacc))
    · exact Or.inr (Or.inr (congrArg Account.status hacc))
  publish hpassed := by rw [o.publish_of_not_passed spec ctx h hpassed]

/-- **Whether there was a publish phase**: either no visits belong to it, and it was not run or was
skipped, or the main phase has passed and the rule of the publish block holds. -/
theorem publish_cases (h : o.madeOutcome spec ctx secrets state = .ok out) :
    ((o.publishVisits spec ctx secrets state).1 = [] ∧
        (out.publish.state = .notRun ∨ out.publish.state = .skipped)) ∨
      ∃ b, out.status = .passed ∧ spec.afterSuccess = some b ∧ b.rule.holds ctx = true := by
  by_cases hpassed : out.status = .passed
  · obtain ⟨hpublish, hresult⟩ := o.publish_of_madeOutcome spec ctx h hpassed
    unfold publishResult at hresult
    rw [hpublish]
    cases hb : spec.afterSuccess with
    | none =>
      rw [hb] at hresult
      have hsteps : spec.publishing ctx = [] := by simp [Job.Spec.publishing, hb]
      rw [hsteps, ← Except.ok.inj hresult]
      exact Or.inl ⟨rfl, Or.inl rfl⟩
    | some b =>
      cases hholds : b.rule.holds ctx with
      | true => exact Or.inr ⟨b, hpassed, rfl, hholds⟩
      | false =>
        simp only [hb, hholds] at hresult
        have hsteps : spec.publishing ctx = [] := by simp [Job.Spec.publishing, hb, hholds]
        rw [hsteps, ← Except.ok.inj hresult]
        exact Or.inl ⟨rfl, Or.inr rfl⟩
  · rw [o.publish_of_not_passed spec ctx h hpassed]
    exact Or.inl ⟨o.publishVisits_of_not_passed spec ctx h hpassed, Or.inl rfl⟩

/-- **The state of the publish phase tells what became of its calls,** whether it was run or not. -/
theorem publish_state_iff (h : o.madeOutcome spec ctx secrets state = .ok out) :
    let publish := (o.publishVisits spec ctx secrets state).1.flatMap Visit.attempts
    (out.publish.state = .cancelled ↔ ∃ a ∈ publish, a.reply.Cancels) ∧
      (out.publish.state = .publishFailed ↔ ∃ a ∈ publish, ∃ n, a.reply.Fails n) := by
  intro publish
  rcases o.publish_cases spec ctx h with ⟨hnone, hstate⟩ | ⟨b, hpassed, hb, hholds⟩
  · simp only [publish, hnone, List.flatMap_nil]
    rcases hstate with hstate | hstate <;> simp [hstate]
  · obtain ⟨hpublish, hresult⟩ := o.publish_of_holds spec ctx h hpassed hb hholds
    have hagrees := agrees_of_account? (account_of_publishOutcome hresult)
    have hverdict : (out.publish.verdict = .cancelled ↔ out.publish.state = .cancelled) ∧
        (out.publish.verdict = .failed ↔ out.publish.state = .publishFailed) := by
      unfold PublishOutcome.verdict
      cases out.publish.state <;> decide
    simp only [publish, hpublish]
    exact ⟨hverdict.1.symm.trans hagrees.cancelled_iff, hverdict.2.symm.trans hagrees.failed_iff⟩

/-- **The exit code tells what became of the calls of the run.** -/
theorem codeTells_of_madeOutcome (h : o.madeOutcome spec ctx secrets state = .ok out) :
    CodeTells out.code ((o.mainVisits spec ctx secrets state).1.flatMap Visit.attempts)
      ((o.publishVisits spec ctx secrets state).1.flatMap Visit.attempts) := by
  have hsensible := o.sensible_of_madeOutcome spec ctx h
  have hmain := agrees_of_account? (o.account_of_madeOutcome spec ctx h)
  obtain ⟨hcancelled, hunpublished⟩ := o.publish_state_iff spec ctx h
  refine .of_iff (fun strict => ?_) (fun strict => ?_) (fun strict => ?_) JobOutcome.code_range
  · rw [hsensible.code_eq_cancelled, hcancelled]
    simp only [List.mem_append, or_and_right, exists_or]
    exact or_congr hmain.cancelled_iff Iff.rfl
  · rw [JobOutcome.code_eq_failed]
    have hfailed : out.status = .failed ↔ out.status ≠ .passed ∧ out.status ≠ .cancelled := by
      rcases hsensible.status with hstatus | hstatus | hstatus <;> simp [hstatus]
    exact hfailed.symm.trans hmain.failed_iff
  · rw [hsensible.code_eq_unpublished, hunpublished]

end Order

/-! ### Executors that respond alike -/

/-- **Two executors respond alike to calls** that they are given one after the other: with the same
replies, and leaving the same files after each of them. What they tell of a call may differ. -/
def RespondAlike (ex₁ : Executor σ) (ex₂ : Executor τ) (secrets : Secrets) :
    List Call → σ → τ → Prop
  | [], s, t => ex₁.tree s = ex₂.tree t
  | call :: calls, s, t =>
    ex₁.tree s = ex₂.tree t ∧ (ex₁.run secrets call s).2.1 = (ex₂.run secrets call t).2.1 ∧
      RespondAlike ex₁ ex₂ secrets calls (ex₁.run secrets call s).2.2 (ex₂.run secrets call t).2.2

/-- The attempt without what the executor told of it. -/
def Attempt.silent (a : Attempt) : Attempt :=
  { a with notices := [] }

/-- The visit without what the executor told during it. -/
def Visit.silent (v : Visit) : Visit :=
  { v with attempts := v.attempts.map Attempt.silent }

/-- What the stages of a job share, with another executor. -/
def Surroundings.withExecutor (w : Surroundings σ) (ex : Executor τ) : Surroundings τ :=
  { executor := ex, root := w.root, ctx := w.ctx, env := w.env }

/-- The run with another executor. -/
def Order.withExecutor (o : Order σ) (ex : Executor τ) : Order τ :=
  { settings := o.settings, executor := ex, root := o.root, environment := o.environment }

section Alike

variable {ex₁ : Executor σ} {ex₂ : Executor τ} {s : σ} {t : τ}

theorem RespondAlike.tree_eq {calls : List Call} (h : RespondAlike ex₁ ex₂ secrets calls s t) :
    ex₁.tree s = ex₂.tree t := by
  cases calls with
  | nil => exact h
  | cons call calls => exact h.1

/-- Executors that respond alike to the attempts of the first one make the same attempts, and go on
to respond alike to what is called later. -/
theorem RespondAlike.attempts_eq (tasks : List Task) {later : List Call}
    (h : RespondAlike ex₁ ex₂ secrets
      ((attempts ex₁ secrets tasks s).1.map (fun a => a.call) ++ later) s t) :
    (attempts ex₁ secrets tasks s).1.map Attempt.silent =
        (attempts ex₂ secrets tasks t).1.map Attempt.silent ∧
      RespondAlike ex₁ ex₂ secrets later (attempts ex₁ secrets tasks s).2
        (attempts ex₂ secrets tasks t).2 := by
  induction tasks generalizing s t with
  | nil => exact ⟨rfl, h⟩
  | cons task tasks ih =>
    cases hstop : (ex₁.attempt secrets task s).1.reply.stop? with
    | none =>
      rw [attempts_cons_of_none tasks hstop] at h ⊢
      obtain ⟨-, hreply, hrest⟩ := h
      have hreply : (ex₁.attempt secrets task s).1.reply = (ex₂.attempt secrets task t).1.reply :=
        hreply
      rw [attempts_cons_of_none tasks (hreply ▸ hstop)]
      obtain ⟨hattempts, hlater⟩ := ih hrest
      refine ⟨?_, hlater⟩
      rw [List.map_cons, List.map_cons, hattempts]
      congr 1
      simp only [Attempt.silent, hreply, Executor.toTask_attempt]
    | some e =>
      rw [attempts_cons_of_some tasks hstop] at h ⊢
      obtain ⟨-, hreply, hlater⟩ := h
      have hreply : (ex₁.attempt secrets task s).1.reply = (ex₂.attempt secrets task t).1.reply :=
        hreply
      rw [attempts_cons_of_some tasks (hreply ▸ hstop)]
      refine ⟨?_, hlater⟩
      simp only [List.map_cons, List.map_nil, Attempt.silent, hreply, Executor.toTask_attempt]

/-- A visit finds the same tasks with either executor, since it finds the same files. -/
theorem RespondAlike.visit_eq (w : Surroundings σ) (index : Nat) (stage : Stage)
    {later : List Call}
    (h : RespondAlike w.executor ex₂ secrets
      ((visit w secrets index stage s).1.attempts.map (fun a => a.call) ++ later) s t) :
    (visit w secrets index stage s).1.silent =
        (visit (w.withExecutor ex₂) secrets index stage t).1.silent ∧
      RespondAlike w.executor ex₂ secrets later (visit w secrets index stage s).2
        (visit (w.withExecutor ex₂) secrets index stage t).2 := by
  have htree : (w.withExecutor ex₂).executor.tree t = w.executor.tree s := h.tree_eq.symm
  obtain ⟨hattempts, hlater⟩ :=
    RespondAlike.attempts_eq ((tasksOf w (w.executor.tree s) index stage).toOption.getD []) h
  refine ⟨?_, ?_⟩
  · simp only [visit, Visit.silent, htree, hattempts]
    rfl
  · simp only [visit, htree]
    exact hlater

theorem stopOf_map_silent (as : List Attempt) : stopOf (as.map Attempt.silent) = stopOf as := by
  rw [stopOf, List.findSome?_map]
  rfl

theorem Visit.stop?_silent (v : Visit) : v.silent.stop? = v.stop? := by
  simp only [Visit.stop?, Visit.silent, stopOf_map_silent]

/-- **Executors that respond alike are visited alike.** -/
theorem RespondAlike.visits_eq (w : Surroundings σ) (index : Nat) (stages : List Stage)
    {later : List Call}
    (h : RespondAlike w.executor ex₂ secrets
      (((visits w secrets index stages s).1.flatMap Visit.attempts).map (fun a => a.call) ++ later)
      s t) :
    (visits w secrets index stages s).1.map Visit.silent =
        (visits (w.withExecutor ex₂) secrets index stages t).1.map Visit.silent ∧
      RespondAlike w.executor ex₂ secrets later (visits w secrets index stages s).2
        (visits (w.withExecutor ex₂) secrets index stages t).2 := by
  induction stages generalizing index s t with
  | nil => exact ⟨rfl, h⟩
  | cons stage stages ih =>
    have hstops (hvisit : (visit w secrets index stage s).1.silent =
        (visit (w.withExecutor ex₂) secrets index stage t).1.silent) :
        (visit w secrets index stage s).1.stop? =
          (visit (w.withExecutor ex₂) secrets index stage t).1.stop? := by
      rw [← Visit.stop?_silent, hvisit, Visit.stop?_silent]
    cases hstop : (visit w secrets index stage s).1.stop? with
    | none =>
      rw [visits_cons_of_none stages hstop] at h ⊢
      rw [List.flatMap_cons, List.map_append, List.append_assoc] at h
      obtain ⟨hvisit, hrest⟩ := h.visit_eq w index stage
      rw [visits_cons_of_none stages ((hstops hvisit).symm.trans hstop)]
      obtain ⟨hvisits, hlater⟩ := ih (index + 1) hrest
      exact ⟨by rw [List.map_cons, List.map_cons, hvisit, hvisits], hlater⟩
    | some e =>
      rw [visits_cons_of_some stages hstop] at h ⊢
      rw [List.flatMap_cons, List.flatMap_nil, List.append_nil] at h
      obtain ⟨hvisit, hlater⟩ := h.visit_eq w index stage
      rw [visits_cons_of_some stages ((hstops hvisit).symm.trans hstop)]
      exact ⟨by rw [List.map_cons, List.map_cons, hvisit], hlater⟩

end Alike

/-! ### What the publish phase cannot touch -/

section Silent

variable {vs us : List Visit}

theorem endingOf_map_silent (vs : List Visit) : endingOf (vs.map Visit.silent) = endingOf vs := by
  induction vs with
  | nil => rfl
  | cons v vs ih =>
    rw [List.map_cons]
    cases hstop : v.stop? with
    | none =>
      rw [endingOf_cons_of_none vs hstop, ← ih]
      exact endingOf_cons_of_none _ (v.stop?_silent.trans hstop)
    | some e =>
      rw [endingOf_cons_of_some vs hstop]
      exact endingOf_cons_of_some _ (v.stop?_silent.trans hstop)

theorem flatMap_results_map_silent (vs : List Visit) :
    (vs.map Visit.silent).flatMap (Visit.results secrets) =
      vs.flatMap (Visit.results secrets) := by
  rw [List.flatMap_map]
  refine List.flatMap_congr fun v _ => ?_
  rw [Visit.results, Visit.silent, List.filterMap_map]
  rfl

theorem statesAfter_map_silent (states : List Job.State) (vs : List Visit) :
    statesAfter states (vs.map Visit.silent) = statesAfter states vs :=
  List.foldl_map

end Silent

/-- What a job came to, apart from what became of the publish phase. -/
def JobOutcome.withoutPublish (out : JobOutcome) : JobOutcome :=
  { out with publish := {} }

theorem withoutPublish_of_jobOutcome {ending : Ending} {results : List StageResult}
    {states : List Job.State} {p q : Except Failure PublishOutcome} {out out' : JobOutcome}
    (h : Order.jobOutcome ending results states p = .ok out)
    (h' : Order.jobOutcome ending results states q = .ok out') :
    out.withoutPublish = out'.withoutPublish := by
  obtain ⟨_, rfl, -, rfl⟩ | ⟨_, _, _, rfl, rfl⟩ | ⟨_, _, rfl, rfl⟩ := Order.jobOutcome_eq_ok h
  · obtain ⟨_, -, -, rfl⟩ | ⟨_, _, _, hend, -⟩ | ⟨_, _, hend, -⟩ := Order.jobOutcome_eq_ok h'
    · rfl
    · cases hend
    · cases hend
  · rw [Except.ok.inj h']
  · rw [Except.ok.inj h']

namespace Order

variable (o : Order σ) (spec : Spec) (ctx : Context) {s : σ}

/-- **Executors that respond alike to the calls of the main phase** give outcomes that differ in
nothing but what became of the publish phase. -/
theorem withoutPublish_eq {ex : Executor τ} {t : τ}
    (h : RespondAlike o.executor ex secrets
      (((o.mainVisits spec ctx secrets s).1.flatMap Visit.attempts).map (fun a => a.call)) s t)
    {out out' : JobOutcome} (hout : o.madeOutcome spec ctx secrets s = .ok out)
    (hout' : (o.withExecutor ex).madeOutcome spec ctx secrets t = .ok out') :
    out.withoutPublish = out'.withoutPublish := by
  have hvisits : (o.mainVisits spec ctx secrets s).1.map Visit.silent =
      ((o.withExecutor ex).mainVisits spec ctx secrets t).1.map Visit.silent := by
    rw [← List.append_nil (List.map _ _)] at h
    exact (RespondAlike.visits_eq (o.surroundings spec ctx) 0 spec.mainStages h).1
  have hending := congrArg endingOf hvisits
  have hresults := congrArg (List.flatMap (Visit.results secrets)) hvisits
  have hstates := congrArg (statesAfter [.pending]) hvisits
  rw [endingOf_map_silent, endingOf_map_silent] at hending
  rw [flatMap_results_map_silent, flatMap_results_map_silent] at hresults
  rw [statesAfter_map_silent, statesAfter_map_silent] at hstates
  rw [madeOutcome, hending, hresults, hstates] at hout
  exact withoutPublish_of_jobOutcome hout hout'

/-- Outcomes that differ in nothing but the publish phase have the same code, if this is not strict
and nothing was interrupted there. -/
theorem code_eq_of_withoutPublish {out out' : JobOutcome}
    (h : out.withoutPublish = out'.withoutPublish) (hout : out.publish.state ≠ .cancelled)
    (hout' : out'.publish.state ≠ .cancelled) : out.code false = out'.code false := by
  have hstatus : out.withoutPublish.status = out'.withoutPublish.status := by rw [h]
  change out.status = out'.status at hstatus
  simp [JobOutcome.code, hstatus, hout, hout']

/-- **The exit code of a run tells what became of its calls,** which are those in the transcript of
the executor, first the ones of the main phase and then the ones of the publish phase. The publish
phase touches nothing but its own outcome: another executor that responds alike to the main calls
leads to an outcome that is the same in every other field and, unless something is interrupted in a
publish phase, to the same code if this is not strict. -/
theorem code_of_run (journal : Journal) (s : σ) :
    let secrets := (startJournal ctx journal).secrets
    let main := (o.mainVisits spec ctx secrets s).1.flatMap Visit.attempts
    let publish := (o.publishVisits spec ctx secrets s).1.flatMap Visit.attempts
    let kept := o.transcribed.run spec ctx journal ([], s)
    kept.outcome = (o.run spec ctx journal s).outcome ∧
      kept.state.1 = (main ++ publish).map Attempt.exchange ∧
      (∀ out, (o.run spec ctx journal s).outcome = .ok out → CodeTells out.code main publish) ∧
      ∀ {τ : Type} (ex : Executor τ) (t : τ),
        RespondAlike o.executor ex secrets (main.map fun a => a.call) s t →
          ∀ out out', (o.run spec ctx journal s).outcome = .ok out →
            ((o.withExecutor ex).run spec ctx journal t).outcome = .ok out' →
              out.withoutPublish = out'.withoutPublish ∧
                let publish' := ((o.withExecutor ex).publishVisits spec ctx secrets t).1.flatMap
                  Visit.attempts
                ((¬ ∃ a ∈ publish, a.reply.Cancels) → (¬ ∃ a ∈ publish', a.reply.Cancels) →
                  out.code false = out'.code false) := by
  intro secrets main publish kept
  obtain ⟨hkept, -, hstate⟩ := o.run_transcribed spec ctx [] s journal
  refine ⟨hkept, ?_, fun out hout => ?_, fun ex t halike out out' hout hout' => ?_⟩
  · rw [hstate, attempted, List.nil_append, List.flatMap_append]
  · rw [run_eq] at hout
    exact o.codeTells_of_madeOutcome spec ctx hout
  · rw [run_eq] at hout hout'
    have hsame := o.withoutPublish_eq spec ctx halike hout hout'
    refine ⟨hsame, fun hnone hnone' => ?_⟩
    exact code_eq_of_withoutPublish hsame
      (fun hstate => hnone ((o.publish_state_iff spec ctx hout).1.mp hstate))
      (fun hstate => hnone' (((o.withExecutor ex).publish_state_iff spec ctx hout').1.mp hstate))

/-- A push that fails and one that passes: the runs differ in nothing but what was published, and
their codes only if they are strict. -/
theorem code_of_run_push :
    let push : Stage := { name := "push", run := "git push", role := .push }
    let spec : Spec :=
      { platform := .text "linux", toolchain := "stable", install := []
        script := [{ name := "build", run := "make", role := .build }]
        afterSuccess := some { rule := { branch := "main" }, steps := [push] } }
    let ctx : Context :=
      { branch := "main", isPullRequest := false, credential := none, repoSlug := none }
    let failing : Script := { replies := [("git push", .exit 128)] }
    let o : Order Script.State := { executor := failing.executor, root := ["job"] }
    let o' := o.withExecutor (Script.executor {})
    ∃ out out', (o.run spec ctx {} {}).outcome = .ok out ∧
      (o'.run spec ctx {} {}).outcome = .ok out' ∧ out.withoutPublish = out'.withoutPublish ∧
        out.code true = 2 ∧ out'.code true = 0 ∧ out.code false = out'.code false := by
  intro push spec ctx failing o o'
  have hsecrets : (startJournal ctx {}).secrets = [] := rfl
  obtain ⟨out, hmade, hcode⟩ : ∃ out, o.madeOutcome spec ctx [] {} = .ok out ∧
      out.code true = 2 := ⟨_, by cbv, by cbv⟩
  obtain ⟨out', hmade', hcode'⟩ : ∃ out', o'.madeOutcome spec ctx [] {} = .ok out' ∧
      out'.code true = 0 := ⟨_, by cbv, by cbv⟩
  have hout : (o.run spec ctx {} {}).outcome = .ok out := by rw [run_eq, hsecrets, hmade]
  have hout' : (o'.run spec ctx {} {}).outcome = .ok out' := by rw [run_eq, hsecrets, hmade']
  obtain ⟨-, -, htells, halike⟩ := o.code_of_run spec ctx {} {}
  obtain ⟨-, -, htells', -⟩ := o'.code_of_run spec ctx {} {}
  rw [hsecrets] at htells htells' halike
  -- both scripts let the one main call pass
  have hcalls : ((o.mainVisits spec ctx [] {}).1.flatMap Visit.attempts).map (fun a => a.call) =
      [{ command := "make", cwd := ["job"], env := [] }] := by cbv
  have hmain : RespondAlike o.executor (Script.executor {}) []
      (((o.mainVisits spec ctx [] {}).1.flatMap Visit.attempts).map fun a => a.call) {} {} := by
    rw [hcalls]
    exact ⟨rfl, rfl, rfl⟩
  obtain ⟨hsame, hcodes⟩ := halike (Script.executor {}) {} hmain out out' hout hout'
  have hnone {code : Bool → Nat} {main publish : List Attempt} (h : CodeTells code main publish)
      (hcode : code true ≠ 130) : ¬ ∃ a ∈ publish, a.reply.Cancels := by
    rintro ⟨a, ha, hcancels⟩
    exact hcode ((h.cancelled_iff true).mpr ⟨a, List.mem_append_right _ ha, hcancels⟩)
  refine ⟨out, out', hout, hout', hsame, hcode, hcode', hcodes ?_ ?_⟩
  · exact hnone (htells out hout) (by rw [hcode]; decide)
  · exact hnone (htells' out' hout') (by rw [hcode']; decide)

end Order

end BuildLine.Run
