import BuildLine.Proofs.Run.History

/-!
# Keeping a transcript

The attempts of a run are made by a loop of this theory, not by the executor, and one may ask
whether they are the calls that the executor was really given. So let the executor keep a
transcript: every call that it is given, together with the reply that it gives
(`Executor.transcribed`). The transcript is a part of its state that nobody looks at, and
`run_transcribed` states that it changes nothing and that after a run there stands in it what the
run has attempted, exchange by exchange.
-/

namespace BuildLine.Run

open Files Job Log

/-- A call and the reply to it. -/
abbrev Exchange := Call × Reply

/-- The exchange of an attempt. -/
def Attempt.exchange (a : Attempt) : Exchange :=
  (a.call, a.reply)

/-- The executor that also keeps every exchange, the first one first. -/
def Executor.transcribed (ex : Executor σ) : Executor (List Exchange × σ) where
  run secrets call s :=
    let r := ex.run secrets call s.2
    (r.1, r.2.1, (s.1 ++ [(call, r.2.1)], r.2.2))
  tree s := ex.tree s.2

/-- What all stages of a job share, with a transcript. -/
def Surroundings.transcribed (w : Surroundings σ) : Surroundings (List Exchange × σ) :=
  { executor := w.executor.transcribed, root := w.root, ctx := w.ctx, env := w.env }

/-- The run with a transcript. -/
def Order.transcribed (o : Order σ) : Order (List Exchange × σ) :=
  { settings := o.settings, executor := o.executor.transcribed, root := o.root
    environment := o.environment }

variable {ex : Executor σ} {w : Surroundings σ} (secrets : Secrets)

theorem attempt_transcribed (t : Task) (before : List Exchange) (s : σ) :
    let r := ex.attempt secrets t s
    ex.transcribed.attempt secrets t (before, s) = (r.1, before ++ [r.1.exchange], r.2) := rfl

theorem attempts_transcribed (ts : List Task) (before : List Exchange) (s : σ) :
    let r := attempts ex secrets ts s
    attempts ex.transcribed secrets ts (before, s) =
      (r.1, before ++ r.1.map Attempt.exchange, r.2) := by
  induction ts generalizing before s with
  | nil => simp
  | cons t ts ih =>
    intro r
    cases hstop : (ex.attempt secrets t s).1.reply.stop? with
    | none =>
      have hr : r = _ := attempts_cons_of_none ts hstop
      have hkept : (ex.transcribed.attempt secrets t (before, s)).1.reply.stop? = none := hstop
      rw [attempts_cons_of_none ts hkept, attempt_transcribed, ih, hr]
      simp
    | some e =>
      have hr : r = _ := attempts_cons_of_some ts hstop
      have hkept : (ex.transcribed.attempt secrets t (before, s)).1.reply.stop? = some e := hstop
      rw [attempts_cons_of_some ts hkept, attempt_transcribed, hr]
      simp

/-- A visit is the same with a transcript: the commands of the stage are those of the same files. -/
theorem visit_transcribed (index : Nat) (stage : Stage) (before : List Exchange) (s : σ) :
    let r := visit w secrets index stage s
    visit w.transcribed secrets index stage (before, s) =
      (r.1, before ++ r.1.attempts.map Attempt.exchange, r.2) := by
  intro r
  let tasks := tasksOf w (w.executor.tree s) index stage
  have hattempts : attempts w.executor.transcribed secrets (tasks.toOption.getD []) (before, s) =
      _ := attempts_transcribed secrets (tasks.toOption.getD []) before s
  have hvisit : visit w.transcribed secrets index stage (before, s) =
      ({ r.1 with
          attempts := (attempts w.executor.transcribed secrets (tasks.toOption.getD [])
            (before, s)).1 },
        (attempts w.executor.transcribed secrets (tasks.toOption.getD []) (before, s)).2) := rfl
  rw [hvisit, hattempts]
  rfl

theorem visits_transcribed (index : Nat) (stages : List Stage) (before : List Exchange) (s : σ) :
    let r := visits w secrets index stages s
    visits w.transcribed secrets index stages (before, s) =
      (r.1, before ++ (r.1.flatMap Visit.attempts).map Attempt.exchange, r.2) := by
  induction stages generalizing index before s with
  | nil => simp
  | cons stage stages ih =>
    intro r
    have hvisit := visit_transcribed (w := w) secrets index stage before s
    cases hstop : (visit w secrets index stage s).1.stop? with
    | none =>
      have hr : r = _ := visits_cons_of_none stages hstop
      rw [visits_cons_of_none stages (by rw [hvisit]; exact hstop), hvisit, ih, hr]
      simp
    | some e =>
      have hr : r = _ := visits_cons_of_some stages hstop
      rw [visits_cons_of_some stages (by rw [hvisit]; exact hstop), hvisit, hr]
      simp

namespace Order

variable (o : Order σ) (spec : Spec) (ctx : Context) (before : List Exchange) (state : σ)

theorem mainVisits_transcribed :
    let r := o.mainVisits spec ctx secrets state
    o.transcribed.mainVisits spec ctx secrets (before, state) =
      (r.1, before ++ (r.1.flatMap Visit.attempts).map Attempt.exchange, r.2) :=
  visits_transcribed (w := o.surroundings spec ctx) secrets 0 spec.mainStages before state

theorem publishVisits_transcribed :
    let r := o.publishVisits spec ctx secrets state
    o.transcribed.publishVisits spec ctx secrets (before, state) =
      (r.1, before ++ (o.attempted spec ctx secrets state).map Attempt.exchange, r.2) := by
  intro r
  simp only [publishVisits, mainVisits_transcribed]
  cases hend : endingOf (o.mainVisits spec ctx secrets state).1 with
  | stopped index stage e => simp [r, attempted, publishVisits, hend]
  | finished =>
    have hpublish := visits_transcribed (w := o.surroundings spec ctx) secrets 0
      (spec.publishing ctx)
      (before ++ ((o.mainVisits spec ctx secrets state).1.flatMap Visit.attempts).map
        Attempt.exchange) (o.mainVisits spec ctx secrets state).2
    refine hpublish.trans ?_
    simp [r, attempted, publishVisits, hend, List.append_assoc]

/-- **A transcript changes nothing and holds what was attempted.** -/
theorem run_transcribed (journal : Journal) :
    let made := o.run spec ctx journal state
    let kept := o.transcribed.run spec ctx journal (before, state)
    let attempted := o.attempted spec ctx (startJournal ctx journal).secrets state
    kept.outcome = made.outcome ∧ kept.journal = made.journal ∧
      kept.state = (before ++ attempted.map Attempt.exchange, made.state) := by
  intro made kept attempted
  have hmade : made = _ := o.run_eq spec ctx journal state
  have hkept : kept = _ := o.transcribed.run_eq spec ctx journal (before, state)
  simp only [hmade, hkept, madeOutcome, told, mainVisits_transcribed, publishVisits_transcribed]
  exact ⟨trivial, rfl, rfl⟩

end Order

end BuildLine.Run
