import BuildLine.Proofs.Run.Plan
import BuildLine.Run.Script

/-!
# Following a script

An executor that follows a script looks at nothing but the command of a call, and keeps the call. So
what it has kept after a run are the calls of the attempts that the run has made, in order
(`calls_run`).
-/

namespace BuildLine.Run

open Job Log

namespace Script

variable (script : Script) {secrets : Secrets}

/-- The reply of the script to a command. -/
def replyFor (command : String) : Reply :=
  match script.replyTo command with
  | .exit code => .status { exitCode := code, logs := script.logs }
  | .cancel m => .cancelled m
  | .fail m => .failed (.scripted m)

theorem run_executor (call : Call) (st : State) :
    (script.executor.run secrets call st).2 =
      (script.replyFor call.command, { st with calls := st.calls ++ [call] }) := by
  simp only [executor, replyFor]
  cases script.replyTo call.command <;> rfl

theorem reply_attempt (t : Task) (st : State) :
    (script.executor.attempt secrets t st).1.reply = script.replyFor t.call.command :=
  congrArg Prod.fst (script.run_executor t.call st)

theorem state_attempt (t : Task) (st : State) :
    (script.executor.attempt secrets t st).2 = { st with calls := st.calls ++ [t.call] } :=
  congrArg Prod.snd (script.run_executor t.call st)

theorem still : script.executor.Still := by
  intro secrets call st
  rw [run_executor]
  rfl

theorem calls_attempts (ts : List Task) (st : State) :
    (attempts script.executor secrets ts st).2.calls =
      st.calls ++ (attempts script.executor secrets ts st).1.map (fun a => a.call) := by
  induction ts generalizing st with
  | nil => simp
  | cons t ts ih =>
    cases h : (script.executor.attempt secrets t st).1.reply.stop? with
    | none => simp [attempts_cons_of_none ts h, ih, state_attempt, List.append_assoc]
    | some e => simp [attempts_cons_of_some ts h, state_attempt]

theorem calls_visits {w : Surroundings State} (hw : w.executor = script.executor) (index : Nat)
    (stages : List Stage) (st : State) :
    (visits w secrets index stages st).2.calls =
      st.calls ++ ((visits w secrets index stages st).1.flatMap Visit.attempts).map
        (fun a => a.call) := by
  obtain ⟨hattempts, hleft, -⟩ :=
    visits_eq_plan (hw ▸ script.still) secrets index stages st
  rw [hattempts, hleft, hw]
  exact script.calls_attempts _ st

variable {script}

/-- **A script keeps the calls of a run.** -/
theorem calls_run {o : Order State} (ho : o.executor = script.executor) (spec : Spec)
    (ctx : Context) (journal : Journal) (st : State) :
    (o.run spec ctx journal st).state.calls =
      st.calls ++ (o.attempted spec ctx (Order.startJournal ctx journal).secrets st).map
        (fun a => a.call) := by
  -- which secrets there are is of no account
  obtain ⟨secrets, hsecrets⟩ : ∃ s, s = (Order.startJournal ctx journal).secrets := ⟨_, rfl⟩
  rw [Order.run_eq, ← hsecrets, Order.attempted, List.flatMap_append, List.map_append,
    ← List.append_assoc]
  have hmain : (o.mainVisits spec ctx secrets st).2.calls = st.calls ++ List.map (fun a => a.call)
      ((o.mainVisits spec ctx secrets st).1.flatMap Visit.attempts) :=
    script.calls_visits ho 0 spec.mainStages st
  rw [← hmain, Order.publishVisits]
  cases endingOf (o.mainVisits spec ctx secrets st).1 with
  | stopped index stage e => simp
  | finished => exact script.calls_visits ho 0 (spec.publishing ctx) _

end Script

end BuildLine.Run
