import Mathlib
import BuildLine.Proofs.Run.History
import BuildLine.Run.Script

/-!
# Runs in a row

A process has one journal for all the runs that it makes. A run finds there what the runs before it
have left: lines, secrets, and what was shown. Of these it takes over the secrets alone, since its
log starts empty; and it gives them back as it has found them, without its own credential.

So if there are no secrets to begin with, there are none whenever a run starts, and no run can tell
how many were made before it (`runs_isolated`). It does not matter how the runs end, since the
credential is forgotten in either case.
-/

namespace BuildLine

open Files Job Log

/-! ### What a journal keeps -/

namespace Log.Journal

/-- The journal without what was shown, which nothing that is kept depends on. -/
def unshown (j : Journal) : Journal :=
  { j with screen := [] }

theorem unshown_take (j : Journal) (n : Notice) :
    (j.take n).unshown = (j.unshown.take n).unshown := by
  cases n <;> rfl

/-- **What a journal keeps does not depend on what was shown.** -/
theorem unshown_takeAll (j : Journal) (ns : List Notice) :
    (j.takeAll ns).unshown = (j.unshown.takeAll ns).unshown := by
  induction ns generalizing j with
  | nil => rfl
  | cons n ns ih => rw [takeAll_cons, ih, unshown_take, ← ih, takeAll_cons]

/-- Journals that have been shown different things take the same lines. -/
theorem lines_takeAll_eq {j k : Journal} (h : j.unshown = k.unshown) (ns : List Notice) :
    (j.takeAll ns).lines = (k.takeAll ns).lines := by
  have hlines : (j.takeAll ns).unshown.lines = (k.takeAll ns).unshown.lines := by
    rw [unshown_takeAll, h, ← unshown_takeAll]
  exact hlines

theorem lines_forget (j : Journal) (value : Option String) : (j.forget value).lines = j.lines := by
  cases value <;> rfl

theorem stamp_take (j : Journal) (n : Notice) : (j.take n).stamp = j.stamp := by
  cases n <;> rfl

theorem stamp_takeAll (j : Journal) (ns : List Notice) : (j.takeAll ns).stamp = j.stamp := by
  induction ns generalizing j with
  | nil => rfl
  | cons n ns ih => rw [takeAll_cons, ih, stamp_take]

end Log.Journal

/-- The secrets without a credential, if there is one. -/
def Log.Secrets.without (secrets : Secrets) (credential : Option String) : Secrets :=
  secrets.filter fun x => credential ≠ some x

/-- A secret that was registered and is forgotten has left no trace. -/
theorem Log.Secrets.forget_register (secrets : Secrets) (c : String) :
    (secrets.register c).forget c = secrets.filter (· ≠ c) := by
  unfold register forget
  split
  · rfl
  · rw [List.filter_append]
    simp

namespace Run

namespace Order

variable (o : Order σ) (spec : Spec) (ctx : Context) (journal : Journal) (state : σ)

/-- **A run leaves the secrets as it has found them,** without its own credential. -/
theorem secrets_run : (o.run spec ctx journal state).journal.secrets =
    journal.secrets.without ctx.credential := by
  rw [run_eq]
  cases hc : ctx.credential with
  | none =>
    simp only [Journal.forget, Journal.secrets_takeAll, startJournal, hc, Journal.register]
    exact (List.filter_eq_self.mpr fun x _ => by simp).symm
  | some c =>
    simp only [Journal.forget, Journal.secrets_takeAll, startJournal, hc, Journal.register]
    refine (Secrets.forget_register journal.secrets c).trans ?_
    exact List.filter_congr fun x _ => by simp [eq_comm]

theorem stamp_run : (o.run spec ctx journal state).journal.stamp = journal.stamp := by
  rw [run_eq]
  have hforget (j : Journal) : (j.forget ctx.credential).stamp = j.stamp := by
    cases ctx.credential <;> rfl
  have hregister (j : Journal) : (j.register ctx.credential).stamp = j.stamp := by
    cases ctx.credential <;> rfl
  rw [hforget, Journal.stamp_takeAll, startJournal, hregister]
  rfl

end Order

/-- What is left of a run that can be looked at afterwards: what it came to, the collected log, and
the state of its executor. -/
def Made.left (m : Made σ) : Except Failure JobOutcome × List String × σ :=
  (m.outcome, m.journal.lines, m.state)

/-- **Of the journal a run takes over nothing but the secrets** and the time. -/
theorem Order.left_run (o : Order σ) (spec : Spec) (ctx : Context) (state : σ) {j k : Journal}
    (hsecrets : j.secrets = k.secrets) (hstamp : j.stamp = k.stamp) :
    (o.run spec ctx j state).left = (o.run spec ctx k state).left := by
  have hstart : (startJournal ctx j).unshown = (startJournal ctx k).unshown := by
    simp only [startJournal, Journal.forgetLines, Journal.unshown]
    cases ctx.credential <;> simp [Journal.register, hsecrets, hstamp]
  have hsame : (startJournal ctx j).unshown.secrets = (startJournal ctx k).unshown.secrets := by
    rw [hstart]
  change (startJournal ctx j).secrets = (startJournal ctx k).secrets at hsame
  simp only [Made.left, run_eq, hsame, Journal.lines_forget, Journal.lines_takeAll_eq hstart]

/-! ### Runs of one process -/

/-- A run that a process is to make. -/
structure Assignment (σ : Type) where
  /-- How it is to be made. -/
  order : Order σ
  /-- The job. -/
  spec : Spec
  /-- What it is told from outside. -/
  ctx : Context
  /-- The state in which it finds its executor, and with it the files. -/
  state : σ

/-- Make the run where a journal is found. -/
def Assignment.make (a : Assignment σ) (journal : Journal) : Made σ :=
  a.order.run a.spec a.ctx journal a.state

/-- **The runs of one process**: each of them finds the journal that the one before it has left. -/
def series (journal : Journal) : List (Assignment σ) → List (Made σ)
  | [] => []
  | a :: as => a.make journal :: series (a.make journal).journal as

/-- The secrets after each run of a process. -/
theorem secrets_series (journal : Journal) (as : List (Assignment σ)) :
    journal.secrets :: (series journal as).map (fun m => m.journal.secrets) =
      as.scanl (fun secrets a => secrets.without a.ctx.credential) journal.secrets := by
  induction as generalizing journal with
  | nil => rfl
  | cons a as ih =>
    rw [series, List.map_cons, ih, List.scanl_cons]
    rw [Assignment.make, Order.secrets_run]

/-- Where there are no secrets, every run of a process leaves what it leaves in a fresh one. -/
theorem left_series {journal : Journal} (h : journal.secrets = []) (as : List (Assignment σ)) :
    (series journal as).map Made.left =
      as.map fun a => (a.make { stamp := journal.stamp }).left := by
  induction as generalizing journal with
  | nil => rfl
  | cons a as ih =>
    have hnone : (a.make journal).journal.secrets = [] := by
      rw [Assignment.make, Order.secrets_run, h]
      rfl
    have hstamp : (a.make journal).journal.stamp = journal.stamp := Order.stamp_run ..
    rw [series, List.map_cons, List.map_cons, ih hnone, hstamp]
    congr 1
    exact a.order.left_run a.spec a.ctx a.state h rfl

/-- **The runs of one process are isolated from each other.** After each of them, however it ended,
the secrets are those before it without its credential. If there were none to begin with, every run
comes to the same and leaves the same log as in a fresh process. -/
theorem runs_isolated (journal : Journal) (as : List (Assignment σ)) :
    (journal.secrets :: (series journal as).map (fun m => m.journal.secrets) =
        as.scanl (fun secrets a => secrets.filter fun x => a.ctx.credential ≠ some x)
          journal.secrets) ∧
      (journal.secrets = [] →
        (series journal as).map Made.left =
          as.map fun a => (a.make { stamp := journal.stamp }).left) :=
  ⟨secrets_series journal as, fun h => left_series h as⟩

/-- A run that breaks down, and after it one that prints what was a secret of the first: the second
one prints it as it would in a process of its own. -/
theorem runs_isolated_broken :
    let stage : Stage := { name := "build", run := "echo tok", role := .build }
    let spec : Spec :=
      { platform := .text "linux", toolchain := "stable", install := [], script := [stage] }
    let ctx (credential : Option String) : Context :=
      { branch := "main", isPullRequest := false, credential, repoSlug := none }
    let broken : Assignment Script.State :=
      { order := { executor := Script.executor { replies := [("echo", .fail "boom")] }
                   root := ["job"] }
        spec, ctx := ctx (some "tok"), state := {} }
    let plain : Assignment Script.State :=
      { order := { executor := Script.executor { logs := "tok" }, root := ["job"] }
        spec, ctx := ctx none, state := {} }
    let runs := series {} [broken, plain]
    (broken.make {}).outcome.isOk = false ∧ runs.map (fun m => m.journal.secrets) = [[], []] ∧
      runs.map Made.left = [(broken.make {}).left, (plain.make {}).left] := by
  intro stage spec ctx broken plain runs
  obtain ⟨hsecrets, hleft⟩ := runs_isolated {} [broken, plain]
  have hstart : (Order.startJournal broken.ctx {}).secrets = ["tok"] := by decide
  have hbroken : (broken.order.madeOutcome spec broken.ctx ["tok"] {}).isOk = false := by cbv
  refine ⟨?_, ?_, hleft rfl⟩
  · rw [Assignment.make, Order.run_eq, hstart]
    exact hbroken
  · rw [List.scanl_cons, List.scanl_cons, List.scanl_nil] at hsecrets
    exact (List.cons.inj hsecrets).2

end Run

end BuildLine
