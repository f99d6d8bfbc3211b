import Mathlib
import BuildLine.Proofs.Job.Entries
import BuildLine.Proofs.Run.Following
import BuildLine.Proofs.Run.Variables

/-!
# Who is given the credential

Copies of the credential among the variables of the process are dropped before anything runs. So
unless the job itself has a copy in its variables, a command has the credential exactly if its stage
asks for it, and a stage asks for it exactly if its entry in the manifest says so. Nothing keeps an
entry of the main phase from saying so: `credential_of_main` states who is given the credential in
the main phase, and `credential_given_to_build` is a run that publishes nothing and gives it away.
-/

namespace BuildLine.Run

open Data (Value Table)
open Files Job Log

/-- The text is the value of one of the variables. -/
def HoldsText (env : Table) (c : String) : Prop :=
  ∃ name, (name, Value.text c) ∈ env

variable {c : String}

/-! ### Variables -/

theorem not_holdsText_sharedEnv {o : Order σ} {spec : Spec} {ctx : Context}
    (hc : usableCredential ctx = some c) (hjob : ¬ HoldsText spec.env c) :
    ¬ HoldsText (o.sharedEnv spec ctx) c := by
  rintro ⟨name, h⟩
  rcases mem_sharedEnv h with h | ⟨name', text, hmem, heq⟩
  · exact hjob ⟨name, h⟩
  · obtain ⟨rfl, htext⟩ := Prod.mk.inj heq
    obtain rfl := Value.text.inj htext
    -- a variable with this value has been dropped
    obtain ⟨-, hkept⟩ := List.mem_filter.mp hmem
    simp [hc] at hkept

theorem holdsText_stageEnv_iff {w : Surroundings σ} {s : Stage}
    (hc : usableCredential w.ctx = some c) (hshared : ¬ HoldsText w.env c)
    (hstage : ¬ HoldsText s.env c) :
    HoldsText (stageEnv w s) c ↔ s.secretVar.isSome = true := by
  constructor
  · rintro ⟨name, h⟩
    rcases mem_stageEnv h with ⟨v, c', hv, -, -⟩ | h | h
    · rw [hv]
      rfl
    · exact absurd ⟨name, h⟩ hstage
    · exact absurd ⟨name, h⟩ hshared
  · intro h
    obtain ⟨v, hv⟩ := Option.isSome_iff_exists.mp h
    refine ⟨v, ?_⟩
    simp only [stageEnv, hv, hc]
    exact Table.mem_put_self ..

/-! ### Attempts -/

/-- What is attempted during visits is attempted for one of the stages and with its variables. -/
theorem stageEnv_of_mem_visits {w : Surroundings σ} {secrets : Secrets} {index : Nat}
    {stages : List Stage} {s : σ} {a : Attempt}
    (h : a ∈ (visits w secrets index stages s).1.flatMap Visit.attempts) :
    a.stage ∈ stages ∧ a.call.env = stageEnv w a.stage := by
  induction stages generalizing index s with
  | nil => cases h
  | cons stage stages ih =>
    have hvisit (ha : a ∈ (visit w secrets index stage s).1.attempts) :
        a.stage = stage ∧ a.call.env = stageEnv w stage := by
      cases htasks : tasksOf w (w.executor.tree s) index stage with
      | error f =>
        rw [(visit_of_error secrets htasks).1] at ha
        cases ha
      | ok tasks =>
        rw [(visit_of_ok secrets htasks).1] at ha
        exact (stage_of_mem_tasksOf htasks (mem_of_mem_attempts ha)).2
    have hfirst (ha : a ∈ (visit w secrets index stage s).1.attempts) :
        a.stage ∈ stage :: stages ∧ a.call.env = stageEnv w a.stage := by
      obtain ⟨hstage, henv⟩ := hvisit ha
      rw [hstage]
      exact ⟨List.mem_cons_self .., henv⟩
    cases hstop : (visit w secrets index stage s).1.stop? with
    | some e =>
      rw [visits_cons_of_some stages hstop] at h
      exact hfirst (by simpa using h)
    | none =>
      rw [visits_cons_of_none stages hstop, List.flatMap_cons, List.mem_append] at h
      rcases h with h | h
      · exact hfirst h
      · exact (ih h).imp_left (List.mem_cons_of_mem _)

namespace Order

variable {o : Order Script.State} {script : Script} {settings : Settings} {document : Table}
  {spec : Spec} {ctx : Context}

/-- **Who is given the credential in the main phase**: where neither the job nor a stage has a copy
of it in its variables, the commands of exactly those entries that ask for it. A run that publishes
nothing makes no other calls. -/
theorem credential_of_main (ho : o.executor = script.executor)
    (hparse : Manifest.parse settings document = .ok spec) (hc : ctx.credential = some c)
    (hne : c ≠ "") (hjob : ¬ HoldsText spec.env c)
    (hstages : ∀ s ∈ spec.mainStages, ¬ HoldsText s.env c) (journal : Journal)
    (st : Script.State) :
    let secrets := (startJournal ctx journal).secrets
    let main := (o.mainVisits spec ctx secrets st).1.flatMap Visit.attempts
    let publish := (o.publishVisits spec ctx secrets st).1.flatMap Visit.attempts
    (o.run spec ctx journal st).state.calls =
        st.calls ++ (main ++ publish).map (fun a => a.call) ∧
      (spec.publishing ctx = [] → publish = []) ∧
      ∀ a ∈ main, ∃ entry ∈ Manifest.mainEntries document, Manifest.Describes entry a.stage ∧
        (HoldsText a.call.env c ↔ Manifest.asksForCredential entry = true) := by
  intro secrets main publish
  have hcalls := Script.calls_run ho spec ctx journal st
  rw [attempted, List.flatMap_append] at hcalls
  refine ⟨hcalls, fun hnone => ?_, fun a ha => ?_⟩
  · simp only [publish, publishVisits, hnone]
    split <;> rfl
  · obtain ⟨hstage, henv⟩ := stageEnv_of_mem_visits ha
    obtain ⟨entry, hentry, hdescribes⟩ := Manifest.exists_entry_of_mem_mainStages hparse hstage
    have hc' : usableCredential ctx = some c := usableCredential_eq hc hne
    refine ⟨entry, hentry, hdescribes, ?_⟩
    rw [henv, holdsText_stageEnv_iff hc' (not_holdsText_sharedEnv hc' hjob) (hstages _ hstage),
      Manifest.secretVar_of_describes hdescribes]
    cases Manifest.asksForCredential entry <;> simp

/-- A manifest with one entry in its script, which may ask for the credential. -/
def buildDocument (secret : Bool) : Table :=
  [("job", .table [("script", .list [.table
    [("name", .text "build"), ("run", .text "make"), ("role", .text "build"),
     ("secret", .bool secret)]])])]

/-- The specification of such a manifest. -/
def buildSpec (secret : Bool) : Spec :=
  { platform := .text "linux", toolchain := "stable", install := []
    script := [
      { name := "build", run := "make", role := .build
        work := .once (if secret then some "LINEAR_CI_TOKEN" else none) }] }

/-- A run for a branch that publishes nothing, with a credential. -/
def featureContext : Context :=
  { branch := "feature", isPullRequest := false, credential := some "tok", repoSlug := none }

/-- An entry that does not ask for the credential is not given it. -/
theorem credential_of_main_build :
    let o : Order Script.State := { executor := Script.executor {}, root := ["job"] }
    let secrets := (startJournal featureContext {}).secrets
    Manifest.parse {} (buildDocument false) = .ok (buildSpec false) ∧
      ∀ a ∈ (o.mainVisits (buildSpec false) featureContext secrets {}).1.flatMap Visit.attempts,
        ¬ HoldsText a.call.env "tok" := by
  intro o secrets
  have hparse : Manifest.parse {} (buildDocument false) = .ok (buildSpec false) := by cbv
  refine ⟨hparse, fun a ha hholds => ?_⟩
  have ho : o.executor = Script.executor {} := rfl
  have hc : featureContext.credential = some "tok" := rfl
  obtain ⟨-, -, hmain⟩ := credential_of_main ho hparse hc (by decide)
    (by simp [HoldsText, buildSpec]) (by simp [HoldsText, buildSpec, Spec.mainStages]) {} {}
  obtain ⟨entry, hentry, -, hiff⟩ := hmain a ha
  have hnone : ∀ entry ∈ Manifest.mainEntries (buildDocument false),
      Manifest.asksForCredential entry = false := by decide
  rw [hnone entry hentry] at hiff
  cases hiff.mp hholds

/-- **An entry of the script that asks for the credential is given it,** in a run that publishes
nothing. -/
theorem credential_given_to_build :
    let o : Order Script.State := { executor := Script.executor {}, root := ["job"] }
    Manifest.parse {} (buildDocument true) = .ok (buildSpec true) ∧
      (buildSpec true).env = [] ∧ (∀ s ∈ (buildSpec true).stages, s.env = []) ∧
      (buildSpec true).publishing featureContext = [] ∧
      (o.run (buildSpec true) featureContext {} {}).state.calls.map Call.env =
        [[("LINEAR_CI_TOKEN", .text "tok")]] := by
  intro o
  have hparse : Manifest.parse {} (buildDocument true) = .ok (buildSpec true) := by cbv
  have hsecrets : (startJournal featureContext {}).secrets = ["tok"] := by decide
  have hcalls : (o.publishVisits (buildSpec true) featureContext ["tok"] {}).2.calls.map Call.env =
      [[("LINEAR_CI_TOKEN", .text "tok")]] := by cbv
  refine ⟨hparse, rfl, by simp [buildSpec, Spec.stages, Spec.mainStages, Spec.publishSteps], rfl,
    ?_⟩
  rw [run_eq, hsecrets]
  exact hcalls

end Order

end BuildLine.Run
