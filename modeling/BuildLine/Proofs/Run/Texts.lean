import Mathlib
import BuildLine.Proofs.Run.Credential
import BuildLine.Proofs.Run.Readiness

/-!
# Variables that are no texts

A command should find nothing but texts among its variables. Those of the process are texts, what a
stage says is written as a text when its entry is read, and so is the credential. What the job says
is kept as it was written, whatever kind of value it is. So a command finds something else exactly
where the job says something else and the stage does not put a text in its place (`textual_iff`);
`number_given_to_build` is a command that finds a number.

Since a value that is no text can only come from the job, it stands under its name alone, and then
it makes no difference whether a table is asked for what it holds or for what it has under a name
(`Single`).
-/

namespace BuildLine

namespace Data

/-- The value is a text. -/
def Value.IsText (v : Value) : Prop :=
  ∃ s, v = .text s

namespace Table

variable {t upper lower : Table} {key k : String} {u v : Value}

/-- Behind another value of its name there is never a value that is no text. -/
def Single (t : Table) : Prop :=
  t.Pairwise fun a b => a.1 = b.1 → b.2.IsText

theorem Single.put (h : t.Single) (key : String) (v : Value) : Single (put key v t) := by
  induction t with
  | nil => exact List.pairwise_singleton _ _
  | cons e t ih =>
    obtain ⟨he, ht⟩ := List.pairwise_cons.mp h
    rw [Table.put]
    split_ifs with hkey
    · exact List.pairwise_cons.mpr ⟨fun b hb hname => he b hb (hkey.trans hname), ht⟩
    · refine List.pairwise_cons.mpr ⟨fun b hb hname => ?_, ih ht⟩
      -- what was put stands under another name
      rcases mem_put hb with rfl | hb
      · exact absurd hname hkey
      · exact he b hb hname

theorem Single.putAll (h : Single lower) (upper : Table) : Single (Run.putAll upper lower) := by
  induction upper generalizing lower with
  | nil => exact h
  | cons e upper ih => exact ih (h.put e.1 e.2)

theorem single_of_texts (h : ∀ e ∈ t, e.2.IsText) : Single t :=
  List.pairwise_of_forall_mem_list fun _ _ b hb _ => h b hb

/-- **What stands in the table stands under its name**, if it is no text. -/
theorem Single.mem_iff (h : t.Single) (hv : ¬ v.IsText) : (k, v) ∈ t ↔ t.get? k = some v := by
  refine ⟨fun hmem => ?_, mem_of_get?⟩
  induction t with
  | nil => cases hmem
  | cons e t ih =>
    obtain ⟨he, ht⟩ := List.pairwise_cons.mp h
    rw [get?_cons]
    rcases List.mem_cons.mp hmem with rfl | hmem
    · exact if_pos rfl
    · rw [if_neg fun hk => hv (he _ hmem hk.symm)]
      exact ih ht hmem

end Table

end Data

namespace Run

open Data (Value Table)
open Files Job Log

/-- All variables are texts. -/
def Textual (env : Table) : Prop :=
  ∀ e ∈ env, e.2.IsText

/-- The stage gives its commands something of its own under a name. -/
def Replaces (s : Stage) (ctx : Context) (name : String) : Prop :=
  name ∈ s.env.keys ∨ s.secretVar = some name ∧ (usableCredential ctx).isSome

/-! ### Layers -/

section Layers

variable {o : Order σ} {w : Surroundings σ} {s : Stage} {spec : Spec} {ctx : Context}
  {name : String} {v : Value}

theorem texts_of_process (env : Environment) :
    ∀ e ∈ env.map (fun e => (e.1, Value.text e.2)), e.2.IsText := by
  intro e he
  obtain ⟨p, -, rfl⟩ := List.mem_map.mp he
  exact ⟨_, rfl⟩

theorem single_sharedEnv (o : Order σ) (spec : Spec) (ctx : Context) :
    Table.Single (o.sharedEnv spec ctx) :=
  (Table.single_of_texts (texts_of_process _)).putAll _

/-- **What all commands share is no text only where the job says so.** -/
theorem mem_sharedEnv_iff (hv : ¬ v.IsText) :
    (name, v) ∈ o.sharedEnv spec ctx ↔ (name, v) ∈ spec.vars := by
  have hempty : Table.Single [] := List.Pairwise.nil
  have hvars : Table.Single spec.vars := hempty.putAll spec.env
  have hget : spec.vars.get? name = (Table.get? spec.env.reverse name).or none :=
    get?_putAll spec.env [] name
  rw [(single_sharedEnv o spec ctx).mem_iff hv, hvars.mem_iff hv, hget, get?_sharedEnv]
  cases hjob : Table.get? spec.env.reverse name with
  | some u => rfl
  | none =>
    -- what the process says is a text
    refine iff_of_false (fun h => ?_) nofun
    obtain ⟨text, -, rfl⟩ := Option.map_eq_some_iff.mp h
    exact hv ⟨text, rfl⟩

/-- **A stage puts texts in the place of some variables** and leaves the others as they are. -/
theorem mem_stageEnv_iff (hshared : Table.Single w.env) (hstage : Textual s.env)
    (hv : ¬ v.IsText) :
    (name, v) ∈ stageEnv w s ↔ (name, v) ∈ w.env ∧ ¬ Replaces s w.ctx name := by
  have hsingle : Table.Single (stageEnv w s) := by
    unfold stageEnv
    split
    · exact (hshared.putAll s.env).put ..
    · exact hshared.putAll s.env
  have hkeys : Table.get? s.env.reverse name = none ↔ name ∉ s.env.keys := by
    rw [Table.get?_eq_none_iff, Table.keys, List.map_reverse, List.mem_reverse]
    rfl
  rw [hsingle.mem_iff hv, hshared.mem_iff hv, get?_stageEnv, Replaces, not_or, ← hkeys]
  split_ifs with hsecret
  · -- the credential is a text
    refine iff_of_false (fun h => ?_) fun h => h.2.2 hsecret
    obtain ⟨c, -, rfl⟩ := Option.map_eq_some_iff.mp h
    exact hv ⟨c, rfl⟩
  · cases hown : Table.get? s.env.reverse name with
    | none => exact ⟨fun h => ⟨h, rfl, hsecret⟩, fun h => h.1⟩
    | some u =>
      refine iff_of_false (fun h => hv ?_) fun h => absurd h.2.1 (Option.some_ne_none u)
      have hu : u.IsText := hstage _ (List.mem_reverse.mp (Table.mem_of_get? hown))
      exact Option.some.inj h ▸ hu

end Layers

end Run

namespace Job.Manifest

open Data (Value Table)

/-! ### What a manifest says -/

/-- The table under a key; there is an empty one if there is none. -/
def tableUnder (t : Table) (key : String) : Table :=
  match t.get? key with
  | some (.table entries) => entries
  | _ => []

/-- The variables of the job. -/
def jobVars (document : Table) : Table :=
  match document.get? "job" with
  | some (.table job) => tableUnder job "env"
  | _ => []

/-- The variables of an entry. -/
def entryVars : Value → Table
  | .table t => tableUnder t "env"
  | _ => []

theorem field_entries_eq_ok {what key : String} {t entries : Table}
    (h : field t key [] (Manifest.entries what) = .ok entries) : entries = tableUnder t key := by
  unfold field at h
  unfold tableUnder
  split at h
  · rename_i hnone
    rw [hnone]
    exact (Except.ok.inj h).symm
  · rename_i v hsome
    rw [hsome]
    cases v with
    | table es => exact (Except.ok.inj h).symm
    | _ => cases h

/-- **What the job says is kept as it is.** -/
theorem env_of_parse {settings : Settings} {document : Table} {spec : Spec}
    (h : parse settings document = .ok spec) : spec.env = jobVars document := by
  obtain ⟨job, d, hjob, hd, hspec⟩ := parse_eq_ok h
  obtain ⟨-, -, -, henv⟩ := draft_eq_ok hd
  rw [(Spec.create_eq_ok_iff.mp hspec).env, field_entries_eq_ok henv, jobVars, hjob]

/-- **What a stage says is written as a text.** -/
theorem env_of_describes {entry : Value} {s : Stage} (h : Describes entry s) :
    s.env = (entryVars entry).map fun e => (e.1, .text e.2.display) := by
  rcases h with ⟨place, role, h⟩ | ⟨run, i, rfl, rfl⟩
  · obtain ⟨t, rfl, ht⟩ := stage_eq_ok h
    obtain ⟨env, henv, hs⟩ := ht.env
    rw [hs, field_entries_eq_ok henv, entryVars]
  · rfl

end Job.Manifest

namespace Run.Order

open Data (Value Table)
open Files Job Log

/-! ### Runs -/

/-- What a run attempts is attempted for one of its stages and with the variables of this stage. -/
theorem stageEnv_of_mem_attempted {o : Order σ} {spec : Spec} {ctx : Context} {secrets : Secrets}
    {state : σ} {a : Attempt} (h : a ∈ o.attempted spec ctx secrets state) :
    a.stage ∈ spec.stages ∧ a.call.env = stageEnv (o.surroundings spec ctx) a.stage := by
  rw [attempted, List.flatMap_append, List.mem_append] at h
  rcases h with h | h
  · exact (stageEnv_of_mem_visits h).imp_left (List.mem_append_left _)
  · cases hend : endingOf (o.mainVisits spec ctx secrets state).1 with
    | stopped index stage e =>
      rw [o.publishVisits_of_stopped spec ctx secrets state hend] at h
      cases h
    | finished =>
      rw [o.publishVisits_of_finished spec ctx secrets state hend] at h
      exact (stageEnv_of_mem_visits h).imp_left fun hs =>
        List.mem_append_right _ (publishing_subset hs)

variable {o : Order Script.State} {script : Script} {settings : Settings} {document : Table}
  {spec : Spec}

/-- **When the variables of a command are texts**: if each value of the job that is no text has
something of the stage in its place. What the stages say may be anything. -/
theorem textual_iff (ho : o.executor = script.executor)
    (hparse : Manifest.parse settings document = .ok spec) (ctx : Context) (journal : Journal)
    (st : Script.State) :
    let attempted := o.attempted spec ctx (startJournal ctx journal).secrets st
    (o.run spec ctx journal st).state.calls = st.calls ++ attempted.map (fun a => a.call) ∧
      spec.env = Manifest.jobVars document ∧
      ∀ a ∈ attempted,
        (∃ entry, Manifest.Describes entry a.stage ∧
          a.stage.env = (Manifest.entryVars entry).map fun e => (e.1, .text e.2.display)) ∧
        (Textual a.call.env ↔ ∀ e ∈ spec.vars, e.2.IsText ∨ Replaces a.stage ctx e.1) := by
  intro attempted
  refine ⟨Script.calls_run ho spec ctx journal st, Manifest.env_of_parse hparse, fun a ha => ?_⟩
  obtain ⟨hstage, henv⟩ := stageEnv_of_mem_attempted ha
  obtain ⟨entry, -, hdescribes⟩ := Manifest.exists_entry_of_mem_stages hparse hstage
  have hvars := Manifest.env_of_describes hdescribes
  refine ⟨⟨entry, hdescribes, hvars⟩, ?_⟩
  have htexts : Textual a.stage.env := by
    intro e he
    rw [hvars] at he
    obtain ⟨p, -, rfl⟩ := List.mem_map.mp he
    exact ⟨_, rfl⟩
  -- what is no text comes from the job and has passed the stage
  have hmem {name : String} {v : Value} (hv : ¬ v.IsText) :
      (name, v) ∈ a.call.env ↔ (name, v) ∈ spec.vars ∧ ¬ Replaces a.stage ctx name := by
    rw [henv, mem_stageEnv_iff (single_sharedEnv o spec ctx) htexts hv]
    exact and_congr_left' (mem_sharedEnv_iff hv)
  constructor
  · intro htextual e he
    by_contra hnot
    obtain ⟨hv, hkept⟩ := not_or.mp hnot
    exact hv (htextual e ((hmem hv).mpr ⟨he, hkept⟩))
  · intro hjob e he
    by_contra hv
    obtain ⟨he, hkept⟩ := (hmem hv).mp he
    exact (hjob e he).elim hv hkept

/-- A manifest whose job has a number among its variables; its one stage has variables of its
own. -/
def jobsDocument (own : Table) : Table :=
  [("job", .table [
    ("env", .table [("JOBS", .number (.whole 4))]),
    ("script", .list [.table
      [("name", .text "build"), ("run", .text "make"), ("role", .text "build"),
       ("env", .table own)]])])]

/-- The specification of such a manifest, where the variables of the stage are given as texts. -/
def jobsSpec (own : Table) : Spec :=
  { platform := .text "linux", toolchain := "stable", install := []
    script := [{ name := "build", run := "make", role := .build, env := own }]
    env := [("JOBS", .number (.whole 4))] }

/-- A stage that puts something in the place of the number, even if that is no text itself. -/
theorem textual_iff_replaced :
    let o : Order Script.State := { executor := Script.executor {}, root := ["job"] }
    let spec := jobsSpec [("JOBS", .text "True")]
    Manifest.parse {} (jobsDocument [("JOBS", .bool true)]) = .ok spec ∧
      ∀ a ∈ o.attempted spec featureContext (startJournal featureContext {}).secrets {},
        Textual a.call.env := by
  intro o spec
  have hparse : Manifest.parse {} (jobsDocument [("JOBS", .bool true)]) = .ok spec := by cbv
  have ho : o.executor = Script.executor {} := rfl
  obtain ⟨-, -, hattempted⟩ := textual_iff ho hparse featureContext {} {}
  refine ⟨hparse, fun a ha => (hattempted a ha).2.mpr fun e he => Or.inr (Or.inl ?_)⟩
  have hstage : a.stage = _ := List.mem_singleton.mp (stageEnv_of_mem_attempted ha).1
  rw [List.mem_singleton.mp he, hstage]
  exact List.mem_singleton.mpr rfl

/-- **A number of the job is handed to a command as a number.** -/
theorem number_given_to_build :
    let o : Order Script.State := { executor := Script.executor {}, root := ["job"] }
    Manifest.parse {} (jobsDocument []) = .ok (jobsSpec []) ∧
      (o.run (jobsSpec []) featureContext {} {}).state.calls.map Call.env =
        [[("JOBS", .number (.whole 4))]] ∧
      ¬ Textual [("JOBS", .number (.whole 4))] := by
  intro o
  have hparse : Manifest.parse {} (jobsDocument []) = .ok (jobsSpec []) := by cbv
  have hsecrets : (startJournal featureContext {}).secrets = ["tok"] := by decide
  have hcalls : (o.publishVisits (jobsSpec []) featureContext ["tok"] {}).2.calls.map Call.env =
      [[("JOBS", .number (.whole 4))]] := by cbv
  refine ⟨hparse, ?_, fun h => ?_⟩
  · rw [run_eq, hsecrets]
    exact hcalls
  · obtain ⟨text, htext⟩ := h _ (List.mem_singleton.mpr rfl)
    cases htext

end Run.Order

end BuildLine
