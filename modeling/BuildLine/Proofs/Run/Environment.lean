import BuildLine.Proofs.Run.Texts
import BuildLine.Proofs.Run.Transcribed

/-!
# What a command finds under a name

The variables of a command are made in several places: those of the process lose the credential, the
job and the stage put theirs over them, and the credential comes last. What a command finds under a
name can be told by going the other way, from the layer that was put last to the first one
(`Order.given?`). The variables of the process are left out by name and by value, so this takes it
that the process has every name once, as it has in every environment that was read from pairs
(`Environment.distinct_ofPairs`).

Nothing but the variables that all commands share and the stage itself is looked at on this way. So
it does not matter which other stages there are, what they say, or what ran before.
-/

namespace BuildLine

namespace Data.Table

variable {t upper lower : Table}

/-- What the last pair of a name gives it. -/
def last? (t : Table) (k : String) : Option Value :=
  Table.get? t.reverse k

theorem mem_keys_put {key k : String} {v : Value} (h : k ∈ (put key v t).keys) :
    k = key ∨ k ∈ t.keys := by
  obtain ⟨e, he, rfl⟩ := List.mem_map.mp h
  exact (mem_put he).imp (congrArg Prod.fst) (List.mem_map_of_mem)

theorem nodup_keys_put (h : t.keys.Nodup) (key : String) (v : Value) :
    (put key v t).keys.Nodup := by
  induction t with
  | nil => exact List.nodup_singleton _
  | cons e t ih =>
    obtain ⟨he, ht⟩ := List.nodup_cons.mp h
    rw [put]
    split_ifs with hkey
    · exact List.nodup_cons.mpr ⟨hkey ▸ he, ht⟩
    · refine List.nodup_cons.mpr ⟨fun hmem => ?_, ih ht⟩
      exact (mem_keys_put hmem).elim hkey he

theorem nodup_keys_putAll (h : lower.keys.Nodup) (upper : Table) :
    (Run.putAll upper lower).keys.Nodup := by
  induction upper generalizing lower with
  | nil => exact h
  | cons e upper ih => exact ih (nodup_keys_put h e.1 e.2)

end Data.Table

namespace Environment

/-- No two variables have one name. -/
def Distinct (env : Environment) : Prop :=
  (env.map Prod.fst).Nodup

instance (env : Environment) : Decidable env.Distinct :=
  inferInstanceAs (Decidable (List.Nodup _))

variable {env : Environment}

/-! ### Names that occur once -/

theorem distinct_iff_nodup_keys :
    env.Distinct ↔ (Data.Table.keys (env.map fun e => (e.1, .text e.2))).Nodup := by
  simp [Distinct, Data.Table.keys, Function.comp_def]

theorem map_put (name text : String) (env : Environment) :
    (put name text env).map (fun e => (e.1, Data.Value.text e.2)) =
      Data.Table.put name (.text text) (env.map fun e => (e.1, .text e.2)) := by
  induction env with
  | nil => rfl
  | cons e env ih =>
    simp only [put, List.map_cons, Data.Table.put]
    split_ifs
    · rfl
    · rw [List.map_cons, ih]

theorem Distinct.put (h : env.Distinct) (name text : String) : Distinct (put name text env) := by
  rw [distinct_iff_nodup_keys, map_put]
  exact Data.Table.nodup_keys_put (distinct_iff_nodup_keys.mp h) name (.text text)

/-- An environment that was read from pairs has every name once. -/
theorem distinct_ofPairs (ps : List (String × String)) : (ofPairs ps).Distinct := by
  have hfold (env : Environment) (h : env.Distinct) :
      Distinct (ps.foldl (fun env p => put p.1 p.2 env) env) := by
    induction ps generalizing env with
    | nil => exact h
    | cons p ps ih => exact ih _ (h.put p.1 p.2)
  exact hfold [] List.nodup_nil

/-! ### Looking a name up -/

theorem get?_cons (e : String × String) (env : Environment) (k : String) :
    get? (e :: env) k = if k = e.1 then some e.2 else get? env k :=
  lookup_cons_eq_ite e env k

theorem get?_eq_none {k : String} (h : k ∉ env.map Prod.fst) : get? env k = none := by
  rw [get?, List.lookup_eq_none_iff]
  intro e he
  rw [bne_iff_ne]
  rintro rfl
  exact h (List.mem_map_of_mem he)

/-- Where every name has one text, a name whose text is left out is left without any. -/
theorem get?_filter (h : env.Distinct) (p : String × String → Bool) (k : String) :
    get? (env.filter p) k = (get? env k).filter fun text => p (k, text) := by
  induction env with
  | nil => rfl
  | cons e env ih =>
    obtain ⟨he, henv⟩ := List.nodup_cons.mp h
    rw [List.filter_cons, get?_cons e env]
    by_cases hk : k = e.1
    · subst hk
      -- what is left out here is not found further on either
      cases hp : p e with
      | true => simp [get?_cons, Option.filter_some, hp]
      | false => simp [ih henv, get?_eq_none he, Option.filter_some, hp]
    · cases hp : p e with
      | true => simp [get?_cons, hk, ih henv]
      | false => simp [hk, ih henv]

end Environment

namespace Run

open Data (Value Table)
open Files Job Log

/-! ### Layers -/

section Layers

variable {o : Order σ} {spec : Spec} {ctx : Context}

/-- What is left of the variables of the process under a name: nothing under the name of the
credential, and nothing that is the credential. -/
theorem get?_withoutCredential (h : o.environment.Distinct) (ctx : Context) (k : String) :
    (o.withoutCredential ctx).get? k =
      if k = o.settings.tokenVar then none
      else (o.environment.get? k).filter fun text => usableCredential ctx ≠ some text := by
  rw [Order.withoutCredential, Environment.get?_filter h]
  split_ifs with hk <;> simp [hk]

/-- The variables that all commands share have every name once. -/
theorem nodup_keys_sharedEnv (h : o.environment.Distinct) (spec : Spec) (ctx : Context) :
    (o.sharedEnv spec ctx).keys.Nodup := by
  refine Table.nodup_keys_putAll (Environment.distinct_iff_nodup_keys.mp ?_) spec.env
  exact h.sublist (List.filter_sublist.map _)

theorem nodup_keys_stageEnv {w : Surroundings σ} (h : w.env.keys.Nodup) (s : Stage) :
    (stageEnv w s).keys.Nodup := by
  have hstage := Table.nodup_keys_putAll h s.env
  unfold stageEnv
  split
  · exact Table.nodup_keys_put hstage _ _
  · exact hstage

end Layers

namespace Order

/-- **What a command of a stage finds under a name**, told by the first rule that says something. -/
def given? (o : Order σ) (spec : Spec) (ctx : Context) (s : Stage) (k : String) :
    Option Value :=
  -- the credential, where the stage asks for it under this name and there is one
  if s.secretVar = some k ∧ (usableCredential ctx).isSome then (usableCredential ctx).map .text
  else match s.env.last? k, spec.env.last? k with
    -- what the stage says last, then what the job says last
    | some v, _ => some v
    | none, some v => some v
    | none, none =>
      -- what the process says, unless it is the credential by its name or by its text
      if k = o.settings.tokenVar then none
      else match o.environment.get? k with
        | some text => if usableCredential ctx = some text then none else some (.text text)
        | none => none

variable {o : Order σ} {spec : Spec} {ctx : Context}

theorem get?_stageEnv_surroundings (h : o.environment.Distinct) (s : Stage) (k : String) :
    (stageEnv (o.surroundings spec ctx) s).get? k = o.given? spec ctx s k := by
  have hshared : (o.surroundings spec ctx).env.get? k = _ := get?_sharedEnv o spec ctx k
  rw [get?_stageEnv, hshared, get?_withoutCredential h, given?, Table.last?, Table.last?]
  refine ite_congr rfl (fun _ => rfl) fun _ => ?_
  cases Table.get? s.env.reverse k with
  | some v => rfl
  | none =>
    cases Table.get? spec.env.reverse k with
    | some v => rfl
    | none =>
      by_cases htoken : k = o.settings.tokenVar
      · simp [htoken]
      · cases o.environment.get? k with
        | none => simp [htoken]
        | some text => by_cases hcopy : usableCredential ctx = some text <;> simp [htoken, hcopy]

/-- What is attempted for a stage is given variables that depend on nothing but the variables of the
job and the stage itself. -/
theorem variables_congr {spec' : Spec} {secrets secrets' : Secrets} {state state' : σ}
    {a a' : Attempt} (ha : a ∈ o.attempted spec ctx secrets state)
    (ha' : a' ∈ o.attempted spec' ctx secrets' state') (hjob : spec'.env = spec.env)
    (hown : a'.stage.env = a.stage.env) (hsecret : a'.stage.secretVar = a.stage.secretVar) :
    a'.call.env = a.call.env := by
  rw [(stageEnv_of_mem_attempted ha).2, (stageEnv_of_mem_attempted ha').2]
  simp only [stageEnv, surroundings, sharedEnv, hjob, hown, hsecret]

/-- **The variables of every command**: the executor is given the commands that were attempted, each
for a stage of the job and with a table that has every name once and tells what the rules tell. What
other stages say does not matter: the commands of a stage are given the same variables in every run
of a job with the same variables. -/
theorem variables_of_commands (hprocess : o.environment.Distinct) (spec : Spec) (ctx : Context)
    (journal : Journal) (state : σ) :
    let attempted := o.attempted spec ctx (startJournal ctx journal).secrets state
    (o.transcribed.run spec ctx journal ([], state)).state =
        (attempted.map Attempt.exchange, (o.run spec ctx journal state).state) ∧
      ∀ a ∈ attempted,
        a.stage ∈ spec.stages ∧ a.call.env.keys.Nodup ∧
        (∀ k, a.call.env.get? k = o.given? spec ctx a.stage k) ∧
        ∀ (spec' : Spec) (journal' : Journal) (state' : σ), spec'.env = spec.env →
          ∀ a' ∈ o.attempted spec' ctx (startJournal ctx journal').secrets state',
            a'.stage.env = a.stage.env → a'.stage.secretVar = a.stage.secretVar →
            a'.call.env = a.call.env := by
  intro attempted
  refine ⟨(o.run_transcribed spec ctx [] state journal).2.2, fun a ha => ?_⟩
  obtain ⟨hstage, henv⟩ := stageEnv_of_mem_attempted ha
  refine ⟨hstage, ?_, fun k => ?_, fun spec' journal' state' hjob a' ha' hown hsecret => ?_⟩
  · rw [henv]
    exact nodup_keys_stageEnv (nodup_keys_sharedEnv hprocess spec ctx) a.stage
  · rw [henv]
    exact get?_stageEnv_surroundings hprocess a.stage k
  · exact variables_congr ha ha' hjob hown hsecret

/-- A stage that asks for the credential, and a stage after it that has a variable of the job for
itself; the process has a copy of the credential. -/
theorem variables_of_commands_login :
    let o : Order Script.State :=
      { executor := Script.executor {}, root := ["job"]
        environment := [("GH_TOKEN", "tok"), ("COPY", "tok"), ("PATH", "/bin"), ("MODE", "c")] }
    let login : Stage :=
      { name := "login", run := "login", role := .build, work := .once (some "SECRET") }
    let build : Stage :=
      { name := "build", run := "make", role := .build
        env := [("MODE", .text "a"), ("MODE", .text "b")] }
    let spec : Spec :=
      { platform := .text "linux", toolchain := "stable", install := []
        script := [login, build], env := [("MODE", .text "j"), ("COPY", .text "no")] }
    let attempted := o.attempted spec featureContext (startJournal featureContext {}).secrets {}
    let found (a : Attempt) := ["SECRET", "MODE", "COPY", "GH_TOKEN", "PATH"].map a.call.env.get?
    o.environment.Distinct ∧
      attempted.map found =
        [[some (.text "tok"), some (.text "j"), some (.text "no"), none, some (.text "/bin")],
          [none, some (.text "b"), some (.text "no"), none, some (.text "/bin")]] := by
  intro o login build spec attempted found
  have hprocess : o.environment.Distinct := by decide
  obtain ⟨-, hattempted⟩ := variables_of_commands hprocess spec featureContext {} {}
  let told (s : Stage) :=
    ["SECRET", "MODE", "COPY", "GH_TOKEN", "PATH"].map (o.given? spec featureContext s)
  have hfound (a : Attempt) (ha : a ∈ attempted) : found a = told a.stage :=
    List.map_congr_left fun k _ => (hattempted a ha).2.2.1 k
  have hstages : (o.attempted spec featureContext (startJournal featureContext {}).secrets {}).map
      (fun a => a.stage) = [login, build] := by cbv
  refine ⟨hprocess, ?_⟩
  calc attempted.map found = (attempted.map (fun a => a.stage)).map told := by
        rw [List.map_congr_left hfound, List.map_map]
        rfl
    _ = [told login, told build] := by rw [hstages]; rfl
    _ = _ := by cbv

end Order

end Run

end BuildLine
