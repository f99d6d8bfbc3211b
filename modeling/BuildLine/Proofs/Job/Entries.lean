import BuildLine.Proofs.Data.Lists
import BuildLine.Proofs.Job.Admission

/-!
# Entries and stages

A manifest has its stages in three lists, one of which lies a level deeper than the others. The
entries of all three in a row describe the stages of the job, except for the order in which these
run (`exists_declared`). So what is true of every accepted entry is true of every stage, and every
stage has an entry to blame.

The first thing to be read off is what is certain about patterns (`relative_of_mem_stages`).
-/

namespace BuildLine.Job.Manifest

open Data (Value Table)

/-- The entries of a document that describe the publish phase. -/
def publishEntries (document : Table) : List Value :=
  match document.get? "job" with
  | some (.table job) =>
    match Table.get? job "after_success" with
    | some (.table after) => listUnder after "steps"
    | _ => []
  | _ => []

/-- All entries of a document that describe stages. -/
def stageEntries (document : Table) : List Value :=
  mainEntries document ++ publishEntries document

/-- The steps of the installation are described by their entries, also those that are commands. -/
theorem describes_installStages {values : List Value} {steps : List InstallStep} (i : Nat)
    (h : List.Forall₂ (fun v step => installStep v = .ok step) values steps) :
    List.Forall₂ Describes values (Spec.installStages i steps) := by
  induction h generalizing i with
  | nil => exact .nil
  | cons hread _ ih =>
    rcases installStep_eq_ok hread with ⟨run, rfl, rfl⟩ | ⟨s, hs, rfl⟩
    · exact .cons (Or.inr ⟨run, i, rfl, rfl⟩) (ih (i + 1))
    · exact .cons (Or.inl ⟨_, _, hs⟩) (ih (i + 1))

theorem describes_of_read {place : String} {fallback : Option Role} {values : List Value}
    {stages : List Stage}
    (h : List.Forall₂ (fun v s => stage place fallback v = .ok s) values stages) :
    List.Forall₂ Describes values stages :=
  h.imp fun _ _ hread => Or.inl ⟨_, _, hread⟩

variable {settings : Settings} {document : Table} {spec : Spec}

/-- The steps of the publish phase are described by their entries. -/
theorem describes_steps {job : Table} {d : Draft}
    (hjob : document.get? "job" = some (.table job))
    (h : optional job "after_success" (publishBlock settings) = .ok d.afterSuccess) :
    List.Forall₂ Describes (publishEntries document) d.steps := by
  cases hblock : d.afterSuccess with
  | none =>
    rw [hblock] at h
    have hentries : publishEntries document = [] := by
      rcases eq_none_or_null_of_optional h with hv | hv
      · simp only [publishEntries, hjob, hv]
      · simp only [publishEntries, hjob, hv]
    rw [hentries, Draft.steps, hblock]
    exact .nil
  | some b =>
    rw [hblock] at h
    obtain ⟨v, hv, hread⟩ := optional_eq_ok h
    obtain ⟨after, rfl, -, hsteps⟩ := publishBlock_eq_ok hread
    have hentries : publishEntries document = listUnder after "steps" := by
      simp only [publishEntries, hjob, hv]
    rw [hentries, Draft.steps, hblock]
    exact describes_of_read hsteps

/-- The entries of the main phase describe its stages, except for their order. -/
theorem exists_declared_main (h : parse settings document = .ok spec) :
    ∃ declared, List.Forall₂ Describes (mainEntries document) declared ∧
      spec.mainStages.Perm declared := by
  obtain ⟨job, d, hjob, hd, hspec⟩ := parse_eq_ok h
  obtain ⟨hinstall, hscript, -⟩ := draft_eq_ok hd
  have hmakes := Spec.create_eq_ok_iff.mp hspec
  have hentries : mainEntries document = listUnder job "install" ++ listUnder job "script" := by
    rw [mainEntries, hjob]
  refine ⟨Spec.installStages 0 d.install ++ d.script, ?_,
    Spec.mainStages_perm hmakes.install hmakes.script⟩
  rw [hentries]
  exact List.rel_append (describes_installStages 0 hinstall) (describes_of_read hscript)

/-- The entries of the publish phase describe its steps, except for their order. -/
theorem exists_declared_publish (h : parse settings document = .ok spec) :
    ∃ declared, List.Forall₂ Describes (publishEntries document) declared ∧
      spec.publishSteps.Perm declared := by
  obtain ⟨job, d, hjob, hd, hspec⟩ := parse_eq_ok h
  obtain ⟨-, -, hblock, -⟩ := draft_eq_ok hd
  exact ⟨d.steps, describes_steps hjob hblock,
    Spec.publishSteps_perm (Spec.create_eq_ok_iff.mp hspec).block⟩

/-- **The entries of an accepted manifest describe its stages**, except for their order. -/
theorem exists_declared (h : parse settings document = .ok spec) :
    ∃ declared, List.Forall₂ Describes (stageEntries document) declared ∧
      spec.stages.Perm declared := by
  obtain ⟨main, hmain, hmain'⟩ := exists_declared_main h
  obtain ⟨publish, hpublish, hpublish'⟩ := exists_declared_publish h
  exact ⟨main ++ publish, List.rel_append hmain hpublish, hmain'.append hpublish'⟩

theorem exists_entry_of_mem_mainStages (h : parse settings document = .ok spec) {s : Stage}
    (hs : s ∈ spec.mainStages) : ∃ entry ∈ mainEntries document, Describes entry s := by
  obtain ⟨declared, hdescribes, hperm⟩ := exists_declared_main h
  exact exists_mem_of_forall₂ hdescribes (hperm.mem_iff.mp hs)

theorem exists_entry_of_mem_stages (h : parse settings document = .ok spec) {s : Stage}
    (hs : s ∈ spec.stages) : ∃ entry ∈ stageEntries document, Describes entry s := by
  obtain ⟨declared, hdescribes, hperm⟩ := exists_declared h
  exact exists_mem_of_forall₂ hdescribes (hperm.mem_iff.mp hs)

theorem exists_stage_of_mem_stageEntries (h : parse settings document = .ok spec) {entry : Value}
    (hentry : entry ∈ stageEntries document) : ∃ s ∈ spec.stages, Describes entry s := by
  obtain ⟨declared, hdescribes, hperm⟩ := exists_declared h
  obtain ⟨s, hs, hentry⟩ := exists_mem_of_forall₂ hdescribes.flip hentry
  exact ⟨s, hperm.mem_iff.mpr hs, hentry⟩

/-- **What is certain about the patterns of an accepted manifest.** -/
theorem relative_of_mem_stages (h : parse settings document = .ok spec) {s : Stage}
    (hs : s ∈ spec.stages) : s.Relative := by
  obtain ⟨entry, -, ⟨place, role, hread⟩ | ⟨run, i, -, rfl⟩⟩ := exists_entry_of_mem_stages h hs
  · obtain ⟨t, -, ht⟩ := stage_eq_ok hread
    exact ht.relative
  · exact nofun

end BuildLine.Job.Manifest
