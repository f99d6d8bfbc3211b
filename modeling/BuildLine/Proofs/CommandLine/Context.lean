import BuildLine.CommandLine.Surroundings
import BuildLine.Proofs.Data.Chain
import BuildLine.Proofs.Source.Legible

/-!
# Runs that get to know their context

A checkout that cannot be read does not stop a run: the journal is told, and the run gets by without
it. But a checkout that could be read may stop one. Where no variable holds the slug it is read
from the plain locator of the checkout's remote, and nobody is prepared for that to go wrong.

So a run gets to know its context exactly if the slug is given to it or the remote that the answers
name, if they name one, is legible (`context_isOk_iff`). The flag for the slug is of no help there,
since it is looked at too late.
-/

namespace BuildLine.CommandLine

open Job Log Source

variable (settings : Settings) (env : Environment)

/-- Without a checkout there is always a context. -/
theorem ofEnvironment_none : ∃ ctx, Context.ofEnvironment settings env none = .ok ctx := by
  rw [Context.ofEnvironment]
  cases Context.filled? env settings.repoSlugVar <;> exact ⟨_, rfl⟩

/-- What is wrong with the remote of a checkout stops a run that needs its slug. -/
theorem ofEnvironment_of_parse_error {c : Checkout} {f : Remote.Fault}
    (hslug : Context.filled? env settings.repoSlugVar = none) (hne : c.remote ≠ "")
    (h : Remote.parse c.remote = .error f) :
    Context.ofEnvironment settings env (some c) = .error f := by
  simp [Context.ofEnvironment, hslug, Context.checkoutSlug, Checkout.slug, hne, h, bind,
    Except.bind, Except.map]

/-- A checkout with a remote is asked for its slug if no variable holds one. -/
theorem ofEnvironment_some_isOk_iff (c : Checkout) :
    (∃ ctx, Context.ofEnvironment settings env (some c) = .ok ctx) ↔
      (Context.filled? env settings.repoSlugVar = none → c.remote ≠ "" →
        ∃ q, Remote.parse c.remote = .ok q) := by
  cases hslug : Context.filled? env settings.repoSlugVar with
  | some slug =>
    rw [Context.ofEnvironment, hslug]
    exact iff_of_true ⟨_, rfl⟩ nofun
  | none =>
    by_cases hempty : c.remote = ""
    · rw [Context.ofEnvironment, hslug]
      simp [Context.checkoutSlug, hempty, bind, Except.bind, pure, Except.pure]
    · cases hparse : Remote.parse c.remote with
      | error f =>
        rw [ofEnvironment_of_parse_error settings env hslug hempty hparse]
        simp [hempty]
      | ok r =>
        rw [Context.ofEnvironment, hslug]
        simp [Context.checkoutSlug, Checkout.slug, hempty, hparse, bind, Except.bind, Except.map,
          pure, Except.pure]

variable (answers : Checkout.Answers) (flags : Context.Flags) (journal : Journal)

/-- The context of a run with a checkout. -/
theorem context_of_ok {c : Checkout} (h : Checkout.ofAnswers answers = .ok c) :
    (context settings answers env flags journal).1 =
      (Context.ofEnvironment settings env (some c)).map (Context.override flags) := by
  rw [context, Context.gather, h]

/-- Neither the flags nor the journal make a difference for whether there is a context. -/
theorem context_isOk_iff_of_ofAnswers :
    (∃ ctx, (context settings answers env flags journal).1 = .ok ctx) ↔
      ∀ c, Checkout.ofAnswers answers = .ok c →
        ∃ ctx, Context.ofEnvironment settings env (some c) = .ok ctx := by
  cases hread : Checkout.ofAnswers answers with
  | error f =>
    rw [context, Context.gather, hread]
    exact iff_of_true ((map_isOk_iff _).mpr (ofEnvironment_none settings env)) nofun
  | ok c =>
    rw [context_of_ok settings env answers flags journal hread, map_isOk_iff]
    refine ⟨fun h c' hc' => ?_, fun h => h c rfl⟩
    rwa [← Except.ok.inj hc']

/-- **A run gets to know its context** exactly if the slug is given by a variable or the remote that
the answers name is legible, as every plain remote is. -/
theorem context_isOk_iff :
    ((∃ ctx, (context settings answers env flags journal).1 = .ok ctx) ↔
      (Context.filled? env settings.repoSlugVar = none →
        ∀ r, answers.Names r → r.Legible)) ∧
      ∀ r, answers.Names r → r.Plain → r.Legible := by
  constructor
  · rw [context_isOk_iff_of_ofAnswers]
    constructor
    · intro h hslug r hnames
      obtain ⟨c, hc, hremote⟩ := hnames.ofAnswers
      have hparse := (ofEnvironment_some_isOk_iff settings env c).mp (h c hc) hslug
      rw [hremote] at hparse
      exact r.parse_locator_isOk_iff.mp (hparse r.locator_ne_empty)
    · intro h c hc
      rw [ofEnvironment_some_isOk_iff]
      intro hslug hne
      -- a remote that is not missing is the locator of the one that the answers name
      obtain hempty | ⟨r, hnames, hremote⟩ := Checkout.names_of_ofAnswers hc
      · exact absurd hempty hne
      · rw [hremote]
        exact r.parse_locator_isOk_iff.mpr (h hslug r hnames)
  · rintro r ⟨s, branch, -, -, hparse⟩ hplain
    exact hplain.legible hparse

/-- **The host that is left of an address in brackets** keeps one of them, and the run stops. -/
theorem context_of_brackets :
    (context {} { remote := some "ssh://git@[::1]/owner/project.git", branch := some "main" } []
      {} {}).1 = .error (.url .loneBracket) := by
  let r : Remote :=
    { host := "[", owner := ":1]/owner", name := "project"
      written := "ssh://git@[::1]/owner/project.git" }
  have htrimmed : Checkout.trimmed r.written = r.written := by cbv
  have hrewrite : Checkout.rewriteRemote (Checkout.trimmed r.written) = .ok r.locator := by
    rw [htrimmed]
    exact Checkout.rewriteRemote_of_parse_ok (by decide) (by cbv)
  have hbranch : Checkout.answer Checkout.askBranch (some "main") = .ok "main" := by cbv
  have hread : Checkout.ofAnswers { remote := some r.written, branch := some "main" } =
      .ok { branch := "main", remote := r.locator } := by
    rw [Checkout.ofAnswers_of_ok (by rw [htrimmed]; decide) hrewrite, hbranch]
    rfl
  have hlocator : r.locator = "https://[/:1]/owner/project.git" := by cbv
  have hagain : Remote.parse r.locator = .error (.url .loneBracket) := by
    rw [hlocator]
    cbv
  have hstop : Context.ofEnvironment {} [] (some { branch := "main", remote := r.locator }) =
      .error (.url .loneBracket) :=
    ofEnvironment_of_parse_error {} [] rfl r.locator_ne_empty hagain
  rw [context_of_ok {} [] _ {} {} hread, hstop]
  rfl

end BuildLine.CommandLine
