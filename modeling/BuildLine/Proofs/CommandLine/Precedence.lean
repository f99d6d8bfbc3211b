import BuildLine.Proofs.CommandLine.Context

/-!
# Who has the say about the context of a run

Three sources are asked about a run, and each has its own way of saying nothing: a flag is not
given, a variable is not set or is empty, and a checkout cannot be read, is on no branch, or has no
remote. The first source that says something about a field has the say, and the ones behind it are
not heard. A flag that is given says something even if its text is empty.

What the checkout says is told by the answers of the two commands alone (`Answers.read?`). It is all
or nothing: if one of the answers is missing, or the remote cannot be rewritten, nothing is left of
the other one, and this is the only thing that the journal is told (`context_precedence`).
-/

namespace BuildLine

open Job Log Source Text

/-! ### What a checkout says -/

namespace Source.Checkout.Answers

/-- **Branch and remote of a checkout that can be read.** Both commands have to succeed, and the
remote has to be missing or one that can be rewritten. -/
def read? (a : Answers) : Option (String × String) :=
  match a.branch.map trimmed, a.remote.map trimmed with
  | some branch, some remote =>
    if remote = "" then some (branch, "")
    else (rewriteRemote remote).toOption.map fun locator => (branch, locator)
  | _, _ => none

/-- The branch that a checkout is on. -/
def branch? (a : Answers) : Option String :=
  (a.read?.map Prod.fst).filter (· ≠ "HEAD")

/-- The remote of a checkout, rewritten. -/
def remote? (a : Answers) : Option String :=
  (a.read?.map Prod.snd).filter (· ≠ "")

/-- The slug of the remote of a checkout. -/
def slug? (a : Answers) : Option String :=
  a.remote?.bind fun locator => (Remote.parse locator).toOption.map Remote.slug

variable {a : Answers}

/-- What can be read is the checkout. -/
theorem ofAnswers_of_read? {branch remote : String} (h : a.read? = some (branch, remote)) :
    ofAnswers a = .ok { branch := if branch = "HEAD" then "" else branch, remote } := by
  obtain ⟨_ | s, _ | b⟩ := a
  · cases h
  · cases h
  · cases h
  · simp only [read?, Option.map_some] at h
    by_cases hempty : trimmed s = ""
    · rw [if_pos hempty] at h
      cases h
      rw [ofAnswers_of_empty hempty]
      rfl
    · rw [if_neg hempty] at h
      cases hrewrite : rewriteRemote (trimmed s) with
      | error f =>
        rw [hrewrite] at h
        cases h
      | ok locator =>
        rw [hrewrite] at h
        cases h
        rw [ofAnswers_of_ok hempty hrewrite]
        rfl

/-- Where nothing can be read there is a complaint. -/
theorem exists_fault_of_read? (h : a.read? = none) : ∃ f, ofAnswers a = .error f := by
  obtain ⟨_ | s, branch⟩ := a
  · exact ⟨_, rfl⟩
  · by_cases hempty : trimmed s = ""
    · rw [ofAnswers_of_empty hempty]
      cases branch with
      | none => exact ⟨_, rfl⟩
      | some b => simp [read?, hempty] at h
    · cases hrewrite : rewriteRemote (trimmed s) with
      | error f => exact ⟨f, ofAnswers_of_error hempty hrewrite⟩
      | ok locator =>
        rw [ofAnswers_of_ok hempty hrewrite]
        cases branch with
        | none => exact ⟨_, rfl⟩
        | some b => simp [read?, hempty, hrewrite, Except.toOption] at h

end Source.Checkout.Answers

/-! ### What the variables say -/

namespace Job

/-- The text says that a build is not for a pull request, apart from the blanks around it and from
capital letters. -/
def SaysNo (s : String) : Prop :=
  String.ofList ((trim s.toList).map Char.toLower) ∈ ["", "false", "0", "no", "off"]

theorem parsePullRequest_iff (value : Option String) :
    parsePullRequest value = true ↔ ∃ s, value = some s ∧ ¬ SaysNo s := by
  cases value with
  | none => exact iff_of_false nofun nofun
  | some s => simp [parsePullRequest, falseWords, SaysNo]

variable {settings : Settings} {env : Environment}

namespace Context

/-- **What the context is without flags**, if there is one; `slug` is the one that the checkout is
asked for. -/
theorem ofEnvironment_eq_ok {checkout : Option Checkout} {ctx : Context}
    (h : ofEnvironment settings env checkout = .ok ctx) :
    ∃ slug, (filled? env settings.repoSlugVar = none → checkoutSlug checkout = .ok slug) ∧
      ctx = {
        branch := (filled? env settings.branchVar <|> checkout.map Checkout.branch).getD ""
        isPullRequest := parsePullRequest (env.get? settings.pullRequestVar)
        credential := filled? env settings.tokenVar
        repoSlug := filled? env settings.repoSlugVar <|> slug } := by
  unfold ofEnvironment at h
  cases hfilled : filled? env settings.repoSlugVar with
  | some s =>
    rw [hfilled] at h
    exact ⟨none, nofun, (Except.ok.inj h).symm⟩
  | none =>
    rw [hfilled] at h
    cases hslug : checkoutSlug checkout with
    | error f =>
      rw [hslug] at h
      cases h
    | ok slug =>
      rw [hslug] at h
      exact ⟨slug, fun _ => rfl, (Except.ok.inj h).symm⟩

variable {answers : Checkout.Answers}

/-- A checkout that can be read is asked for the slug of its remote. -/
theorem slug?_of_checkoutSlug {branch remote shown : String}
    (hread : answers.read? = some (branch, remote)) {slug : Option String}
    (h : checkoutSlug (some { branch := shown, remote }) = .ok slug) :
    answers.slug? = slug ∧ slug.isSome = answers.remote?.isSome := by
  simp only [checkoutSlug, Checkout.slug, String.isEmpty_iff] at h
  by_cases hempty : remote = ""
  · rw [if_pos hempty] at h
    cases h
    simp [Checkout.Answers.slug?, Checkout.Answers.remote?, hread, hempty]
  · rw [if_neg hempty] at h
    cases hparse : Remote.parse remote with
    | error f =>
      rw [hparse] at h
      cases h
    | ok r =>
      rw [hparse] at h
      cases h
      have hremote : answers.remote? = some remote := by
        simp [Checkout.Answers.remote?, hread, Option.filter, hempty]
      simp [Checkout.Answers.slug?, hremote, hparse, Except.toOption]

end Context

end Job

namespace CommandLine

/-- **Each field of a context has the first source that says something about it.** -/
structure Precedence (settings : Settings) (answers : Checkout.Answers) (env : Environment)
    (flags : Context.Flags) (ctx : Context) : Prop where
  /-- The branch is that of the flag, of the variable or of the checkout, in this order, and empty
  if none of them has one. -/
  branch : ctx.branch =
    (flags.branch <|> Context.filled? env settings.branchVar <|> answers.branch?).getD ""
  /-- So is the slug, which is missing if none of them has one. -/
  repoSlug : ctx.repoSlug =
    (flags.repoSlug <|> Context.filled? env settings.repoSlugVar <|> answers.slug?)
  /-- A remote that is asked for its slug has one. -/
  legible : Context.filled? env settings.repoSlugVar = none →
    answers.slug?.isSome = answers.remote?.isSome
  /-- The build is for a pull request if the flag says so, or if there is no flag and the variable
  does not say that it is not. -/
  isPullRequest : ctx.isPullRequest = true ↔ flags.pullRequest = some true ∨
    flags.pullRequest = none ∧ ∃ s, env.get? settings.pullRequestVar = some s ∧ ¬ SaysNo s
  /-- The credential is that of the variable, and no flag can change it. -/
  credential : ctx.credential = Context.filled? env settings.tokenVar

variable {settings : Settings} {answers : Checkout.Answers} {env : Environment}
  {flags : Context.Flags} {ctx : Context}

/-- Flags are put over a context in which the other sources have had their say. -/
theorem precedence_override {checkout : Option Checkout}
    (h : Context.ofEnvironment settings env checkout = .ok ctx)
    (hbranch : (checkout.map Checkout.branch).getD "" = answers.branch?.getD "")
    (hslug : ∀ slug, Context.checkoutSlug checkout = .ok slug →
      answers.slug? = slug ∧ slug.isSome = answers.remote?.isSome) :
    Precedence settings answers env flags (ctx.override flags) := by
  obtain ⟨slug, hfound, rfl⟩ := Context.ofEnvironment_eq_ok h
  refine ⟨?_, ?_, fun hfilled => ?_, ?_, rfl⟩
  · cases hflag : flags.branch with
    | some b => simp [Context.override, hflag]
    | none =>
      cases Context.filled? env settings.branchVar <;> simp [Context.override, hflag, hbranch]
  · cases hfilled : Context.filled? env settings.repoSlugVar with
    | some s => simp [Context.override]
    | none => simp [Context.override, (hslug slug (hfound hfilled)).1]
  · obtain ⟨hsame, hsome⟩ := hslug slug (hfound hfilled)
    rw [hsame, hsome]
  · cases hflag : flags.pullRequest with
    | some b => simp [Context.override, hflag]
    | none => simp [Context.override, hflag, parsePullRequest_iff]

/-- **The context of a run** has every field from the first source that says something about it, and
the journal is told one warning if the checkout cannot be read and nothing otherwise. -/
theorem context_precedence (journal : Journal)
    (h : (context settings answers env flags journal).1 = .ok ctx) :
    Precedence settings answers env flags ctx ∧
      ∃ told : List Event,
        (context settings answers env flags journal).2 = told.foldl Journal.record journal ∧
        (∀ e ∈ told, e.level = .warning ∧ e.text = "Cannot read git checkout") ∧
        told.length = if answers.read?.isSome then 0 else 1 := by
  cases hread : answers.read? with
  | none =>
    obtain ⟨f, hfault⟩ := Checkout.Answers.exists_fault_of_read? hread
    rw [context, Context.gather, hfault] at h ⊢
    obtain ⟨c, hc⟩ := ofEnvironment_none settings env
    rw [hc] at h
    cases h
    refine ⟨precedence_override hc ?_ ?_, [checkoutEvent f], rfl, by simp [checkoutEvent], rfl⟩
    · simp [Checkout.Answers.branch?, hread]
    · rintro slug ⟨⟩
      simp [Checkout.Answers.slug?, Checkout.Answers.remote?, hread]
  | some found =>
    obtain ⟨branch, remote⟩ := found
    have hcheckout := Checkout.Answers.ofAnswers_of_read? hread
    rw [context_of_ok settings env answers flags journal hcheckout] at h
    rw [context, Context.gather, hcheckout]
    refine ⟨?_, [], rfl, by simp, rfl⟩
    cases hc : Context.ofEnvironment settings env
        (some { branch := if branch = "HEAD" then "" else branch, remote }) with
    | error g =>
      rw [hc] at h
      cases h
    | ok c =>
      rw [hc] at h
      cases h
      refine precedence_override hc ?_ fun slug => Context.slug?_of_checkoutSlug hread
      by_cases hhead : branch = "HEAD" <;>
        simp [Checkout.Answers.branch?, hread, hhead, Option.filter]

/-- A variable that is empty leaves the branch to the checkout, and a missing flag does so with the
slug. -/
theorem context_precedence_checkout :
    let answers : Checkout.Answers :=
      { remote := some "https://tok@github.com/owner/project.git\n", branch := some "feature\n" }
    let env : Environment :=
      [("TRAVIS_BRANCH", ""), ("TRAVIS_PULL_REQUEST", " No "), ("GH_TOKEN", "tok")]
    let ctx : Context :=
      { branch := "feature", isPullRequest := false, credential := some "tok"
        repoSlug := some "owner/project" }
    (context {} answers env {} {}).1 = .ok ctx ∧ Precedence {} answers env {} ctx ∧
      (context {} answers env {} {}).2.screen = [] := by
  intro answers env ctx
  let r (written : String) : Remote :=
    { host := "github.com", owner := "owner", name := "project", written }
  have hremote : Checkout.trimmed "https://tok@github.com/owner/project.git\n" =
      "https://tok@github.com/owner/project.git" := by cbv
  have hbranch : Checkout.trimmed "feature\n" = "feature" := by cbv
  have hrewrite : Checkout.rewriteRemote "https://tok@github.com/owner/project.git" =
      .ok "https://github.com/owner/project.git" :=
    Checkout.rewriteRemote_of_parse_ok (r := r "https://tok@github.com/owner/project.git")
      (by decide) (by cbv)
  have hread : answers.read? = some ("feature", "https://github.com/owner/project.git") := by
    simp [Checkout.Answers.read?, answers, hremote, hbranch, hrewrite, Except.toOption]
  have hslug : Remote.parse "https://github.com/owner/project.git" =
      .ok (r "https://github.com/owner/project.git") := by cbv
  have hctx : (context {} answers env {} {}).1 = .ok ctx := by
    rw [context_of_ok {} env answers {} {} (Checkout.Answers.ofAnswers_of_read? hread)]
    have hvar : Context.filled? env "TRAVIS_REPO_SLUG" = none := by decide
    have hempty : Context.filled? env "TRAVIS_BRANCH" = none := by decide
    have htoken : Context.filled? env "GH_TOKEN" = some "tok" := by decide
    have hpull : parsePullRequest (env.get? "TRAVIS_PULL_REQUEST") = false := by decide
    have hplain : (r "https://github.com/owner/project.git").slug = "owner/project" := by decide
    simp [Context.ofEnvironment, hvar, hempty, htoken, hpull, Context.checkoutSlug, Checkout.slug,
      hslug, hplain, bind, Except.bind, pure, Except.pure, Except.map, Context.override, ctx]
  obtain ⟨hprecedence, told, hjournal, -, hlength⟩ := context_precedence {} hctx
  rw [hread] at hlength
  rw [hjournal, List.eq_nil_of_length_eq_zero hlength]
  exact ⟨hctx, hprecedence, rfl⟩

end CommandLine

end BuildLine
