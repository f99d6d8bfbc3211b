import BuildLine.Proofs.Source.Userinfo

/-!
# User information is dropped

A remote is read behind the last at sign in front of its host. The place for user information ends
with an at sign, so whatever is filled in there is passed over, colons and further at signs
included, and what is found of the remote is found of its slot alone (`toOption_hostAndPath_fill`).
The user information has no bearing on whether the remote is accepted either: it has no bracket and
no slash, and every character of it stays what it is when an authority is normalised.

A slot of the short form must not be taken for a locator. The user information cannot bring this
about, but what stands behind it can.
-/

namespace BuildLine.Source

open Text

namespace Slot

variable {slot : Slot} {u v : List Char}

/-- The short form is not taken for a locator. -/
def Distinct : Slot → Prop
  | locator .. => True
  | short host path => ¬ "://".toList <:+: host ++ ':' :: path

instance (slot : Slot) : Decidable slot.Distinct :=
  match slot with
  | locator .. => inferInstanceAs (Decidable True)
  | short host path =>
    decidable_of_iff (¬ occurs "://".toList (host ++ ':' :: path) = true) (not_congr occurs_iff)

/-- What is left of the short form without the blanks behind it is the short form still. -/
theorem Distinct.trimmed (h : slot.Distinct) : slot.trimmed.Distinct := by
  cases slot with
  | locator => trivial
  | short host path =>
    have hprefix : trimRight isBlank path <+: path := by
      rw [trimRight, ← List.reverse_suffix, List.reverse_reverse]
      exact List.dropWhile_suffix _
    refine mt (fun hmarks => hmarks.trans ?_) h
    obtain ⟨t, ht⟩ := hprefix
    exact ⟨[], t, by rw [List.nil_append, List.append_assoc, List.cons_append, ht]⟩

/-! ### What is found of a filled slot -/

/-- User information does not make a locator of what stands behind it. -/
theorem infix_user_iff (hu : IsUserinfo u) (t : List Char) :
    "://".toList <:+: u ++ '@' :: t ↔ "://".toList <:+: t := by
  induction u with
  | nil =>
    rw [List.nil_append, List.infix_cons_iff]
    exact or_iff_right (by rintro ⟨r, ⟨⟩⟩)
  | cons c u ih =>
    have hu' : IsUserinfo u := fun d hd => hu d (List.mem_cons_of_mem _ hd)
    rw [List.cons_append, List.infix_cons_iff, ih hu']
    refine or_iff_right ?_
    -- a slash would have to follow the colon
    rintro ⟨r, hr⟩
    obtain ⟨-, hslashes⟩ := List.cons.inj hr
    exact head?_user hu' t (hslashes ▸ rfl)

/-- User information cannot be mistaken for anything else. -/
theorem toOption_checkAuthority_user (hu : IsUserinfo u) (a : List Char) :
    (Url.checkAuthority (u ++ '@' :: a)).toOption = (Url.checkAuthority a).toOption := by
  have hbracket {c : Char} (hc : ¬ IsUserChar c) : c ∈ u ++ '@' :: a ↔ c ∈ a := by
    have hcu : c ∉ u := fun hmem => hc (hu c hmem)
    have hat : c ≠ '@' := fun h => hc (h ▸ by decide)
    simp [hcu, hat]
  have hlow : ∀ n ∈ Url.hiddenSeparators, 0x7f ≤ n := by decide
  have hvisible (c : Char) (hc : c ∈ u) : c.toNat ∉ Url.hiddenSeparators := fun hmem =>
    absurd (hlow _ hmem) (Nat.not_le.mpr (hu c hc).1.2)
  have hok : Url.checkAuthority (u ++ '@' :: a) = .ok () ↔ Url.checkAuthority a = .ok () := by
    rw [Url.checkAuthority_eq_ok_iff, Url.checkAuthority_eq_ok_iff, hbracket (by decide),
      hbracket (by decide), List.forall_mem_append, List.forall_mem_cons]
    exact and_congr_right fun _ => ⟨fun h => h.2.2, fun h => ⟨hvisible, by decide, h⟩⟩
  cases huser : Url.checkAuthority (u ++ '@' :: a) with
  | ok => rw [hok.mp huser]
  | error f =>
    cases halone : Url.checkAuthority a with
    | ok => cases huser.symm.trans (hok.mpr halone)
    | error g => rfl

/-- **What is found of a slot**, host and path, whatever it is filled with. -/
def found? : Slot → Option (List Char × List Char)
  | locator scheme _ rest =>
    (Url.checkAuthority (Url.authorityOf rest)).toOption.map fun _ =>
      Remote.ofUrl {
        scheme := scheme.map Char.toLower
        authority := Url.authorityOf rest
        path := if Url.withParameters.contains (String.ofList (scheme.map Char.toLower)) then
            Url.withoutParameters (Url.pathOf rest)
          else Url.pathOf rest }
  | short host path => some (Remote.cutColon (afterLast '@' (host ++ ':' :: path)))

theorem ofUrl_user (scheme u a path : List Char) :
    Remote.ofUrl { scheme, authority := u ++ '@' :: a, path } =
      Remote.ofUrl { scheme, authority := a, path } := by
  simp only [Remote.ofUrl, afterLast_append_cons]

/-- **What is found of a filled slot** is found of the slot. -/
theorem toOption_hostAndPath_fill (hslot : slot.Distinct) (hu : IsUserinfo u) :
    (Remote.hostAndPath (String.ofList (slot.fill u))).toOption = slot.found? := by
  cases slot with
  | locator scheme hscheme rest =>
    have hlist : (String.ofList ((locator scheme hscheme rest).fill u)).toList =
        scheme ++ "://".toList ++ (u ++ '@' :: rest) :=
      String.toList_ofList.trans (fill_locator hscheme u)
    rw [Remote.hostAndPath_of_scheme hscheme hlist, authorityOf_user hu, pathOf_user hu, found?,
      ← toOption_checkAuthority_user hu]
    cases Url.checkAuthority (u ++ '@' :: Url.authorityOf rest) with
    | error f => rfl
    | ok => exact congrArg some (ofUrl_user ..)
  | short host path =>
    have hlist : (String.ofList ((short host path).fill u)).toList =
        u ++ '@' :: (host ++ ':' :: path) := String.toList_ofList
    rw [Remote.hostAndPath_of_short, hlist, afterLast_append_cons]
    · rfl
    · rw [hlist]
      exact mt (infix_user_iff hu _).mp hslot
    · simp [hlist]
    · simp [hlist]

/-! ### The rewritten remote -/

/-- **The plain locator of a slot**, if the slot is accepted. -/
def locator? (slot : Slot) : Option String :=
  if ".git".toList <:+ slot.back then
    slot.found?.bind fun found =>
      if 2 ≤ (Remote.segments found.2).length then
        some (Remote.ofParts "" found.1 (Remote.segments found.2)).locator
      else none
  else none

/-- **A filled slot is rewritten** to the plain locator of the slot, or it is not rewritten. -/
theorem toOption_rewriteRemote_fill (hslot : slot.Distinct) (hu : IsUserinfo u) :
    (Checkout.rewriteRemote (String.ofList (slot.fill u))).toOption = slot.locator? := by
  have hfound := toOption_hostAndPath_fill hslot hu
  have hform : Checkout.Rewritable (String.ofList (slot.fill u)).toList ↔
      ".git".toList <:+ slot.back := by
    rw [String.toList_ofList, rewritable_fill_iff]
  rw [locator?, ← hfound]
  by_cases hback : ".git".toList <:+ slot.back
  · rw [if_pos hback, Checkout.rewriteRemote_of_rewritable (hform.mpr hback)]
    cases hread : Remote.hostAndPath (String.ofList (slot.fill u)) with
    | error f =>
      rw [Remote.parse_of_error hread]
      rfl
    | ok found =>
      obtain ⟨host, path⟩ := found
      rw [Remote.parse_of_ok hread, Except.toOption, Option.bind_some]
      by_cases htwo : 2 ≤ (Remote.segments path).length
      · rw [if_pos htwo, if_pos htwo]
        rfl
      · rw [if_neg htwo, if_neg htwo]
        rfl
  · rw [if_neg hback, Checkout.rewriteRemote_of_not_rewritable (mt hform.mp hback)]
    rfl

/-- The checkout is made of the plain locator and the branch. -/
theorem toOption_ofAnswers_fill (hslot : slot.Distinct) (hu : IsUserinfo u)
    (branch : Option String) :
    (Checkout.ofAnswers { remote := some (String.ofList (slot.fill u)), branch }).toOption =
      slot.trimmed.locator?.bind fun remote =>
        (Checkout.answer Checkout.askBranch branch).toOption.map fun b =>
          { branch := if b = "HEAD" then "" else b, remote } := by
  rw [← toOption_rewriteRemote_fill hslot.trimmed hu]
  cases hrewrite : Checkout.rewriteRemote (String.ofList (slot.trimmed.fill u)) with
  | error f =>
    rw [Checkout.ofAnswers_of_error (trimmed_fill_ne hu) (by rwa [trimmed_fill hu])]
    rfl
  | ok remote =>
    rw [Checkout.ofAnswers_of_ok (trimmed_fill_ne hu) (by rwa [trimmed_fill hu])]
    cases Checkout.answer Checkout.askBranch branch <;> rfl

/-- **User information is dropped.** Two remotes that differ in nothing else are rewritten to the
same locator or are both refused, and the checkouts that are made of them are the same. -/
theorem userinfo_dropped (hslot : slot.Distinct) (hu : IsUserinfo u) (hv : IsUserinfo v)
    (branch : Option String) :
    (Checkout.rewriteRemote (String.ofList (slot.fill u))).toOption =
        (Checkout.rewriteRemote (String.ofList (slot.fill v))).toOption ∧
      (Checkout.ofAnswers { remote := some (String.ofList (slot.fill u)), branch }).toOption =
        (Checkout.ofAnswers { remote := some (String.ofList (slot.fill v)), branch }).toOption := by
  constructor
  · rw [toOption_rewriteRemote_fill hslot hu, toOption_rewriteRemote_fill hslot hv]
  · rw [toOption_ofAnswers_fill hslot hu, toOption_ofAnswers_fill hslot hv]

/-- A token with a colon and an at sign in it, and a host with a port. -/
theorem userinfo_dropped_token :
    let slot : Slot :=
      .locator "https".toList Url.isScheme_https "gitea.local:3000/owner/project.git".toList
    let rewritten (user : String) :=
      (Checkout.rewriteRemote (String.ofList (slot.fill user.toList))).toOption
    slot.Distinct ∧ IsUserinfo "x-access-token:p@ss".toList ∧ IsUserinfo "git".toList ∧
      rewritten "x-access-token:p@ss" = rewritten "git" ∧
      rewritten "git" = some "https://gitea.local:3000/owner/project.git" := by
  intro slot rewritten
  have hslot : slot.Distinct := trivial
  have htoken : IsUserinfo "x-access-token:p@ss".toList := by decide
  have hname : IsUserinfo "git".toList := by decide
  let r : Remote :=
    { host := "gitea.local:3000", owner := "owner", name := "project"
      written := "https://git@gitea.local:3000/owner/project.git" }
  have hwritten : String.ofList (slot.fill "git".toList) = r.written := by cbv
  have hlocator : r.locator = "https://gitea.local:3000/owner/project.git" := by cbv
  have hrewrite : Checkout.rewriteRemote r.written = .ok r.locator :=
    Checkout.rewriteRemote_of_parse_ok (by decide) (by cbv)
  refine ⟨hslot, htoken, hname, (userinfo_dropped hslot htoken hname none).1, ?_⟩
  simp only [rewritten, hwritten, hrewrite, hlocator, Except.toOption]

end Slot

end BuildLine.Source
