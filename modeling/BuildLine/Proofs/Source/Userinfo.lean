import BuildLine.Proofs.Data.Lists
import BuildLine.Proofs.Source.Remote

/-!
# Complaints about remotes with user information

A remote may have user information written in front of its host: a name, or a token that opens the
repository. A *slot* is a remote without it, together with the place where it goes, and two fillings
of one slot differ in nothing but the user information.

A complaint about a remote that cannot be read repeats the remote, or the authority of its locator,
and with it the user information. Only a bracket without its partner is complained of without saying
where it stands. Hence the complaint about a filled slot either shows all of the user information
(`repeated_of_repeats`) or does not depend on it (`rewriteRemote_fill_loneBracket`).
-/

namespace BuildLine.Source

open Text

/-! ### Slots -/

/-- A character of user information. -/
def IsUserChar (c : Char) : Prop :=
  IsVisible c ∧ c ∉ ['/', '?', '#', '[', ']']

instance (c : Char) : Decidable (IsUserChar c) :=
  inferInstanceAs (Decidable (_ ∧ _))

/-- User information. -/
def IsUserinfo (u : List Char) : Prop :=
  ∀ c ∈ u, IsUserChar c

instance (u : List Char) : Decidable (IsUserinfo u) :=
  List.decidableBAll _ u

/-- **A remote with a place for user information** in front of an at sign. -/
inductive Slot where
  /-- A locator; `rest` is what follows the at sign. -/
  | locator (scheme : List Char) (h : Url.IsScheme scheme) (rest : List Char)
  /-- The short form. -/
  | short (host path : List Char)

namespace Slot

/-- What stands in front of the user information. -/
def front : Slot → List Char
  | locator scheme _ _ => scheme ++ "://".toList
  | short .. => []

/-- What stands behind the at sign. -/
def back : Slot → List Char
  | locator _ _ rest => rest
  | short host path => host ++ ':' :: path

/-- **The remote with user information.** -/
def fill (slot : Slot) (user : List Char) : List Char :=
  slot.front ++ user ++ '@' :: slot.back

/-- The slot without the blanks behind it. -/
def trimmed : Slot → Slot
  | locator scheme h rest => locator scheme h (trimRight isBlank rest)
  | short host path => short host (trimRight isBlank path)

/-- The authority that the remote is read with, if it is read as a locator. -/
def authority : Slot → List Char → List Char
  | locator _ _ rest, user => user ++ '@' :: Url.authorityOf rest
  | short .., _ => []

variable {slot : Slot} {u v : List Char}

theorem fill_locator {scheme rest : List Char} (h : Url.IsScheme scheme) (u : List Char) :
    (locator scheme h rest).fill u = scheme ++ "://".toList ++ (u ++ '@' :: rest) := by
  rw [fill, front, back, List.append_assoc]

theorem user_eq_cons (hu : IsUserinfo u) (t : List Char) :
    ∃ c s, u ++ '@' :: t = c :: s ∧ IsUserChar c := by
  cases u with
  | nil => exact ⟨'@', t, rfl, by decide⟩
  | cons c u => exact ⟨c, _, rfl, hu c (List.mem_cons_self ..)⟩

theorem fill_eq_cons (slot : Slot) (hu : IsUserinfo u) :
    ∃ c s, slot.fill u = c :: s ∧ IsVisible c := by
  cases slot with
  | locator scheme h rest =>
    obtain ⟨c, cs, hscheme, -⟩ := h.head
    refine ⟨c, cs ++ "://".toList ++ u ++ '@' :: rest, by simp [fill, front, back, hscheme], ?_⟩
    exact Url.isVisible_of_isSchemeChar (h.all c (by simp [hscheme]))
  | short host path =>
    obtain ⟨c, s, hcons, hc⟩ := user_eq_cons hu (host ++ ':' :: path)
    exact ⟨c, s, hcons, hc.1⟩

/-- Nothing of the user information is trimmed. -/
theorem trim_fill (hu : IsUserinfo u) : trim (slot.fill u) = slot.trimmed.fill u := by
  have hleft : trimLeft isBlank (slot.fill u) = slot.fill u := by
    obtain ⟨c, s, hfill, hc⟩ := fill_eq_cons slot hu
    rw [hfill, trimLeft_cons_of_visible hc]
  rw [trim, hleft]
  cases slot with
  | locator scheme h rest => exact trimRight_append_cons (by decide)
  | short host path =>
    have hcolon : (short host path).fill u = (u ++ '@' :: host) ++ ':' :: path := by
      simp [fill, front, back]
    rw [hcolon, trimRight_append_cons (by decide)]
    simp [fill, front, back, trimmed]

theorem trimmed_fill (hu : IsUserinfo u) :
    Checkout.trimmed (String.ofList (slot.fill u)) = String.ofList (slot.trimmed.fill u) := by
  rw [Checkout.trimmed, String.toList_ofList, trim_fill hu]

theorem trimmed_fill_ne (hu : IsUserinfo u) :
    Checkout.trimmed (String.ofList (slot.fill u)) ≠ "" := by
  rw [trimmed_fill hu]
  obtain ⟨c, s, hfill, -⟩ := fill_eq_cons slot.trimmed hu
  rw [hfill]
  intro h
  cases String.ofList_injective h

/-! ### Reading a filled slot -/

/-- Whether a remote can be rewritten does not depend on its user information. -/
theorem rewritable_fill_iff : Checkout.Rewritable (slot.fill u) ↔ ".git".toList <:+ slot.back := by
  rw [Checkout.Rewritable, fill, suffix_append_cons_iff (by decide)]
  exact and_iff_left (Or.inl (by simp))

theorem withoutBreaks_user (hu : IsUserinfo u) (t : List Char) :
    Url.withoutBreaks (u ++ '@' :: t) = u ++ '@' :: Url.withoutBreaks t := by
  rw [Url.withoutBreaks_append, Url.withoutBreaks_of_visible fun c hc => (hu c hc).1]
  rfl

theorem not_ends_user (hu : IsUserinfo u) :
    ∀ c ∈ u, c ≠ '/' ∧ c ≠ '?' ∧ c ≠ '#' := by
  intro c hc
  have := (hu c hc).2
  simp_all

theorem legible_user (hu : IsUserinfo u) (t : List Char) :
    Url.legible (u ++ '@' :: t) = u ++ '@' :: Url.legible t := by
  rw [Url.legible, withoutBreaks_user hu, List.takeWhile_append_of_pos,
    List.takeWhile_cons_of_pos (by decide)]
  · rfl
  · exact fun c hc => by simp [(not_ends_user hu c hc).2]

/-- The user information belongs to the authority. -/
theorem authorityOf_user (hu : IsUserinfo u) (t : List Char) :
    Url.authorityOf (u ++ '@' :: t) = u ++ '@' :: Url.authorityOf t := by
  rw [Url.authorityOf, legible_user hu, List.takeWhile_append_of_pos,
    List.takeWhile_cons_of_pos (by decide)]
  · rfl
  · exact fun c hc => bne_iff_ne.mpr (not_ends_user hu c hc).1

theorem pathOf_user (hu : IsUserinfo u) (t : List Char) :
    Url.pathOf (u ++ '@' :: t) = Url.pathOf t := by
  rw [Url.pathOf, legible_user hu, List.dropWhile_append_of_pos,
    List.dropWhile_cons_of_pos (by decide)]
  · rfl
  · exact fun c hc => bne_iff_ne.mpr (not_ends_user hu c hc).1

theorem head?_user (hu : IsUserinfo u) (t : List Char) :
    (u ++ '@' :: t).head? ≠ some '/' := by
  obtain ⟨c, s, hcons, hc⟩ := user_eq_cons hu t
  rw [hcons]
  rintro ⟨⟩
  exact absurd hc (by decide)

/-- What is left of the user information behind a colon is user information still. -/
theorem head?_cutScheme_user (hu : IsUserinfo u) (t : List Char) :
    (Url.cutScheme (u ++ '@' :: t)).2.head? ≠ some '/' := by
  obtain hcut | ⟨scheme, rest, hsplit, hscheme, hcut⟩ := Url.cutScheme_cases (u ++ '@' :: t)
  · rw [hcut]
    exact head?_user hu t
  · rw [hcut]
    -- the colon stands in the user information, since a scheme has no at sign
    obtain ⟨x, rfl, hx⟩ | ⟨x, rfl, hx⟩ := List.append_eq_append_iff.mp hsplit
    · cases x with
      | nil => cases hx
      | cons d x =>
        obtain ⟨rfl, -⟩ := List.cons.inj hx
        exact absurd (hscheme '@' (by simp)) (by decide)
    · cases x with
      | nil => cases hx
      | cons d x =>
        obtain ⟨rfl, rfl⟩ := List.cons.inj hx
        exact head?_user (fun c hc => hu c (by simp [hc])) t

/-- The short form has no authority, even if it is read as a locator. -/
theorem split_short (hu : IsUserinfo u) (t : List Char) :
    ∃ url, Url.split (u ++ '@' :: t) = .ok url := by
  have hcleaned : Url.cleaned (u ++ '@' :: t) = u ++ '@' :: Url.withoutBreaks t := by
    obtain ⟨c, s, hcons, hc⟩ := user_eq_cons hu t
    rw [hcons, Url.cleaned_of_visible hc.1, ← hcons, withoutBreaks_user hu]
  rw [Url.split, hcleaned]
  simp only [Url.cutAuthority_of_head? (head?_cutScheme_user hu _)]
  exact ⟨_, rfl⟩

/-- **What can be wrong with a filled slot that is read as a locator** is wrong with the
authority. -/
theorem split_fill_eq_error (hu : IsUserinfo u) {f : Url.Fault}
    (h : Url.split (slot.fill u) = .error f) :
    Url.checkAuthority (slot.authority u) = .error f := by
  cases slot with
  | locator scheme hscheme rest =>
    rw [fill_locator, Url.split_locator hscheme, authorityOf_user hu] at h
    rw [authority]
    cases hcheck : Url.checkAuthority (u ++ '@' :: Url.authorityOf rest) with
    | error g =>
      rw [hcheck] at h
      rw [Except.error.inj h]
    | ok =>
      rw [hcheck] at h
      cases h
  | short host path =>
    obtain ⟨url, hurl⟩ := split_short hu (host ++ ':' :: path)
    cases hurl.symm.trans h

/-- Other characters than those of user information do not come from it. -/
theorem mem_authority_iff {c : Char} (hc : ¬ IsUserChar c) (hu : IsUserinfo u)
    (hv : IsUserinfo v) : c ∈ slot.authority u ↔ c ∈ slot.authority v := by
  have hcu : c ∉ u := fun h => hc (hu c h)
  have hcv : c ∉ v := fun h => hc (hv c h)
  cases slot <;> simp [authority, hcu, hcv]

end Slot

/-! ### Complaints -/

namespace Checkout.Fault

/-- What is told in front of the part that is repeated, and behind it. -/
def wording : Fault → String × String
  | .commandFailed _ => ("Command '", "' returned non-zero exit status 128.")
  | .notRewritable _ => ("Only https & ssh remotes are supported. (Remote: ", ")")
  | .remote (.unsupported _) => ("Unsupported remote: ", "")
  | .remote (.noPath _) => ("Remote has no owner/repo path: ", "")
  | .remote (.url .loneBracket) => ("Invalid IPv6 URL", "")
  | .remote (.url (.hiddenSeparator _)) =>
    ("netloc '", "' contains invalid characters under NFKC normalization")

/-- The part that is repeated. -/
def repeated : Fault → String
  | .commandFailed c => c
  | .notRewritable r => r
  | .remote (.unsupported r) => r
  | .remote (.noPath r) => r
  | .remote (.url .loneBracket) => ""
  | .remote (.url (.hiddenSeparator a)) => String.ofList a

/-- The part that is repeated was written by the user. -/
def repeats : Fault → Bool
  | .commandFailed _ => false
  | .notRewritable _ => true
  | .remote (.unsupported _) => true
  | .remote (.noPath _) => true
  | .remote (.url .loneBracket) => false
  | .remote (.url (.hiddenSeparator _)) => true

/-- The letter that the wording begins with. No two of them are the same. -/
def initial : Fault → Char
  | .commandFailed _ => 'C'
  | .notRewritable _ => 'O'
  | .remote (.unsupported _) => 'U'
  | .remote (.noPath _) => 'R'
  | .remote (.url .loneBracket) => 'I'
  | .remote (.url (.hiddenSeparator _)) => 'n'

theorem message_eq (f : Fault) : f.message = f.wording.1 ++ f.repeated ++ f.wording.2 := by
  rcases f with _ | _ | _ | _ | _ | _
  case commandFailed | notRewritable | remote.url.hiddenSeparator => rfl
  all_goals exact String.append_empty.symm

theorem toList_message (f : Fault) : ∃ s, f.message.toList = f.initial :: s := by
  rw [message_eq, String.toList_append, String.toList_append]
  rcases f with _ | _ | _ | _ | _ | _ <;>
    simp only [wording, initial, String.reduceToList, List.cons_append, List.cons.injEq, true_and,
      exists_eq']

theorem isVisible_initial (f : Fault) : IsVisible f.initial := by
  rcases f with _ | _ | _ | _ | _ | _ <;> rw [initial] <;> decide

end Checkout.Fault

namespace Slot

variable {slot : Slot} {u v : List Char} {f g : Checkout.Fault}

/-- What stands around the user information in the part that is repeated. -/
def frame (slot : Slot) : Checkout.Fault → List Char × List Char
  | .remote (.url _) => ([], '@' :: Url.authorityOf slot.back)
  | _ => (slot.front, '@' :: slot.back)

/-- Complaints that begin alike are alike apart from what they repeat. -/
theorem alike_of_initial_eq (slot : Slot) (h : f.initial = g.initial) :
    f.wording = g.wording ∧ f.repeats = g.repeats ∧ slot.frame f = slot.frame g := by
  rcases f with _ | _ | _ | _ | _ | _ <;> rcases g with _ | _ | _ | _ | _ | _ <;> cases h <;>
    exact ⟨rfl, rfl, rfl⟩

theorem rewriteRemote_fill_eq_error (hu : IsUserinfo u)
    (h : Checkout.rewriteRemote (String.ofList (slot.fill u)) = .error f) :
    f = .notRewritable (String.ofList (slot.fill u)) ∨
      f = .remote (.unsupported (String.ofList (slot.fill u))) ∨
      f = .remote (.noPath (String.ofList (slot.fill u))) ∨
      ∃ g, f = .remote (.url g) ∧ Url.checkAuthority (slot.authority u) = .error g := by
  obtain ⟨-, rfl⟩ | ⟨-, g, rfl, hparse⟩ := Checkout.rewriteRemote_eq_error h
  · exact Or.inl rfl
  · obtain rfl | rfl | ⟨g, rfl, -, hsplit⟩ := Remote.parse_eq_error hparse
    · exact Or.inr (Or.inl rfl)
    · exact Or.inr (Or.inr (Or.inl rfl))
    · rw [String.toList_ofList] at hsplit
      exact Or.inr (Or.inr (Or.inr ⟨g, rfl, split_fill_eq_error hu hsplit⟩))

/-- **A complaint that repeats what was written** shows all of the user information. -/
theorem repeated_of_repeats (hu : IsUserinfo u)
    (h : Checkout.rewriteRemote (String.ofList (slot.fill u)) = .error f) (hf : f.repeats = true) :
    f.repeated = String.ofList ((slot.frame f).1 ++ u ++ (slot.frame f).2) := by
  obtain rfl | rfl | rfl | ⟨g, rfl, hcheck⟩ := rewriteRemote_fill_eq_error hu h
  · rfl
  · rfl
  · rfl
  · cases g with
    | loneBracket => cases hf
    | hiddenSeparator a =>
      obtain rfl := Url.eq_of_checkAuthority_eq_hiddenSeparator hcheck
      cases slot with
      | locator scheme hscheme rest => rfl
      | short host path => cases hcheck

/-- **The complaint about a bracket without its partner** is the same for all user information. -/
theorem rewriteRemote_fill_loneBracket (hu : IsUserinfo u) (hv : IsUserinfo v)
    (h : Checkout.rewriteRemote (String.ofList (slot.fill u)) =
      .error (.remote (.url .loneBracket))) :
    Checkout.rewriteRemote (String.ofList (slot.fill v)) =
      .error (.remote (.url .loneBracket)) := by
  have hform : Checkout.Rewritable (slot.fill v) := by
    obtain ⟨-, hf⟩ | ⟨hform, -⟩ := Checkout.rewriteRemote_eq_error h
    · cases hf
    · rw [String.toList_ofList] at hform
      exact rewritable_fill_iff.mpr (rewritable_fill_iff.mp hform)
  have hcheck : Url.checkAuthority (slot.authority v) = .error .loneBracket := by
    obtain hf | hf | hf | ⟨g, hf, hcheck⟩ := rewriteRemote_fill_eq_error hu h
    · cases hf
    · cases hf
    · cases hf
    · cases hf
      rw [Url.checkAuthority_eq_loneBracket_iff] at hcheck ⊢
      rwa [mem_authority_iff (by decide) hv hu, mem_authority_iff (by decide) hv hu]
  cases slot with
  | locator scheme hscheme rest =>
    refine Checkout.rewriteRemote_of_parse_error (by rwa [String.toList_ofList])
      (Remote.parse_of_split_error ?_ ?_)
    · rw [occurs_iff, fill_locator]
      exact ⟨scheme, v ++ '@' :: rest, String.toList_ofList.symm⟩
    · rw [fill_locator, String.toList_ofList, Url.split_locator hscheme, authorityOf_user hv]
      rw [authority] at hcheck
      rw [hcheck]
      rfl
  | short host path => cases hcheck

end Slot

end BuildLine.Source
