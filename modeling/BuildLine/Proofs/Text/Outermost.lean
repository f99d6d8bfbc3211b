import BuildLine.Proofs.Data.Lists
import BuildLine.Proofs.Text.Masking

/-!
# Masking several texts at once

Several texts can be masked one after the other, the longer ones first. This file is about when the
same comes of masking all of them at once, each occurrence that lies in no other one
(`Outermost`). The texts must not *clash*: none of them may begin within another one, or within
itself, and end behind it. One of them may very well lie within another one.

What masking at once means is told by a *dissection*, a text cut into characters that are kept and
occurrences that are masked, going from left to right and masking the longest text that begins at a
place. Since the texts do not clash, no occurrence ever lies across a cut (`Uncut`), and that is why
what is masked is outermost (`Dissected.outermost_of_mem`) and why every occurrence lies in
something that is masked (`Dissected.exists_covering`). Masking one more text, which is not longer
than those masked before, turns the dissection for these into the one for all of them
(`Dissected.snoc`).
-/

namespace BuildLine.Text

variable {mask s t u r whole : List Char} {order order' : List (List Char)} {i j : Nat}

/-! ### Clashes -/

/-- A text can begin within another one and end behind it. -/
def Clash (t u : List Char) : Prop :=
  ∃ m ∈ t.tails, m ≠ [] ∧ m ≠ t ∧ m <+: u ∧ m ≠ u

instance (t u : List Char) : Decidable (Clash t u) :=
  inferInstanceAs (Decidable (∃ m ∈ t.tails, m ≠ [] ∧ m ≠ t ∧ m <+: u ∧ m ≠ u))

/-- What begins within a text and ends behind it clashes with it. -/
theorem clash_of_isPrefix (h : u <+: (t ++ r).drop i) (hbegins : 0 < i) (hwithin : i < t.length)
    (hends : t.length < i + u.length) : Clash t u := by
  have hlength : (t.drop i).length = t.length - i := List.length_drop
  rw [List.drop_append_of_le_length hwithin.le] at h
  have hbegin : t.drop i <+: u :=
    List.prefix_of_prefix_length_le (List.prefix_append ..) h (by omega)
  refine ⟨t.drop i, (List.mem_tails _ _).mpr (List.drop_suffix i t), ?_, ?_, hbegin, ?_⟩
  · exact List.ne_nil_of_length_pos (by omega)
  · exact fun heq => absurd (congrArg List.length heq) (by omega)
  · exact fun heq => absurd (congrArg List.length heq) (by omega)

/-- Texts in an order in which they can be masked, the longer ones first: none of them is empty or
has something of the mask in it, and no two of them clash. -/
structure Separable (mask : List Char) (order : List (List Char)) : Prop where
  /-- There are no empty texts. -/
  ne_nil : ∀ t ∈ order, t ≠ []
  /-- The texts have nothing of the mask. -/
  apart : ∀ t ∈ order, Apart mask t
  /-- The texts do not clash, not even with themselves. -/
  tidy : ∀ t ∈ order, ∀ u ∈ order, ¬ Clash t u
  /-- No text comes before a longer one. -/
  longestFirst : order.Pairwise fun t u => u.length ≤ t.length

theorem Separable.init (h : Separable mask (order ++ [t])) : Separable mask order where
  ne_nil t ht := h.ne_nil t (List.mem_append_left _ ht)
  apart t ht := h.apart t (List.mem_append_left _ ht)
  tidy t ht u hu := h.tidy t (List.mem_append_left _ ht) u (List.mem_append_left _ hu)
  longestFirst := (List.pairwise_append.mp h.longestFirst).1

/-! ### Occurrences -/

/-- A text stands in another one at a place. -/
def StandsAt (s : List Char) (i : Nat) (t : List Char) : Prop :=
  t <+: s.drop i

/-- One of the texts stands at a place, and its occurrence lies in no other one. -/
structure Outermost (texts : List (List Char)) (s : List Char) (i : Nat) (t : List Char) :
    Prop where
  /-- It is one of the texts. -/
  mem : t ∈ texts
  /-- It stands there. -/
  standsAt : StandsAt s i t
  /-- An occurrence that it lies in is this one. -/
  alone : ∀ u ∈ texts, ∀ j, StandsAt s j u → j ≤ i → i + t.length ≤ j + u.length → j = i ∧ u = t

/-- What is outermost depends only on which texts there are. -/
theorem Outermost.of_mem_iff (h : Outermost order s i t) (hmem : ∀ u, u ∈ order ↔ u ∈ order') :
    Outermost order' s i t :=
  ⟨(hmem t).mp h.mem, h.standsAt, fun u hu => h.alone u ((hmem u).mpr hu)⟩

/-- No occurrence lies across a place. -/
def Uncut (texts : List (List Char)) (s : List Char) (i : Nat) : Prop :=
  ∀ u ∈ texts, ∀ j, StandsAt s j u → j < i → j + u.length ≤ i

theorem uncut_zero (texts : List (List Char)) (s : List Char) : Uncut texts s 0 :=
  fun _ _ j _ hj => absurd hj (Nat.not_lt_zero j)

/-- The first one in the order that a text begins with. -/
def first? (order : List (List Char)) (s : List Char) : Option (List Char) :=
  order.find? (·.isPrefixOf s)

theorem first?_append (order order' : List (List Char)) (s : List Char) :
    first? (order ++ order') s = (first? order s).or (first? order' s) :=
  List.find?_append

theorem first?_eq_none : first? order s = none ↔ ∀ t ∈ order, ¬ t <+: s := by
  simp [first?]

theorem mem_of_first? (h : first? order s = some t) : t ∈ order ∧ t <+: s := by
  rw [first?] at h
  exact ⟨List.mem_of_find?_eq_some h, by simpa using List.find?_some h⟩

/-- Nothing in the order that a text begins with is longer than the first one. -/
theorem length_le_of_first? (hlongest : order.Pairwise fun t u => u.length ≤ t.length)
    (h : first? order s = some t) (hu : u ∈ order) (hus : u <+: s) : u.length ≤ t.length := by
  obtain ⟨-, before, behind, rfl, hbefore⟩ := List.find?_eq_some_iff_append.mp h
  rcases List.mem_append.mp hu with hu | hu
  · have hnot := hbefore u hu
    simp [List.isPrefixOf_iff_prefix.mpr hus] at hnot
  · rcases List.mem_cons.mp hu with rfl | hu
    · exact Nat.le_refl _
    · exact (List.pairwise_cons.mp (List.pairwise_append.mp hlongest).2.1).1 u hu

/-- The longest text that a text begins with does not depend on the order of those of one length. -/
theorem first?_eq_of_perm (hperm : order.Perm order')
    (hlongest : order.Pairwise fun t u => u.length ≤ t.length)
    (hlongest' : order'.Pairwise fun t u => u.length ≤ t.length) (s : List Char) :
    first? order s = first? order' s := by
  cases h : first? order s with
  | none =>
    rw [first?_eq_none] at h
    exact (first?_eq_none.mpr fun t ht => h t (hperm.mem_iff.mpr ht)).symm
  | some t =>
    obtain ⟨ht, hts⟩ := mem_of_first? h
    cases h' : first? order' s with
    | none => exact absurd hts (first?_eq_none.mp h' t (hperm.mem_iff.mp ht))
    | some u =>
      obtain ⟨hu, hus⟩ := mem_of_first? h'
      have hut := length_le_of_first? hlongest h (hperm.mem_iff.mpr hu) hus
      have htu := length_le_of_first? hlongest' h' (hperm.mem_iff.mp ht) hts
      rw [eq_of_prefix_of_length_eq hts hus (Nat.le_antisymm htu hut)]

/-! ### Dissections -/

/-- A piece of a text. -/
inductive Piece where
  /-- A character that is kept. -/
  | kept (c : Char)
  /-- An occurrence that is masked. -/
  | masked (t : List Char)
  deriving DecidableEq, Repr

/-- What the piece is. -/
def Piece.text : Piece → List Char
  | .kept c => [c]
  | .masked t => t

/-- What is shown of the piece. -/
def Piece.shown (mask : List Char) : Piece → List Char
  | .kept c => [c]
  | .masked _ => mask

/-- What is masked, with its places, where the first piece stands at a place. -/
def maskedFrom : Nat → List Piece → List (Nat × List Char)
  | _, [] => []
  | i, .kept _ :: ps => maskedFrom (i + 1) ps
  | i, .masked t :: ps => (i, t) :: maskedFrom (i + t.length) ps

/-- **A text is cut into pieces**: at each place what is masked is the first in the order of what
begins there. -/
inductive Dissected (order : List (List Char)) : List Char → List Piece → Prop
  /-- There is nothing to cut. -/
  | nil : Dissected order [] []
  /-- Something is masked. -/
  | masked {t r : List Char} {ps : List Piece} :
    first? order (t ++ r) = some t → Dissected order r ps →
      Dissected order (t ++ r) (.masked t :: ps)
  /-- A character is kept. -/
  | kept {c : Char} {s : List Char} {ps : List Piece} :
    first? order (c :: s) = none → Dissected order s ps → Dissected order (c :: s) (.kept c :: ps)

variable {ps : List Piece}

theorem exists_dissected (hne : ∀ t ∈ order, t ≠ []) (s : List Char) :
    ∃ ps, Dissected order s ps := by
  induction hn : s.length using Nat.strongRecOn generalizing s with
  | ind n ih =>
    cases s with
    | nil => exact ⟨[], .nil⟩
    | cons c s =>
      cases h : first? order (c :: s) with
      | none =>
        obtain ⟨ps, hps⟩ := ih s.length (by simp [← hn]) s rfl
        exact ⟨_, .kept h hps⟩
      | some t =>
        obtain ⟨ht, r, hr⟩ := mem_of_first? h
        have hpos := List.length_pos_of_ne_nil (hne t ht)
        have hlength : t.length + r.length = n := by rw [← hn, ← hr, List.length_append]
        obtain ⟨ps, hps⟩ := ih r.length (by omega) r rfl
        rw [← hr] at h ⊢
        exact ⟨_, .masked h hps⟩

theorem Dissected.text_eq (h : Dissected order s ps) : ps.flatMap Piece.text = s := by
  induction h with
  | nil => rfl
  | masked _ _ ih => rw [List.flatMap_cons, ih, Piece.text]
  | kept _ _ ih => rw [List.flatMap_cons, ih, Piece.text, List.singleton_append]

theorem Dissected.of_perm (h : Dissected order s ps) (hperm : order.Perm order')
    (hlongest : order.Pairwise fun t u => u.length ≤ t.length)
    (hlongest' : order'.Pairwise fun t u => u.length ≤ t.length) : Dissected order' s ps := by
  have hfirst := first?_eq_of_perm hperm hlongest hlongest'
  induction h with
  | nil => exact .nil
  | masked h _ ih => exact .masked (hfirst _ ▸ h) ih
  | kept h _ ih => exact .kept (hfirst _ ▸ h) ih

/-! ### What is masked -/

/-- No occurrence lies across the end of what is masked. -/
theorem Uncut.masked (h : Uncut order whole i) (hmask : Separable mask order)
    (hwhole : whole.drop i = t ++ r) (ht : first? order (t ++ r) = some t) :
    Uncut order whole (i + t.length) := by
  intro u hu j hj hji
  by_contra hends
  rcases Nat.lt_trichotomy j i with hlt | rfl | hlt
  · -- it would lie across the beginning, too
    have := h u hu j hj hlt
    omega
  · rw [StandsAt, hwhole] at hj
    have := length_le_of_first? hmask.longestFirst ht hu hj
    omega
  · -- it would begin within what is masked
    have hdrop : whole.drop j = (t ++ r).drop (j - i) := by
      rw [← hwhole, List.drop_drop, Nat.add_sub_cancel' hlt.le]
    rw [StandsAt, hdrop] at hj
    exact hmask.tidy t (mem_of_first? ht).1 u hu
      (clash_of_isPrefix hj (by omega) (by omega) (by omega))

theorem Uncut.kept (h : Uncut order whole i) {c : Char} (hwhole : whole.drop i = c :: s)
    (hnone : first? order (c :: s) = none) : Uncut order whole (i + 1) := by
  intro u hu j hj hji
  rcases Nat.lt_succ_iff_lt_or_eq.mp hji with hlt | rfl
  · exact (h u hu j hj hlt).trans (Nat.le_succ i)
  · rw [StandsAt, hwhole] at hj
    exact absurd hj (first?_eq_none.mp hnone u hu)

/-- **What is masked is outermost.** -/
theorem Dissected.outermost_of_mem (h : Dissected order s ps) (hmask : Separable mask order)
    (hwhole : whole.drop i = s) (huncut : Uncut order whole i) {p : Nat × List Char}
    (hp : p ∈ maskedFrom i ps) : Outermost order whole p.1 p.2 := by
  induction h generalizing i with
  | nil => cases hp
  | @masked t r ps ht _ ih =>
    rcases List.mem_cons.mp hp with rfl | hp
    · show Outermost order whole i t
      obtain ⟨hmem, hbegin⟩ := mem_of_first? ht
      have hpos := List.length_pos_of_ne_nil (hmask.ne_nil t hmem)
      refine ⟨hmem, by rwa [StandsAt, hwhole], fun u hu j hj hji hends => ?_⟩
      -- what it lies in cannot begin before it, since it would lie across this place
      have hij : j = i := by
        rcases Nat.lt_or_eq_of_le hji with hlt | heq
        · have := huncut u hu j hj hlt
          omega
        · exact heq
      subst hij
      rw [StandsAt, hwhole] at hj
      have hle := length_le_of_first? hmask.longestFirst ht hu hj
      exact ⟨rfl, eq_of_prefix_of_length_eq hj hbegin (by omega)⟩
    · exact ih (drop_add_length hwhole) (huncut.masked hmask hwhole ht) hp
  | @kept c s ps hnone _ ih =>
    exact ih (drop_add_one hwhole) (huncut.kept hwhole hnone) hp

/-- **Every occurrence lies in something that is masked.** -/
theorem Dissected.exists_covering (h : Dissected order s ps) (hmask : Separable mask order)
    (hwhole : whole.drop i = s) (huncut : Uncut order whole i) (hu : u ∈ order)
    (hj : StandsAt whole j u) (hij : i ≤ j) :
    ∃ p ∈ maskedFrom i ps, p.1 ≤ j ∧ j + u.length ≤ p.1 + p.2.length := by
  induction h generalizing i with
  | nil =>
    -- nothing stands behind the end
    have hdrop : whole.drop j = [] := by
      rw [← Nat.add_sub_cancel' hij, ← List.drop_drop, hwhole, List.drop_nil]
    rw [StandsAt, hdrop, List.prefix_nil] at hj
    exact absurd hj (hmask.ne_nil u hu)
  | @masked t r ps ht _ ih =>
    have hnext := huncut.masked hmask hwhole ht
    rcases Nat.lt_or_ge j (i + t.length) with hlt | hge
    · exact ⟨(i, t), List.mem_cons_self .., hij, hnext u hu j hj hlt⟩
    · obtain ⟨p, hp, hcovers⟩ := ih (drop_add_length hwhole) hnext hge
      exact ⟨p, List.mem_cons_of_mem _ hp, hcovers⟩
  | @kept c s ps hnone _ ih =>
    rcases Nat.lt_or_eq_of_le hij with hlt | rfl
    · exact ih (drop_add_one hwhole) (huncut.kept hwhole hnone) hlt
    · rw [StandsAt, hwhole] at hj
      exact absurd hj (first?_eq_none.mp hnone u hu)

/-- An occurrence anywhere in the text that is cut lies in something that is masked. -/
theorem Dissected.covers (h : Dissected order s ps) (hmask : Separable mask order) (hu : u ∈ order)
    (hj : StandsAt s j u) :
    ∃ p ∈ maskedFrom 0 ps, p.1 ≤ j ∧ j + u.length ≤ p.1 + p.2.length :=
  h.exists_covering hmask rfl (uncut_zero order s) hu hj (Nat.zero_le j)

/-- **A dissection masks what is outermost,** and nothing else. -/
theorem Dissected.mem_maskedFrom_iff (h : Dissected order s ps) (hmask : Separable mask order) :
    (i, t) ∈ maskedFrom 0 ps ↔ Outermost order s i t := by
  have hmasked {p : Nat × List Char} (hp : p ∈ maskedFrom 0 ps) : Outermost order s p.1 p.2 :=
    h.outermost_of_mem hmask rfl (uncut_zero order s) hp
  refine ⟨hmasked, fun hout => ?_⟩
  obtain ⟨⟨j, u⟩, hp, hji, hends⟩ := h.covers hmask hout.mem hout.standsAt
  obtain ⟨rfl, rfl⟩ := hout.alone u (hmasked hp).mem j (hmasked hp).standsAt hji hends
  exact hp

/-! ### Masking one after the other -/

theorem prefix_of_shown (h : Dissected order s ps) (ht : Apart mask t)
    (hbegin : t <+: ps.flatMap (Piece.shown mask)) : t <+: s := by
  induction h generalizing t with
  | nil => exact hbegin
  | masked _ _ _ =>
    rw [List.flatMap_cons, Piece.shown] at hbegin
    rw [ht.eq_nil_of_isPrefix hbegin]
    exact List.nil_prefix
  | @kept c s ps _ _ ih =>
    rw [List.flatMap_cons, Piece.shown, List.singleton_append] at hbegin
    rcases t with - | ⟨d, t⟩
    · exact List.nil_prefix
    · obtain ⟨rfl, hrest⟩ := List.cons_prefix_cons.mp hbegin
      exact List.cons_prefix_cons.mpr ⟨rfl, ih ht.tail hrest⟩

/-- Characters are kept as long as nothing begins at one of them. -/
theorem Dissected.kept_append (hps : Dissected order r ps)
    (hnone : ∀ k < t.length, first? order ((t ++ r).drop k) = none) :
    Dissected order (t ++ r) (t.map .kept ++ ps) := by
  induction t with
  | nil => exact hps
  | cons c t ih =>
    refine .kept (hnone 0 (Nat.zero_lt_succ _)) (ih fun k hk => ?_)
    exact hnone (k + 1) (Nat.succ_lt_succ hk)

theorem flatMap_shown_kept (t : List Char) :
    (t.map Piece.kept).flatMap (Piece.shown mask) = t := by
  induction t with
  | nil => rfl
  | cons c t ih => rw [List.map_cons, List.flatMap_cons, ih, Piece.shown, List.singleton_append]

/-- **Masking one more text**, which is not longer than those that are masked already. -/
theorem Dissected.snoc (h : Dissected (order ++ [t]) s ps) (hmask : Separable mask (order ++ [t])) :
    ∃ qs, Dissected order s qs ∧
      replaceAll t mask (qs.flatMap (Piece.shown mask)) = ps.flatMap (Piece.shown mask) := by
  have ht : t ∈ order ++ [t] := by simp
  induction h with
  | nil => exact ⟨[], .nil, rfl⟩
  | @masked u r ps hu _ ih =>
    obtain ⟨qs, hqs, hshown⟩ := ih
    rw [first?_append] at hu
    cases hfirst : first? order (u ++ r) with
    | some u' =>
      -- it is masked already, and the mask stays
      rw [hfirst, Option.some_or] at hu
      obtain rfl := Option.some.inj hu
      refine ⟨_, .masked hfirst hqs, ?_⟩
      rw [List.flatMap_cons, List.flatMap_cons, Piece.shown,
        replaceAll_append_of_not_mem (hmask.ne_nil t ht) (hmask.apart t ht).2, hshown]
    | none =>
      -- it is the text itself, and it has been kept so far
      have hut : u = t := by
        rw [hfirst, Option.none_or] at hu
        exact List.mem_singleton.mp (mem_of_first? hu).1
      subst hut
      refine ⟨_, hqs.kept_append fun k hk => first?_eq_none.mpr fun v hv hbegin => ?_, ?_⟩
      · rcases Nat.eq_zero_or_pos k with rfl | hpos
        · exact first?_eq_none.mp hfirst v hv hbegin
        · have hlength := (List.pairwise_append.mp hmask.longestFirst).2.2 v hv u (by simp)
          exact hmask.tidy u ht v (List.mem_append_left _ hv)
            (clash_of_isPrefix hbegin hpos hk (by omega))
      · rw [List.flatMap_append, flatMap_shown_kept, replaceAll_append_self (hmask.ne_nil u ht),
          hshown, List.flatMap_cons, Piece.shown]
  | @kept c s ps hnone _ ih =>
    obtain ⟨qs, hqs, hshown⟩ := ih
    rw [first?_eq_none] at hnone
    have hkept : Dissected order (c :: s) (.kept c :: qs) :=
      .kept (first?_eq_none.mpr fun v hv => hnone v (List.mem_append_left _ hv)) hqs
    refine ⟨_, hkept, ?_⟩
    have hnot : ¬ t <+: c :: qs.flatMap (Piece.shown mask) := fun hbegin =>
      hnone t ht (prefix_of_shown hkept (hmask.apart t ht) hbegin)
    rw [List.flatMap_cons, List.flatMap_cons, Piece.shown, List.singleton_append,
      replaceAll_cons_of_not_isPrefix hnot, hshown, List.singleton_append]

/-- **Masking one after the other is masking at once.** -/
theorem Dissected.foldl_replaceAll (h : Dissected order s ps) (hmask : Separable mask order) :
    order.foldl (fun s t => replaceAll t mask s) s = ps.flatMap (Piece.shown mask) := by
  induction order using List.reverseRecOn generalizing ps with
  | nil =>
    induction h with
    | nil => rfl
    | masked h _ _ => cases h
    | kept _ _ ih => exact congrArg _ ih
  | append_singleton order t ih =>
    obtain ⟨qs, hqs, hshown⟩ := h.snoc hmask
    rw [List.foldl_append, ih hqs hmask.init]
    exact hshown

end BuildLine.Text
