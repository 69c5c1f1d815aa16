import GuardedUi.Proofs.Guard.Grammar

/-!
# `Proofs/Guard/Seam` — texts that can be put together without making a marker

Documents are put together from pieces, and user code is put into them. Whether that makes a marker
or breaks one is decided at the seams: two texts are `Apart` if no marker begins in one and ends in
the other, and then the markers of both together are those of each (`markerFree_append`).

Most pieces of a generated document are `Closed`: no marker that begins in them can reach beyond
them, whatever follows. A line of code is closed because it ends with a character that no marker
has, a comment because a slash inside a marker ends it. Closed pieces need no look at what stands
behind them, so they compose (`Closed.append`).
-/

set_option autoImplicit false

namespace GuardedUi.Guard

/-! ## Texts without markers -/

/-- No part of the text is a marker. -/
def MarkerFree (text : List Char) : Prop :=
  ∀ kind id mark, IsMarker kind id mark → ¬ mark <:+: text

/-- No marker begins in the first text and ends in the second. -/
def Apart (a b : List Char) : Prop :=
  ∀ kind id x y, x ≠ [] → y ≠ [] → x <:+ a → y <+: b → ¬ IsMarker kind id (x ++ y)

/-- No marker begins in the text and ends behind it, whatever stands there. -/
def Closed (text : List Char) : Prop :=
  ∀ rest, Apart text rest

theorem MarkerFree.of_isInfix {a b : List Char} (hb : MarkerFree b) (h : a <:+: b) : MarkerFree a :=
  fun kind id mark hm hi => hb kind id mark hm (hi.trans h)

theorem markerFree_append {a b : List Char} (h : Apart a b) :
    MarkerFree (a ++ b) ↔ MarkerFree a ∧ MarkerFree b := by
  constructor
  · intro hf
    exact ⟨hf.of_isInfix List.infix_append_left, hf.of_isInfix List.infix_append_right⟩
  · rintro ⟨ha, hb⟩ kind id mark hm hi
    rcases List.infix_append_iff_ne_nil.mp hi with hi | hi | ⟨x, y, hx, hy, rfl, hxa, hyb⟩
    · exact ha kind id mark hm hi
    · exact hb kind id mark hm hi
    · exact h kind id x y hx hy hxa hyb hm

/-- Every marker has a slash. -/
theorem markerFree_of_slash_not_mem {text : List Char} (h : '/' ∉ text) : MarkerFree text := by
  intro kind id mark hm hi
  obtain ⟨rest, rfl⟩ := hm.head_eq
  exact h (hi.subset List.mem_cons_self)

/-! ## Seams -/

theorem Apart.of_suffix {a a' b : List Char} (h : Apart a b) (ha : a' <:+ a) : Apart a' b :=
  fun kind id x y hx hy hxa hyb => h kind id x y hx hy (hxa.trans ha) hyb

theorem apart_of_slash_not_mem_right {a b : List Char} (h : '/' ∉ b) : Apart a b := by
  intro kind id x y _ hy _ hyb hm
  have hlast : (x ++ y).getLast? = some '/' := hm.getLast?_eq
  rw [List.getLast?_append, List.getLast?_eq_some_getLast hy, Option.some_or] at hlast
  exact h (hyb.subset (Option.some.inj hlast ▸ List.getLast_mem hy))

theorem closed_of_slash_not_mem {text : List Char} (h : '/' ∉ text) : Closed text := by
  intro rest kind id x y hx _ hxt _ hm
  obtain ⟨x', rfl⟩ := hm.front_eq hx
  exact h (hxt.subset List.mem_cons_self)

theorem Closed.append {a b : List Char} (ha : Closed a) (hb : Closed b) : Closed (a ++ b) := by
  intro rest kind id x y hx hy hxt hyr hm
  obtain ⟨s, hs⟩ := hxt
  rcases List.append_eq_append_iff.mp hs with ⟨x', hxa, hxx⟩ | ⟨b', -, hb'⟩
  · -- The marker begins in the first piece, so it goes through all of the second.
    by_cases hne : x' = []
    · exact hb rest kind id x y hx hy ⟨[], by simp [hxx, hne]⟩ hyr hm
    · refine ha (b ++ rest) kind id x' (b ++ y) hne (by simp [hy]) ⟨s, hxa.symm⟩
        ((List.prefix_append_right_inj b).mpr hyr) ?_
      rw [← List.append_assoc, ← hxx]
      exact hm
  · exact hb rest kind id x y hx hy ⟨b', hb'.symm⟩ hyr hm

theorem closed_nil : Closed [] :=
  closed_of_slash_not_mem (by simp)

/-- What is left of a closed piece behind its last slash cannot be the rest of a marker: it has a
character that no marker has. -/
theorem closed_of_breaker {before after : List Char} {c : Char} (hslash : c ≠ '/') (hstar : c ≠ '*')
    (hinner : isInner c = false) (hafter : '/' ∉ after) : Closed (before ++ c :: after) := by
  intro rest kind id x y hx _ hxt _ hm
  obtain ⟨s, hs⟩ := hxt
  rcases List.append_eq_append_iff.mp hs with ⟨x', -, rfl⟩ | ⟨b', -, hb'⟩
  · -- The marker contains the breaking character.
    have hc : c ∈ x' ++ c :: after ++ y := by simp
    rcases hm.mem_cases hc with h | h | h
    · exact hslash h
    · exact hstar h
    · rw [hinner] at h
      exact absurd h (by simp)
  · -- The marker begins behind it, where there is no slash to begin with.
    obtain ⟨x', rfl⟩ := hm.front_eq hx
    cases b' with
    | nil => exact hslash (List.cons.inj hb').1
    | cons e es =>
      refine hafter ?_
      rw [(List.cons.inj hb').2]
      simp

/-- A slash inside a marker ends it, so a comment is closed as soon as one character behind it
shows that its last slash begins nothing. -/
theorem closed_of_slash {before after : List Char} {c : Char} (hstar : c ≠ '*')
    (hafter : '/' ∉ c :: after) : Closed (before ++ '/' :: c :: after) := by
  intro rest kind id x y hx hy hxt _ hm
  obtain ⟨s, hs⟩ := hxt
  rcases List.append_eq_append_iff.mp hs with ⟨x', -, rfl⟩ | ⟨b', -, hb'⟩
  · -- The slash is the first character of the marker, or one inside it that ends it too early.
    cases x' with
    | nil =>
      obtain ⟨tail, htail⟩ := hm.head_eq
      simp only [List.nil_append, List.cons_append, List.cons.injEq] at htail
      exact hstar htail.2.1
    | cons d ds =>
      have hm' : IsMarker kind id ((d :: ds) ++ '/' :: (c :: after ++ y)) := by
        simpa [List.append_assoc] using hm
      exact absurd (hm'.slash_split (by simp)).1 (by simp)
  · -- The marker begins with the slash or behind it, where there is none to begin with.
    obtain ⟨x', rfl⟩ := hm.front_eq hx
    cases b' with
    | nil =>
      obtain ⟨tail, htail⟩ := hm.head_eq
      simp only [List.nil_append, List.cons.injEq] at hb'
      obtain ⟨-, rfl⟩ := hb'
      simp only [List.cons_append, List.cons.injEq] at htail
      exact hstar htail.2.1
    | cons e es =>
      refine hafter ?_
      rw [(List.cons.inj hb').2]
      simp

/-- Before the slash of a comment sign a marker has a star. -/
theorem apart_slash {a b : List Char} {c : Char} (hc : c ≠ '*') :
    Apart (a ++ [c]) ('/' :: b) := by
  intro kind id x y hx hy hxa hyb hm
  obtain ⟨d, ds, rfl⟩ := List.exists_cons_of_ne_nil hy
  obtain rfl : d = '/' := (List.cons_prefix_cons.mp hyb).1
  have hlast := (hm.slash_split hx).2
  obtain ⟨s, hs⟩ := hxa
  have : (s ++ x).getLast? = some c := by rw [hs]; simp
  rw [List.getLast?_append, hlast, Option.some_or] at this
  exact hc (Option.some.inj this).symm

end GuardedUi.Guard
