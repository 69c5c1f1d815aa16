import GuardedUi.Proofs.Guard.Pairing
import Mathlib.Data.List.Nodup

/-!
# `Proofs/Guard/Reporting` — which faults are reported

`diagnose` works through the markers with the names that it has seen, and finds out by places in the
text what a region encloses. What it reports is a matter of first and last markers:

> **A name is reported** (`diagnose_reports`) without an end if its last marker opens a region,
> without a beginning if its first marker closes one, and as overlapping if its first opening marker
> has a closing one behind it that is not the next marker. Each of these comes once, at the first
> marker that has the fault, and in the order of these markers.

Places decide which of two markers comes first. The markers of a text stand in order, so nothing
else is needed of them (`Spaced`), and regions, which `Proofs/Guard/Pairing` knows by the order of
the list, are first markers in this sense too (`mem_regionsFrom_iff`).
-/

set_option autoImplicit false

namespace GuardedUi.Guard

/-! ## First and last markers -/

/-- The marker is the first one that has a property. -/
def FirstWith (p : Marker → Prop) (markers : List Marker) (m : Marker) : Prop :=
  m ∈ markers ∧ p m ∧ ∀ n ∈ markers, p n → m.start ≤ n.start

/-- The marker is the last one that has a property. -/
def LastWith (p : Marker → Prop) (markers : List Marker) (m : Marker) : Prop :=
  m ∈ markers ∧ p m ∧ ∀ n ∈ markers, p n → n.start ≤ m.start

section Places

variable {p : Marker → Prop} {markers rest : List Marker} {m n x : Marker}

theorem Spaced.start_lt (hs : Spaced (x :: rest)) (hm : m ∈ rest) : x.start < m.start :=
  Nat.lt_of_lt_of_le (hs.2 x List.mem_cons_self) (hs.stop_le hm)

theorem Spaced.sublist {found : List Marker} (hs : Spaced markers) (h : found.Sublist markers) :
    Spaced found :=
  ⟨hs.1.sublist h, fun m hm => hs.2 m (h.subset hm)⟩

/-- Of two markers, one ends before the other begins, unless they are the same. -/
theorem Spaced.stop_le_or_eq (hs : Spaced markers) (hm : m ∈ markers) (hn : n ∈ markers) :
    m.stop ≤ n.start ∨ m = n ∨ n.stop ≤ m.start := by
  induction markers with
  | nil => simp at hm
  | cons x rest ih =>
    rcases List.mem_cons.mp hm with rfl | hmrest <;> rcases List.mem_cons.mp hn with rfl | hnrest
    · exact .inr (.inl rfl)
    · exact .inl (hs.stop_le hnrest)
    · exact .inr (.inr (hs.stop_le hmrest))
    · exact ih hs.tail hmrest hnrest

theorem Spaced.stop_le_of_lt (hs : Spaced markers) (hm : m ∈ markers) (hn : n ∈ markers)
    (hlt : m.start < n.start) : m.stop ≤ n.start := by
  have hpos := hs.2 n hn
  rcases hs.stop_le_or_eq hm hn with h | rfl | h
  · exact h
  · exact absurd hlt (Nat.lt_irrefl _)
  · omega

theorem Spaced.eq_of_start_eq (hs : Spaced markers) (hm : m ∈ markers) (hn : n ∈ markers)
    (heq : m.start = n.start) : m = n := by
  have hmpos := hs.2 m hm
  have hnpos := hs.2 n hn
  rcases hs.stop_le_or_eq hm hn with h | h | h
  · omega
  · exact h
  · omega

theorem Spaced.lt_of_le_of_ne (hs : Spaced markers) (hm : m ∈ markers) (hn : n ∈ markers)
    (hle : m.start ≤ n.start) (hne : m ≠ n) : m.start < n.start :=
  Nat.lt_of_le_of_ne hle fun heq => hne (hs.eq_of_start_eq hm hn heq)

theorem FirstWith.eq (hs : Spaced markers) (hm : FirstWith p markers m)
    (hn : FirstWith p markers n) : m = n :=
  hs.eq_of_start_eq hm.1 hn.1
    (Nat.le_antisymm (hm.2.2 n hn.1 hn.2.1) (hn.2.2 m hm.1 hm.2.1))

theorem LastWith.eq (hs : Spaced markers) (hm : LastWith p markers m)
    (hn : LastWith p markers n) : m = n :=
  hs.eq_of_start_eq hm.1 hn.1
    (Nat.le_antisymm (hn.2.2 m hm.1 hm.2.1) (hm.2.2 n hn.1 hn.2.1))

theorem firstWith_cons_of_not (hx : ¬ p x) :
    FirstWith p (x :: rest) m ↔ FirstWith p rest m := by
  have hmem : p m → (m ∈ x :: rest ↔ m ∈ rest) := fun hp => by
    rw [List.mem_cons]
    exact or_iff_right fun heq => hx (heq ▸ hp)
  rw [FirstWith, FirstWith, List.forall_mem_cons]
  constructor
  · rintro ⟨hm, hp, -, hall⟩
    exact ⟨(hmem hp).mp hm, hp, hall⟩
  · rintro ⟨hm, hp, hall⟩
    exact ⟨(hmem hp).mpr hm, hp, fun hpx => absurd hpx hx, hall⟩

theorem Spaced.firstWith_cons_iff (hs : Spaced (x :: rest)) (hx : p x) :
    FirstWith p (x :: rest) m ↔ m = x := by
  have hhead : FirstWith p (x :: rest) x := by
    refine ⟨List.mem_cons_self, hx, fun n hn _ => ?_⟩
    rcases List.mem_cons.mp hn with rfl | hn
    · exact Nat.le_refl _
    · exact Nat.le_of_lt (hs.start_lt hn)
  exact ⟨fun h => h.eq hs hhead, fun h => h ▸ hhead⟩

/-- Where there is a marker with a property, there is a first one. -/
theorem Spaced.exists_firstWith (hs : Spaced markers) (hm : m ∈ markers) (hp : p m) :
    ∃ first, FirstWith p markers first := by
  induction markers with
  | nil => simp at hm
  | cons x rest ih =>
    by_cases hx : p x
    · exact ⟨x, (hs.firstWith_cons_iff hx).mpr rfl⟩
    · have hrest : m ∈ rest :=
        (List.mem_cons.mp hm).resolve_left fun heq => hx (heq ▸ hp)
      obtain ⟨first, hfirst⟩ := ih hs.tail hrest
      exact ⟨first, (firstWith_cons_of_not hx).mpr hfirst⟩

theorem Spaced.exists_lastWith (hs : Spaced markers) (hm : m ∈ markers) (hp : p m) :
    ∃ last, LastWith p markers last := by
  induction markers generalizing m with
  | nil => simp at hm
  | cons x rest ih =>
    by_cases hlater : ∃ n ∈ rest, p n
    · obtain ⟨n, hn, hpn⟩ := hlater
      obtain ⟨last, hlast, hplast, hall⟩ := ih hs.tail hn hpn
      refine ⟨last, List.mem_cons_of_mem x hlast, hplast, List.forall_mem_cons.mpr ⟨fun _ => ?_, hall⟩⟩
      exact Nat.le_of_lt (hs.start_lt hlast)
    · -- No later marker has the property, so this one is the last.
      obtain rfl : m = x :=
        (List.mem_cons.mp hm).resolve_right fun hrest => hlater ⟨m, hrest, hp⟩
      refine ⟨m, List.mem_cons_self, hp, List.forall_mem_cons.mpr ⟨fun _ => Nat.le_refl _, ?_⟩⟩
      exact fun n hn hpn => absurd ⟨n, hn, hpn⟩ hlater

end Places

/-! ## Regions are first markers -/

section Regions

variable {done : List String} {markers : List Marker} {r : Region}

theorem Spaced.firstWith_iff {key : Kind × String} {m : Marker} (hs : Spaced markers) :
    FirstWith (·.key = key) markers m ↔ ∃ after, FirstOf key markers m after := by
  induction markers with
  | nil => simp [FirstWith, FirstOf]
  | cons x rest ih =>
    by_cases hx : x.key = key
    · rw [hs.firstWith_cons_iff hx]
      simp only [firstOf_cons_of_eq hx, exists_and_left, exists_eq, and_true]
    · rw [firstWith_cons_of_not hx, ih hs.tail]
      simp only [firstOf_cons_of_ne hx]

theorem closing?_eq_some_iff {id : String} {finish : Marker} (hs : Spaced markers) :
    closing? id markers = some finish ↔ FirstWith (·.key = (.closing, id)) markers finish := by
  rw [closing?_eq_some_iff_firstOf, hs.firstWith_iff]

/-- What stands behind a marker in a list is what stands behind it in the text. -/
theorem Spaced.firstWith_behind_iff {p : Marker → Prop} {before after : List Marker} {b m : Marker}
    (hs : Spaced (before ++ b :: after)) :
    FirstWith (fun n => p n ∧ b.start < n.start) (before ++ b :: after) m ↔
      FirstWith p after m := by
  have hbehind : ∀ n, n ∈ before ++ b :: after ∧ b.start < n.start ↔ n ∈ after := fun n => by
    obtain ⟨-, hback, hcross⟩ := List.pairwise_append.mp hs.1
    constructor
    · rintro ⟨hn, hlt⟩
      rcases List.mem_append.mp hn with hn | hn
      · have hpos := hs.2 n (List.mem_append_left _ hn)
        have hle := hcross n hn b List.mem_cons_self
        omega
      · exact (List.mem_cons.mp hn).resolve_left fun heq => Nat.lt_irrefl _ (heq ▸ hlt)
    · intro hn
      have hpos := hs.2 b (by simp)
      have hle := (List.pairwise_cons.mp hback).1 n hn
      exact ⟨by simp [hn], Nat.lt_of_lt_of_le hpos hle⟩
  constructor
  · rintro ⟨hm, ⟨hp, hlt⟩, hall⟩
    refine ⟨(hbehind m).mp ⟨hm, hlt⟩, hp, fun n hn hpn => ?_⟩
    obtain ⟨hmem, hnlt⟩ := (hbehind n).mpr hn
    exact hall n hmem ⟨hpn, hnlt⟩
  · rintro ⟨hm, hp, hall⟩
    obtain ⟨hmem, hlt⟩ := (hbehind m).mpr hm
    exact ⟨hmem, ⟨hp, hlt⟩, fun n hn hpn => hall n ((hbehind n).mp ⟨hn, hpn.2⟩) hpn.1⟩

/-- **The region of a name** goes from its first opening marker to the first closing one behind
that, by their places in the text. -/
theorem mem_regionsFrom_iff (hs : Spaced markers) :
    r ∈ regionsFrom done markers ↔ r.id ∉ done ∧
      FirstWith (·.key = (.opening, r.id)) markers r.begin ∧
      FirstWith (fun n => n.key = (.closing, r.id) ∧ r.begin.start < n.start) markers r.finish := by
  rw [mem_regionsFrom_iff_paired, hs.firstWith_iff]
  refine and_congr_right fun _ => ?_
  constructor
  · rintro ⟨after, later, ⟨before, rfl, hb⟩, hfinish⟩
    have hafter : Spaced after :=
      hs.sublist ((List.sublist_cons_self _ _).trans (List.sublist_append_right _ _))
    exact ⟨⟨after, before, rfl, hb⟩,
      hs.firstWith_behind_iff.mpr (hafter.firstWith_iff.mpr ⟨later, hfinish⟩)⟩
  · rintro ⟨⟨after, before, rfl, hb⟩, hfinish⟩
    have hafter : Spaced after :=
      hs.sublist ((List.sublist_cons_self _ _).trans (List.sublist_append_right _ _))
    obtain ⟨later, hfirst⟩ := hafter.firstWith_iff.mp (hs.firstWith_behind_iff.mp hfinish)
    exact ⟨after, later, ⟨before, rfl, hb⟩, hfirst⟩

/-- Between the markers of a region are those behind the first and before the second one. -/
theorem Spaced.contains_iff {m : Marker} (hs : Spaced markers) (hb : r.begin ∈ markers)
    (hf : r.finish ∈ markers) (hm : m ∈ markers) :
    r.contains m = true ↔ r.begin.start < m.start ∧ m.start < r.finish.start := by
  have hbpos := hs.2 r.begin hb
  have hmpos := hs.2 m hm
  simp only [Region.contains, Bool.and_eq_true, decide_eq_true_eq]
  constructor
  · rintro ⟨hleft, hright⟩
    exact ⟨by omega, by omega⟩
  · rintro ⟨hleft, hright⟩
    exact ⟨hs.stop_le_of_lt hb hm hleft, hs.stop_le_of_lt hm hf hright⟩

end Regions

/-! ## The three tests -/

section Tests

variable {markers : List Marker} {m : Marker}

/-- An opening marker without a closing one of its name behind it. -/
def Unended (markers : List Marker) (m : Marker) : Prop :=
  m.kind = .opening ∧ ∀ e ∈ markers, e.key = (.closing, m.id) → e.start < m.start

theorem sublist_unclosed (markers : List Marker) : (unclosed markers).Sublist markers := by
  induction markers with
  | nil => exact List.Sublist.refl _
  | cons x rest ih =>
    rw [unclosed]
    split
    · exact ih.cons_cons x
    · exact ih.cons x

theorem mem_unclosed_iff (hs : Spaced markers) :
    m ∈ unclosed markers ↔ m ∈ markers ∧ Unended markers m := by
  induction markers with
  | nil => simp [unclosed]
  | cons x rest ih =>
    -- What stands in front of a marker does not matter for it.
    have hlater : m ∈ rest → (Unended (x :: rest) m ↔ Unended rest m) := fun hm => by
      rw [Unended, Unended, List.forall_mem_cons]
      exact and_congr_right fun _ => and_iff_right fun _ => hs.start_lt hm
    have hhead : Unended (x :: rest) x ↔ x.kind = .opening ∧ (closing? x.id rest).isNone = true := by
      rw [Unended, closing?_isNone_iff, List.forall_mem_cons]
      refine and_congr_right fun hkind => ?_
      constructor
      · rintro ⟨-, hall⟩ hclosed
        obtain ⟨e, he, hkey⟩ := List.mem_map.mp hclosed
        exact absurd (hall e he hkey) (Nat.not_lt.mpr (Nat.le_of_lt (hs.start_lt he)))
      · intro hnone
        refine ⟨fun hkey => ?_, fun e he hkey => absurd (List.mem_map.mpr ⟨e, he, hkey⟩) hnone⟩
        rw [Marker.key, hkind] at hkey
        exact absurd (Prod.mk.inj hkey).1 (by decide)
    have hmem : m ∈ x :: rest ∧ Unended (x :: rest) m ↔
        m = x ∧ Unended (x :: rest) x ∨ m ∈ rest ∧ Unended rest m := by
      rw [List.mem_cons, or_and_right, and_congr_right hlater]
      exact or_congr_left (and_congr_right fun heq => by rw [heq])
    rw [hmem, hhead, ← ih hs.tail, unclosed]
    split
    · rename_i hx
      rw [List.mem_cons, and_iff_left hx]
    · rename_i hx
      exact (or_iff_right fun h => hx h.2).symm

theorem sublist_unopened (opened : List String) (markers : List Marker) :
    (unopened opened markers).Sublist markers := by
  induction markers generalizing opened with
  | nil => exact List.Sublist.refl _
  | cons x rest ih =>
    rw [unopened]
    split
    · exact (ih _).cons x
    · split
      · exact (ih _).cons x
      · exact (ih _).cons_cons x

theorem mem_unopened_iff {opened : List String} (hs : Spaced markers) :
    m ∈ unopened opened markers ↔ m ∈ markers ∧ m.kind = .closing ∧ m.id ∉ opened ∧
      ∀ b ∈ markers, b.key = (.opening, m.id) → m.start < b.start := by
  induction markers generalizing opened with
  | nil => simp [unopened]
  | cons x rest ih =>
    have hback : m ∈ rest → ¬ m.start < x.start := fun hm =>
      Nat.not_lt.mpr (Nat.le_of_lt (hs.start_lt hm))
    rw [unopened, List.forall_mem_cons, List.mem_cons]
    cases hkind : x.kind with
    | opening =>
      simp only
      rw [ih hs.tail, List.mem_cons, not_or]
      constructor
      · rintro ⟨hm, hclosing, ⟨hne, hopened⟩, hall⟩
        refine ⟨.inr hm, hclosing, hopened, fun hkey => absurd ?_ hne, hall⟩
        exact (Prod.mk.inj hkey).2.symm
      · rintro ⟨rfl | hm, hclosing, hopened, hx, hall⟩
        · rw [hkind] at hclosing
          exact absurd hclosing (by decide)
        · exact ⟨hm, hclosing, ⟨fun heq => hback hm (hx (Prod.ext hkind heq.symm)), hopened⟩, hall⟩
    | closing =>
      simp only
      have hx : x.key ≠ (.opening, m.id) := fun hkey => by
        rw [Marker.key, hkind] at hkey
        exact absurd (Prod.mk.inj hkey).1 (by decide)
      split
      · rename_i hopened
        rw [ih hs.tail]
        constructor
        · rintro ⟨hm, hclosing, hnot, hall⟩
          exact ⟨.inr hm, hclosing, hnot, fun hkey => absurd hkey hx, hall⟩
        · rintro ⟨rfl | hm, hclosing, hnot, -, hall⟩
          · exact absurd hopened hnot
          · exact ⟨hm, hclosing, hnot, hall⟩
      · rename_i hopened
        rw [List.mem_cons, ih hs.tail]
        constructor
        · rintro (rfl | ⟨hm, hclosing, hnot, hall⟩)
          · exact ⟨.inl rfl, hkind, hopened, fun hkey => absurd hkey hx,
              fun b hb _ => hs.start_lt hb⟩
          · exact ⟨.inr hm, hclosing, hnot, fun hkey => absurd hkey hx, hall⟩
        · rintro ⟨rfl | hm, hclosing, hnot, -, hall⟩
          · exact .inl rfl
          · exact .inr ⟨hm, hclosing, hnot, hall⟩

/-- The first opening marker of a name has a closing one behind it, but not as the next marker. -/
def Encloses (markers : List Marker) (m : Marker) : Prop :=
  FirstWith (·.key = (.opening, m.id)) markers m ∧
    ∃ e, FirstWith (fun n => n.key = (.closing, m.id) ∧ m.start < n.start) markers e ∧
      ¬ FirstWith (fun n => m.start < n.start) markers e

theorem sublist_enclosing (markers : List Marker) : (enclosing markers).Sublist markers :=
  (List.filter_sublist.map Region.begin).trans (sublist_map_begin_regionsFrom [] markers)

theorem mem_enclosing_iff (hs : Spaced markers) :
    m ∈ enclosing markers ↔ Encloses markers m := by
  -- A region encloses a marker exactly if its end is not the next marker.
  have hnext : ∀ {r : Region}, r ∈ regions markers → (markers.any r.contains = true ↔
      ¬ FirstWith (fun n => r.begin.start < n.start) markers r.finish) := by
    intro r hr
    obtain ⟨-, hbegin, hfinish⟩ := (mem_regionsFrom_iff hs).mp hr
    rw [List.any_eq_true]
    constructor
    · rintro ⟨n, hn, hcontains⟩ hfirst
      obtain ⟨hleft, hright⟩ := (hs.contains_iff hbegin.1 hfinish.1 hn).mp hcontains
      exact absurd (hfirst.2.2 n hn hleft) (Nat.not_le.mpr hright)
    · intro hnot
      refine Classical.byContradiction fun hnone => hnot ⟨hfinish.1, hfinish.2.1.2, fun n hn hlt => ?_⟩
      refine Nat.not_lt.mp fun hright => hnone ⟨n, hn, ?_⟩
      exact (hs.contains_iff hbegin.1 hfinish.1 hn).mpr ⟨hlt, hright⟩
  rw [enclosing, List.mem_map]
  constructor
  · rintro ⟨r, hr, rfl⟩
    obtain ⟨hr, hany⟩ := List.mem_filter.mp hr
    obtain ⟨-, hbegin, hfinish⟩ := (mem_regionsFrom_iff hs).mp hr
    exact ⟨hbegin, r.finish, hfinish, (hnext hr).mp hany⟩
  · rintro ⟨hbegin, e, hfinish, hnot⟩
    have hr : (⟨m, e⟩ : Region) ∈ regions markers :=
      (mem_regionsFrom_iff hs).mpr ⟨List.not_mem_nil, hbegin, hfinish⟩
    exact ⟨⟨m, e⟩, List.mem_filter.mpr ⟨hr, (hnext hr).mpr hnot⟩, rfl⟩

theorem nodup_map_id_enclosing (markers : List Marker) :
    ((enclosing markers).map Marker.id).Nodup := by
  rw [enclosing, List.map_map]
  exact (nodup_map_id_regionsFrom [] markers).sublist (List.filter_sublist.map Region.id)

end Tests

/-! ## One report for each name -/

section Reports

variable {done : List String} {markers : List Marker} {m : Marker}

theorem sublist_firstOfEach (done : List String) (markers : List Marker) :
    (firstOfEach done markers).Sublist markers := by
  induction markers generalizing done with
  | nil => exact List.Sublist.refl _
  | cons x rest ih =>
    rw [firstOfEach]
    split
    · exact (ih _).cons x
    · exact (ih _).cons_cons x

theorem mem_firstOfEach_iff (hs : Spaced markers) :
    m ∈ firstOfEach done markers ↔ m.id ∉ done ∧ FirstWith (·.id = m.id) markers m := by
  induction markers generalizing done with
  | nil => simp [firstOfEach, FirstWith]
  | cons x rest ih =>
    rw [firstOfEach]
    split
    · rename_i hx
      rw [ih hs.tail]
      refine and_congr_right fun hdone => (firstWith_cons_of_not fun heq => hdone ?_).symm
      exact heq ▸ hx
    · rename_i hx
      rw [List.mem_cons, ih hs.tail, List.mem_cons, not_or]
      by_cases hid : x.id = m.id
      · rw [hs.firstWith_cons_iff hid]
        constructor
        · rintro (rfl | ⟨⟨hne, -⟩, -⟩)
          · exact ⟨hx, rfl⟩
          · exact absurd hid.symm hne
        · exact fun h => .inl h.2
      · have hne : ¬ m = x := fun heq => hid (heq ▸ rfl)
        have hne' : ¬ m.id = x.id := fun heq => hid heq.symm
        rw [firstWith_cons_of_not hid]
        simp only [hne, hne', not_false_eq_true, true_and, false_or]

theorem nodup_map_id_firstOfEach (hs : Spaced markers) :
    ((firstOfEach [] markers).map Marker.id).Nodup := by
  have hspaced := hs.sublist (sublist_firstOfEach [] markers)
  rw [List.Nodup, List.pairwise_map]
  refine hspaced.1.imp_of_mem fun {a b} ha hb hle heq => ?_
  -- Two of them with one name would both be the first.
  have hfirst := ((mem_firstOfEach_iff hs).mp ha).2
  rw [heq] at hfirst
  have hsame := hfirst.eq hs ((mem_firstOfEach_iff hs).mp hb).2
  have hpos := hspaced.2 a ha
  rw [← hsame] at hle
  omega

theorem firstOfEach_eq_self (h : (markers.map Marker.id).Nodup)
    (hdone : ∀ m ∈ markers, m.id ∉ done) : firstOfEach done markers = markers := by
  induction markers generalizing done with
  | nil => rfl
  | cons x rest ih =>
    rw [List.map_cons, List.nodup_cons] at h
    rw [firstOfEach, if_neg (hdone x List.mem_cons_self), ih h.2]
    intro m hm hmem
    rcases List.mem_cons.mp hmem with heq | hmem
    · exact h.1 (heq ▸ List.mem_map_of_mem hm)
    · exact hdone m (List.mem_cons_of_mem x hm) hmem

end Reports

/-- The markers that have a property, in order, no two of them of one name. -/
structure Listed (markers : List Marker) (p : Marker → Prop) (found : List Marker) : Prop where
  mem_iff : ∀ m, m ∈ found ↔ p m
  sublist : found.Sublist markers
  nodup : (found.map Marker.id).Nodup

/-- The report of an issue at a marker. -/
def Issue.at (issue : Issue) (document : List Char) (m : Marker) : Diagnostic :=
  ⟨m.id, issue, m.line document⟩

section Markers

variable {markers : List Marker}

theorem listed_unclosed (hs : Spaced markers) :
    Listed markers (fun m => FirstWith (fun n => n.id = m.id ∧ Unended markers n) markers m)
      (firstOfEach [] (unclosed markers)) where
  mem_iff m := by
    have hmem : ∀ n, n ∈ unclosed markers ↔ n ∈ markers ∧ Unended markers n := fun n =>
      mem_unclosed_iff hs
    rw [mem_firstOfEach_iff (hs.sublist (sublist_unclosed markers)), FirstWith, FirstWith, hmem]
    constructor
    · rintro ⟨-, ⟨hm, hunended⟩, hid, hall⟩
      exact ⟨hm, ⟨hid, hunended⟩, fun n hn hp => hall n ((hmem n).mpr ⟨hn, hp.2⟩) hp.1⟩
    · rintro ⟨hm, ⟨hid, hunended⟩, hall⟩
      exact ⟨List.not_mem_nil, ⟨hm, hunended⟩, hid,
        fun n hn hp => hall n ((hmem n).mp hn).1 ⟨hp, ((hmem n).mp hn).2⟩⟩
  sublist := (sublist_firstOfEach _ _).trans (sublist_unclosed markers)
  nodup := nodup_map_id_firstOfEach (hs.sublist (sublist_unclosed markers))

/-- A name is left open exactly if its last marker opens a region. -/
theorem exists_unended_iff (hs : Spaced markers) (id : String) :
    (∃ m ∈ markers, m.id = id ∧ Unended markers m) ↔
      ∃ m, LastWith (·.id = id) markers m ∧ m.kind = .opening := by
  constructor
  · rintro ⟨m, hm, hid, hkind, hall⟩
    obtain ⟨last, hlast⟩ := hs.exists_lastWith (p := (·.id = id)) hm hid
    refine ⟨last, hlast, ?_⟩
    cases hk : last.kind with
    | opening => rfl
    | closing =>
      have hlt := hall last hlast.1 (Prod.ext hk (hlast.2.1.trans hid.symm))
      exact absurd (hlast.2.2 m hm hid) (Nat.not_le.mpr hlt)
  · rintro ⟨last, hlast, hkind⟩
    refine ⟨last, hlast.1, hlast.2.1, hkind, fun e he hkey => ?_⟩
    obtain ⟨hk, hid⟩ := Prod.mk.inj hkey
    refine hs.lt_of_le_of_ne he hlast.1 (hlast.2.2 e he (hid.trans hlast.2.1)) fun heq => ?_
    rw [heq, hkind] at hk
    exact absurd hk (by decide)

theorem Listed.mem_map_id_iff {p : Marker → Prop} {found : List Marker}
    (hs : Spaced markers)
    (h : Listed markers (fun m => FirstWith (fun n => n.id = m.id ∧ p n) markers m) found)
    (id : String) : id ∈ found.map Marker.id ↔ ∃ m ∈ markers, m.id = id ∧ p m := by
  rw [List.mem_map]
  constructor
  · rintro ⟨m, hm, rfl⟩
    obtain ⟨hmem, hp, -⟩ := (h.mem_iff m).mp hm
    exact ⟨m, hmem, rfl, hp.2⟩
  · rintro ⟨m, hm, rfl, hp⟩
    obtain ⟨first, hfirst⟩ :=
      hs.exists_firstWith (p := fun n => n.id = m.id ∧ p n) hm ⟨rfl, hp⟩
    refine ⟨first, (h.mem_iff first).mpr ?_, hfirst.2.1.1⟩
    rw [hfirst.2.1.1]
    exact hfirst

theorem listed_unopened (hs : Spaced markers) :
    Listed markers (fun m => FirstWith (·.id = m.id) markers m ∧ m.kind = .closing)
      (firstOfEach [] (unopened [] markers)) where
  mem_iff m := by
    have hmem : ∀ n, n ∈ unopened [] markers ↔ n ∈ markers ∧ n.kind = .closing ∧ n.id ∉ [] ∧
        ∀ b ∈ markers, b.key = (.opening, n.id) → n.start < b.start := fun n =>
      mem_unopened_iff hs
    rw [mem_firstOfEach_iff (hs.sublist (sublist_unopened [] markers)), FirstWith, FirstWith, hmem]
    constructor
    · rintro ⟨-, ⟨hm, hkind, -, hopening⟩, hid, hall⟩
      refine ⟨⟨hm, hid, fun n hn hsame => ?_⟩, hkind⟩
      cases hk : n.kind with
      | opening => exact Nat.le_of_lt (hopening n hn (Prod.ext hk hsame))
      | closing =>
        -- If an opening marker of the name comes before `n`, so does the one that is reported.
        by_cases hn' : n ∈ unopened [] markers
        · exact hall n hn' hsame
        · have hsome : ∃ b ∈ markers, b.key = (.opening, n.id) ∧ b.start ≤ n.start := by
            refine Classical.byContradiction fun hnone => hn' ((hmem n).mpr
              ⟨hn, hk, List.not_mem_nil, fun b hb hkey => ?_⟩)
            exact Nat.not_le.mp fun hle => hnone ⟨b, hb, hkey, hle⟩
          obtain ⟨b, hb, hkey, hle⟩ := hsome
          exact Nat.le_trans (Nat.le_of_lt (hopening b hb (hsame ▸ hkey))) hle
    · rintro ⟨⟨hm, hid, hall⟩, hkind⟩
      refine ⟨List.not_mem_nil, ⟨hm, hkind, List.not_mem_nil, fun b hb hkey => ?_⟩, hid,
        fun n hn hsame => hall n ((hmem n).mp hn).1 hsame⟩
      obtain ⟨hk, hsame⟩ := Prod.mk.inj hkey
      refine hs.lt_of_le_of_ne hm hb (hall b hb hsame) fun heq => ?_
      rw [← heq, hkind] at hk
      exact absurd hk (by decide)
  sublist := (sublist_firstOfEach _ _).trans (sublist_unopened [] markers)
  nodup := nodup_map_id_firstOfEach (hs.sublist (sublist_unopened [] markers))

theorem listed_enclosing (hs : Spaced markers) :
    Listed markers (Encloses markers) (firstOfEach [] (enclosing markers)) := by
  rw [firstOfEach_eq_self (nodup_map_id_enclosing markers) fun _ _ => List.not_mem_nil]
  exact ⟨fun m => mem_enclosing_iff hs, sublist_enclosing markers, nodup_map_id_enclosing markers⟩

/-- A name has no fault exactly if its first marker opens its region, the next marker closes that,
and its last marker closes too. -/
theorem unreported_iff (hs : Spaced markers) :
    ((∀ m ∈ markers, ¬ Unended markers m) ∧
      (∀ m, FirstWith (·.id = m.id) markers m → m.kind ≠ .closing) ∧
      ∀ m, ¬ Encloses markers m) ↔
    ∀ x ∈ markers, ∃ first next last,
      FirstWith (·.id = x.id) markers first ∧ first.kind = .opening ∧
      FirstWith (first.start < ·.start) markers next ∧ next.key = (.closing, x.id) ∧
      LastWith (·.id = x.id) markers last ∧ last.kind = .closing := by
  constructor
  · rintro ⟨hended, hopened, henclosed⟩ x hx
    obtain ⟨first, hfirst⟩ := hs.exists_firstWith (p := (·.id = x.id)) hx rfl
    obtain ⟨last, hlast⟩ := hs.exists_lastWith (p := (·.id = x.id)) hx rfl
    have hopening : first.kind = .opening := by
      cases hk : first.kind with
      | opening => rfl
      | closing => exact absurd hk (hopened first (hfirst.2.1.symm ▸ hfirst))
    have hclosing : last.kind = .closing := by
      cases hk : last.kind with
      | closing => rfl
      | opening =>
        obtain ⟨m, hm, -, hunended⟩ := (exists_unended_iff hs x.id).mpr ⟨last, hlast, hk⟩
        exact absurd hunended (hended m hm)
    have hlt : first.start < last.start := by
      refine hs.lt_of_le_of_ne hfirst.1 hlast.1 (hfirst.2.2 last hlast.1 hlast.2.1) fun heq => ?_
      rw [heq, hclosing] at hopening
      exact absurd hopening (by decide)
    -- So there is a closing marker behind the first one, and the first of these is the next one.
    have hbegin : FirstWith (·.key = (.opening, first.id)) markers first :=
      ⟨hfirst.1, Prod.ext hopening rfl, fun n hn hkey =>
        hfirst.2.2 n hn ((Prod.mk.inj hkey).2.trans hfirst.2.1)⟩
    obtain ⟨e, he⟩ := hs.exists_firstWith
      (p := fun n => n.key = (.closing, first.id) ∧ first.start < n.start) hlast.1
      ⟨Prod.ext hclosing (hlast.2.1.trans hfirst.2.1.symm), hlt⟩
    refine ⟨first, e, last, hfirst, hopening, ?_, hfirst.2.1 ▸ he.2.1.1, hlast, hclosing⟩
    exact Classical.byContradiction fun hnot => henclosed first ⟨hbegin, e, he, hnot⟩
  · intro hall
    refine ⟨fun m hm hunended => ?_, fun m hfirst hclosing => ?_, fun m hencloses => ?_⟩
    · obtain ⟨-, -, last, -, -, -, -, hlast, hclosing⟩ := hall m hm
      obtain ⟨last', hlast', hopening⟩ :=
        (exists_unended_iff hs m.id).mp ⟨m, hm, rfl, hunended⟩
      rw [hlast'.eq hs hlast, hclosing] at hopening
      exact absurd hopening (by decide)
    · obtain ⟨first, -, -, hfirst', hopening, -⟩ := hall m hfirst.1
      rw [hfirst'.eq hs hfirst, hclosing] at hopening
      exact absurd hopening (by decide)
    · obtain ⟨hbegin, e, he, hnot⟩ := hencloses
      obtain ⟨first, next, -, hfirst, hopening, hnext, hkey, -⟩ := hall m hbegin.1
      have hsame : first = m := hs.eq_of_start_eq hfirst.1 hbegin.1 (Nat.le_antisymm
        (hfirst.2.2 m hbegin.1 rfl) (hbegin.2.2 first hfirst.1 (Prod.ext hopening hfirst.2.1)))
      subst hsame
      have hend : e = next := hs.eq_of_start_eq he.1 hnext.1 (Nat.le_antisymm
        (he.2.2 next hnext.1 ⟨hkey, hnext.2.1⟩) (hnext.2.2 e he.1 he.2.1.2))
      exact hnot (hend ▸ hnext)

end Markers

/-! ## All reports -/

theorem Listed.eq_nil_iff {markers found : List Marker} {p : Marker → Prop}
    (h : Listed markers p found) : found = [] ↔ ∀ m, ¬ p m := by
  rw [List.eq_nil_iff_forall_not_mem]
  exact forall_congr' fun m => not_congr (h.mem_iff m)

theorem snd_of_mem_reports {document : List Char} {found : List Marker} {issue : Issue}
    {x : String × Issue}
    (h : x ∈ (found.map (issue.at document)).map fun d => (d.id, d.issue)) : x.2 = issue := by
  obtain ⟨d, hd, rfl⟩ := List.mem_map.mp h
  obtain ⟨m, -, rfl⟩ := List.mem_map.mp hd
  rfl

theorem Listed.nodup_reports {markers found : List Marker} {p : Marker → Prop}
    (h : Listed markers p found) (document : List Char) (issue : Issue) :
    ((found.map (issue.at document)).map fun d => (d.id, d.issue)).Nodup := by
  have hpairs : (found.map (issue.at document)).map (fun d => (d.id, d.issue)) =
      (found.map Marker.id).map fun id => (id, issue) := by
    rw [List.map_map, List.map_map]
    rfl
  rw [hpairs]
  exact List.Nodup.map (fun a b heq => (Prod.mk.inj heq).1) h.nodup

/-- **What is reported** for a document: the names whose last marker opens a region, at the first
marker that no closing one follows; the names whose first marker closes one, at that marker; and the
names whose first opening marker has a closing one behind it that is not the next marker. Nothing is
reported exactly if every name begins with a region that encloses nothing and ends with a closing
marker. -/
theorem diagnose_reports (document : List Char) :
    let markers := scan document
    (∃ ends begins overlaps,
      diagnose document = ends.map (Issue.missingEnd.at document) ++
        begins.map (Issue.missingBegin.at document) ++
        overlaps.map (Issue.overlapping.at document) ∧
      Listed markers (fun m => FirstWith (fun n => n.id = m.id ∧ Unended markers n) markers m)
        ends ∧
      (∀ id, id ∈ ends.map Marker.id ↔
        ∃ m, LastWith (·.id = id) markers m ∧ m.kind = .opening) ∧
      Listed markers (fun m => FirstWith (·.id = m.id) markers m ∧ m.kind = .closing) begins ∧
      Listed markers (fun m => FirstWith (·.key = (.opening, m.id)) markers m ∧
        ∃ e, FirstWith (fun n => n.key = (.closing, m.id) ∧ m.start < n.start) markers e ∧
          ¬ FirstWith (fun n => m.start < n.start) markers e) overlaps) ∧
    ((diagnose document).map fun d => (d.id, d.issue)).Nodup ∧
    (diagnose document = [] ↔ ∀ x ∈ markers, ∃ first next last,
      FirstWith (·.id = x.id) markers first ∧ first.kind = .opening ∧
      FirstWith (first.start < ·.start) markers next ∧ next.key = (.closing, x.id) ∧
      LastWith (·.id = x.id) markers last ∧ last.kind = .closing) := by
  intro markers
  have hs : Spaced markers := spaced_scan document
  have hends := listed_unclosed hs
  have hbegins := listed_unopened hs
  have hoverlaps := listed_enclosing hs
  have hreports : diagnose document =
      (firstOfEach [] (unclosed markers)).map (Issue.missingEnd.at document) ++
        (firstOfEach [] (unopened [] markers)).map (Issue.missingBegin.at document) ++
        (firstOfEach [] (enclosing markers)).map (Issue.overlapping.at document) := rfl
  refine ⟨⟨_, _, _, hreports, hends, fun id => ?_, hbegins, hoverlaps⟩, ?_, ?_⟩
  · rw [hends.mem_map_id_iff hs, exists_unended_iff hs]
  · -- Reports of different issues are different.
    rw [hreports, List.map_append, List.map_append]
    refine List.Nodup.append (List.Nodup.append (hends.nodup_reports document _)
      (hbegins.nodup_reports document _) ?_) (hoverlaps.nodup_reports document _) ?_
    · intro x hx hx'
      exact absurd ((snd_of_mem_reports hx).symm.trans (snd_of_mem_reports hx')) (by decide)
    · intro x hx hx'
      rcases List.mem_append.mp hx with hx | hx
      · exact absurd ((snd_of_mem_reports hx).symm.trans (snd_of_mem_reports hx')) (by decide)
      · exact absurd ((snd_of_mem_reports hx).symm.trans (snd_of_mem_reports hx')) (by decide)
  · have hended : firstOfEach [] (unclosed markers) = [] ↔ ∀ m ∈ markers, ¬ Unended markers m := by
      rw [firstOfEach_eq_nil_iff, List.eq_nil_iff_forall_not_mem]
      exact forall_congr' fun m => by rw [mem_unclosed_iff hs, not_and]
    have hopened : firstOfEach [] (unopened [] markers) = [] ↔
        ∀ m, FirstWith (·.id = m.id) markers m → m.kind ≠ .closing :=
      hbegins.eq_nil_iff.trans (forall_congr' fun m => not_and)
    rw [← unreported_iff hs, hreports, List.append_eq_nil_iff, List.append_eq_nil_iff,
      List.map_eq_nil_iff, List.map_eq_nil_iff, List.map_eq_nil_iff, hended, hopened,
      hoverlaps.eq_nil_iff, and_assoc]

end GuardedUi.Guard
