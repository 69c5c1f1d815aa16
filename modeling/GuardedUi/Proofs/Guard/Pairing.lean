import GuardedUi.Proofs.Guard.Coverage
import GuardedUi.Proofs.Guard.Finding

/-!
# `Proofs/Guard/Pairing` — which markers make a region

`regions` goes through the markers once and remembers the names that have their region. Nothing else
about the markers counts than which of them comes first. That is said here of any list of markers,
without places in a text: `FirstOf` parts a list at the first marker of a kind and name, and `Paired`
does so twice.

> **A name has a region if and only if one of its opening markers has a closing one behind it. The
> region goes from the first opening marker of the name to the first closing one behind that**
> (`regions_pair`).

An opening marker that is passed over is never made up for: if there is no closing marker behind the
first opening one, there is none behind a later one. In a text the markers of a region do not touch
each other's characters, so a body can always be cut out, and as every name has one region only,
`extract` puts no block in the place of another.
-/

set_option autoImplicit false

namespace GuardedUi.Guard

/-! ## First markers of a list -/

/-- The marker is the first one of a kind and name, and `after` is what comes behind it. -/
def FirstOf (key : Kind × String) (markers : List Marker) (m : Marker) (after : List Marker) : Prop :=
  ∃ before, markers = before ++ m :: after ∧ m.key = key ∧ ∀ n ∈ before, n.key ≠ key

/-- A region from the first opening marker of its name to the first closing one behind that. -/
def Paired (markers : List Marker) (r : Region) : Prop :=
  ∃ after rest, FirstOf (.opening, r.id) markers r.begin after ∧
    FirstOf (.closing, r.id) after r.finish rest

section First

variable {key : Kind × String} {m x : Marker} {rest after markers : List Marker}

theorem firstOf_cons_of_eq (hx : x.key = key) :
    FirstOf key (x :: rest) m after ↔ m = x ∧ after = rest := by
  constructor
  · rintro ⟨before, heq, hm, hbefore⟩
    cases before with
    | nil =>
      obtain ⟨rfl, rfl⟩ := List.cons.inj heq
      exact ⟨rfl, rfl⟩
    | cons first before =>
      obtain ⟨rfl, -⟩ := List.cons.inj heq
      exact absurd hx (hbefore x List.mem_cons_self)
  · rintro ⟨rfl, rfl⟩
    exact ⟨[], rfl, hx, by simp⟩

theorem firstOf_cons_of_ne (hx : x.key ≠ key) :
    FirstOf key (x :: rest) m after ↔ FirstOf key rest m after := by
  constructor
  · rintro ⟨before, heq, hm, hbefore⟩
    cases before with
    | nil =>
      obtain ⟨rfl, -⟩ := List.cons.inj heq
      exact absurd hm hx
    | cons first before =>
      obtain ⟨-, rfl⟩ := List.cons.inj heq
      exact ⟨before, rfl, hm, (List.forall_mem_cons.mp hbefore).2⟩
  · rintro ⟨before, rfl, hm, hbefore⟩
    exact ⟨x :: before, rfl, hm, List.forall_mem_cons.mpr ⟨hx, hbefore⟩⟩

theorem closing?_eq_some_iff_firstOf {id : String} :
    closing? id markers = some m ↔ ∃ after, FirstOf (.closing, id) markers m after := by
  have htest : ∀ n : Marker, (n.kind == .closing && n.id == id) = true ↔ n.key = (.closing, id) := by
    intro n
    simp [Marker.key]
  rw [closing?, List.find?_eq_some_iff_append, htest]
  simp only [Bool.not_eq_true', ← Bool.not_eq_true, htest, FirstOf]
  constructor
  · rintro ⟨hm, before, after, heq, hbefore⟩
    exact ⟨after, before, heq, hm, hbefore⟩
  · rintro ⟨after, before, heq, hm, hbefore⟩
    exact ⟨hm, before, after, heq, hbefore⟩

end First

/-! ## Pairs -/

section Pairs

variable {done : List String} {markers rest : List Marker} {x : Marker} {r : Region}

/-- The first opening marker of a name begins its region, or the name has none. -/
theorem paired_cons_of_eq (hx : x.key = (.opening, r.id)) :
    Paired (x :: rest) r ↔ r.begin = x ∧ closing? x.id rest = some r.finish := by
  have hid : x.id = r.id := (Prod.mk.inj hx).2
  rw [closing?_eq_some_iff_firstOf, hid]
  constructor
  · rintro ⟨after, later, hbegin, hfinish⟩
    obtain ⟨hsame, rfl⟩ := (firstOf_cons_of_eq hx).mp hbegin
    exact ⟨hsame, later, hfinish⟩
  · rintro ⟨hsame, later, hfinish⟩
    exact ⟨rest, later, (firstOf_cons_of_eq hx).mpr ⟨hsame, rfl⟩, hfinish⟩

/-- Any other marker in front makes no difference. -/
theorem paired_cons_of_ne (hx : x.key ≠ (.opening, r.id)) :
    Paired (x :: rest) r ↔ Paired rest r := by
  simp only [Paired, firstOf_cons_of_ne hx]

/-- What is not closed behind a marker is not closed behind a later one either, so no opening marker
makes up for a first one without a closing one. -/
theorem not_paired_of_closing?_eq_none (h : closing? r.id markers = none) : ¬ Paired markers r := by
  rintro ⟨after, later, ⟨before, rfl, -, -⟩, ⟨between, rfl, hfinish, -⟩⟩
  have hnone := closing?_isNone_iff.mp (by rw [h]; rfl)
  exact hnone (List.mem_map.mpr ⟨r.finish, by simp, hfinish⟩)

/-- **The regions are the pairs**, but for the names that are done. By induction on the markers: an
opening marker at the front decides about its name, and says nothing about another one. -/
theorem mem_regionsFrom_iff_paired :
    r ∈ regionsFrom done markers ↔ r.id ∉ done ∧ Paired markers r := by
  induction markers generalizing done with
  | nil => simp [regionsFrom, Paired, FirstOf]
  | cons x rest ih =>
    rw [regionsFrom]
    by_cases hkey : x.key = (.opening, r.id)
    · obtain ⟨hkind, hid⟩ := Prod.mk.inj hkey
      rw [paired_cons_of_eq hkey]
      split
      · rename_i hx
        have hdone : r.id ∉ done := hid ▸ hx.2
        cases hc : closing? x.id rest with
        | some finish =>
          rw [List.mem_cons, ih, Option.some.injEq]
          constructor
          · rintro (rfl | ⟨hnot, -⟩)
            · exact ⟨hdone, rfl, rfl⟩
            · exact absurd (hid ▸ List.mem_cons_self) hnot
          · rintro ⟨-, rfl, rfl⟩
            exact .inl rfl
        | none =>
          simp only
          rw [ih]
          have hlater : ¬ Paired rest r := not_paired_of_closing?_eq_none (hid ▸ hc)
          exact iff_of_false (fun h => hlater h.2) (fun h => absurd h.2.2 (by simp))
      · rename_i hx
        have hdone : r.id ∈ done :=
          Classical.not_not.mp fun hnot => hx ⟨hkind, hid ▸ hnot⟩
        rw [ih]
        exact iff_of_false (fun h => h.1 hdone) (fun h => h.1 hdone)
    · rw [paired_cons_of_ne hkey]
      split
      · rename_i hx
        have hid : r.id ≠ x.id := fun heq => hkey (Prod.ext hx.1 heq.symm)
        cases hc : closing? x.id rest with
        | some finish =>
          have hne : r ≠ ⟨x, finish⟩ := fun heq => hid (by rw [heq]; rfl)
          rw [List.mem_cons, ih, List.mem_cons, not_or]
          simp only [hne, hid, not_false_eq_true, true_and, false_or]
        | none => exact ih
      · exact ih

/-- **A name has a pair if and only if an opening marker of it has a closing one behind it.** -/
theorem exists_paired_iff {id : String} :
    (∃ r, r.id = id ∧ Paired markers r) ↔
      [(Kind.opening, id), (.closing, id)].Sublist (markers.map Marker.key) := by
  constructor
  · rintro ⟨r, rfl, after, later, ⟨before, rfl, hbegin, -⟩, ⟨between, rfl, hfinish, -⟩⟩
    rw [← hbegin, ← hfinish, List.map_append, List.map_cons, List.map_append, List.map_cons]
    have hclosing : [r.finish.key].Sublist
        (between.map Marker.key ++ r.finish.key :: later.map Marker.key) :=
      List.singleton_sublist.mpr (by simp)
    exact (hclosing.cons_cons _).trans (List.sublist_append_right _ _)
  · intro h
    induction markers with
    | nil => simp at h
    | cons x rest ih =>
      rw [List.map_cons] at h
      by_cases hkey : x.key = (.opening, id)
      · have hclosing : (Kind.closing, id) ∈ rest.map Marker.key :=
          List.singleton_sublist.mp h.tail
        obtain ⟨hkind, rfl⟩ := Prod.mk.inj hkey
        cases hc : closing? x.id rest with
        | some finish => exact ⟨⟨x, finish⟩, rfl, (paired_cons_of_eq hkey).mpr ⟨rfl, hc⟩⟩
        | none => exact absurd hclosing (closing?_isNone_iff.mp (by rw [hc]; rfl))
      · have hrest : [(Kind.opening, id), (.closing, id)].Sublist (rest.map Marker.key) := by
          rcases List.sublist_cons_iff.mp h with h | ⟨tail, heq, -⟩
          · exact h
          · exact absurd (List.cons.inj heq).1.symm hkey
        obtain ⟨r, rfl, hr⟩ := ih hrest
        exact ⟨r, rfl, (paired_cons_of_ne hkey).mpr hr⟩

theorem sublist_map_begin_regionsFrom (done : List String) (markers : List Marker) :
    ((regionsFrom done markers).map Region.begin).Sublist markers := by
  induction markers generalizing done with
  | nil => exact List.Sublist.refl _
  | cons x rest ih =>
    rw [regionsFrom]
    split
    · cases closing? x.id rest with
      | none => exact (ih done).cons x
      | some finish => exact (ih (x.id :: done)).cons_cons x
    · exact (ih done).cons x

theorem mem_regions_iff : r ∈ regions markers ↔ Paired markers r := by
  rw [regions, mem_regionsFrom_iff_paired]
  exact and_iff_right List.not_mem_nil

end Pairs

/-! ## Bodies -/

section Bodies

variable {document : List Char} {markers : List Marker} {r : Region}

theorem begin_stop_le_finish_start (hs : Spaced markers) (hr : r ∈ regions markers) :
    r.begin.stop ≤ r.finish.start := by
  obtain ⟨after, later, ⟨before, rfl, -, -⟩, ⟨between, rfl, -, -⟩⟩ := mem_regions_iff.mp hr
  have hbehind := (List.pairwise_cons.mp (List.pairwise_append.mp hs.1).2.1).1
  exact hbehind r.finish (by simp)

/-- **A body can be cut out** of the text where its markers say. -/
theorem exists_cut (hr : r ∈ regions (scan document)) :
    ∃ front back, document = front ++ (r.body document ++ back) ∧ front.length = r.begin.stop ∧
      front.length + (r.body document).length = r.finish.start := by
  have hle := begin_stop_le_finish_start (spaced_scan document) hr
  have hfinish := (id_of_mem_regionsFrom hr).2.2.1
  have hstart := start_lt_stop hfinish
  have hstop := stop_le_length hfinish
  refine ⟨document.take r.begin.stop, document.drop r.finish.start, ?_, ?_, ?_⟩
  · have hbody : document.take r.begin.stop ++ r.body document = document.take r.finish.start := by
      have hparts := List.take_append_drop r.begin.stop (document.take r.finish.start)
      rwa [List.take_take, Nat.min_eq_left hle] at hparts
    calc document
        = document.take r.finish.start ++ document.drop r.finish.start :=
          (List.take_append_drop _ _).symm
      _ = (document.take r.begin.stop ++ r.body document) ++ document.drop r.finish.start := by
          rw [hbody]
      _ = document.take r.begin.stop ++ (r.body document ++ document.drop r.finish.start) :=
          List.append_assoc _ _ _
  · rw [List.length_take]
    omega
  · rw [Region.body, List.length_drop, List.length_take, List.length_take]
    omega

end Bodies

/-! ## Regions -/

/-- **Regions pair the first markers of a name.** Of any list of markers, there is one region for
each name that has a closing marker behind an opening one, and no other; it is the pair of the first
such markers, and regions come in the order of the markers that begin them. In a text the first
marker of a region ends before the second one begins, the body is what stands between them, and
every region has its own block. -/
theorem regions_pair (markers : List Marker) (document : List Char) :
    ((regions markers).map Region.id).Nodup ∧
    (∀ id, id ∈ (regions markers).map Region.id ↔
      [(Kind.opening, id), (.closing, id)].Sublist (markers.map Marker.key)) ∧
    (∀ r, r ∈ regions markers ↔
      ∃ after rest, FirstOf (.opening, r.id) markers r.begin after ∧
        FirstOf (.closing, r.id) after r.finish rest) ∧
    ((regions markers).map Region.begin).Sublist markers ∧
    ((regions (scan document)).Pairwise fun a b => a.begin.start < b.begin.start) ∧
    (∀ r ∈ regions (scan document),
      r.begin.stop ≤ r.finish.start ∧
      ∃ front back, document = front ++ (r.body document ++ back) ∧
        front.length = r.begin.stop ∧
        front.length + (r.body document).length = r.finish.start) ∧
    (extract document).entries =
      (regions (scan document)).map fun r => (r.id, Text.trimEnd (r.body document)) := by
  refine ⟨nodup_map_id_regionsFrom [] markers, fun id => ?_, fun r => mem_regions_iff,
    sublist_map_begin_regionsFrom [] markers, ?_, fun r hr => ⟨?_, exists_cut hr⟩,
    entries_extract document⟩
  · rw [← exists_paired_iff, List.mem_map]
    exact exists_congr fun r => by rw [mem_regions_iff, and_comm]
  · have hstarts : (scan document).Pairwise fun a b => a.start < b.start :=
      (scan_pairwise document).imp_of_mem fun ha _ hle =>
        Nat.lt_of_lt_of_le (start_lt_stop ha) hle
    have hbegins : ((regions (scan document)).map Region.begin).Pairwise fun a b =>
        a.start < b.start := hstarts.sublist (sublist_map_begin_regionsFrom [] (scan document))
    rwa [List.pairwise_map] at hbegins
  · exact begin_stop_le_finish_start (spaced_scan document) hr

/-- Regions that overlap, a closing marker in front of all opening ones, and a second region. -/
example :
    let text := "/*USER CODE END a*/ /*USER CODE BEGIN a*/ 1 /*USER CODE BEGIN b*/ 2 " ++
      "/*USER CODE END a*/ 3 /*USER CODE END b*/ /*USER CODE BEGIN a*/ /*USER CODE END a*/"
    (regions (scan text.toList)).map (fun r => (r.id, r.begin.start, r.finish.start)) =
      [("a", 20, 68), ("b", 44, 90)] := by
  decide +kernel

end GuardedUi.Guard
