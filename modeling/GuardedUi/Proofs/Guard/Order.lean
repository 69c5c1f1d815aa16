import GuardedUi.Guard.Diagnostic
import GuardedUi.Proofs.Guard.Scanning

/-!
# `Proofs/Guard/Order` — when the markers of a document are in order

A document is fit for taking user code out of it if `diagnose` finds nothing. `Orderly` says what
that means for the sequence of markers, as a derivation from the front: the first marker of a name
opens a region, the next marker closes it, and from then on markers of that name are passed over.

> **Nothing is diagnosed exactly if the markers are orderly and no name is left open**
> (`diagnose_eq_nil_iff`).

The three tests of `diagnose` work with later and earlier markers and with places in the text, the
derivation only with the keys of the markers, one after the other. Everything about regions is proved
by induction on it.
-/

set_option autoImplicit false

namespace GuardedUi.Guard

/-! ## Markers in order -/

/-- Markers are in order, of which those of the names `done` have had their regions before. -/
inductive Orderly : List String → List (Kind × String) → Prop where
  | nil (done : List String) : Orderly done []
  /-- A marker of a name that has its region is passed over. -/
  | stray {done : List String} {kind : Kind} {id : String} {rest : List (Kind × String)} :
      id ∈ done → Orderly done rest → Orderly done ((kind, id) :: rest)
  /-- The region of a name. -/
  | region {done : List String} {id : String} {rest : List (Kind × String)} :
      id ∉ done → Orderly (id :: done) rest →
      Orderly done ((.opening, id) :: (.closing, id) :: rest)

/-- Every opening marker has a closing one of its name behind it. -/
def Settled (found : List (Kind × String)) : Prop :=
  ∀ before id after, found = before ++ (.opening, id) :: after → (.closing, id) ∈ after

theorem Settled.tail {x : Kind × String} {rest : List (Kind × String)} (h : Settled (x :: rest)) :
    Settled rest :=
  fun before id after heq => h (x :: before) id after (by rw [heq, List.cons_append])

/-- The keys of regions of the given names, one behind the other. -/
def regionKeys (ids : List String) : List (Kind × String) :=
  ids.flatMap fun id => [(.opening, id), (.closing, id)]

@[simp] theorem regionKeys_append (a b : List String) :
    regionKeys (a ++ b) = regionKeys a ++ regionKeys b :=
  List.flatMap_append

/-- Regions one behind the other leave no name open. -/
theorem settled_regionKeys (ids : List String) : Settled (regionKeys ids) := by
  induction ids with
  | nil => simp [Settled, regionKeys]
  | cons first rest ih =>
    intro before id after heq
    rw [regionKeys, List.flatMap_cons] at heq
    match before with
    | [] =>
      obtain ⟨hfirst, rfl⟩ := List.cons.inj heq
      obtain ⟨-, rfl⟩ := Prod.mk.inj hfirst
      exact List.mem_cons_self
    | [x] => simp at heq
    | x :: y :: before => exact ih before id after (List.cons.inj (List.cons.inj heq).2).2

/-! ## The three tests -/

theorem closing?_isNone_iff {id : String} {markers : List Marker} :
    (closing? id markers).isNone = true ↔ (.closing, id) ∉ markers.map Marker.key := by
  simp only [closing?, Option.isNone_iff_eq_none, List.find?_eq_none, Bool.and_eq_true,
    beq_iff_eq, List.mem_map, Marker.key, Prod.mk.injEq, not_exists, not_and]

theorem unclosed_eq_nil_iff {markers : List Marker} :
    unclosed markers = [] ↔ Settled (markers.map Marker.key) := by
  induction markers with
  | nil =>
    simp [unclosed, Settled]
  | cons m rest ih =>
    rw [unclosed]
    constructor
    · intro h
      split at h
      · simp at h
      · rename_i hopen
        intro before id after heq
        cases before with
        | nil =>
          simp only [List.map_cons, List.nil_append, List.cons.injEq, Marker.key,
            Prod.mk.injEq] at heq
          obtain ⟨⟨hkind, rfl⟩, hafter⟩ := heq
          rw [← hafter]
          exact Classical.not_not.mp fun hn => hopen ⟨hkind, closing?_isNone_iff.mpr hn⟩
        | cons x xs => exact ih.mp h xs id after (List.cons.inj heq).2
    · intro h
      rw [if_neg, ih]
      · exact h.tail
      · rintro ⟨hkind, hnone⟩
        exact closing?_isNone_iff.mp hnone (h [] m.id _ (by simp [Marker.key, hkind]))

/-- Only which names are open counts, not how often they were opened. -/
theorem unopened_congr {a b : List String} (h : ∀ id, id ∈ a ↔ id ∈ b) (markers : List Marker) :
    unopened a markers = unopened b markers := by
  induction markers generalizing a b with
  | nil => rfl
  | cons m rest ih =>
    rw [unopened, unopened]
    cases m.kind with
    | opening => exact ih fun id => by simp [h id]
    | closing => simp only [h m.id, ih h]

theorem id_of_mem_regionsFrom {done : List String} {markers : List Marker} {r : Region}
    (h : r ∈ regionsFrom done markers) :
    r.id ∉ done ∧ r.begin ∈ markers ∧ r.finish ∈ markers ∧ r.finish.id = r.id := by
  induction markers generalizing done with
  | nil => simp [regionsFrom] at h
  | cons m rest ih =>
    rw [regionsFrom] at h
    split at h
    · rename_i hm
      cases hc : closing? m.id rest with
      | none =>
        rw [hc] at h
        obtain ⟨hd, hb, hf, hid⟩ := ih h
        exact ⟨hd, List.mem_cons_of_mem m hb, List.mem_cons_of_mem m hf, hid⟩
      | some finish =>
        rw [hc] at h
        rcases List.mem_cons.mp h with rfl | h
        · have hf := List.find?_some hc
          simp only [Bool.and_eq_true, beq_iff_eq] at hf
          exact ⟨hm.2, List.mem_cons_self,
            List.mem_cons_of_mem m (List.mem_of_find?_eq_some hc), hf.2⟩
        · obtain ⟨hd, hb, hf, hid⟩ := ih h
          exact ⟨fun hmem => hd (List.mem_cons_of_mem m.id hmem), List.mem_cons_of_mem m hb,
            List.mem_cons_of_mem m hf, hid⟩
    · obtain ⟨hd, hb, hf, hid⟩ := ih h
      exact ⟨hd, List.mem_cons_of_mem m hb, List.mem_cons_of_mem m hf, hid⟩

/-! ## Regions of orderly markers -/

/-- A marker whose name has its region starts none. -/
theorem regionsFrom_stray {done : List String} {m : Marker} {rest : List Marker}
    (h : m.id ∈ done) : regionsFrom done (m :: rest) = regionsFrom done rest := by
  rw [regionsFrom, if_neg fun hm => hm.2 h]

/-- Two markers that follow each other and belong together are a region. -/
theorem regionsFrom_region {done : List String} {b e : Marker} {rest : List Marker} {id : String}
    (hb : b.key = (.opening, id)) (he : e.key = (.closing, id)) (hid : id ∉ done) :
    regionsFrom done (b :: e :: rest) = ⟨b, e⟩ :: regionsFrom (id :: done) rest := by
  obtain ⟨hbk, rfl⟩ := Prod.mk.inj hb
  obtain ⟨hek, hei⟩ := Prod.mk.inj he
  have hc : closing? b.id (e :: rest) = some e := by
    rw [closing?, List.find?_cons_of_pos (by simp [hek, hei])]
  rw [regionsFrom, if_pos ⟨hbk, hid⟩, hc]
  simp only [List.cons.injEq, true_and]
  rw [regionsFrom_stray (by rw [hei]; exact List.mem_cons_self)]

/-! ## Nothing is diagnosed exactly if the markers are orderly -/

/-- Markers as scanning finds them: each one ends behind its beginning and before the next. -/
def Spaced (markers : List Marker) : Prop :=
  (markers.Pairwise fun m n => m.stop ≤ n.start) ∧ ∀ m ∈ markers, m.start < m.stop

theorem spaced_scan (document : List Char) : Spaced (scan document) :=
  ⟨scan_pairwise document, fun _ => start_lt_stop⟩

theorem Spaced.tail {m : Marker} {rest : List Marker} (h : Spaced (m :: rest)) : Spaced rest :=
  ⟨(List.pairwise_cons.mp h.1).2, fun n hn => h.2 n (List.mem_cons_of_mem m hn)⟩

theorem Spaced.stop_le {m n : Marker} {rest : List Marker} (h : Spaced (m :: rest))
    (hn : n ∈ rest) : m.stop ≤ n.start :=
  (List.pairwise_cons.mp h.1).1 n hn

/-- A region of spaced markers that encloses none of them closes with the marker behind the one
that opens it. -/
theorem closing?_eq_head {m x finish : Marker} {rest : List Marker} (hs : Spaced (m :: x :: rest))
    (hc : closing? m.id (x :: rest) = some finish)
    (hx : Region.contains ⟨m, finish⟩ x = false) : x = finish := by
  rw [closing?, List.find?_cons] at hc
  split at hc
  · exact Option.some.inj hc
  · have hf : finish ∈ rest := List.mem_of_find?_eq_some hc
    have h₁ := hs.stop_le (List.mem_cons_self : x ∈ x :: rest)
    have h₂ := hs.tail.stop_le hf
    simp [Region.contains, h₁, h₂] at hx

/-- What the three tests find out, marker by marker. A name is open as soon as it has its region,
so the names of the test for openings are those of the derivation. -/
theorem orderly_of_tests : ∀ (markers : List Marker) (done : List String), Spaced markers →
    Settled (markers.map Marker.key) → unopened done markers = [] →
    (∀ r ∈ regionsFrom done markers, ∀ m ∈ markers, r.contains m = false) →
    Orderly done (markers.map Marker.key)
  | [], done, _, _, _, _ => .nil done
  | m :: rest, done, hs, hset, hopen, henc => by
    by_cases hd : m.id ∈ done
    · refine .stray hd (orderly_of_tests rest done hs.tail hset.tail ?_ ?_)
      · rw [unopened] at hopen
        cases hk : m.kind with
        | opening =>
          rw [hk] at hopen
          rw [← hopen]
          exact unopened_congr (fun id => by simp; rintro rfl; exact hd) rest
        | closing => simpa [hk, hd] using hopen
      · rw [regionsFrom_stray hd] at henc
        exact fun r hr n hn => henc r hr n (List.mem_cons_of_mem m hn)
    · have hk : m.kind = .opening := by
        cases hk : m.kind with
        | opening => rfl
        | closing => simp [unopened, hk, hd] at hopen
      have hm : m.key = (.opening, m.id) := by rw [Marker.key, hk]
      have hclosed : (.closing, m.id) ∈ rest.map Marker.key :=
        hset [] m.id _ (by rw [List.map_cons, hm, List.nil_append])
      -- The region that is opened here encloses nothing, so the next marker closes it.
      match rest, hclosed with
      | x :: rest, hclosed =>
        cases hc : closing? m.id (x :: rest) with
        | none => exact absurd hclosed (closing?_isNone_iff.mp (by rw [hc]; rfl))
        | some finish =>
          have hmem : (⟨m, finish⟩ : Region) ∈ regionsFrom done (m :: x :: rest) := by
            rw [regionsFrom, if_pos ⟨hk, hd⟩, hc]
            exact List.mem_cons_self
          obtain rfl := closing?_eq_head hs hc (henc _ hmem x (by simp))
          have hf := List.find?_some hc
          simp only [Bool.and_eq_true, beq_iff_eq] at hf
          have hx : x.key = (.closing, m.id) := by rw [Marker.key, hf.1, hf.2]
          rw [List.map_cons, List.map_cons, hm, hx]
          refine .region hd (orderly_of_tests rest (m.id :: done) hs.tail.tail hset.tail.tail ?_ ?_)
          · simpa [unopened, hk, hf.1, hf.2] using hopen
          · rw [regionsFrom_region hm hx hd] at henc
            exact fun r hr n hn => henc r (List.mem_cons_of_mem _ hr) n (by simp [hn])

theorem unopened_of_orderly {markers : List Marker} {done : List String}
    (h : Orderly done (markers.map Marker.key)) : unopened done markers = [] := by
  generalize hkeys : markers.map Marker.key = found at h
  induction h generalizing markers with
  | nil done =>
    obtain rfl := List.map_eq_nil_iff.mp hkeys
    rfl
  | stray hd _ ih =>
    obtain ⟨m, rest, rfl, hm, hrest⟩ := List.map_eq_cons_iff.mp hkeys
    obtain ⟨-, rfl⟩ := Prod.mk.inj hm
    rw [unopened]
    cases m.kind with
    | opening =>
      simp only
      rw [← ih hrest]
      exact unopened_congr (fun id => by simp; rintro rfl; exact hd) rest
    | closing => simp only [hd, if_true, ih hrest]
  | region hd _ ih =>
    obtain ⟨b, tail, rfl, hb, htail⟩ := List.map_eq_cons_iff.mp hkeys
    obtain ⟨e, rest, rfl, he, hrest⟩ := List.map_eq_cons_iff.mp htail
    obtain ⟨hbk, rfl⟩ := Prod.mk.inj hb
    obtain ⟨hek, hei⟩ := Prod.mk.inj he
    simp only [unopened, hbk, hek, hei, List.mem_cons, true_or, if_true]
    exact ih hrest

/-- The two markers of a region of orderly markers follow each other. -/
theorem adjacent_of_mem_regionsFrom {markers : List Marker} {done : List String} {r : Region}
    (h : Orderly done (markers.map Marker.key)) (hr : r ∈ regionsFrom done markers) :
    ∃ before after, markers = before ++ r.begin :: r.finish :: after := by
  generalize hkeys : markers.map Marker.key = found at h
  induction h generalizing markers with
  | nil done =>
    obtain rfl := List.map_eq_nil_iff.mp hkeys
    simp [regionsFrom] at hr
  | stray hd _ ih =>
    obtain ⟨m, rest, rfl, hm, hrest⟩ := List.map_eq_cons_iff.mp hkeys
    obtain ⟨-, rfl⟩ := Prod.mk.inj hm
    rw [regionsFrom_stray hd] at hr
    obtain ⟨before, after, rfl⟩ := ih hr hrest
    exact ⟨m :: before, after, rfl⟩
  | region hd _ ih =>
    obtain ⟨b, tail, rfl, hb, htail⟩ := List.map_eq_cons_iff.mp hkeys
    obtain ⟨e, rest, rfl, he, hrest⟩ := List.map_eq_cons_iff.mp htail
    rw [regionsFrom_region hb he hd] at hr
    rcases List.mem_cons.mp hr with rfl | hr
    · exact ⟨[], rest, rfl⟩
    · obtain ⟨before, after, rfl⟩ := ih hr hrest
      exact ⟨b :: e :: before, after, rfl⟩

/-- Two neighbours have nothing between them. -/
theorem contains_eq_false_of_adjacent {markers before after : List Marker} {r : Region} {m : Marker}
    (hs : Spaced markers) (heq : markers = before ++ r.begin :: r.finish :: after)
    (hm : m ∈ markers) : r.contains m = false := by
  have hlt := hs.2
  have hp := hs.1
  subst heq
  have hb := hlt r.begin (by simp)
  have hf := hlt r.finish (by simp)
  have hml := hlt m hm
  rw [List.pairwise_append] at hp
  obtain ⟨-, hp, hcross⟩ := hp
  obtain ⟨hp₁, hp₂⟩ := List.pairwise_cons.mp hp
  obtain ⟨hp₃, -⟩ := List.pairwise_cons.mp hp₂
  have hcases : m.stop ≤ r.begin.start ∨ m = r.begin ∨ m = r.finish ∨ r.finish.stop ≤ m.start := by
    simp only [List.mem_append, List.mem_cons] at hm
    rcases hm with hm | rfl | rfl | hm
    · exact Or.inl (hcross m hm r.begin List.mem_cons_self)
    · exact Or.inr (Or.inl rfl)
    · exact Or.inr (Or.inr (Or.inl rfl))
    · exact Or.inr (Or.inr (Or.inr (hp₃ m hm)))
  rw [Region.contains, Bool.and_eq_false_iff, decide_eq_false_iff_not, decide_eq_false_iff_not]
  rcases hcases with h | rfl | rfl | h <;> omega

theorem enclosing_of_orderly {document : List Char} (h : Orderly [] (keys document)) :
    enclosing (scan document) = [] := by
  rw [enclosing, List.map_eq_nil_iff, List.filter_eq_nil_iff]
  intro r hr hany
  obtain ⟨m, hm, hcontains⟩ := List.any_eq_true.mp hany
  obtain ⟨before, after, heq⟩ := adjacent_of_mem_regionsFrom h hr
  rw [contains_eq_false_of_adjacent (spaced_scan document) heq hm] at hcontains
  exact absurd hcontains (by simp)

theorem firstOfEach_eq_nil_iff {markers : List Marker} :
    firstOfEach [] markers = [] ↔ markers = [] := by
  cases markers <;> simp [firstOfEach]

theorem report_eq_nil_iff {document : List Char} {issue : Issue} {markers : List Marker} :
    report document issue markers = [] ↔ markers = [] := by
  rw [report, List.map_eq_nil_iff, firstOfEach_eq_nil_iff]

/-- **Nothing is diagnosed exactly if the markers are orderly and no name is left open.** -/
theorem diagnose_eq_nil_iff {document : List Char} :
    diagnose document = [] ↔ Orderly [] (keys document) ∧ Settled (keys document) := by
  simp only [diagnose, List.append_eq_nil_iff, report_eq_nil_iff, unclosed_eq_nil_iff]
  constructor
  · rintro ⟨⟨hset, hopen⟩, henc⟩
    refine ⟨orderly_of_tests _ [] (spaced_scan document) hset hopen fun r hr m hm => ?_, hset⟩
    rw [enclosing, List.map_eq_nil_iff, List.filter_eq_nil_iff] at henc
    exact Bool.eq_false_iff.mpr fun hc => henc r hr (List.any_eq_true.mpr ⟨m, hm, hc⟩)
  · rintro ⟨horderly, hset⟩
    exact ⟨⟨hset, unopened_of_orderly horderly⟩, enclosing_of_orderly horderly⟩

end GuardedUi.Guard
