import GuardedUi.Proofs.Guard.Seam

/-!
# `Proofs/Guard/Scanning` — scanning a text piece by piece

> **A seam that no marker crosses can be cut**: if `Apart a b`, the markers of `a ++ b` are those of
> `a` and then those of `b` (`scanFrom_append`).

One seam is not of this kind, the one behind a marker: there a second marker could begin with the
slash that the first one ends with. Scanning goes on behind the first one and does not see it
(`scanFrom_marker_append`).

With these two, `scan` is known on every text that is given by its pieces, and every text is given
so: `exists_of_keys_eq_cons` takes it apart at its first marker. The key of a marker is its kind and
its name; `keys` forgets where the markers are, which is enough wherever documents are compared.
-/

set_option autoImplicit false

namespace GuardedUi.Guard

/-! ## Scanning across a seam -/

theorem markerAt?_append_of_apart {a b : List Char} (h : Apart a b) (hne : a ≠ []) :
    markerAt? (a ++ b) = (markerAt? a).map fun read => (read.1, read.2.1, read.2.2 ++ b) := by
  cases ha : markerAt? a with
  | some read =>
    obtain ⟨kind, id, rest⟩ := read
    obtain ⟨mark, hm, rfl⟩ := markerAt?_eq_some_iff.mp ha
    rw [List.append_assoc, markerAt?_append hm, Option.map_some]
  | none =>
    rw [Option.map_none, Option.eq_none_iff_forall_ne_some]
    rintro ⟨kind, id, rest⟩ hab
    obtain ⟨mark, hm, heq⟩ := markerAt?_eq_some_iff.mp hab
    have hnot : ∀ rest', a ≠ mark ++ rest' := fun rest' ha' => by
      rw [ha', markerAt?_append hm] at ha
      exact absurd ha (by simp)
    -- A marker that is read only with `b` behind would end in `b`, or it is read without `b` too.
    rcases List.append_eq_append_iff.mp heq with ⟨as, hmark, hb⟩ | ⟨bs, haeq, -⟩
    · by_cases has : as = []
      · exact hnot [] (by simp [hmark, has])
      · exact h kind id a as hne has List.suffix_rfl ⟨rest, hb.symm⟩ (hmark ▸ hm)
    · exact hnot bs haeq

theorem ofPrefix?_append_of_apart {a b : List Char} (h : Apart a b) (hne : a ≠ []) :
    Mark.ofPrefix? (a ++ b) = Mark.ofPrefix? a := by
  unfold Mark.ofPrefix?
  rw [markerAt?_append_of_apart h hne, Option.map_map]
  congr 1
  funext ⟨kind, id, rest⟩
  simp only [Function.comp_apply, List.length_append, Mark.mk.injEq, true_and]
  omega

theorem ofPrefix?_eq_some {text : List Char} {mark : Mark} (h : Mark.ofPrefix? text = some mark) :
    ∃ m rest, IsMarker mark.kind mark.id m ∧ text = m ++ rest ∧ mark.length = m.length := by
  obtain ⟨⟨kind, id, rest⟩, hread, rfl⟩ := Option.map_eq_some_iff.mp h
  obtain ⟨m, hm, rfl⟩ := markerAt?_eq_some_iff.mp hread
  exact ⟨m, rest, hm, rfl, by simp⟩

theorem ofPrefix?_append {kind : Kind} {id mark rest : List Char} (h : IsMarker kind id mark) :
    Mark.ofPrefix? (mark ++ rest) = some ⟨kind, id, mark.length⟩ := by
  simp [Mark.ofPrefix?, markerAt?_append h]

/-- Scanning passes over the characters that it is told to. -/
theorem scanFrom_skip {position skip : Nat} {text : List Char} (h : skip ≤ text.length) :
    scanFrom position skip text = scanFrom (position + skip) 0 (text.drop skip) := by
  induction text generalizing position skip with
  | nil =>
    obtain rfl : skip = 0 := by simpa using h
    rfl
  | cons c rest ih =>
    cases skip with
    | zero => rfl
    | succ skip =>
      have hle : skip ≤ rest.length := by simpa using h
      rw [scanFrom, ih hle, List.drop_succ_cons]
      congr 1
      omega

/-- Behind a marker scanning goes on, whatever the marker could be part of. -/
theorem scanFrom_marker_append {kind : Kind} {id mark rest : List Char} {position : Nat}
    (h : IsMarker kind id mark) :
    scanFrom position 0 (mark ++ rest) =
      ⟨kind, String.ofList id, position, position + mark.length⟩ ::
        scanFrom (position + mark.length) 0 rest := by
  obtain ⟨c, cs, rfl⟩ := List.exists_cons_of_ne_nil h.ne_nil
  have hread : Mark.ofPrefix? (c :: cs ++ rest) = _ := ofPrefix?_append h
  rw [List.cons_append] at hread ⊢
  rw [scanFrom, hread]
  simp only [List.length_cons, Nat.add_sub_cancel, List.cons.injEq, true_and]
  rw [scanFrom_skip (by simp), List.drop_left]
  congr 1
  omega

/-- **A seam that no marker crosses can be cut.** The induction is on the first text, and the
characters that are still to be passed over stay inside it because every marker does. -/
theorem scanFrom_append_of_apart {a b : List Char} {position skip : Nat} (h : Apart a b)
    (hskip : skip ≤ a.length) :
    scanFrom position skip (a ++ b) =
      scanFrom position skip a ++ scanFrom (position + a.length) 0 b := by
  induction a generalizing position skip with
  | nil =>
    obtain rfl : skip = 0 := by simpa using hskip
    rfl
  | cons c cs ih =>
    have hcs : Apart cs b := h.of_suffix (List.suffix_cons c cs)
    have hlen : position + (c :: cs).length = position + 1 + cs.length := by
      simp only [List.length_cons]
      omega
    cases skip with
    | succ skip =>
      rw [List.cons_append, scanFrom, scanFrom, ih hcs (by simpa using hskip), hlen]
    | zero =>
      have hread := ofPrefix?_append_of_apart h (List.cons_ne_nil c cs)
      rw [List.cons_append] at hread ⊢
      rw [scanFrom, scanFrom, hread]
      cases hc : Mark.ofPrefix? (c :: cs) with
      | none => simp only [ih hcs (Nat.zero_le _), hlen]
      | some mark =>
        obtain ⟨m, rest, -, heq, hm⟩ := ofPrefix?_eq_some hc
        have hle : mark.length ≤ (c :: cs).length := by rw [hm, heq]; simp
        simp only [List.length_cons] at hle
        simp only [ih hcs (show mark.length - 1 ≤ cs.length by omega), hlen, List.cons_append]

theorem scanFrom_append {a b : List Char} (h : Apart a b) (position : Nat) :
    scanFrom position 0 (a ++ b) =
      scanFrom position 0 a ++ scanFrom (position + a.length) 0 b :=
  scanFrom_append_of_apart h (Nat.zero_le _)

/-! ## Where markers are -/

/-- What is found lies in the text, one marker behind the other. -/
theorem scanFrom_bounds (position skip : Nat) (text : List Char) :
    (∀ m ∈ scanFrom position skip text, position + skip ≤ m.start ∧ m.start < m.stop) ∧
      (scanFrom position skip text).Pairwise fun m n => m.stop ≤ n.start := by
  induction text generalizing position skip with
  | nil => cases skip <;> simp [scanFrom]
  | cons c cs ih =>
    cases skip with
    | succ skip =>
      rw [scanFrom]
      refine ⟨fun m hm => ?_, (ih (position + 1) skip).2⟩
      have := (ih (position + 1) skip).1 m hm
      omega
    | zero =>
      rw [scanFrom]
      cases hc : Mark.ofPrefix? (c :: cs) with
      | none =>
        refine ⟨fun m hm => ?_, (ih (position + 1) 0).2⟩
        have := (ih (position + 1) 0).1 m hm
        omega
      | some mark =>
        -- What is found later lies behind the characters of the marker, which are passed over.
        obtain ⟨text, rest, htext, -, hlen⟩ := ofPrefix?_eq_some hc
        have hpos : 0 < mark.length := by
          rw [hlen]
          exact List.length_pos_iff.mpr htext.ne_nil
        obtain ⟨hb, hp⟩ := ih (position + 1) (mark.length - 1)
        refine ⟨fun m hm => ?_, List.pairwise_cons.mpr ⟨fun m hm => ?_, hp⟩⟩
        · rcases List.mem_cons.mp hm with rfl | hm
          · simp only
            omega
          · have := hb m hm
            omega
        · have := hb m hm
          simp only
          omega

theorem scan_pairwise (document : List Char) :
    (scan document).Pairwise fun m n => m.stop ≤ n.start :=
  (scanFrom_bounds 0 0 document).2

theorem start_lt_stop {document : List Char} {m : Marker} (h : m ∈ scan document) :
    m.start < m.stop :=
  ((scanFrom_bounds 0 0 document).1 m h).2

/-! ## Keys

The kinds and names of the markers of a text, without their places. On pieces that are put together
this is a plain concatenation. -/

/-- Which end of which region a marker is, wherever it stands. -/
def Marker.key (m : Marker) : Kind × String :=
  (m.kind, m.id)

/-- The keys of the markers of a text, in order. -/
def keys (text : List Char) : List (Kind × String) :=
  (scan text).map Marker.key

theorem map_key_scanFrom (position skip : Nat) (text : List Char) :
    (scanFrom position skip text).map Marker.key = (scanFrom 0 skip text).map Marker.key := by
  induction text generalizing position skip with
  | nil => cases skip <;> rfl
  | cons c cs ih =>
    cases skip with
    | succ skip => rw [scanFrom, scanFrom, ih, ih (0 + 1)]
    | zero =>
      rw [scanFrom, scanFrom]
      cases Mark.ofPrefix? (c :: cs) with
      | none => simp only [ih (position + 1), ih (0 + 1)]
      | some mark =>
        simp only [List.map_cons, ih (position + 1), ih (0 + 1)]
        rfl

theorem keys_append {a b : List Char} (h : Apart a b) : keys (a ++ b) = keys a ++ keys b := by
  rw [keys, scan, scanFrom_append h, List.map_append, map_key_scanFrom (0 + a.length)]
  rfl

theorem keys_marker_append {kind : Kind} {id mark rest : List Char} (h : IsMarker kind id mark) :
    keys (mark ++ rest) = (kind, String.ofList id) :: keys rest := by
  rw [keys, scan, scanFrom_marker_append h, List.map_cons, map_key_scanFrom (0 + mark.length)]
  rfl

theorem Closed.keys_append {a : List Char} (h : Closed a) (b : List Char) :
    keys (a ++ b) = keys a ++ keys b :=
  Guard.keys_append (h b)

/-- Nothing is found in a text without markers, since what is found is one. -/
theorem scanFrom_eq_nil {text : List Char} (h : MarkerFree text) (position skip : Nat) :
    scanFrom position skip text = [] := by
  induction text generalizing position skip with
  | nil => cases skip <;> rfl
  | cons c cs ih =>
    have hcs : MarkerFree cs := h.of_isInfix (List.suffix_cons c cs).isInfix
    cases skip with
    | succ skip => rw [scanFrom, ih hcs]
    | zero =>
      rw [scanFrom]
      cases hc : Mark.ofPrefix? (c :: cs) with
      | none => simp only [ih hcs]
      | some mark =>
        obtain ⟨m, rest, hm, heq, -⟩ := ofPrefix?_eq_some hc
        exact absurd (heq ▸ List.infix_append_left) (h _ _ m hm)

theorem keys_eq_nil {text : List Char} (h : MarkerFree text) : keys text = [] := by
  rw [keys, scan, scanFrom_eq_nil h, List.map_nil]

/-- A text in which nothing is found has no markers: scanning passes over nothing in it, so it
tries every place. -/
theorem markerFree_of_scanFrom_eq_nil {text : List Char} {position : Nat}
    (h : scanFrom position 0 text = []) : MarkerFree text := by
  induction text generalizing position with
  | nil => exact markerFree_of_slash_not_mem (by simp)
  | cons c cs ih =>
    rw [scanFrom] at h
    cases hc : Mark.ofPrefix? (c :: cs) with
    | some mark => simp [hc] at h
    | none =>
      rw [hc] at h
      intro kind id mark hm hi
      rcases List.infix_cons_iff.mp hi with ⟨rest, hrest⟩ | hi
      · rw [← hrest, ofPrefix?_append hm] at hc
        exact absurd hc (by simp)
      · exact ih h kind id mark hm hi

theorem keys_eq_nil_iff {text : List Char} : keys text = [] ↔ MarkerFree text :=
  ⟨fun h => markerFree_of_scanFrom_eq_nil (List.map_eq_nil_iff.mp h), keys_eq_nil⟩

/-! ## The first marker -/

theorem markerFree_slash : MarkerFree ['/'] := by
  intro kind id mark hm hi
  obtain ⟨rest, rfl⟩ := hm.head_eq
  have := hi.length_le
  simp at this

/-- A text with a marker begins with its first one, and a slash behind what stands before that
would make no marker. -/
theorem exists_first_marker {text : List Char} (h : ¬ MarkerFree text) :
    ∃ lead kind id mark rest, text = lead ++ (mark ++ rest) ∧ IsMarker kind id mark ∧
      MarkerFree (lead ++ ['/']) := by
  induction text with
  | nil => exact absurd (markerFree_of_slash_not_mem (by simp)) h
  | cons c cs ih =>
    by_cases hfront : ∃ kind id mark, IsMarker kind id mark ∧ mark <+: c :: cs
    · obtain ⟨kind, id, mark, hm, rest, hrest⟩ := hfront
      exact ⟨[], kind, id, mark, rest, hrest.symm, hm, markerFree_slash⟩
    · -- No marker begins here, so the first one is the first one of the rest.
      have hcs : ¬ MarkerFree cs := fun hcs => h fun kind id mark hm hi => by
        rcases List.infix_cons_iff.mp hi with hi | hi
        · exact hfront ⟨kind, id, mark, hm, hi⟩
        · exact hcs kind id mark hm hi
      obtain ⟨lead, kind, id, mark, rest, rfl, hm, hlead⟩ := ih hcs
      refine ⟨c :: lead, kind, id, mark, rest, rfl, hm, fun kind' id' mark' hm' hi => ?_⟩
      rcases List.infix_cons_iff.mp hi with hi | hi
      · -- The slash is the one that the first marker begins with, so this one begins here as well.
        obtain ⟨tail, rfl⟩ := hm.head_eq
        exact hfront ⟨kind', id', mark', hm', hi.trans ⟨'*' :: tail ++ rest, by simp⟩⟩
      · exact hlead kind' id' mark' hm' hi

/-- Before the slash of a marker no other marker ends. -/
theorem apart_of_markerFree_slash {lead rest : List Char} (h : MarkerFree (lead ++ ['/'])) :
    Apart lead ('/' :: rest) := by
  intro kind id x y hx hy hxl hyr hm
  obtain ⟨d, ds, rfl⟩ := List.exists_cons_of_ne_nil hy
  obtain rfl : d = '/' := (List.cons_prefix_cons.mp hyr).1
  obtain ⟨rfl, -⟩ := hm.slash_split hx
  obtain ⟨s, rfl⟩ := hxl
  exact h kind id _ hm ⟨s, [], by simp⟩

theorem scanFrom_lead_append {lead mark rest : List Char} {kind : Kind} {id : List Char}
    (hm : IsMarker kind id mark) (hl : MarkerFree (lead ++ ['/'])) (position : Nat) :
    scanFrom position 0 (lead ++ (mark ++ rest)) =
      ⟨kind, String.ofList id, position + lead.length, position + lead.length + mark.length⟩ ::
        scanFrom (position + lead.length + mark.length) 0 rest := by
  obtain ⟨tail, htail⟩ := hm.head_eq
  have hfree : MarkerFree lead := hl.of_isInfix List.infix_append_left
  have hapart : Apart lead (mark ++ rest) := by
    rw [htail, List.cons_append]
    exact apart_of_markerFree_slash hl
  rw [scanFrom_append hapart, scanFrom_eq_nil hfree, List.nil_append, scanFrom_marker_append hm]

/-- The text up to the first marker that is found, and behind it. -/
theorem exists_of_keys_eq_cons {text : List Char} {kind : Kind} {id : String}
    {others : List (Kind × String)} (h : keys text = (kind, id) :: others) :
    ∃ lead mark rest, text = lead ++ (mark ++ rest) ∧ IsMarker kind id.toList mark ∧
      MarkerFree (lead ++ ['/']) ∧ keys rest = others := by
  have hnot : ¬ MarkerFree text := fun hf => by
    rw [keys_eq_nil hf] at h
    exact absurd h (by simp)
  obtain ⟨lead, kind', id', mark, rest, rfl, hm, hl⟩ := exists_first_marker hnot
  rw [keys, scan, scanFrom_lead_append hm hl, List.map_cons, map_key_scanFrom] at h
  obtain ⟨hkeys, hothers⟩ := List.cons.inj h
  obtain ⟨rfl, rfl⟩ := Prod.mk.inj hkeys
  refine ⟨lead, mark, rest, rfl, ?_, hl, hothers⟩
  rw [String.toList_ofList]
  exact hm

end GuardedUi.Guard
