import GuardedUi.Guard.Merge
import GuardedUi.Proofs.Guard.Reporting
import Mathlib.Data.List.Nodup

/-!
# `Proofs/Guard/Splicing` — what merging changes, and what it leaves out

`merge` goes through the regions of a document with a cursor, and passes over a region that begins
before it. The document need not be sound: its regions may overlap in any way.

> **Merging replaces the bodies of some regions, and nothing else** (`merge_accounts`). These
> regions lie one behind the other, and the block of a region that was passed over is dropped because
> the region begins in the body of one of them. Every block is put back or dropped, and not both.

`Replaced` says what a replacement is by the parts of the two texts, without a cursor. That the
parts can be cut out where the regions say follows from it (`Replaced.ordered`).
-/

set_option autoImplicit false

namespace GuardedUi.Guard

/-! ## Replaced bodies -/

/-- The last line of a text, as far as it goes. -/
def LastLine (text line : List Char) : Prop :=
  '\n' ∉ line ∧ ∃ front, text = front ++ line ∧ (front = [] ∨ ∃ lines, front = lines ++ ['\n'])

/-- The texts `before` and `after` are the same but for the bodies of the filled regions. They begin
at a position of the document, and `before` is what stands there. Each filled region has the text of
its block for a body, with a line break and the leading blanks of the line of its end. -/
inductive Replaced (document : List Char) (blocks : Blocks) :
    Nat → List Region → List Char → List Char → Prop
  | tail (position : Nat) (rest : List Char) : Replaced document blocks position [] rest rest
  | region {position : Nat} {r : Region} {filled : List Region}
      {kept body text content line after : List Char}
      (begins : position + kept.length = r.begin.stop)
      (ends : r.begin.stop + body.length = r.finish.start)
      (block : blocks.get? r.id = some content)
      (indented : LastLine (document.take r.finish.start) line)
      (rest : Replaced document blocks r.finish.start filled text after) :
      Replaced document blocks position (r :: filled) (kept ++ (body ++ text))
        (kept ++ (content ++ '\n' :: line.takeWhile Text.isBlank ++ after))

/-- The places at which a document is cut stand in order, and the last one is its end. -/
theorem Replaced.ordered {document : List Char} {blocks : Blocks} {position : Nat}
    {filled : List Region} {before after : List Char}
    (h : Replaced document blocks position filled before after) :
    (position :: filled.flatMap (fun r => [r.begin.stop, r.finish.start]) ++
      [position + before.length]).Pairwise (· ≤ ·) := by
  rw [← List.isChain_iff_pairwise]
  induction h with
  | tail position rest => simp
  | region begins ends block indented rest ih =>
    rename_i position r filled kept body text content line after
    have hend : position + (kept ++ (body ++ text)).length = r.finish.start + text.length := by
      simp only [List.length_append]
      omega
    rw [hend, List.flatMap_cons]
    exact .cons_cons (by omega) (.cons_cons (by omega) ih)

theorem lastLine_lineStart (m : Marker) (document : List Char) :
    LastLine (document.take m.start) (m.lineStart document) := by
  rw [Marker.lineStart]
  generalize document.take m.start = text
  refine ⟨fun hm => ?_, (text.reverse.dropWhile (· != '\n')).reverse, ?_, ?_⟩
  · have := List.all_eq_true.mp List.all_takeWhile _ (List.mem_reverse.mp hm)
    simp at this
  · rw [← List.reverse_append, List.takeWhile_append_dropWhile, List.reverse_reverse]
  · cases hd : text.reverse.dropWhile (· != '\n') with
    | nil => exact .inl rfl
    | cons c rest =>
      have hc := List.head?_dropWhile_not (· != '\n') text.reverse
      rw [hd] at hc
      obtain rfl : c = '\n' := by simpa using hc
      exact .inr ⟨rest.reverse, List.reverse_cons⟩

/-! ## Slices -/

section Slices

variable {document : List Char} {a b : Nat}

theorem drop_eq_slice_append (h : a ≤ b) :
    document.drop a = slice document a b ++ document.drop b := by
  have hdrop : document.drop b = (document.drop a).drop (b - a) := by
    rw [List.drop_drop, Nat.add_sub_cancel' h]
  rw [slice, hdrop, List.drop_take, List.take_append_drop]

theorem length_slice (h : b ≤ document.length) : (slice document a b).length = b - a := by
  rw [slice, List.length_drop, List.length_take, Nat.min_eq_left h]

end Slices

/-! ## The regions that are filled -/

/-- Regions as they are found: each one is a region of the markers, and they come in the order in
which they begin. -/
structure Arranged (markers : List Marker) (found : List Region) : Prop where
  subset : ∀ r ∈ found, r ∈ regions markers
  order : found.Pairwise fun a b => a.begin.stop ≤ b.begin.start

theorem arranged_regions {markers : List Marker} (hs : Spaced markers) :
    Arranged markers (regions markers) where
  subset _ hr := hr
  order := List.pairwise_map.mp (hs.1.sublist (sublist_map_begin_regionsFrom [] markers))

section Filled

variable {markers : List Marker} {found rest : List Region} {r x : Region} {blocks : Blocks}
variable {cursor : Nat} {s : Splice}

theorem Arranged.tail (h : Arranged markers (x :: rest)) : Arranged markers rest :=
  ⟨fun r hr => h.subset r (List.mem_cons_of_mem x hr), (List.pairwise_cons.mp h.order).2⟩

/-- The end of a region is no beginning of another one. -/
theorem finish_stop_le_begin_start (hs : Spaced markers) (hr : r ∈ regions markers)
    (hx : x ∈ regions markers) (h : r.finish.start ≤ x.begin.start) :
    r.finish.stop ≤ x.begin.start := by
  obtain ⟨-, -, hfinish⟩ := (mem_regionsFrom_iff hs).mp hr
  obtain ⟨-, hbegin, -⟩ := (mem_regionsFrom_iff hs).mp hx
  have hne : r.finish ≠ x.begin := fun heq => by
    have hkey := hfinish.2.1.1
    rw [heq, hbegin.2.1] at hkey
    exact absurd (Prod.mk.inj hkey).1 (by decide)
  exact hs.stop_le_of_lt hfinish.1 hbegin.1 (hs.lt_of_le_of_ne hfinish.1 hbegin.1 h hne)

theorem sublist_map_region_splices (blocks : Blocks) (cursor : Nat) (found : List Region) :
    ((splices blocks cursor found).map Splice.region).Sublist found := by
  induction found generalizing cursor with
  | nil => exact List.Sublist.refl _
  | cons x rest ih =>
    rw [splices]
    split
    · exact (ih cursor).cons x
    · split
      · exact (ih cursor).cons x
      · exact (ih x.finish.start).cons_cons x

/-- What is filled lies behind the cursor. -/
theorem le_begin_of_mem_splices (hs : Spaced markers) (h : Arranged markers found)
    (hm : s ∈ splices blocks cursor found) : cursor ≤ s.region.begin.start := by
  induction found generalizing cursor with
  | nil => simp [splices] at hm
  | cons x rest ih =>
    rw [splices] at hm
    split at hm
    · exact ih h.tail hm
    · split at hm
      · exact ih h.tail hm
      · rename_i hcursor
        have hx := h.subset x List.mem_cons_self
        have hbegin := hs.2 _ ((mem_regionsFrom_iff hs).mp hx).2.1.1
        have hbody := begin_stop_le_finish_start hs hx
        rcases List.mem_cons.mp hm with rfl | hm
        · exact Nat.not_lt.mp hcursor
        · have := ih h.tail hm
          omega

/-- The regions that are filled lie one behind the other. -/
theorem pairwise_splices (hs : Spaced markers) (h : Arranged markers found) :
    (splices blocks cursor found).Pairwise fun a b =>
      a.region.finish.start ≤ b.region.begin.start := by
  induction found generalizing cursor with
  | nil => exact List.Pairwise.nil
  | cons x rest ih =>
    rw [splices]
    split
    · exact ih h.tail
    · split
      · exact ih h.tail
      · exact List.pairwise_cons.mpr ⟨fun s hm => le_begin_of_mem_splices hs h.tail hm, ih h.tail⟩

/-- A region that has a block and is not filled begins before the cursor or in the body of a region
that is filled. -/
theorem lt_cursor_or_contains (hs : Spaced markers) (h : Arranged markers found) (hr : r ∈ found)
    (hblock : r.id ∈ blocks.names)
    (hnot : r.id ∉ (splices blocks cursor found).map fun s => s.region.id) :
    r.begin.start < cursor ∨
      ∃ s ∈ splices blocks cursor found, s.region.contains r.begin = true := by
  induction found generalizing cursor with
  | nil => simp at hr
  | cons x rest ih =>
    rw [splices] at hnot ⊢
    cases hget : blocks.get? x.id with
    | none =>
      simp only [hget] at hnot ⊢
      rcases List.mem_cons.mp hr with rfl | hr
      · exact absurd hblock (Bag.get?_eq_none_iff.mp hget)
      · exact ih h.tail hr hnot
    | some content =>
      simp only [hget] at hnot ⊢
      split at hnot
      · rename_i hcursor
        rw [if_pos hcursor]
        rcases List.mem_cons.mp hr with rfl | hr
        · exact .inl hcursor
        · exact ih h.tail hr hnot
      · rename_i hcursor
        rw [if_neg hcursor]
        rw [List.map_cons, List.mem_cons, not_or] at hnot
        have hrest : r ∈ rest := (List.mem_cons.mp hr).resolve_left fun heq => hnot.1 (heq ▸ rfl)
        right
        rcases ih h.tail hrest hnot.2 with hlt | ⟨s, hm, hcontains⟩
        · -- It begins behind the beginning of the filled region, so it begins in its body.
          refine ⟨⟨x, content⟩, List.mem_cons_self, ?_⟩
          have hx := (mem_regionsFrom_iff hs).mp (h.subset x List.mem_cons_self)
          have hbegin := (mem_regionsFrom_iff hs).mp (h.subset r hr)
          have hbehind := (List.pairwise_cons.mp h.order).1 r hrest
          have hpos := hs.2 _ hx.2.1.1
          exact (hs.contains_iff hx.2.1.1 hx.2.2.1 hbegin.2.1.1).mpr ⟨by omega, hlt⟩
        · exact ⟨s, List.mem_cons_of_mem _ hm, hcontains⟩

end Filled

/-- **Filling replaces bodies.** -/
theorem replaced_fill {document : List Char} {blocks : Blocks} {cursor : Nat}
    {filled : List Splice}
    (hget : ∀ s ∈ filled, blocks.get? s.region.id = some s.content)
    (hregion : ∀ s ∈ filled, cursor ≤ s.region.begin.stop ∧
      s.region.begin.stop ≤ s.region.finish.start ∧ s.region.finish.start ≤ document.length)
    (horder : filled.Pairwise fun a b => a.region.finish.start ≤ b.region.begin.stop) :
    Replaced document blocks cursor (filled.map Splice.region) (document.drop cursor)
      (fill document cursor filled) := by
  induction filled generalizing cursor with
  | nil => exact .tail cursor _
  | cons s rest ih =>
    obtain ⟨hcursor, hbody, hend⟩ := hregion s List.mem_cons_self
    obtain ⟨hnext, horder⟩ := List.pairwise_cons.mp horder
    have hrest := ih (fun t ht => hget t (List.mem_cons_of_mem s ht))
      (fun t ht => ⟨hnext t ht, (hregion t (List.mem_cons_of_mem s ht)).2⟩) horder
    rw [fill, drop_eq_slice_append hcursor, drop_eq_slice_append hbody, List.append_assoc]
    refine .region ?_ ?_ (hget s List.mem_cons_self) (lastLine_lineStart s.region.finish document)
      hrest
    · rw [length_slice (Nat.le_trans hbody hend)]
      omega
    · rw [length_slice hend]
      omega

/-! ## Blocks that are put back, and blocks that are dropped -/

section Dropped

variable (document : List Char) (blocks : Blocks)

theorem map_dropped_merge :
    ((merge document blocks).dropped.map fun d => (d.id, d.content)) =
      blocks.entries.filter fun entry => !(merge document blocks).applied.contains entry.1 := by
  rw [merge, List.map_map]
  exact List.map_id _

theorem map_id_dropped_merge :
    (merge document blocks).dropped.map Dropped.id =
      (blocks.entries.filter fun entry =>
        !(merge document blocks).applied.contains entry.1).map Prod.fst := by
  rw [← map_dropped_merge, List.map_map]
  rfl

theorem mem_dropped_iff {id : String} :
    id ∈ (merge document blocks).dropped.map Dropped.id ↔
      id ∈ blocks.names ∧ id ∉ (merge document blocks).applied := by
  rw [map_id_dropped_merge, List.mem_map]
  simp only [List.mem_filter, Bool.not_eq_true', Bag.names, List.mem_map]
  constructor
  · rintro ⟨entry, ⟨he, hnot⟩, rfl⟩
    exact ⟨⟨entry, he, rfl⟩, fun hm => by simp [hm] at hnot⟩
  · rintro ⟨⟨entry, he, rfl⟩, hnot⟩
    exact ⟨entry, ⟨he, by simpa using hnot⟩, rfl⟩

theorem nodup_dropped : ((merge document blocks).dropped.map Dropped.id).Nodup := by
  rw [map_id_dropped_merge]
  exact blocks.distinct.sublist (List.filter_sublist.map Prod.fst)

theorem nodup_applied : (merge document blocks).applied.Nodup := by
  have happlied : (merge document blocks).applied =
      ((splices blocks 0 (regions (scan document))).map Splice.region).map Region.id := by
    rw [List.map_map]
    rfl
  rw [happlied]
  exact (nodup_map_id_regionsFrom [] (scan document)).sublist
    ((sublist_map_region_splices _ _ _).map Region.id)

theorem mem_names_of_mem_applied {id : String} (h : id ∈ (merge document blocks).applied) :
    id ∈ blocks.names := by
  obtain ⟨s, hs, rfl⟩ := List.mem_map.mp h
  exact List.mem_map_of_mem (Bag.get?_eq_some_iff.mp (get?_of_mem_splices hs))

/-- Every block is put back or dropped, and not both. -/
theorem perm_applied_dropped :
    ((merge document blocks).applied ++ (merge document blocks).dropped.map Dropped.id).Perm
      blocks.names := by
  have hnodup : ((merge document blocks).applied ++
      (merge document blocks).dropped.map Dropped.id).Nodup :=
    List.Nodup.append (nodup_applied document blocks) (nodup_dropped document blocks)
      fun _ ha hd => ((mem_dropped_iff document blocks).mp hd).2 ha
  refine (List.perm_ext_iff_of_nodup hnodup blocks.distinct).mpr fun id => ?_
  rw [List.mem_append, mem_dropped_iff]
  constructor
  · rintro (ha | hd)
    · exact mem_names_of_mem_applied document blocks ha
    · exact hd.1
  · intro hid
    by_cases ha : id ∈ (merge document blocks).applied
    · exact .inl ha
    · exact .inr ⟨hid, ha⟩

end Dropped

/-! ## All of a merge -/

/-- **What merging does** with any document and any blocks. The bodies of some regions are replaced
by their blocks, each followed by a line break and the leading blanks of the line of the end; nothing
else changes. These regions lie one behind the other, all places at which the document is cut are in
it and in order, and the names of the regions are what is reported as applied. What is not applied is
dropped with its text, in its own order; and if it has a region, that begins in the body of a region
that was filled. -/
theorem merge_accounts (document : List Char) (blocks : Blocks) :
    ∃ filled : List Region, filled.Sublist (regions (scan document)) ∧
      (filled.Pairwise fun a b => a.finish.stop ≤ b.begin.start) ∧
      (merge document blocks).applied = filled.map Region.id ∧
      (merge document blocks).applied.Nodup ∧
      Replaced document blocks 0 filled document (merge document blocks).document ∧
      (0 :: filled.flatMap (fun r => [r.begin.stop, r.finish.start]) ++
        [document.length]).Pairwise (· ≤ ·) ∧
      ((merge document blocks).applied ++ (merge document blocks).dropped.map Dropped.id).Perm
        blocks.names ∧
      ((merge document blocks).dropped.map fun d => (d.id, d.content)).Sublist blocks.entries ∧
      ∀ r ∈ regions (scan document), r.id ∈ (merge document blocks).dropped.map Dropped.id →
        ∃ a ∈ filled, a.contains r.begin = true := by
  have hs := spaced_scan document
  have harranged := arranged_regions hs
  have hfound : ∀ s ∈ splices blocks 0 (regions (scan document)),
      s.region ∈ regions (scan document) := fun s hm =>
    (sublist_map_region_splices blocks 0 _).subset (List.mem_map_of_mem hm)
  have horder : (splices blocks 0 (regions (scan document))).Pairwise fun a b =>
      a.region.finish.start ≤ b.region.begin.start := pairwise_splices hs harranged
  have hreplaced : Replaced document blocks 0
      ((splices blocks 0 (regions (scan document))).map Splice.region) document
      (merge document blocks).document := by
    refine replaced_fill (fun s hm => get?_of_mem_splices hm) (fun s hm => ?_) ?_
    · obtain ⟨-, -, hfinish⟩ := (mem_regionsFrom_iff hs).mp (hfound s hm)
      have hstop := hs.2 _ hfinish.1
      have hlength := stop_le_length hfinish.1
      exact ⟨Nat.zero_le _, begin_stop_le_finish_start hs (hfound s hm), by omega⟩
    · refine horder.imp_of_mem fun {a b} _ hb hle => ?_
      have hbegin := hs.2 _ ((mem_regionsFrom_iff hs).mp (hfound b hb)).2.1.1
      omega
  refine ⟨_, sublist_map_region_splices blocks 0 _, ?_, ?_, nodup_applied document blocks,
    hreplaced, ?_, perm_applied_dropped document blocks, ?_, ?_⟩
  · rw [List.pairwise_map]
    exact horder.imp_of_mem fun {a b} ha hb hle =>
      finish_stop_le_begin_start hs (hfound a ha) (hfound b hb) hle
  · rw [List.map_map]
    rfl
  · simpa using hreplaced.ordered
  · rw [map_dropped_merge]
    exact List.filter_sublist
  · intro r hr hdropped
    obtain ⟨hblock, hnot⟩ := (mem_dropped_iff document blocks).mp hdropped
    rcases lt_cursor_or_contains hs harranged hr hblock hnot with hlt | ⟨s, hm, hcontains⟩
    · exact absurd hlt (Nat.not_lt_zero _)
    · exact ⟨s.region, List.mem_map_of_mem hm, hcontains⟩

end GuardedUi.Guard
