import GuardedUi.Guard.Merge
import GuardedUi.Proofs.Guard.Coverage
import GuardedUi.Proofs.Guard.Outline

/-!
# `Proofs/Guard/Filling` — what merging does to an outline

Merging works with positions in the document that it fills, one region after the other. On the
outline of that document it is `Outline.refill`: bodies are replaced where there is a text for them
and everything else stays.

> **Merging into the text of an outline gives the text of the refilled outline** (`document_merge`),
> and what is then extracted are the texts that were put in, and the old bodies elsewhere
> (`entries_extract_merge`).

For that the texts must be `Clean`, that is without markers and without blanks at the end. What is
extracted from a document for which nothing is diagnosed is clean (`clean_extract`).
-/

set_option autoImplicit false

namespace GuardedUi.Guard

/-! ## Indentation -/

/-- The leading blanks of the last line of a text. -/
def lastIndent (text : List Char) : List Char :=
  (text.reverse.takeWhile (· != '\n')).reverse.takeWhile Text.isBlank

/-- Blanks on one line. -/
def IsIndent (text : List Char) : Prop :=
  Blanks text ∧ '\n' ∉ text

theorem isIndent_lastIndent (text : List Char) : IsIndent (lastIndent text) := by
  refine ⟨fun c hc => List.all_eq_true.mp List.all_takeWhile c hc, fun hm => ?_⟩
  have hline := List.mem_reverse.mp ((List.takeWhile_sublist Text.isBlank).subset hm)
  have := List.all_eq_true.mp List.all_takeWhile _ hline
  simp at this

theorem indent_append {m : Marker} {before : List Char} (after : List Char)
    (h : m.start = before.length) : m.indent (before ++ after) = lastIndent before := by
  rw [Marker.indent, Marker.lineStart, h, List.take_left]
  rfl

/-- Blanks behind a line break are the indentation. -/
theorem lastIndent_append {indent : List Char} (text : List Char) (h : IsIndent indent) :
    lastIndent (text ++ '\n' :: indent) = indent := by
  have hline : ∀ c ∈ indent.reverse, (c != '\n') = true := fun c hc => by
    have : c ≠ '\n' := fun heq => h.2 (heq ▸ List.mem_reverse.mp hc)
    simpa using this
  rw [lastIndent, List.reverse_append, List.reverse_cons, List.append_assoc,
    List.takeWhile_append_of_pos hline]
  simp only [List.singleton_append, bne_self_eq_false, Bool.false_eq_true, not_false_eq_true,
    List.takeWhile_cons_of_neg, List.append_nil, List.reverse_reverse]
  rw [← List.append_nil indent, List.takeWhile_append_of_pos h.1, List.takeWhile_nil]

/-- The line break and the indentation behind a text are no part of it. -/
theorem trimEnd_append_indent {indent : List Char} (text : List Char) (h : Blanks indent) :
    Text.trimEnd (text ++ '\n' :: indent) = Text.trimEnd text := by
  refine Text.trimEnd_append_blank text fun c hc => ?_
  rcases List.mem_cons.mp hc with rfl | hc
  · decide
  · exact h c hc

/-! ## Clean texts -/

/-- No text has a marker or ends with a blank. -/
def Clean (blocks : Blocks) : Prop :=
  ∀ id content, blocks.get? id = some content →
    MarkerFree content ∧ Text.trimEnd content = content

theorem clean_empty : Clean Bag.empty := by
  intro id content h
  simp at h

/-- A text without markers has none either with a line break, an indentation and a slash behind it:
no marker has a slash behind a blank or a line break, except where it begins. -/
theorem markerFree_body {content indent : List Char} (hc : MarkerFree content) (hi : Blanks indent) :
    MarkerFree (content ++ '\n' :: indent ++ ['/']) := by
  have hslash : '/' ∉ '\n' :: indent := fun hm => by
    rcases List.mem_cons.mp hm with h | hm
    · exact absurd h (by decide)
    · exact absurd (hi _ hm) (by decide)
  have hfree : MarkerFree (content ++ '\n' :: indent) :=
    (markerFree_append (apart_of_slash_not_mem_right hslash)).mpr
      ⟨hc, markerFree_of_slash_not_mem hslash⟩
  obtain ⟨front, c, hlast⟩ : ∃ front c, content ++ '\n' :: indent = front ++ [c] :=
    ⟨_, _, (List.dropLast_concat_getLast (by simp)).symm⟩
  have hstar : c ≠ '*' := fun h => by
    have hm : c ∈ '\n' :: indent := by
      have := congrArg List.getLast? hlast
      rw [List.getLast?_append, List.getLast?_concat,
        List.getLast?_eq_some_getLast (List.cons_ne_nil _ _), Option.some_or] at this
      exact Option.some.inj this ▸ List.getLast_mem _
    rcases List.mem_cons.mp hm with h' | hm
    · exact absurd (h.symm.trans h') (by decide)
    · exact absurd (h ▸ hi c hm) (by decide)
  rw [hlast] at hfree ⊢
  exact (markerFree_append (apart_slash hstar)).mpr ⟨hfree, markerFree_slash⟩

namespace Outline

/-! ## The blocks of an outline -/

theorem slice_front (before middle after : List Char) {cursor : Nat}
    (hc : cursor ≤ before.length) :
    slice (before ++ (middle ++ after)) cursor (before.length + middle.length) =
      before.drop cursor ++ middle := by
  rw [slice, ← List.append_assoc, ← List.length_append, List.take_left,
    List.drop_append_of_le_length hc]

theorem slice_middle (before middle after : List Char) :
    slice (before ++ (middle ++ after)) before.length (before.length + middle.length) = middle := by
  rw [slice_front before middle after (Nat.le_refl _), List.drop_length, List.nil_append]

/-- The bodies of the regions are those of the outline. -/
theorem map_body_regions (o : Outline) (before : List Char) :
    (o.regions before.length).map (fun r => (r.id, r.body (before ++ o.text))) = o.bodies := by
  induction o generalizing before with
  | tail text => rfl
  | stray lead kind id mark rest ih =>
    have hrest := ih (before ++ (lead ++ mark))
    simp only [List.length_append, List.append_assoc] at hrest
    simpa only [regions, bodies, text, Nat.add_assoc] using hrest
  | region lead id opening body closing rest ih =>
    have hrest := ih (before ++ (lead ++ (opening ++ (body ++ closing))))
    have hbody := slice_middle (before ++ (lead ++ opening)) body (closing ++ rest.text)
    simp only [List.length_append, List.append_assoc, Nat.add_assoc] at hrest hbody
    simp only [regions, bodies, text, List.map_cons, Nat.add_assoc]
    exact List.cons_eq_cons.mpr ⟨Prod.ext rfl hbody, hrest⟩

/-- What is extracted from the text of an outline. -/
theorem entries_extract_text {o : Outline} (h : o.Sound []) :
    (extract o.text).entries = o.bodies.map fun e => (e.1, Text.trimEnd e.2) := by
  rw [entries_extract, regions_scan_text h, ← map_body_regions o [], List.map_map]
  rfl

theorem markerFree_of_mem_bodies {done : List String} {o : Outline} (h : o.Sound done)
    {e : String × List Char} (he : e ∈ o.bodies) : MarkerFree e.2 := by
  induction h with
  | tail => simp [bodies] at he
  | stray _ _ _ _ ih => exact ih he
  | region _ _ _ hbody _ _ ih =>
    rcases List.mem_cons.mp he with rfl | he
    · exact hbody.of_isInfix List.infix_append_left
    · exact ih he

end Outline

/-- **What is extracted from a document for which nothing is diagnosed is clean.** -/
theorem clean_extract {document : List Char} (h : diagnose document = []) :
    Clean (extract document) := by
  obtain ⟨o, ho, rfl⟩ := Outline.exists_outline h
  intro id content hget
  rw [Bag.get?_eq_some_iff, Outline.entries_extract_text ho] at hget
  obtain ⟨e, he, heq⟩ := List.mem_map.mp hget
  obtain ⟨-, rfl⟩ := Prod.mk.inj heq
  exact ⟨(Outline.markerFree_of_mem_bodies ho he).of_isInfix (Text.trimEnd_isPrefix e.2).isInfix,
    Text.trimEnd_trimEnd e.2⟩

/-! ## Refilling -/

namespace Outline

/-- The body that a region gets whose closing marker stands behind the text `upto`. -/
def newBody (blocks : Blocks) (id : String) (upto body : List Char) : List Char :=
  match blocks.get? id with
  | none => body
  | some content => content ++ '\n' :: lastIndent upto

/-- The outline with new bodies. Its text stands behind the text `before` in the document that is
filled. -/
def refill (blocks : Blocks) (before : List Char) : Outline → Outline
  | tail text => .tail text
  | stray lead kind id mark rest =>
    .stray lead kind id mark (rest.refill blocks (before ++ (lead ++ mark)))
  | region lead id opening body closing rest =>
    let upto := before ++ (lead ++ (opening ++ body))
    .region lead id opening (newBody blocks id upto body) closing
      (rest.refill blocks (upto ++ closing))

theorem keys_refill (blocks : Blocks) (before : List Char) (o : Outline) :
    (o.refill blocks before).keys = o.keys := by
  induction o generalizing before with
  | tail text => rfl
  | stray lead kind id mark rest ih => rw [refill, keys, keys, ih]
  | region lead id opening body closing rest ih => rw [refill, keys, keys, ih]

theorem Sound.refill {blocks : Blocks} (hb : Clean blocks) {done : List String} {o : Outline}
    (h : o.Sound done) (before : List Char) : (o.refill blocks before).Sound done := by
  induction h generalizing before with
  | tail hf => exact .tail hf
  | stray hid hlead hmark _ ih => exact .stray hid hlead hmark (ih _)
  | region hid hlead hopening hbody hclosing _ ih =>
    refine .region hid hlead hopening ?_ hclosing (ih _)
    rw [newBody]
    split
    · exact hbody
    · exact markerFree_body (hb _ _ ‹_›).1 (isIndent_lastIndent _).1

/-- The bodies without the blanks at their ends are the texts that were put in, and the old ones
elsewhere. -/
theorem trimmed_bodies_refill {blocks : Blocks} (hb : Clean blocks) (before : List Char)
    (o : Outline) :
    ((o.refill blocks before).bodies.map fun e => (e.1, Text.trimEnd e.2)) =
      o.bodies.map fun e => (e.1, (blocks.get? e.1).getD (Text.trimEnd e.2)) := by
  induction o generalizing before with
  | tail text => rfl
  | stray lead kind id mark rest ih => rw [refill, bodies, bodies, ih]
  | region lead id opening body closing rest ih =>
    rw [refill, bodies, bodies, List.map_cons, List.map_cons, ih]
    refine List.cons_eq_cons.mpr ⟨Prod.ext rfl ?_, rfl⟩
    simp only [newBody]
    cases hget : blocks.get? id with
    | none => rfl
    | some content =>
      simp only [Option.getD_some]
      rw [trimEnd_append_indent content (isIndent_lastIndent _).1, (hb id content hget).2]

/-! ## Merging is refilling -/

/-- Filling from `cursor` on, where no marker is before the text of the outline. By induction on
the outline: `cursor` stays within `before`, so no region of the outline is passed over, and it is
the end of `before` as soon as a region has been filled. -/
theorem fill_text (blocks : Blocks) (o : Outline) (before : List Char) {cursor : Nat}
    (hc : cursor ≤ before.length) :
    fill (before ++ o.text) cursor (splices blocks cursor (o.regions before.length)) =
      before.drop cursor ++ (o.refill blocks before).text := by
  induction o generalizing before cursor with
  | tail text =>
    rw [regions, splices, fill, List.drop_append_of_le_length hc]
    rfl
  | stray lead kind id mark rest ih =>
    have hle : cursor ≤ (before ++ (lead ++ mark)).length := by
      rw [List.length_append]
      omega
    have hrest := ih _ hle
    rw [List.drop_append_of_le_length hc] at hrest
    simp only [List.length_append, List.append_assoc] at hrest
    simpa only [regions, refill, text, Nat.add_assoc] using hrest
  | region lead id opening body closing rest ih =>
    let upto := before ++ (lead ++ (opening ++ body))
    have hdocument : before ++ (region lead id opening body closing rest).text =
        upto ++ closing ++ rest.text := by simp [upto, text]
    cases hget : blocks.get? id with
    | none =>
      -- The region is copied with what is around it, and `cursor` stays where it is.
      have hle : cursor ≤ (upto ++ closing).length := by
        simp only [upto, List.length_append]
        omega
      have hrest := ih _ hle
      rw [← hdocument] at hrest
      simp only [upto, List.append_assoc, List.drop_append_of_le_length hc] at hrest
      simpa only [regions, splices, Region.id, hget, refill, newBody, text, List.length_append,
        List.append_assoc, Nat.add_assoc] using hrest
    | some content =>
      -- What follows is filled from the closing marker on.
      have hle : upto.length ≤ (upto ++ closing).length := by simp
      have hrest := ih _ hle
      rw [← hdocument, List.drop_left] at hrest
      have hlen : before.length + lead.length + opening.length + body.length = upto.length := by
        simp only [upto, List.length_append]
        omega
      let r : Region := ⟨⟨.opening, id, before.length + lead.length,
        before.length + lead.length + opening.length⟩, ⟨.closing, id, upto.length,
        upto.length + closing.length⟩⟩
      have hsplices : splices blocks cursor
          ((region lead id opening body closing rest).regions before.length) =
          ⟨r, content⟩ :: splices blocks upto.length (rest.regions (upto ++ closing).length) := by
        rw [regions]
        simp only [hlen, List.length_append]
        rw [splices]
        simp only [Region.id, hget, r]
        rw [if_neg (by omega)]
      have hslice : slice (upto ++ closing ++ rest.text) cursor r.begin.stop =
          before.drop cursor ++ (lead ++ opening) := by
        have hfront := slice_front before (lead ++ opening) (body ++ (closing ++ rest.text)) hc
        simpa only [upto, r, List.append_assoc, List.length_append, Nat.add_assoc] using hfront
      have hindent : r.finish.indent (upto ++ closing ++ rest.text) = lastIndent upto := by
        rw [List.append_assoc]
        exact indent_append (closing ++ rest.text) rfl
      rw [hdocument] at hrest ⊢
      rw [hsplices, fill, hslice, Splice.body, hindent, hrest]
      simp only [refill, text, newBody, hget, List.append_assoc, upto]

/-- The regions that are filled are those whose name has a text. -/
theorem map_id_splices (blocks : Blocks) (o : Outline) {position cursor : Nat}
    (hc : cursor ≤ position) :
    ((splices blocks cursor (o.regions position)).map fun s => s.region.id) =
      o.ids.filter blocks.contains := by
  induction o generalizing position cursor with
  | tail text => rfl
  | stray lead kind id mark rest ih => exact ih (by omega)
  | region lead id opening body closing rest ih =>
    rw [regions, ids, bodies, List.map_cons, splices]
    cases hget : blocks.get? id with
    | none =>
      rw [List.filter_cons_of_neg (by simp [Bag.contains, hget])]
      simp only [Region.id, hget]
      exact ih (by omega)
    | some content =>
      rw [List.filter_cons_of_pos (by simp [Bag.contains, hget])]
      simp only [Region.id, hget]
      rw [if_neg (by omega), List.map_cons]
      exact List.cons_eq_cons.mpr ⟨rfl, ih (by omega)⟩

/-- **Merging into the text of an outline gives the text of the refilled outline.** -/
theorem document_merge (blocks : Blocks) {o : Outline} (h : o.Sound []) :
    (merge o.text blocks).document = (o.refill blocks []).text := by
  rw [merge, regions_scan_text h]
  exact fill_text blocks o [] (Nat.le_refl 0)

theorem applied_merge (blocks : Blocks) {o : Outline} (h : o.Sound []) :
    (merge o.text blocks).applied = o.ids.filter blocks.contains := by
  rw [merge, regions_scan_text h]
  exact map_id_splices blocks o (Nat.le_refl 0)

/-- The texts without a region are dropped, in their own order. -/
theorem dropped_merge (blocks : Blocks) {o : Outline} (h : o.Sound []) :
    (merge o.text blocks).dropped =
      (blocks.entries.filter fun e => !o.ids.contains e.1).map fun e => ⟨e.1, e.2⟩ := by
  have happlied := applied_merge blocks h
  simp only [merge] at happlied ⊢
  rw [happlied]
  congr 1
  refine List.filter_congr fun e he => ?_
  have hcontains : blocks.contains e.1 = true := by
    rw [Bag.contains, Bag.get?_eq_some_iff.mpr he, Option.isSome_some]
  simp only [List.contains_eq_mem, List.mem_filter, hcontains, and_true]

/-- **What is extracted after a merge** are the texts that were put in, and the old bodies
elsewhere. -/
theorem entries_extract_merge {blocks : Blocks} (hb : Clean blocks) {o : Outline}
    (h : o.Sound []) :
    (extract (merge o.text blocks).document).entries =
      o.bodies.map fun e => (e.1, (blocks.get? e.1).getD (Text.trimEnd e.2)) := by
  rw [document_merge blocks h, entries_extract_text (h.refill hb []), trimmed_bodies_refill hb]

/-- The markers are those of the document before. -/
theorem diagnose_merge {blocks : Blocks} (hb : Clean blocks) {o : Outline} (h : o.Sound []) :
    diagnose (merge o.text blocks).document = [] ↔ Settled o.keys := by
  rw [document_merge blocks h, diagnose_text (h.refill hb []), keys_refill]

/-! ## Empty regions

The regions of a generated document are empty: between the two markers there is a line break and
the indentation of the second one. Filling such a region puts the text in front of its body. -/

/-- The bodies are a line break and an indentation. -/
def Unfilled (o : Outline) : Prop :=
  ∀ e ∈ o.bodies, ∃ indent, IsIndent indent ∧ e.2 = '\n' :: indent

theorem Unfilled.trimEnd_body {o : Outline} (h : o.Unfilled) {e : String × List Char}
    (he : e ∈ o.bodies) : Text.trimEnd e.2 = [] := by
  obtain ⟨indent, hindent, heq⟩ := h e he
  rw [heq]
  exact trimEnd_append_indent [] hindent.1

theorem newBody_of_indent (blocks : Blocks) (id : String) (front : List Char) {indent : List Char}
    (h : IsIndent indent) :
    newBody blocks id (front ++ '\n' :: indent) ('\n' :: indent) =
      (blocks.get? id).getD [] ++ '\n' :: indent := by
  rw [newBody, lastIndent_append front h]
  cases blocks.get? id <;> rfl

/-- What counts for an unfilled outline is which texts there are for its regions, where an empty
text and none are the same. -/
theorem refill_congr {blocks blocks' : Blocks} {o : Outline} (h : o.Unfilled)
    (hsame : ∀ id ∈ o.ids, (blocks.get? id).getD [] = (blocks'.get? id).getD [])
    (before : List Char) : o.refill blocks before = o.refill blocks' before := by
  induction o generalizing before with
  | tail text => rfl
  | stray lead kind id mark rest ih => rw [refill, refill, ih h hsame]
  | region lead id opening body closing rest ih =>
    obtain ⟨indent, hindent, rfl⟩ : ∃ indent, IsIndent indent ∧ body = '\n' :: indent :=
      h (id, body) List.mem_cons_self
    have hrest := ih (fun e he => h e (List.mem_cons_of_mem _ he))
      fun other ho => hsame other (List.mem_cons_of_mem _ ho)
    have hbody := hsame id List.mem_cons_self
    have hfront : before ++ (lead ++ (opening ++ '\n' :: indent)) =
        before ++ (lead ++ opening) ++ '\n' :: indent := by simp
    simp only [refill, hfront, newBody_of_indent _ _ _ hindent, hbody, hrest]

end Outline

end GuardedUi.Guard
