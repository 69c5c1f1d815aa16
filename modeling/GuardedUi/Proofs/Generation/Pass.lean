import GuardedUi.Generation
import GuardedUi.Proofs.Emit.Source

/-!
# `Proofs/Generation/Pass` — what one pass does with user code

A pass emits a document with empty regions and fills them with what it takes over from the previous
document. If no widget shows a text with a marker, the emitted document is the text of a sound
outline, and everything about merging applies. `Pass` is the result, one field for each part of what
a pass returns; the later files use nothing else.

> **A second pass over its own output changes nothing** (`regeneration_fixpoint`), whatever the
> document was that the first one started from.

The second pass finds in every region the text that the first one put there, and nothing in those
that it left empty. For an empty region that is the same.
-/

set_option autoImplicit false

namespace GuardedUi.Generation

open Guard

/-! ## One pass -/

/-- What is taken over is clean, whatever the previous document is like. -/
theorem clean_preservedBlocks (previous : Option (List Char)) : Clean (preservedBlocks previous) := by
  cases previous with
  | none => exact clean_empty
  | some document =>
    rw [preservedBlocks]
    split
    · rename_i h
      exact clean_extract (List.isEmpty_iff.mp h)
    · exact clean_empty

theorem preservedBlocks_of_diagnose {document : List Char} (h : diagnose document = []) :
    preservedBlocks (some document) = extract document := by
  rw [preservedBlocks, h, List.isEmpty_nil, if_pos rfl]

/-- A pass over a model whose emission is `emission` returns `g`. -/
structure Pass (layout : Layout) (sheet : StyleSheet) (previous : Option (List Char))
    (emission : Emission) (g : Generation) : Prop where
  emits : Emission.emit .standard layout sheet = .ok emission
  runs : generate .standard layout sheet previous = .ok g
  header : g.header.content = emission.header.toList
  source : g.source.content =
    ((Emission.sections .standard layout sheet).outline.refill (preservedBlocks previous) []).text
  ids : (Emission.sections .standard layout sheet).outline.ids = emission.stubs ++ [initRegion]
  diagnostics : g.diagnostics = previousDiagnostics previous
  /-- The new document is not damaged. -/
  settled : diagnose g.source.content = []
  /-- The regions of the new document, with the texts that are taken over. -/
  blocks : (extract g.source.content).entries =
    (emission.stubs ++ [initRegion]).map fun id =>
      (id, ((preservedBlocks previous).get? id).getD [])
  preserved : g.preserved =
    (emission.stubs ++ [initRegion]).filter (preservedBlocks previous).contains
  dropped : g.dropped =
    ((preservedBlocks previous).entries.filter fun e =>
      !(emission.stubs ++ [initRegion]).contains e.1).map fun e => ⟨e.1, e.2⟩

/-- Every pass returns, and this is what. -/
theorem exists_pass {layout : Layout} (h : layout.Unmarked) (sheet : StyleSheet)
    (previous : Option (List Char)) :
    ∃ emission g, Pass layout sheet previous emission g := by
  obtain ⟨emission, hemit, hstubs, hsource⟩ := Emission.exists_emission layout sheet
  let s := Emission.sections .standard layout sheet
  have hsound : s.outline.Sound [] := h.sound_outline sheet
  have hclean := clean_preservedBlocks previous
  have hids : s.outline.ids = emission.stubs ++ [initRegion] := by
    rw [s.ids_outline, hstubs]
  refine ⟨emission, _, hemit, by rw [generate, hemit]; rfl, rfl, ?_, hids, rfl,
    ?_, ?_, ?_, ?_⟩
  · simp only [hsource]
    exact Outline.document_merge _ hsound
  · simp only [hsource]
    rw [Outline.diagnose_merge hclean hsound, SourceSections.keys_outline]
    exact settled_regionKeys _
  · simp only [hsource]
    rw [Outline.entries_extract_merge hclean hsound, ← hids, Outline.ids, List.map_map]
    refine List.map_congr_left fun e he => ?_
    rw [s.unfilled_outline.trimEnd_body he]
    rfl
  · simp only [hsource]
    rw [Outline.applied_merge _ hsound, hids]
  · simp only [hsource]
    rw [Outline.dropped_merge _ hsound, hids]

namespace Pass

variable {layout : Layout} {sheet : StyleSheet} {previous : Option (List Char)}
  {emission : Emission} {g : Generation}

/-- The region names of the new document. -/
theorem names (p : Pass layout sheet previous emission g) :
    (extract g.source.content).names = emission.stubs ++ [initRegion] := by
  rw [Bag.names, p.blocks, List.map_map]
  simp [Function.comp_def]

/-- A region has the text that is taken over for it. -/
theorem get?_extract (p : Pass layout sheet previous emission g) {id : String}
    (h : id ∈ emission.stubs ++ [initRegion]) :
    (extract g.source.content).get? id =
      some (((preservedBlocks previous).get? id).getD []) := by
  rw [Bag.get?_eq_some_iff, p.blocks]
  exact List.mem_map.mpr ⟨id, h, rfl⟩

theorem contains_extract (p : Pass layout sheet previous emission g) {id : String}
    (h : id ∈ emission.stubs ++ [initRegion]) : (extract g.source.content).contains id = true := by
  rw [Bag.contains, p.get?_extract h, Option.isSome_some]

end Pass

/-! ## The second pass -/

/-- **A second pass changes nothing**, whatever document the first one started from: it writes the
same two documents, diagnoses and drops nothing and takes over every region. -/
theorem regeneration_fixpoint {layout : Layout} (h : layout.Unmarked) (sheet : StyleSheet)
    (previous : Option (List Char)) :
    ∃ emission g₁ g₂, Emission.emit .standard layout sheet = .ok emission ∧
      generate .standard layout sheet previous = .ok g₁ ∧
      generate .standard layout sheet (some g₁.source.content) = .ok g₂ ∧
      g₂.source.content = g₁.source.content ∧
      g₂.header.content = g₁.header.content ∧
      g₂.diagnostics = [] ∧
      g₂.dropped = [] ∧
      g₂.preserved = emission.stubs ++ [initRegion] := by
  obtain ⟨emission, g₁, p₁⟩ := exists_pass h sheet previous
  obtain ⟨emission', g₂, p₂⟩ := exists_pass h sheet (some g₁.source.content)
  obtain rfl : emission = emission' := Except.ok.inj (p₁.emits.symm.trans p₂.emits)
  have hblocks := preservedBlocks_of_diagnose p₁.settled
  refine ⟨emission, g₁, g₂, p₁.emits, p₁.runs, p₂.runs, ?_, ?_, ?_, ?_, ?_⟩
  · -- Both passes fill the same outline, and an empty text fills a region as none does.
    rw [p₁.source, p₂.source, hblocks]
    refine congrArg Outline.text (Outline.refill_congr (SourceSections.unfilled_outline _)
      (fun id hid => ?_) [])
    rw [p₁.get?_extract (p₁.ids ▸ hid), Option.getD_some]
  · rw [p₁.header, p₂.header]
  · rw [p₂.diagnostics]
    exact p₁.settled
  · rw [p₂.dropped, hblocks, List.map_eq_nil_iff, List.filter_eq_nil_iff]
    intro e he
    have hname : e.1 ∈ emission.stubs ++ [initRegion] := p₁.names ▸ List.mem_map_of_mem he
    simp [hname]
  · rw [p₂.preserved, hblocks, List.filter_eq_self]
    exact fun id hid => p₁.contains_extract hid

theorem regeneration_fixpoint_label :
    ∃ g₁ g₂, generate .standard (labelLayout "Ready.") .empty none = .ok g₁ ∧
      generate .standard (labelLayout "Ready.") .empty (some g₁.source.content) = .ok g₂ ∧
      g₂.source.content = g₁.source.content ∧ g₂.diagnostics = [] ∧ g₂.dropped = [] := by
  obtain ⟨_, g₁, g₂, -, h₁, h₂, hsource, -, hdiagnostics, hdropped, -⟩ :=
    regeneration_fixpoint unmarked_label .empty none
  exact ⟨g₁, g₂, h₁, h₂, hsource, hdiagnostics, hdropped⟩

end GuardedUi.Generation
