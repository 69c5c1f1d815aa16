import GuardedUi.Proofs.Guard.Filling

/-!
# `Proofs/Guard/Inverse` — putting texts in and taking them out

Merging writes a text, a line break and the indentation of the closing marker. Extracting gives the
text back, since all that merging adds is blank and stands behind it. Merging once more finds the
same indentation, since what it wrote itself is now the beginning of the line.

> **Merging and extracting are inverse** (`extract_merge_inverse`): in a document for which nothing is
> diagnosed, clean texts come out as they were put in, all other bodies and all markers are those of
> the document, and putting the texts in again changes nothing.
-/

set_option autoImplicit false

namespace GuardedUi.Guard

namespace Outline

/-! ## Filling twice -/

/-- The indentation that a region got is the one that it has. -/
theorem newBody_newBody (blocks : Blocks) (id : String) (front upto body : List Char) :
    newBody blocks id (front ++ newBody blocks id upto body) (newBody blocks id upto body) =
      newBody blocks id upto body := by
  cases hget : blocks.get? id with
  | none => simp only [newBody, hget]
  | some content =>
    simp only [newBody, hget]
    rw [← List.append_assoc, lastIndent_append _ (isIndent_lastIndent upto)]

/-- Filling a filled outline changes nothing, whatever stands before it. -/
theorem refill_refill (blocks : Blocks) (o : Outline) (before before' : List Char) :
    (o.refill blocks before).refill blocks before' = o.refill blocks before := by
  induction o generalizing before before' with
  | tail text => rfl
  | stray lead kind id mark rest ih => rw [refill, refill, ih]
  | region lead id opening body closing rest ih =>
    let upto := before ++ (lead ++ (opening ++ body))
    have hbody := newBody_newBody blocks id (before' ++ (lead ++ opening)) upto body
    simp only [List.append_assoc] at hbody
    simp only [refill, ih, hbody, upto]

end Outline

/-! ## Merging and extracting -/

/-- **Merging and extracting are inverse** on a document for which nothing is diagnosed. -/
theorem extract_merge_inverse {document : List Char} (h : diagnose document = [])
    {blocks : Blocks} (hb : Clean blocks) :
    (scan (merge document blocks).document).map Marker.key = (scan document).map Marker.key ∧
    diagnose (merge document blocks).document = [] ∧
    (extract (merge document blocks).document).entries =
      (extract document).entries.map (fun e => (e.1, (blocks.get? e.1).getD e.2)) ∧
    (merge (merge document blocks).document blocks).document = (merge document blocks).document := by
  obtain ⟨o, ho, rfl⟩ := Outline.exists_outline h
  have hfilled := ho.refill hb []
  refine ⟨?_, ?_, ?_, ?_⟩
  · have hkeys := Outline.keys_text hfilled
    rw [Outline.keys_refill, ← Outline.keys_text ho] at hkeys
    rw [Outline.document_merge blocks ho]
    exact hkeys
  · rw [Outline.diagnose_merge hb ho]
    exact (Outline.diagnose_text ho).mp h
  · rw [Outline.entries_extract_merge hb ho, Outline.entries_extract_text ho, List.map_map]
    rfl
  · rw [Outline.document_merge blocks ho, Outline.document_merge blocks hfilled,
      Outline.refill_refill]

/-- Two regions that have one name, with a marker between code. -/
def sharedLines : List Char :=
  ("/*USER CODE BEGIN a*/é/* USER\nCODE END a */ g();\n" ++
    "/*USER CODE BEGIN a*//*USER CODE END a*/").toList

/-- A text for the regions, and one for a region that is not there. -/
def newTexts : Blocks :=
  .ofList [("a", "\n\th();".toList), ("c", "k();".toList)]

theorem clean_newTexts : Clean newTexts := by
  have hall : ∀ e ∈ newTexts.entries, keys e.2 = [] ∧ Text.trimEnd e.2 = e.2 := by
    decide +kernel
  intro id content hget
  obtain ⟨hkeys, htrim⟩ := hall (id, content) (Bag.get?_eq_some_iff.mp hget)
  exact ⟨keys_eq_nil_iff.mp hkeys, htrim⟩

theorem extract_merge_sharedLines :
    diagnose sharedLines = [] ∧ Clean newTexts ∧
    (extract (merge sharedLines newTexts).document).entries = [("a", "\n\th();".toList)] ∧
    (merge (merge sharedLines newTexts).document newTexts).document =
      (merge sharedLines newTexts).document := by
  have hsettled : diagnose sharedLines = [] := by decide +kernel
  have hold : (extract sharedLines).entries = [("a", ['é'])] := by decide +kernel
  obtain ⟨-, -, hentries, hagain⟩ := extract_merge_inverse hsettled clean_newTexts
  refine ⟨hsettled, clean_newTexts, ?_, hagain⟩
  rw [hentries, hold]
  rfl

end GuardedUi.Guard
