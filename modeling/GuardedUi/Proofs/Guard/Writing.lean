import GuardedUi.Proofs.Emit.Lines
import GuardedUi.Proofs.Guard.Filling
import GuardedUi.Proofs.Guard.Finding
import Mathlib.Tactic.TFAE

/-!
# `Proofs/Guard/Writing` — a region is read as it was written

There are two accounts of what the name of a region can be. Writing refuses a text with any
character that is no letter, digit or underscore; reading takes for the name what stands in a
certain place of a marker, and allows for blanks around it. A text that is no name may hold anything,
blanks, comment signs and whole markers, and then there may be no marker to be read, more than one,
or one of another name. The two accounts are the same:

> **A name is written exactly if its marker is read**, as the only one, over the whole length, and
> with this name. **And the two lines of a region are read as its two markers wherever they stand**,
> with their indentation, if the text around them has no markers (`read_as_written`).

What stands around the lines is arbitrary text, so it may end or begin in the middle of a marker.
The line breaks keep it apart from the lines.
-/

set_option autoImplicit false

namespace GuardedUi.Guard

/-! ## One marker -/

theorem IsMarker.isName {kind : Kind} {id mark : List Char} (h : IsMarker kind id mark) :
    IsName id := by
  obtain ⟨-, -, -, -, hid, -⟩ := h
  exact hid

/-- Only names are read. -/
theorem isRegionId_of_mem_scan {document : List Char} {m : Marker} (h : m ∈ scan document) :
    isRegionId m.id = true := by
  obtain ⟨before, mark, after, -, -, -, hmark⟩ := stands_of_mem_scanFrom h
  exact isRegionId_iff.mpr hmark.isName

theorem scan_text (kind : Kind) {id : String} (h : IsWord id) :
    scan (kind.text id).toList = [⟨kind, id, 0, (kind.text id).length⟩] := by
  have hscan : scan ((kind.text id).toList ++ []) = _ :=
    scanFrom_marker_append (isMarker_text kind h)
  rw [List.append_nil, String.ofList_toList, Nat.zero_add, String.length_toList] at hscan
  exact hscan

/-- A marker of a name is read, and nothing else is read as a marker of the name. -/
theorem scan_text_iff (kind : Kind) (id : String) :
    scan (kind.text id).toList = [⟨kind, id, 0, (kind.text id).length⟩] ↔ isRegionId id = true := by
  constructor
  · intro h
    exact isRegionId_of_mem_scan (h ▸ List.mem_singleton_self _)
  · intro h
    exact scan_text kind (isRegionId_iff.mp h)

/-- The lines of a region are its markers, and only a name has them. -/
theorem regionLines_eq_ok_iff {id indent : String} {lines : List String} :
    regionLines id indent = .ok lines ↔
      isRegionId id = true ∧
        [indent ++ Kind.opening.text id, indent ++ Kind.closing.text id] = lines := by
  rw [regionLines]
  split
  · rename_i h
    rw [Except.ok.injEq, and_iff_right h]
  · rename_i h
    constructor
    · intro herror
      cases herror
    · rintro ⟨hid, -⟩
      exact absurd hid h

/-! ## The lines of a region in a document -/

/-- The outline of a document with an empty region behind the text `before`, the lines of which are
indented by `indent`. -/
def Outline.ofRegion (id indent : String) (before after : List Char) : Outline :=
  .region (before ++ '\n' :: indent.toList) id (Kind.opening.text id).toList ('\n' :: indent.toList)
    (Kind.closing.text id).toList (.tail ('\n' :: after))

/-- Blanks at the beginning of a line are the indentation of a marker behind them. -/
theorem indent_append_line {m : Marker} {front rest indent : List Char} (h : IsIndent indent)
    (hstart : m.start = front.length + 1 + indent.length) :
    m.indent (front ++ '\n' :: (indent ++ rest)) = indent := by
  have hlength : m.start = (front ++ '\n' :: indent).length := by
    rw [hstart, List.length_append, List.length_cons]
    omega
  have hindent := indent_append rest hlength
  rwa [List.append_assoc, List.cons_append, lastIndent_append front h] at hindent

variable {id indent : String} {before after : List Char}

theorem Outline.sound_ofRegion (hid : IsWord id) (hindent : Blanks indent.toList)
    (hbefore : MarkerFree before) (hafter : MarkerFree after) :
    (Outline.ofRegion id indent before after).Sound [] := by
  have hbreak : '/' ∉ ['\n'] := by simp
  have htail : Outline.Sound [id] ((Outline.tail after).prepend ['\n']) :=
    (Outline.Sound.tail hafter).prepend (closed_of_slash_not_mem hbreak)
      (markerFree_of_slash_not_mem hbreak)
  exact .region List.not_mem_nil (markerFree_body hbefore hindent) (isMarker_text .opening hid)
    (markerFree_body (markerFree_of_slash_not_mem List.not_mem_nil) hindent)
    (isMarker_text .closing hid) htail

theorem Outline.text_ofRegion (id indent : String) (before after : List Char) :
    (Outline.ofRegion id indent before after).text =
      before ++ '\n' :: (indent.toList ++ ((Kind.opening.text id).toList ++
        '\n' :: (indent.toList ++ ((Kind.closing.text id).toList ++ '\n' :: after)))) := by
  simp only [Outline.ofRegion, Outline.text, List.append_assoc, List.cons_append]

/-- **A region is read as it was written.** -/
theorem read_as_written (id indent : String) :
    List.TFAE [∃ lines, regionLines id indent = .ok lines, isRegionId id = true,
      scan (Kind.opening.text id).toList = [⟨.opening, id, 0, (Kind.opening.text id).length⟩],
      scan (Kind.closing.text id).toList = [⟨.closing, id, 0, (Kind.closing.text id).length⟩]] ∧
    ∀ lines, regionLines id indent = .ok lines → Blanks indent.toList →
      ∀ before after, scan before = [] → scan after = [] →
        let document := before ++ '\n' :: ((joinLines lines).toList ++ '\n' :: after)
        let start := before.length + 1 + indent.length
        let stop := start + (Kind.opening.text id).length
        let start' := stop + 1 + indent.length
        let opening : Marker := ⟨.opening, id, start, stop⟩
        let closing : Marker := ⟨.closing, id, start', start' + (Kind.closing.text id).length⟩
        scan document = [opening, closing] ∧
          ('\n' ∉ indent.toList →
            opening.indent document = indent.toList ∧ closing.indent document = indent.toList) := by
  constructor
  · tfae_have 1 ↔ 2 := by
      simp only [regionLines_eq_ok_iff, exists_and_left, exists_eq', and_true]
    tfae_have 3 ↔ 2 := scan_text_iff .opening id
    tfae_have 4 ↔ 2 := scan_text_iff .closing id
    tfae_finish
  · intro lines hlines hindent before after hbefore hafter document start stop start' opening
      closing
    obtain ⟨hid, rfl⟩ := regionLines_eq_ok_iff.mp hlines
    have hsound := Outline.sound_ofRegion (isRegionId_iff.mp hid) hindent
      (markerFree_of_scanFrom_eq_nil hbefore) (markerFree_of_scanFrom_eq_nil hafter)
    have hdocument : document = (Outline.ofRegion id indent before after).text := by
      rw [Outline.text_ofRegion]
      simp [document, joinLines, String.toList_append]
    constructor
    · rw [hdocument, scan, Outline.scanFrom_text hsound]
      simp only [Outline.ofRegion, Outline.markers, opening, closing, start', stop, start,
        List.length_append, List.length_cons, String.length_toList, Nat.zero_add, Nat.add_assoc,
        Nat.add_comm 1]
    · intro hbreak
      have hline : IsIndent indent.toList := ⟨hindent, hbreak⟩
      have hclosing : document =
          (before ++ '\n' :: (indent.toList ++ (Kind.opening.text id).toList)) ++
            '\n' :: (indent.toList ++ ((Kind.closing.text id).toList ++ '\n' :: after)) := by
        rw [hdocument, Outline.text_ofRegion]
        simp only [List.append_assoc, List.cons_append]
      constructor
      · rw [hdocument, Outline.text_ofRegion]
        refine indent_append_line hline ?_
        simp only [opening, start, String.length_toList]
      · rw [hclosing]
        refine indent_append_line hline ?_
        simp only [closing, start', stop, start, List.length_append, List.length_cons,
          String.length_toList]
        omega

/-- Around the lines there may be what looks like the rest of them. -/
theorem read_as_written_between_halves :
    let before := "/*USER CODE BEGIN x".toList
    let after := "*/".toList
    scan (before ++ '\n' :: ("  /* USER CODE BEGIN x */\n  /* USER CODE END x */".toList ++
        '\n' :: after)) =
      [⟨.opening, "x", 22, 45⟩, ⟨.closing, "x", 48, 69⟩] := by
  intro before after
  have hlines : regionLines "x" "  " =
      .ok ["  /* USER CODE BEGIN x */", "  /* USER CODE END x */"] :=
    regionLines_eq_ok_iff.mpr ⟨by decide, by decide⟩
  have hindent : Blanks "  ".toList := List.all_eq_true.mp (by decide)
  have hbefore : scan before = [] := by decide +kernel
  have hafter : scan after = [] := by decide +kernel
  exact ((read_as_written "x" "  ").2 _ hlines hindent before after hbefore hafter).1

end GuardedUi.Guard
