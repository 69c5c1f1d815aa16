import GuardedUi.Proofs.Command.Generating
import GuardedUi.Proofs.Generation.History
import GuardedUi.Proofs.Text.Utf8

/-!
# `Proofs/Command/Settling` — nothing to do after a run

A run that has written reads its own output the next time. The bytes of the implementation document
are those of a text, whatever they were before, so the next run has exactly that text in hand; it
finds nothing damaged in it, drops nothing of it, and comes to the same two documents.

> **After a run that has written there is nothing left to do** (`generate_settles`): no fault is
> found, and another run asks nothing, writes nothing and leaves the disk as it is.
-/

set_option autoImplicit false

namespace GuardedUi

open Guard

/-! ## The next pass -/

namespace Generation.Pass

variable {layout : Layout} {sheet : StyleSheet} {previous : Option (List Char)}
  {emission : Emission} {g next : Generation}

/-- A pass over what a pass wrote fills the same outline with the same texts. -/
theorem source_next (p : Pass layout sheet previous emission g)
    (p' : Pass layout sheet (some g.source.content) emission next) :
    next.source.content = g.source.content := by
  rw [p.source, p'.source, preservedBlocks_of_diagnose p.settled]
  refine congrArg Outline.text (Outline.refill_congr (SourceSections.unfilled_outline _) ?_ [])
  intro id hid
  rw [p.get?_extract (p.ids ▸ hid), Option.getD_some]

theorem dropped_next (p : Pass layout sheet previous emission g)
    (p' : Pass layout sheet (some g.source.content) emission next) : next.dropped = [] := by
  rw [(p'.carries p.settled).dropped, List.map_eq_nil_iff, List.filter_eq_nil_iff]
  intro e he
  have hname : e.1 ∈ (extract g.source.content).names := List.mem_map_of_mem he
  rw [p.names] at hname
  exact fun h => of_decide_eq_true h hname

end Generation.Pass

namespace Command

open Disk Project

variable {disk after : Disk} {root : Path} {project : Project} {place : Location}
  {previous : Option (List Char)} {g next : Generation}

/-! ## The next run -/

/-- The project is what it was, because its own files lie above the documents. -/
theorem Written.load_eq (h : Written disk after place g) (hroot : FolderAt disk root place) :
    load after root = load disk root := by
  refine load_congr hroot (hroot.of_keeps h.keeps) fun name hname => ?_
  have hgenerated : name ≠ generatedName := by
    rintro rfl
    exact absurd hname (by decide)
  refine h.rest _ ?_ ?_ ?_ ?_
  · simpa [generatedPlace] using hgenerated
  · simp [uiPlace, generatedPlace]
  · simp [headerPlace, uiPlace, generatedPlace]
  · simp [sourcePlace, uiPlace, generatedPlace]

/-- The next run has in hand what the last one wrote. -/
theorem Written.readLeniently_eq (h : Written disk after place g) (hclear : Clear disk root place) :
    readLeniently after (sourcePath root) = .ok (some g.source.content) := by
  have hread := (read_document_iff (hclear.folder.of_keeps h.keeps) isPlain_sourceName
    hclear.usable).mpr h.source
  rw [readLeniently, show after.read (sourcePath root) = _ from hread]
  simp only [Text.Utf8.decodeLossy_encode]

/-- Documents that are there already are not written. -/
theorem Written.writeAll_eq (h : Written disk after place g) (hafter : Clear after root place)
    (hnamed : Named next)
    (hheader : next.header.content = g.header.content)
    (hsource : next.source.content = g.source.content) :
    writeAll after root next = (.ok (.written []), after) := by
  have hholds : outdated after root next = [] := by
    refine outdated_eq_nil_iff.mpr ⟨holdsBytes_iff.mpr ?_, holdsBytes_iff.mpr ?_⟩
    · rw [hheader]
      exact (read_document_iff hafter.folder isPlain_headerName hafter.isUsable_headerPath).mpr
        h.header
    · rw [hsource]
      exact (read_document_iff hafter.folder isPlain_sourceName hafter.usable).mpr h.source
  rcases writeAll_cases hnamed hafter with ⟨hfolder, -⟩ | ⟨last, hwrite, -, hsame⟩
  · rw [h.header] at hfolder
    exact absurd hfolder (by simp)
  · rw [hwrite, hholds, hsame hholds]

/-- **A run that has written leaves nothing to do**, whoever answered its questions. -/
theorem generate_settles (hload : load disk root = .ok project)
    (hlayout : project.layout.Unmarked) {σ : Type}
    (answer : σ → String → Except AnswerError Bool × σ) (state : σ) (force : Bool)
    {paths : List Path}
    (hrun : ((generate disk root force).answeredBy answer state).1 = (.ok (.written paths), after)) :
    check after root = .ok [] ∧
      ∀ {τ : Type} (answer' : τ → String → Except AnswerError Bool × τ) (state' : τ),
        (generate after root false).answeredBy answer' state' = ((.ok (.written []), after), []) := by
  obtain ⟨project', previous, g, place, hprepared, hclear, hw⟩ := exists_written answer state hrun
  obtain rfl : project' = project :=
    Except.ok.inj (hprepared.opened.symm.trans (openAt_of_load hload))
  rw [root_of_load hload] at hclear
  -- The second run, from the disk that the first one left.
  have hload' : load after root = .ok project' := (hw.load_eq hclear.folder).trans hload
  have hread' := hw.readLeniently_eq hclear
  obtain ⟨next, hnext⟩ := Prepared.exists_of_read hload' hread'
  obtain ⟨emission, p⟩ := exists_pass_of_generate hlayout hprepared.pass
  obtain ⟨emission', p'⟩ := exists_pass_of_generate hlayout hnext.pass
  obtain rfl : emission = emission' := Except.ok.inj (p.emits.symm.trans p'.emits)
  constructor
  · rw [check_of_read hload' hread']
    exact congrArg Except.ok p.settled
  · intro τ answer' state'
    have hafter : Clear after root place :=
      .of_readLeniently (hclear.folder.of_keeps hw.keeps) hread'
    have hwrite := hw.writeAll_eq hafter (.of_generate hnext.pass)
      (p'.header.trans p.header.symm) (p.source_next p')
    have hlost : next.lostUserCode = [] := by
      rw [Generation.lostUserCode, p.dropped_next p', List.filter_nil]
    have hquestions : questions project' next = [] :=
      questions_eq_nil_iff.mpr ⟨p'.diagnostics.trans p.settled, fun _ => hlost⟩
    rw [hnext.generate_eq, ask, hquestions, root_of_load hload, hwrite]
    rfl

/-- The generator over a damaged document, with all questions forbidden. -/
theorem generate_settles_damaged :
    ∃ paths after, ((generate damagedDisk damagedRoot true).answeredBy
        (fun (s : Unit) _ => (.ok false, s)) ()).1 = (.ok (.written paths), after) ∧
      check after damagedRoot = .ok [] ∧
      (generate after damagedRoot false).answeredBy (fun (s : Unit) _ => (.ok false, s)) () =
        ((.ok (.written []), after), []) := by
  obtain ⟨project, hload, -, hlayout⟩ := load_damaged
  obtain ⟨paths, after, hforced⟩ := generate_damaged
  have hrun : ((generate damagedDisk damagedRoot true).answeredBy
      (fun (s : Unit) _ => (.ok false, s)) ()).1 = (.ok (.written paths), after) := by
    rw [hforced]
    rfl
  obtain ⟨hcheck, hnext⟩ := generate_settles hload hlayout _ () true hrun
  exact ⟨paths, after, hrun, hcheck, hnext _ ()⟩

end Command

end GuardedUi
