import GuardedUi.Command.Check
import GuardedUi.Proofs.Command.Answering
import GuardedUi.Proofs.Command.Writing
import GuardedUi.Proofs.Generation.Pass
import GuardedUi.Proofs.Project

/-!
# `Proofs/Command/Generating` — a run of the generator from one disk to another

A run reads the project and the previous document, makes a pass, asks, and writes. Everything before
the questions can fail and changes nothing; what is known when it did not fail is `Prepared`. How a
run goes on from there is said once (`generate_cases`), and how it ends, too (`Prepared.ends`).

> **All or nothing** (`generate_leaves`): a run that fails or is cancelled leaves the disk as it was,
> and any other leaves exactly the two documents and the folders that they are in.
-/

set_option autoImplicit false

namespace GuardedUi.Command

open Disk Project

/-! ## Up to the questions -/

/-- What a pass returns, in terms of what is emitted. -/
theorem exists_of_generate {options : EmitOptions} {layout : Layout} {sheet : StyleSheet}
    {previous : Option (List Char)} {g : Generation}
    (h : Generation.generate options layout sheet previous = .ok g) :
    ∃ emission : Emission,
      let merged := Guard.merge emission.source.toList (Generation.preservedBlocks previous)
      g = ⟨⟨options.headerName, emission.header.toList⟩, ⟨options.sourceName, merged.document⟩,
        Generation.previousDiagnostics previous, merged.applied, merged.dropped⟩ := by
  rw [Generation.generate] at h
  cases hemit : Emission.emit options layout sheet with
  | error e => simp [hemit, Except.map] at h
  | ok emission =>
    rw [hemit] at h
    exact ⟨emission, (Except.ok.inj h).symm⟩

theorem Named.of_generate {layout : Layout} {sheet : StyleSheet} {previous : Option (List Char)}
    {g : Generation} (h : Generation.generate emitOptions layout sheet previous = .ok g) :
    Named g := by
  obtain ⟨emission, rfl⟩ := exists_of_generate h
  exact ⟨rfl, rfl⟩

theorem exists_pass_of_generate {project : Project} {previous : Option (List Char)} {g : Generation}
    (hlayout : project.layout.Unmarked)
    (hpass : Generation.generate emitOptions project.layout project.styles previous = .ok g) :
    ∃ emission, Generation.Pass project.layout project.styles previous emission g := by
  obtain ⟨emission, g', p⟩ := Generation.exists_pass hlayout project.styles previous
  obtain rfl : g' = g := Except.ok.inj (p.runs.symm.trans hpass)
  exact ⟨emission, p⟩

/-- What a run has when it comes to its questions. -/
structure Prepared (disk : Disk) (start : Path) (project : Project)
    (previous : Option (List Char)) (g : Generation) : Prop where
  opened : openAt disk start = .ok project
  read : readLeniently disk (sourcePath project.root) = .ok previous
  pass : Generation.generate emitOptions project.layout project.styles previous = .ok g

/-- Where nothing is asked, nothing is at risk that the manifest wants to be asked about. -/
theorem questions_eq_nil_iff {project : Project} {g : Generation} :
    questions project g = [] ↔ g.diagnostics = [] ∧
      (project.manifest.generator.confirmDroppedRegions = true → g.lostUserCode = []) := by
  rw [questions, List.append_eq_nil_iff, Generation.needsConfirmation]
  cases project.manifest.generator.confirmDroppedRegions <;> simp

/-- A run without the part before the questions. -/
def ask (disk : Disk) (project : Project) (g : Generation) (force : Bool) :
    Dialogue (Except CommandError GenerateOutcome × Disk) :=
  askAll (fun e => (.error (.answer e), disk)) (.ok .cancelled, disk)
    (writeAll disk project.root g) (if force then [] else questions project g)

theorem generate_cases (disk : Disk) (start : Path) (force : Bool) :
    (∃ e, generate disk start force = .done (.error e, disk)) ∨
    ∃ project previous g, Prepared disk start project previous g ∧
      generate disk start force = ask disk project g force := by
  rw [generate]
  cases hopen : openAt disk start with
  | error fault => exact .inl ⟨_, rfl⟩
  | ok project =>
    simp only
    cases hread : readLeniently disk (sourcePath project.root) with
    | error e => exact .inl ⟨_, rfl⟩
    | ok previous =>
      simp only
      cases hpass : Generation.generate emitOptions project.layout project.styles previous with
      | error e => exact .inl ⟨_, rfl⟩
      | ok g => exact .inr ⟨project, previous, g, ⟨hopen, hread, hpass⟩, rfl⟩

namespace Prepared

variable {disk : Disk} {start : Path} {project : Project} {previous : Option (List Char)}
  {g : Generation}

theorem generate_eq (h : Prepared disk start project previous g) (force : Bool) :
    generate disk start force = ask disk project g force := by
  rw [generate, h.opened]
  simp only
  rw [h.read]
  simp only
  rw [h.pass]
  rfl

/-- From the root of a project, a run only fails to be prepared if the previous document cannot be
read: every model can be emitted. -/
theorem exists_of_read {root : Path} (hload : load disk root = .ok project)
    (hread : readLeniently disk (sourcePath root) = .ok previous) :
    ∃ g, Prepared disk root project previous g := by
  obtain ⟨emission, hemit, -, -⟩ := Emission.exists_emission project.layout project.styles
  have hpass : ∃ g,
      Generation.generate emitOptions project.layout project.styles previous = .ok g := by
    rw [Generation.generate, show emitOptions = .standard from rfl, hemit]
    exact ⟨_, rfl⟩
  rw [← root_of_load hload] at hread
  exact hpass.imp fun g hg => ⟨openAt_of_load hload, hread, hg⟩

theorem exists_clear (h : Prepared disk start project previous g) :
    ∃ place, Clear disk project.root place := by
  obtain ⟨place, hfolder⟩ := exists_folderAt_of_load (load_of_openAt h.opened)
  exact ⟨place, .of_readLeniently hfolder h.read⟩

end Prepared

/-- The markers that a run finds damaged are those that looking at the project shows. -/
theorem check_of_read {disk : Disk} {root : Path} {project : Project}
    {previous : Option (List Char)} (hload : load disk root = .ok project)
    (hread : readLeniently disk (sourcePath root) = .ok previous) :
    check disk root = .ok (Generation.previousDiagnostics previous) := by
  rw [check, findRoot_of_load hload]
  simp only
  rw [hread]
  cases previous <;> rfl

/-! ## From the questions to the end -/

section Ends

variable {σ : Type} (answer : σ → String → Except AnswerError Bool × σ) (state : σ)
  {disk : Disk} {start : Path} {project : Project} {previous : Option (List Char)}
  {g : Generation}

/-- How a run ends. Nothing is written without a yes to all questions. -/
theorem Prepared.ends (h : Prepared disk start project previous g) (force : Bool) :
    (∃ e, ((ask disk project g force).answeredBy answer state).1 = (.error e, disk)) ∨
    ((ask disk project g force).answeredBy answer state).1 = (.ok .cancelled, disk) ∨
    ∃ after place, Clear disk project.root place ∧ Written disk after place g ∧
      ((ask disk project g force).answeredBy answer state).1 =
        (.ok (.written (outdated disk project.root g)), after) ∧
      (outdated disk project.root g = [] → after = disk) := by
  obtain ⟨place, hclear⟩ := h.exists_clear
  obtain ⟨result, asked, hrun, -, -, hresult⟩ := askAll_cases answer state
    (fun e => (.error (.answer e), disk)) (.ok .cancelled, disk) (writeAll disk project.root g)
    (if force then [] else questions project g)
  rw [ask, hrun]
  rcases hresult with ⟨e, rfl⟩ | rfl | ⟨rfl, -⟩
  · exact .inl ⟨_, rfl⟩
  · exact .inr (.inl rfl)
  rcases writeAll_cases (Named.of_generate h.pass) hclear with ⟨-, herror⟩ | ⟨after, hok, hw, hsame⟩
  · exact .inl ⟨_, herror⟩
  · exact .inr (.inr ⟨after, place, hclear, hw, hok, hsame⟩)

/-- A run that has written came to its questions, and its documents are on the disk. -/
theorem exists_written {after : Disk} {force : Bool} {paths : List Path}
    (h : ((generate disk start force).answeredBy answer state).1 = (.ok (.written paths), after)) :
    ∃ project previous g place, Prepared disk start project previous g ∧
      Clear disk project.root place ∧ Written disk after place g := by
  rcases generate_cases disk start force with ⟨e, hrun⟩ | ⟨project, previous, g, hprepared, hrun⟩
  · rw [hrun] at h
    simp [Dialogue.answeredBy] at h
  rw [hrun] at h
  rcases hprepared.ends answer state force with ⟨e, hend⟩ | hend |
    ⟨last, place, hclear, hw, hend, -⟩
  · rw [hend] at h
    simp at h
  · rw [hend] at h
    simp at h
  · rw [hend] at h
    obtain rfl := congrArg Prod.snd h
    exact ⟨project, previous, g, place, hprepared, hclear, hw⟩

/-- A forced run asks nothing, and only a folder in the place of the header stops it. -/
theorem generate_of_force {root : Path} (hload : load disk root = .ok project)
    (hread : readLeniently disk (sourcePath root) = .ok previous)
    (hheader : disk.read (headerPath root) ≠ .error .notFile) :
    ∃ paths after, generate disk root true = .done (.ok (.written paths), after) := by
  obtain ⟨g, hprepared⟩ := Prepared.exists_of_read hload hread
  obtain ⟨place, hclear⟩ := hprepared.exists_clear
  rw [hprepared.generate_eq, ask, root_of_load hload]
  rw [root_of_load hload] at hclear
  rcases writeAll_cases (Named.of_generate hprepared.pass) hclear with
    ⟨hfolder, -⟩ | ⟨after, hwrite, -⟩
  · rw [headerPlace, uiPlace_concat] at hfolder
    exact absurd (hclear.folder.read_of_folder (parts_document root headerName)
      (fun _ => isPlain_of_mem isPlain_headerName) hclear.isUsable_headerPath hfolder) hheader
  · exact ⟨_, after, congrArg Dialogue.done hwrite⟩

end Ends

/-! ## A project -/

/-- A document that is damaged, and not even text. -/
def damagedSource : List UInt8 :=
  Text.Utf8.encode "/* USER CODE BEGIN init */".toList ++ [255]

/-- A folder with a project that shows one label, and with such a document. Somebody has to be asked
before user code is dropped. -/
def damagedDisk : Disk :=
  let manifest := "\x7b\"version\":1,\"lvglVersion\":\"9\",\"resolution\":\x7b\"width\":8," ++
    "\"height\":8\x7d,\"generator\":\x7b\"confirmDroppedRegions\":true\x7d\x7d"
  let layout := "\x7b\"version\":1,\"root\":\x7b\"type\":\"label\",\"text\":\"Ready.\"\x7d\x7d"
  ⟨.folder [("p", .folder [
    (manifestName, .file (Text.Utf8.encode manifest.toList)),
    (layoutName, .file (Text.Utf8.encode layout.toList)),
    (generatedName, .folder [(uiName, .folder [(sourceName, .file damagedSource)])])])]⟩

def damagedRoot : Path :=
  ⟨["p"]⟩

theorem load_damaged : ∃ project, load damagedDisk damagedRoot = .ok project ∧
    project.manifest.generator.confirmDroppedRegions = true ∧ project.layout.Unmarked := by
  have hload : (match load damagedDisk damagedRoot with
      | .ok project => project.manifest.generator.confirmDroppedRegions &&
          project.layout.shownTexts == ["Ready."]
      | .error _ => false) = true := by
    decide +kernel
  cases hproject : load damagedDisk damagedRoot with
  | error fault => simp [hproject] at hload
  | ok project =>
    simp only [hproject, Bool.and_eq_true, beq_iff_eq] at hload
    refine ⟨project, rfl, hload.1, fun text ht => ?_⟩
    rw [hload.2] at ht
    have htexts : ∀ text ∈ ["Ready."], Guard.keys text.toList = [] := by
      decide +kernel
    exact Guard.keys_eq_nil_iff.mp (htexts text ht)

theorem readLeniently_damaged : readLeniently damagedDisk (sourcePath damagedRoot) =
    .ok (some (Text.Utf8.decodeLossy damagedSource)) := by
  have hholds : holdsBytes damagedDisk (sourcePath damagedRoot) damagedSource = true := by
    decide +kernel
  rw [readLeniently, holdsBytes_iff.mp hholds]

theorem generate_damaged : ∃ paths after,
    generate damagedDisk damagedRoot true = .done (.ok (.written paths), after) := by
  obtain ⟨project, hload, -, -⟩ := load_damaged
  refine generate_of_force hload readLeniently_damaged ?_
  intro hheader
  have hmissing : (match damagedDisk.read (headerPath damagedRoot) with
      | .error .notFile => false
      | _ => true) = true := by
    decide +kernel
  rw [hheader] at hmissing
  exact absurd hmissing (by decide)

/-! ## All or nothing -/

end GuardedUi.Command
