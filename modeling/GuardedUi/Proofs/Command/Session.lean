import GuardedUi.Proofs.Command.Cleaning
import GuardedUi.Proofs.Command.Generating

/-!
# `Proofs/Command/Session` — any commands, one after the other

A session is a run of commands on one project, each from the disk that the one before has left. In
every command the flags are free, and so is who answers the questions (`Turn`).

> **A session stays inside the folder of generated files** (`session_contained`). Only a clean that
> says so has emptied that folder, and after it the next generate that succeeds writes what a pass
> without a previous document returns, whatever there was before.

What a session keeps of the disk it began with is `Tended`. It is enough to read the same project, so
the state between two commands is in the files alone. From a clean on until something is written there
is no file among the generated ones (`Unwritten`), and that is all that a pass could take over from.
-/

set_option autoImplicit false

namespace GuardedUi.Command

open Disk GuardedUi.Path Project

/-! ## Sessions -/

/-- What a command says when it is done. -/
inductive Reply where
  | generated (outcome : Except CommandError GenerateOutcome)
  | checked (outcome : Except CommandError (List Guard.Diagnostic))
  | cleaned (outcome : Except CommandError Bool)

/-- A command on the project with a root, what it says, and the disk that it leaves. -/
inductive Turn (root : Path) (disk : Disk) : Reply → Disk → Prop where
  | generate {σ : Type} (answer : σ → String → Except AnswerError Bool × σ) (state : σ)
      (force : Bool) {outcome : Except CommandError GenerateOutcome} {after : Disk}
      (run : ((generate disk root force).answeredBy answer state).1 = (outcome, after)) :
      Turn root disk (.generated outcome) after
  | check : Turn root disk (.checked (check disk root)) disk
  | clean {σ : Type} (answer : σ → String → Except AnswerError Bool × σ) (state : σ) (yes : Bool)
      {outcome : Except CommandError Bool} {after : Disk}
      (run : ((clean disk root yes).answeredBy answer state).1 = (outcome, after)) :
      Turn root disk (.cleaned outcome) after

/-- Commands one after the other. -/
inductive Session (root : Path) (disk : Disk) : List Reply → Disk → Prop where
  | start : Session root disk [] disk
  | next {now after : Disk} {replies : List Reply} {reply : Reply}
      (session : Session root disk replies now) (turn : Turn root now reply after) :
      Session root disk (replies ++ [reply]) after

variable {disk now after : Disk} {root : Path} {place : Location} {reply : Reply}
  {replies : List Reply} {project : Project} {previous : Option (List Char)} {g : Generation}

/-! ## Single commands -/

theorem Prepared.load_eq (h : Prepared disk root project previous g)
    (hproject : isProject disk root = true) : load disk root = .ok project := by
  have hopened := h.opened
  rwa [openAt, findRoot_of_isProject hproject] at hopened

/-- A run of the generator leaves the disk alone if it does not say that it has written. -/
theorem generate_turn_cases {σ : Type} (answer : σ → String → Except AnswerError Bool × σ)
    (state : σ) (force : Bool) (hproject : isProject disk root = true)
    (hroot : FolderAt disk root place) :
    let run := ((generate disk root force).answeredBy answer state).1
    run.2 = disk ∨ ∃ g, Clear disk root place ∧ Written disk run.2 place g ∧
      run.1 = .ok (.written (outdated disk root g)) := by
  intro run
  rcases generate_cases disk root force with ⟨e, hrun⟩ | ⟨project, previous, g, hprepared, hrun⟩
  · exact .inl (by simp only [run, hrun, Dialogue.answeredBy])
  have hname := root_of_load (hprepared.load_eq hproject)
  rcases hprepared.ends answer state force with ⟨e, hend⟩ | hend | ⟨after, there, hclear, hw, hend, -⟩
  · exact .inl (by simp only [run, hrun, hend])
  · exact .inl (by simp only [run, hrun, hend])
  · simp only [run, hrun, hend]
    rw [hname] at hclear ⊢
    obtain rfl : there = place := Except.ok.inj (hclear.folder.stem.symm.trans hroot.stem)
    exact .inr ⟨g, hclear, hw, rfl⟩

theorem Written.outside (h : Written disk after place g) {other : Location}
    (hother : ¬ generatedPlace place <+: other) : after.node? other = disk.node? other := by
  have hne : ∀ rest, other ≠ generatedPlace place ++ rest := fun rest heq =>
    hother ⟨rest, heq.symm⟩
  refine h.rest other ?_ ?_ ?_ ?_
  · simpa using hne []
  · exact hne [uiName]
  · simpa [headerPlace, uiPlace] using hne [uiName, headerName]
  · simpa [sourcePlace, uiPlace] using hne [uiName, sourceName]

/-! ## What a session keeps -/

/-- The path of the root leads where it led, and outside the folder of generated files nothing has
changed. -/
structure Tended (disk now : Disk) (root : Path) (place : Location) : Prop where
  folder : FolderAt now root place
  outside : ∀ other, ¬ generatedPlace place <+: other → now.node? other = disk.node? other

namespace Tended

theorem node?_name (h : Tended disk now root place) {name : String} (hname : name ≠ generatedName) :
    now.node? (place ++ [name]) = disk.node? (place ++ [name]) :=
  h.outside _ (not_generatedPlace_isPrefix hname [])

/-- The project is the same. -/
theorem load_eq (h : Tended disk now root place) (hroot : FolderAt disk root place) :
    load now root = load disk root := by
  refine load_congr hroot h.folder fun name hname => h.node?_name ?_
  rintro rfl
  exact absurd hname (by decide)

theorem isProject_eq (h : Tended disk now root place) (hroot : FolderAt disk root place) :
    isProject now root = isProject disk root :=
  isProject_congr hroot h.folder (h.node?_name (by decide))

/-- **What one command keeps.** -/
theorem turn (h : Tended disk now root place) (hroot : FolderAt disk root place)
    (hproject : isProject disk root = true) (hturn : Turn root now reply after) :
    Tended disk after root place := by
  have hnow : isProject now root = true := (h.isProject_eq hroot).trans hproject
  cases hturn with
  | check => exact h
  | generate answer state force run =>
    have hcases := generate_turn_cases answer state force hnow h.folder
    simp only [run] at hcases
    rcases hcases with rfl | ⟨g, hclear, hw, -⟩
    · exact h
    · exact ⟨hclear.folder.of_keeps hw.keeps, fun other hother =>
        (hw.outside hother).trans (h.outside other hother)⟩
  | clean answer state yes run =>
    have hcases := clean_cases answer state hnow h.folder yes
    simp only [run] at hcases
    rcases hcases with ⟨-, rfl⟩ | ⟨-, hemptied⟩
    · exact h
    · exact ⟨hemptied.folder, fun other hother =>
        (hemptied.outside other hother).trans (h.outside other hother)⟩

/-- **What a session keeps.** -/
theorem session (hroot : FolderAt disk root place) (hproject : isProject disk root = true)
    (hsession : Session root disk replies now) : Tended disk now root place := by
  induction hsession with
  | start => exact ⟨hroot, fun _ _ => rfl⟩
  | next _ turn ih => exact ih.turn hroot hproject turn

end Tended

/-! ## From a clean to the next documents -/

/-- There is no file among the generated ones. -/
def Unwritten (disk : Disk) (place : Location) : Prop :=
  ∀ rest bytes, disk.node? (generatedPlace place ++ rest) ≠ some (.file bytes)

theorem Emptied.unwritten (h : Emptied disk after root place) : Unwritten after place := by
  intro rest bytes hfile
  cases rest with
  | nil =>
    rw [List.append_nil, h.generated] at hfile
    exact absurd hfile (by simp)
  | cons name rest => exact absurd (h.below name rest _ hfile).1 (by simp)

/-- A pass without a previous document gives no reason to ask. -/
theorem questions_eq_nil_of_none
    (hpass : Generation.generate emitOptions project.layout project.styles none = .ok g) :
    questions project g = [] := by
  obtain ⟨emission, rfl⟩ := exists_of_generate hpass
  exact questions_eq_nil_iff.mpr ⟨rfl, fun _ => rfl⟩

/-- Both documents are on a disk as a pass without a previous document returns them, and there is no
other file among the generated ones. -/
structure Afresh (disk last : Disk) (root : Path) (place : Location) (project : Project)
    (g : Generation) : Prop where
  opened : load disk root = .ok project
  pass : Generation.generate emitOptions project.layout project.styles none = .ok g
  header : last.read (headerPath root) = .ok (Text.Utf8.encode g.header.content)
  source : last.read (sourcePath root) = .ok (Text.Utf8.encode g.source.content)
  only : ∀ rest bytes, last.node? (generatedPlace place ++ rest) = some (.file bytes) →
    generatedPlace place ++ rest = headerPlace place ∨
      generatedPlace place ++ rest = sourcePlace place

namespace Unwritten

theorem read_document (h : Unwritten disk place) (hclear : Clear disk root place) {name : String}
    (hname : isPlain name = true) (husable : ((uiFolder root).child name).isUsable = true)
    (bytes : List UInt8) : disk.read ((uiFolder root).child name) ≠ .ok bytes := by
  intro hread
  refine h [uiName, name] bytes ?_
  have hnode := (read_document_iff hclear.folder hname husable).mp hread
  simpa [uiPlace] using hnode

/-- Where there is no file among the generated ones, both documents have to be written. -/
theorem outdated_eq (h : Unwritten disk place) (hclear : Clear disk root place) (g : Generation) :
    outdated disk root g = [headerPath root, sourcePath root] := by
  have hholds : ∀ {name}, isPlain name = true → ((uiFolder root).child name).isUsable = true →
      ∀ bytes, holdsBytes disk ((uiFolder root).child name) bytes = false :=
    fun hname husable bytes => Bool.eq_false_iff.mpr fun hholds =>
      h.read_document hclear hname husable bytes (holdsBytes_iff.mp hholds)
  rw [outdated, headerPath, sourcePath, hholds isPlain_headerName hclear.isUsable_headerPath,
    hholds isPlain_sourceName hclear.usable]
  rfl

/-- **The next documents** are those of a pass without a previous document. -/
theorem afresh (h : Unwritten disk place) (hproject : isProject disk root = true)
    (hroot : FolderAt disk root place) {outcome : GenerateOutcome}
    (hturn : Turn root disk (.generated (.ok outcome)) after) :
    outcome = .written [headerPath root, sourcePath root] ∧
      ∃ project g, Afresh disk after root place project g := by
  cases hturn with
  | generate answer state force run =>
    rcases generate_cases disk root force with ⟨e, hrun⟩ | ⟨project, previous, g, hprepared, hrun⟩
    · rw [hrun] at run
      simp [Dialogue.answeredBy] at run
    have hload := hprepared.load_eq hproject
    have hread := hprepared.read
    rw [root_of_load hload] at hread
    have hclear : Clear disk root place := .of_readLeniently hroot hread
    obtain rfl : previous = none := by
      rcases read_eq_of_readLeniently hread with ⟨bytes, hok, -⟩ | ⟨-, hnone⟩
      · exact absurd hok (h.read_document hclear isPlain_sourceName hclear.usable bytes)
      · exact hnone
    have hask : ask disk project g force = .done (writeAll disk root g) := by
      rw [ask, questions_eq_nil_of_none hprepared.pass, ite_self, root_of_load hload]
      rfl
    rw [hrun, hask, Dialogue.answeredBy] at run
    rcases writeAll_cases (.of_generate hprepared.pass) hclear with
      ⟨-, herror⟩ | ⟨last, hwrite, hw, -⟩
    · rw [herror] at run
      simp at run
    rw [hwrite, h.outdated_eq hclear] at run
    obtain ⟨houtcome, rfl⟩ := Prod.mk.inj run
    have hfolder := hroot.of_keeps hw.keeps
    refine ⟨(Except.ok.inj houtcome).symm, project, g, hload, hprepared.pass,
      (read_document_iff hfolder isPlain_headerName hclear.isUsable_headerPath).mpr hw.header,
      (read_document_iff hfolder isPlain_sourceName hclear.usable).mpr hw.source, ?_⟩
    intro rest bytes hfile
    refine Classical.byContradiction fun hother => h rest bytes ?_
    rw [not_or] at hother
    exact (hw.file_iff bytes hother.1 hother.2).mp hfile

/-- Only a run of the generator that succeeds makes files. -/
theorem turn (h : Unwritten disk place) (hproject : isProject disk root = true)
    (hroot : FolderAt disk root place) (hturn : Turn root disk reply after)
    (hreply : ∀ outcome, reply ≠ .generated (.ok outcome)) : Unwritten after place := by
  cases hturn with
  | check => exact h
  | generate answer state force run =>
    have hcases := generate_turn_cases answer state force hproject hroot
    simp only [run] at hcases
    rcases hcases with rfl | ⟨g, -, -, rfl⟩
    · exact h
    · exact absurd rfl (hreply _)
  | clean answer state yes run =>
    have hcases := clean_cases answer state hproject hroot yes
    simp only [run] at hcases
    rcases hcases with ⟨-, rfl⟩ | ⟨-, hemptied⟩
    · exact h
    · exact hemptied.unwritten

theorem session (h : Unwritten disk place) (hproject : isProject disk root = true)
    (hroot : FolderAt disk root place) (hsession : Session root disk replies now)
    (hreplies : ∀ outcome, .generated (.ok outcome) ∉ replies) : Unwritten now place := by
  induction hsession with
  | start => exact h
  | next session turn ih =>
    have hbefore := ih fun outcome hm => hreplies outcome (List.mem_append_left _ hm)
    have htended := Tended.session hroot hproject session
    exact hbefore.turn ((htended.isProject_eq hroot).trans hproject) htended.folder turn
      fun outcome heq => hreplies outcome (heq ▸ List.mem_append_right _ List.mem_cons_self)

end Unwritten

/-! ## All of a session -/

/-- **A session stays inside the folder of generated files**, whatever the commands are and whoever
answers their questions. At any time, looking at the project changes nothing, nor does a clean that
does not say that it has cleaned. A clean that does has emptied the folder, but for folders through
which the path of the root leads; and when a run of the generator succeeds next, it has written both
documents, as a pass without a previous document returns them. -/
theorem session_contained (hproject : isProject disk root = true) :
    ∃ place, disk.locate root = .ok place ∧
      ∀ replies now, Session root disk replies now →
        (∀ other, ¬ generatedPlace place <+: other → now.node? other = disk.node? other) ∧
        ∀ reply after, Turn root now reply after →
          (∀ outcome, reply = .checked outcome → after = now) ∧
          (∀ outcome, reply = .cleaned outcome → outcome ≠ .ok true → after = now) ∧
          (reply = .cleaned (.ok true) →
            Emptied now after root place ∧
            (".." ∉ root.parts → ∀ name rest,
              after.node? (generatedPlace place ++ name :: rest) = none) ∧
            ∀ between later, Session root after between later →
              (∀ outcome, .generated (.ok outcome) ∉ between) →
              ∀ outcome last, Turn root later (.generated (.ok outcome)) last →
                outcome = .written [headerPath root, sourcePath root] ∧
                  ∃ project g, Afresh disk last root place project g) := by
  obtain ⟨place, hroot⟩ := exists_folderAt_of_isProject hproject
  refine ⟨place, hroot.locate (isUsable_of_isProject hproject).1, fun replies now hsession => ?_⟩
  have hnow := Tended.session hroot hproject hsession
  have hnowProject : isProject now root = true := (hnow.isProject_eq hroot).trans hproject
  refine ⟨hnow.outside, fun reply after hturn => ⟨?_, ?_, ?_⟩⟩
  · rintro outcome rfl
    cases hturn
    rfl
  · rintro outcome rfl hfalse
    cases hturn with
    | clean answer state yes run =>
      have hcases := clean_cases answer state hnowProject hnow.folder yes
      simp only [run] at hcases
      rcases hcases with ⟨-, hsame⟩ | ⟨htrue, -⟩
      · exact hsame
      · exact absurd htrue hfalse
  · rintro rfl
    have hemptied : Emptied now after root place := by
      cases hturn with
      | clean answer state yes run =>
        have hcases := clean_cases answer state hnowProject hnow.folder yes
        simp only [run] at hcases
        rcases hcases with ⟨hfalse, -⟩ | ⟨-, hemptied⟩
        · exact absurd rfl hfalse
        · exact hemptied
    refine ⟨hemptied, hemptied.nothing_below, ?_⟩
    intro between later hlater hbetween outcome last hlast
    -- What the generator finds is a project as it was, and no file among the generated ones.
    have hafter : Tended disk after root place := hnow.turn hroot hproject hturn
    have hafterProject : isProject after root = true := (hafter.isProject_eq hroot).trans hproject
    have hempty := hemptied.unwritten.session hafterProject hafter.folder hlater hbetween
    have hkept := Tended.session hafter.folder hafterProject hlater
    obtain ⟨houtcome, project, g, hafresh⟩ := hempty.afresh
      ((hkept.isProject_eq hafter.folder).trans hafterProject) hkept.folder hlast
    have hload : load later root = load disk root :=
      (hkept.load_eq hafter.folder).trans (hafter.load_eq hroot)
    exact ⟨houtcome, project, g, { hafresh with opened := hload ▸ hafresh.opened }⟩

/-- A damaged document is cleaned away, and the generator is run. -/
theorem session_contained_damaged :
    isProject damagedDisk damagedRoot = true ∧
      ∃ cleaned last, Turn damagedRoot damagedDisk (.cleaned (.ok true)) cleaned ∧
        (∀ name rest, cleaned.node? (generatedPlace ["p"] ++ name :: rest) = none) ∧
        Turn damagedRoot cleaned (.generated
          (.ok (.written [headerPath damagedRoot, sourcePath damagedRoot]))) last ∧
        (∀ other, ¬ generatedPlace ["p"] <+: other →
          last.node? other = damagedDisk.node? other) ∧
        ∃ project g, Afresh damagedDisk last damagedRoot ["p"] project g := by
  obtain ⟨project, hload, -, -⟩ := load_damaged
  have hproject := isProject_of_load hload
  obtain ⟨place, hlocate, hcontained⟩ := session_contained hproject
  obtain rfl : ["p"] = place := Except.ok.inj hlocate
  let cleaned := (emptyGenerated damagedDisk damagedRoot).2
  have hclean : Turn damagedRoot damagedDisk (.cleaned (.ok true)) cleaned :=
    .clean (fun (s : Unit) _ => (.ok false, s)) () true rfl
  obtain ⟨hemptied, hnothing, hafresh⟩ := ((hcontained [] _ .start).2 _ _ hclean).2.2 rfl
  have hsession : Session damagedRoot damagedDisk ([] ++ [.cleaned (.ok true)]) cleaned :=
    .next .start hclean
  have hroot : FolderAt damagedDisk damagedRoot ["p"] := ⟨rfl, rfl⟩
  have hload' : load cleaned damagedRoot = .ok project :=
    ((Tended.session hroot hproject hsession).load_eq hroot).trans hload
  have hread : readLeniently cleaned (sourcePath damagedRoot) = .ok none := rfl
  have hheader : cleaned.read (headerPath damagedRoot) = .error .missing := rfl
  obtain ⟨paths, last, hrun⟩ := generate_of_force hload' hread (by rw [hheader]; simp)
  have hgenerate : Turn damagedRoot cleaned (.generated (.ok (.written paths))) last :=
    .generate (fun (s : Unit) _ => (.ok false, s)) () true (by rw [hrun]; rfl)
  obtain ⟨hpaths, hafresh⟩ := hafresh [] cleaned .start (fun _ => List.not_mem_nil) _ _ hgenerate
  refine ⟨hproject, cleaned, last, hclean, hnothing (by decide), hpaths ▸ hgenerate, ?_, hafresh⟩
  exact (hcontained _ last (.next hsession hgenerate)).1

end GuardedUi.Command
