import GuardedUi.Proofs.Command.Generating
import GuardedUi.Proofs.Generation.History
import GuardedUi.Proofs.Text.Utf8

/-!
# `Proofs/Command/Refusing` — a no keeps user code

A run can lose user code in two ways: the markers of the previous document are damaged, so nothing
is taken over from it, or a region is not emitted any more. There is a question for each, and a pass
gives reason for one of them at most, since where nothing is taken over nothing is dropped
(`questions_length_le_one`).

> **Whoever says no keeps all user code** (`refusal_keeps_userCode`). Nobody is asked twice, and the
> question about damaged markers is asked exactly when looking at the project shows faults.
-/

set_option autoImplicit false

namespace GuardedUi.Command

open Disk Project Guard

variable {disk after : Disk} {root start : Path} {project : Project}
  {previous : Option (List Char)} {g : Generation}

/-! ## The questions of a pass -/

theorem diagnostics_eq {layout : Layout} {sheet : StyleSheet}
    (hpass : Generation.generate emitOptions layout sheet previous = .ok g) :
    g.diagnostics = Generation.previousDiagnostics previous := by
  obtain ⟨emission, rfl⟩ := exists_of_generate hpass
  rfl

/-- Of a damaged document nothing is taken over, so nothing is dropped either. -/
theorem dropped_eq_nil {layout : Layout} {sheet : StyleSheet}
    (hpass : Generation.generate emitOptions layout sheet previous = .ok g)
    (hdiagnostics : g.diagnostics ≠ []) : g.dropped = [] := by
  obtain ⟨emission, rfl⟩ := exists_of_generate hpass
  cases previous with
  | none => exact absurd rfl hdiagnostics
  | some document =>
    have hdamaged : (diagnose document).isEmpty = false :=
      List.isEmpty_eq_false_iff.mpr hdiagnostics
    have hnone : Generation.preservedBlocks (some document) = Bag.empty := by
      rw [Generation.preservedBlocks, hdamaged]
      rfl
    simp only [hnone]
    rfl

theorem overwriteQuestion_ne_dropQuestion (source : Path) (count : Nat) (lost : List Dropped) :
    overwriteQuestion source count ≠ dropQuestion lost := by
  intro h
  have hhead := congrArg (fun text => text.toList.head?) h
  simp [overwriteQuestion, dropQuestion, Path.text] at hhead

/-- A pass gives reason for one question at most. -/
theorem questions_length_le_one
    (hpass : Generation.generate emitOptions project.layout project.styles previous = .ok g) :
    (questions project g).length ≤ 1 := by
  by_cases hdiagnostics : g.diagnostics = []
  · rw [questions, Generation.needsConfirmation, hdiagnostics]
    simp only [List.isEmpty_nil, Bool.not_true, Bool.false_eq_true, if_false, List.nil_append]
    split <;> simp
  · rw [questions, Generation.lostUserCode, dropped_eq_nil hpass hdiagnostics]
    simp only [List.filter_nil, List.isEmpty_nil, Bool.not_true, Bool.false_and, Bool.false_eq_true,
      if_false, List.append_nil]
    split <;> simp

/-- A damaged document is a reason for its own question only. -/
theorem exists_overwriteQuestion_iff (project : Project) (g : Generation) :
    (∃ count, overwriteQuestion (sourcePath project.root) count ∈ questions project g) ↔
      g.diagnostics ≠ [] := by
  rw [← List.isEmpty_eq_false_iff]
  constructor
  · rintro ⟨count, hmem⟩
    refine Classical.byContradiction fun hnone => ?_
    -- What is left is the other question.
    rw [questions, Generation.needsConfirmation, (Bool.not_eq_false _).mp hnone] at hmem
    simp only [Bool.not_true, Bool.false_eq_true, if_false, List.nil_append] at hmem
    split at hmem
    · exact overwriteQuestion_ne_dropQuestion _ _ _ (List.mem_singleton.mp hmem)
    · exact absurd hmem List.not_mem_nil
  · intro hsome
    refine ⟨g.diagnostics.length, List.mem_append_left _ ?_⟩
    rw [Generation.needsConfirmation, hsome]
    exact List.mem_cons_self

/-! ## What a run asks -/

section Asking

variable {σ : Type} (answer : σ → String → Except AnswerError Bool × σ) (state : σ)

/-- A run asks the question that its pass gives reason for, and none if it is forced. -/
theorem Prepared.asked_eq (h : Prepared disk start project previous g) (force : Bool) :
    ((generate disk start force).answeredBy answer state).2 =
      if force then [] else questions project g := by
  rw [h.generate_eq, ask]
  refine asked_askAll_of_length_le_one answer state _ _ _ ?_
  split
  · exact Nat.zero_le 1
  · exact questions_length_le_one h.pass

/-- **A run asks once at most**, and if it is forced it does not ask. -/
theorem asked_generate_length_le_one (disk : Disk) (start : Path) (force : Bool) :
    ((generate disk start force).answeredBy answer state).2.length ≤ 1 ∧
      (force = true → ((generate disk start force).answeredBy answer state).2 = []) := by
  rcases generate_cases disk start force with ⟨e, hrun⟩ | ⟨project, previous, g, hprepared, -⟩
  · rw [hrun]
    exact ⟨Nat.zero_le 1, fun _ => rfl⟩
  · rw [hprepared.asked_eq]
    refine ⟨?_, fun hforce => if_pos hforce⟩
    split
    · exact Nat.zero_le 1
    · exact questions_length_le_one hprepared.pass

/-- **A run asks about damaged markers** exactly when looking at the project shows faults. -/
theorem asked_overwriteQuestion_iff (hload : load disk root = .ok project) :
    (∃ count, overwriteQuestion (sourcePath root) count ∈
        ((generate disk root false).answeredBy answer state).2) ↔
      ∃ faults, faults ≠ [] ∧ check disk root = .ok faults := by
  cases hread : readLeniently disk (sourcePath root) with
  | error e =>
    have hgenerate : generate disk root false = .done (.error e, disk) := by
      rw [generate, openAt_of_load hload]
      simp only [root_of_load hload, hread]
    have hcheck : check disk root = .error e := by
      rw [check, findRoot_of_load hload]
      simp only [hread]
    rw [hgenerate, hcheck]
    simp [Dialogue.answeredBy]
  | ok previous =>
    obtain ⟨g, hprepared⟩ := Prepared.exists_of_read hload hread
    have hquestion := exists_overwriteQuestion_iff project g
    rw [root_of_load hload] at hquestion
    rw [hprepared.asked_eq, check_of_read hload hread]
    simp only [Bool.false_eq_true, if_false]
    rw [hquestion, diagnostics_eq hprepared.pass]
    simp

end Asking

/-! ## What a no leaves -/

/-- The user code of a document is kept from one disk to another: there was no document, it is the
same, or it was in order and all code that it held is in the new one. -/
inductive KeepsUserCode (disk after : Disk) (source : Path) : Prop where
  | absent (h : disk.read source = .error .missing)
  | same (h : after.read source = disk.read source)
  | carried {old new : List UInt8} {text : List Char} (hold : disk.read source = .ok old)
      (hnew : after.read source = .ok new) (htext : Text.Utf8.decode? new = some text)
      (hsound : diagnose (Text.Utf8.decodeLossy old) = [])
      (hblocks : ∀ id content, (extract (Text.Utf8.decodeLossy old)).get? id = some content →
        Text.allBlank content = false → (extract text).get? id = some content)

/-- A run that asks nothing is one without a risk. -/
theorem Written.keepsUserCode {place : Location} (hw : Written disk after place g)
    (hclear : Clear disk project.root place) (h : Prepared disk start project previous g)
    (hlayout : project.layout.Unmarked) (hdiagnostics : g.diagnostics = [])
    (hlost : g.lostUserCode = []) : KeepsUserCode disk after (sourcePath project.root) := by
  rcases read_eq_of_readLeniently h.read with ⟨old, hold, rfl⟩ | ⟨hmissing, -⟩
  · have hsound : diagnose (Text.Utf8.decodeLossy old) = [] :=
      (diagnostics_eq h.pass).symm.trans hdiagnostics
    have hnew := (read_document_iff (hclear.folder.of_keeps hw.keeps) isPlain_sourceName
      hclear.usable).mpr hw.source
    refine .carried hold hnew (Text.Utf8.decode?_encode _) hsound ?_
    intro id content hget hcode
    obtain ⟨emission, p⟩ := exists_pass_of_generate hlayout h.pass
    rcases (p.carries hsound).kept_or_dropped hget with hkept | hdropped
    · exact hkept
    · have hmem : (⟨id, content⟩ : Dropped) ∈ g.lostUserCode :=
        List.mem_filter.mpr ⟨hdropped, by rw [Dropped.hasUserCode, hcode]; rfl⟩
      rw [hlost] at hmem
      exact absurd hmem List.not_mem_nil
  · exact .absent hmissing

theorem generate_keepsUserCode (hload : load disk root = .ok project)
    (hconfirm : project.manifest.generator.confirmDroppedRegions = true)
    (hlayout : project.layout.Unmarked) {σ : Type}
    (answer : σ → String → Except AnswerError Bool × σ) (state : σ)
    (hno : ∀ s question, (answer s question).1 = .ok false) :
    KeepsUserCode disk ((generate disk root false).answeredBy answer state).1.2
      (sourcePath root) := by
  rcases generate_cases disk root false with ⟨e, hrun⟩ | ⟨project', previous, g, hprepared, hrun⟩
  · rw [hrun]
    exact .same rfl
  obtain rfl : project' = project :=
    Except.ok.inj (hprepared.opened.symm.trans (openAt_of_load hload))
  rw [hrun]
  by_cases hquestions : questions project' g = []
  · obtain ⟨hdiagnostics, hlost⟩ := questions_eq_nil_iff.mp hquestions
    rcases hprepared.ends answer state false with ⟨e, hend⟩ | hend |
      ⟨after, place, hclear, hw, hend, -⟩
    · rw [hend]
      exact .same rfl
    · rw [hend]
      exact .same rfl
    · rw [hend, ← root_of_load hload]
      exact hw.keepsUserCode hclear hprepared hlayout hdiagnostics (hlost hconfirm)
  · -- The first question is answered with no, and nothing is written.
    rw [ask, answeredBy_askAll_of_refused answer state _ _ _ hno (by simpa using hquestions)]
    exact .same rfl

/-- **A no keeps user code**, and there is one question to say it to at most: about damaged markers
exactly where looking at the project shows faults, and none if the run is forced. -/
theorem refusal_keeps_userCode (hload : load disk root = .ok project) :
    (project.manifest.generator.confirmDroppedRegions = true → project.layout.Unmarked →
      ∀ {σ : Type} (answer : σ → String → Except AnswerError Bool × σ) (state : σ),
        (∀ s question, (answer s question).1 = .ok false) →
        KeepsUserCode disk ((generate disk root false).answeredBy answer state).1.2
          (sourcePath root)) ∧
    ∀ {σ : Type} (answer : σ → String → Except AnswerError Bool × σ) (state : σ),
      (∀ force, ((generate disk root force).answeredBy answer state).2.length ≤ 1) ∧
      ((generate disk root true).answeredBy answer state).2 = [] ∧
      ((∃ count, overwriteQuestion (sourcePath root) count ∈
          ((generate disk root false).answeredBy answer state).2) ↔
        ∃ faults, faults ≠ [] ∧ check disk root = .ok faults) := by
  constructor
  · intro hconfirm hlayout σ answer state hno
    exact generate_keepsUserCode hload hconfirm hlayout answer state hno
  · intro σ answer state
    have hlength := asked_generate_length_le_one answer state disk root
    exact ⟨fun force => (hlength force).1, (hlength true).2 rfl,
      asked_overwriteQuestion_iff answer state hload⟩

theorem refusal_keeps_userCode_damaged :
    KeepsUserCode damagedDisk ((generate damagedDisk damagedRoot false).answeredBy
        (fun (s : Unit) _ => (.ok false, s)) ()).1.2 (sourcePath damagedRoot) ∧
      ∃ count, overwriteQuestion (sourcePath damagedRoot) count ∈
        ((generate damagedDisk damagedRoot false).answeredBy
          (fun (s : Unit) _ => (.ok true, s)) ()).2 := by
  obtain ⟨project, hload, hconfirm, hlayout⟩ := load_damaged
  obtain ⟨hkeeps, hasked⟩ := refusal_keeps_userCode hload
  refine ⟨hkeeps hconfirm hlayout _ () fun _ _ => rfl, (hasked _ ()).2.2.mpr ?_⟩
  have hfaults : diagnose (Text.Utf8.decodeLossy damagedSource) ≠ [] := by
    decide +kernel
  exact ⟨_, hfaults, check_of_read hload readLeniently_damaged⟩

end GuardedUi.Command
