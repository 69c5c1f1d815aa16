import GuardedUi.Command.Clean
import GuardedUi.Proofs.Command.Answering
import GuardedUi.Proofs.Command.Writing
import GuardedUi.Proofs.Disk.Remaking
import GuardedUi.Proofs.Project

/-!
# `Proofs/Command/Cleaning` — what cleaning removes

Cleaning removes the folder of generated files and makes it anew. Once the folder is found, neither
of these can fail, so there is nothing between a disk that is untouched and one that is cleaned.

> **Cleaning empties the folder of generated files, or does nothing** (`clean_cases`).

Paths are followed as they were written. If that of the root passes through the folder of generated
files, as in `generated/ui/../..`, then it would not lead to the project any more if that folder were
empty, and the folders that it passes through are made again (`clean_remakes_ui`). Otherwise the
folder is empty (`Emptied.nothing_below`).
-/

set_option autoImplicit false

namespace GuardedUi.Command

open Disk GuardedUi.Path Project

/-- Cleaning has emptied the folder of generated files. What there is in it are folders through which
the path of the root leads, and outside nothing has changed. -/
structure Emptied (disk after : Disk) (root : Path) (place : Location) : Prop where
  folder : FolderAt after root place
  generated : after.node? (generatedPlace place) = some .folder
  below : ∀ name rest node, after.node? (generatedPlace place ++ name :: rest) = some node →
    node = .folder ∧ ∃ front, front <+: root.parts ∧
      after.follow [] front = .ok (generatedPlace place ++ name :: rest)
  outside : ∀ other, ¬ generatedPlace place <+: other → after.node? other = disk.node? other

variable {disk after : Disk} {root : Path} {place : Location}

/-! ## Places inside and outside -/

theorem isPlain_of_mem_generatedName : ∀ name ∈ [generatedName], isPlain name = true := by
  simpa using isPlain_generatedName

theorem not_generatedPlace_isPrefix {name : String} (h : name ≠ generatedName) (rest : Location) :
    ¬ generatedPlace place <+: place ++ name :: rest := by
  rw [generatedPlace, List.prefix_append_right_inj]
  rintro ⟨more, heq⟩
  exact h (List.cons.inj heq).1.symm

/-! ## Emptying -/

/-- Without a way up a path only leads further down. -/
theorem isPrefix_of_follow {parts : List String} {here there : Location} (hdots : ".." ∉ parts)
    (h : disk.follow here parts = .ok there) : here <+: there := by
  induction parts generalizing here with
  | nil => exact Except.ok.inj h ▸ List.prefix_rfl
  | cons part rest ih =>
    have hhere := node?_of_follow_cons h
    rw [follow_cons, hhere] at h
    have hrest : ".." ∉ rest := fun hm => hdots (List.mem_cons_of_mem part hm)
    have hpart : part ≠ ".." := fun heq => hdots (heq ▸ List.mem_cons_self)
    simp only [if_neg hpart] at h
    split at h
    · exact ih hrest h
    · split at h
      · exact absurd h (by simp)
      split at h
      · exact (List.prefix_append here [part]).trans (ih hrest h)
      · exact absurd h (by simp)

/-- **The folder of generated files is empty** if the path of the root has no way up. -/
theorem Emptied.nothing_below (h : Emptied disk after root place) (hdots : ".." ∉ root.parts)
    (name : String) (rest : Location) :
    after.node? (generatedPlace place ++ name :: rest) = none := by
  refine Option.eq_none_iff_forall_ne_some.mpr fun node hnode => ?_
  obtain ⟨-, front, ⟨back, hparts⟩, hfront⟩ := h.below name rest node hnode
  have hroot := h.folder.follow_parts
  rw [← hparts, follow_append, hfront] at hroot
  have hback : ".." ∉ back := fun hm => hdots (hparts ▸ List.mem_append_right front hm)
  have hlength := (isPrefix_of_follow hback hroot).length_le
  simp only [generatedPlace, List.length_append, List.length_cons, List.length_nil] at hlength
  omega

theorem emptied_of_remakes {left : Disk} (hprunes : Prunes disk left (generatedPlace place))
    (h : Remakes left after disk (generatedFolder root).parts (generatedPlace place)) :
    Emptied disk after root place := by
  have hleads := h.leads
  rw [generatedFolder, Path.parts_child, follow_append] at hleads
  cases hstem : after.follow [] root.stem with
  | error e => simp [hstem, Except.bind] at hleads
  | ok there =>
    rw [hstem] at hleads
    have hnode : after.node? there = some .folder := node?_of_follow_cons hleads
    -- The path of the root still leads to the place of the root.
    obtain rfl : there = place := by
      have hlast := (follow_names hnode isPlain_of_mem_generatedName).1 _ hleads
      exact (List.append_inj_left' hlast rfl).symm
    refine ⟨⟨hstem, hnode⟩, h.node, fun name rest node hbelow => ?_, fun other hother => ?_⟩
    · obtain hold | ⟨-, hfolder, front, hfront, hreach⟩ := h.new _ node hbelow
      · rw [hprunes.inside] at hold
        exact absurd hold (by simp)
      refine ⟨hfolder, front, ?_, hreach⟩
      rcases List.prefix_concat_iff.mp hfront with rfl | hstem'
      · -- The whole path leads to the folder itself.
        have hsame := Except.ok.inj (h.leads.symm.trans hreach)
        exact absurd (congrArg List.length hsame) (by simp)
      · refine hstem'.trans ?_
        rcases Path.parts_cases root with hparts | hparts
        · exact hparts ▸ List.prefix_rfl
        · exact hparts ▸ List.prefix_append root.stem [""]
    · rw [← hprunes.outside other hother]
      cases hafter : after.node? other with
      | none =>
        refine (Option.eq_none_iff_forall_ne_some.mpr fun node hnode => ?_).symm
        have hsome := h.grows.isSome (Option.isSome_of_mem hnode)
        rw [hafter] at hsome
        exact absurd hsome (by simp)
      | some node =>
        obtain hold | ⟨hnone, rfl, -⟩ := h.new other node hafter
        · exact hold.symm
        · -- Nothing is made where there was nothing before the removal.
          have hfolder := h.keeps.folders other hafter
          rw [← hprunes.outside other hother, hnone] at hfolder
          exact absurd hfolder (by simp)

/-- Emptying the folder of generated files works where it is a folder. -/
theorem exists_emptyGenerated (h : FolderAt disk root place)
    (husable : (generatedFolder root).isUsable = true)
    (hnode : disk.node? (generatedPlace place) = some .folder) :
    ∃ after, emptyGenerated disk root = (.ok true, after) ∧ Emptied disk after root place := by
  obtain ⟨left, hremove, hprunes⟩ := h.exists_removeFolder isPlain_generatedName husable hnode
  have hroot : left.node? [] = some .folder := by
    rw [hprunes.outside [] (by simp), h.node_root]
  obtain ⟨after, hinstall, hmade⟩ := exists_installFolder_child (hprunes.keeps hnode) hroot
    isPlain_generatedName husable h hnode
  refine ⟨after, ?_, emptied_of_remakes hprunes hmade⟩
  simp only [emptyGenerated, generatedFolder, hremove, hinstall]

theorem emptyGenerated_cases (h : FolderAt disk root place)
    (husable : (generatedFolder root).isUsable = true)
    (hholds : disk.holds (generatedFolder root) = true) :
    (∃ e, emptyGenerated disk root = (.error e, disk)) ∨
      ∃ after, emptyGenerated disk root = (.ok true, after) ∧ Emptied disk after root place := by
  cases hlocate : disk.locate (generatedFolder root) with
  | error e => simp [holds, find, hlocate] at hholds
  | ok there =>
    have hthere : there = generatedPlace place := by
      have hfollow := hlocate
      rw [locate_of_isUsable husable, generatedFolder, Path.parts_child, h.follow_stem] at hfollow
      exact (follow_names h.node isPlain_of_mem_generatedName).1 there hfollow
    cases hget : disk.get? there with
    | none => simp [holds, find, hlocate, hget] at hholds
    | some entry =>
      cases entry with
      | file bytes =>
        refine .inl ⟨.removing (generatedFolder root), ?_⟩
        simp only [emptyGenerated, removeFolder, find, hlocate, hget]
      | folder entries =>
        exact .inr (exists_emptyGenerated h husable (by rw [← hthere, node?, hget]; rfl))

/-! ## The command -/

theorem isUsable_of_isProject (h : isProject disk root = true) :
    root.isUsable = true ∧ (generatedFolder root).isUsable = true := by
  obtain ⟨there, hlocate⟩ := exists_locate_of_isProject h
  have hmanifest : (root.child manifestName).isUsable = true := by
    rw [Disk.locate] at hlocate
    split at hlocate
    · assumption
    · exact absurd hlocate (by simp)
  exact ⟨isUsable_of_child hmanifest, isUsable_concat hmanifest (by decide) (by decide)⟩

/-- **Cleaning** leaves the disk alone, or says that it has emptied the folder of generated files. -/
theorem clean_cases {σ : Type} (answer : σ → String → Except AnswerError Bool × σ) (state : σ)
    (hproject : isProject disk root = true) (h : FolderAt disk root place) (yes : Bool) :
    let run := ((clean disk root yes).answeredBy answer state).1
    run.1 ≠ .ok true ∧ run.2 = disk ∨ run.1 = .ok true ∧ Emptied disk run.2 root place := by
  intro run
  have hempties : disk.holds (generatedFolder root) = true →
      (emptyGenerated disk root).1 ≠ .ok true ∧ (emptyGenerated disk root).2 = disk ∨
        (emptyGenerated disk root).1 = .ok true ∧
          Emptied disk (emptyGenerated disk root).2 root place := fun hholds => by
    rcases emptyGenerated_cases h (isUsable_of_isProject hproject).2 hholds with
      ⟨e, hrun⟩ | ⟨after, hrun, hemptied⟩
    · rw [hrun]
      exact .inl ⟨by simp, rfl⟩
    · rw [hrun]
      exact .inr ⟨rfl, hemptied⟩
  simp only [run, clean, findRoot_of_isProject hproject]
  cases hholds : disk.holds (generatedFolder root) with
  | false => exact .inl ⟨by simp [Dialogue.answeredBy], rfl⟩
  | true =>
    cases yes with
    | true => exact hempties hholds
    | false =>
      simp only [Bool.not_true, Bool.false_eq_true, if_false, Dialogue.answeredBy]
      -- The folder is only emptied if the answer is a yes.
      cases (answer state (cleanQuestion (generatedFolder root))).1 with
      | error e => exact .inl ⟨by simp [Dialogue.answeredBy], rfl⟩
      | ok reply =>
        cases reply with
        | false => exact .inl ⟨by simp [Dialogue.answeredBy], rfl⟩
        | true => exact hempties hholds

/-- A folder with a project whose generated files are in a folder that is empty. -/
def nestedDisk : Disk :=
  let manifest := "\x7b\"version\":1,\"lvglVersion\":\"9.1.0\"," ++
    "\"resolution\":\x7b\"width\":480,\"height\":272\x7d\x7d"
  ⟨.folder [("p", .folder [
    (manifestName, .file (Text.Utf8.encode manifest.toList)),
    (generatedName, .folder [(uiName, .folder [])])])]⟩

/-- The root of the project, by way of that folder. -/
def nestedRoot : Path :=
  ⟨["p", generatedName, uiName, "..", ".."]⟩

/-- Cleaning does not leave an empty folder where the path of the root passes through it. -/
theorem clean_remakes_ui :
    isProject nestedDisk nestedRoot = true ∧ nestedDisk.locate nestedRoot = .ok ["p"] ∧
      ∃ after, clean nestedDisk nestedRoot true = .done (.ok true, after) ∧
        after.node? (generatedPlace ["p"] ++ [uiName]) = some .folder := by
  refine ⟨by decide +kernel, rfl, (emptyGenerated nestedDisk nestedRoot).2, ?_, ?_⟩
  · have hholds : nestedDisk.holds (generatedFolder nestedRoot) = true := by decide +kernel
    have hproject : isProject nestedDisk nestedRoot = true := by decide +kernel
    have hcleaned : (emptyGenerated nestedDisk nestedRoot).1 = .ok true := rfl
    simp only [clean, findRoot_of_isProject hproject, hholds, ← hcleaned]
    rfl
  · decide +kernel

end GuardedUi.Command
