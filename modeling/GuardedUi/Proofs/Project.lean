import GuardedUi.Project
import GuardedUi.Proofs.Disk.Folder

/-!
# `Proofs/Project` — what is known of a project that has been read

The root of a project holds a file, its manifest. So it is a folder (`exists_folderAt_of_load`), and
whoever starts there finds it first (`openAt_of_load`). All that is known of the project comes from
three files that lie in that folder directly.

> **A change further down does not change the project** (`load_congr`).
-/

set_option autoImplicit false

namespace GuardedUi.Project

open Disk GuardedUi.Path

variable {disk after : Disk} {root start : Path} {project : Project} {place : Location}

/-! ## The root -/

theorem root_of_load (h : load disk root = .ok project) : project.root = root := by
  rw [load] at h
  cases hmanifest : readManifest disk root with
  | error fault => simp [hmanifest, Except.map] at h
  | ok manifest =>
    rw [hmanifest] at h
    rw [← Except.ok.inj h]

theorem exists_read_of_load (h : load disk root = .ok project) :
    ∃ bytes, disk.read (root.child manifestName) = .ok bytes := by
  cases hread : disk.read (root.child manifestName) with
  | ok bytes => exact ⟨bytes, rfl⟩
  | error e => simp [load, readManifest, readText?, hread, Except.map] at h

theorem isProject_of_load (h : load disk root = .ok project) : isProject disk root = true :=
  isFile_iff.mpr (exists_read_of_load h)

theorem exists_locate_of_isProject (h : isProject disk root = true) :
    ∃ there, disk.locate (root.child manifestName) = .ok there := by
  cases hlocate : disk.locate (root.child manifestName) with
  | ok there => exact ⟨there, rfl⟩
  | error e => simp [isProject, isFile, find, hlocate] at h

/-- The root of a project is a folder. -/
theorem exists_folderAt_of_isProject (h : isProject disk root = true) :
    ∃ place, FolderAt disk root place :=
  exists_folderAt (exists_locate_of_isProject h).choose_spec

theorem exists_folderAt_of_load (h : load disk root = .ok project) :
    ∃ place, FolderAt disk root place :=
  exists_folderAt_of_isProject (isProject_of_load h)

/-- A path is the innermost folder around itself. -/
theorem findRoot_of_isProject (h : isProject disk root = true) : findRoot disk root = .ok root := by
  rw [findRoot, Path.ancestors, List.find?_cons_of_pos h]

theorem findRoot_of_load (h : load disk root = .ok project) : findRoot disk root = .ok root :=
  findRoot_of_isProject (isProject_of_load h)

theorem openAt_of_load (h : load disk root = .ok project) : openAt disk root = .ok project := by
  rw [openAt, findRoot_of_load h]
  exact h

theorem load_of_openAt (h : openAt disk start = .ok project) :
    load disk project.root = .ok project := by
  rw [openAt] at h
  split at h
  · rw [root_of_load h]
    exact h
  · exact absurd h (by simp)

/-! ## The files of a project -/

theorem readText?_congr {path : Path}
    (h : ∀ bytes, after.read path = .ok bytes ↔ disk.read path = .ok bytes) :
    readText? after path = readText? disk path := by
  rw [readText?, readText?]
  cases hdisk : disk.read path with
  | ok bytes => rw [(h bytes).mpr hdisk]
  | error e =>
    cases hafter : after.read path with
    | error e' => rfl
    | ok bytes =>
      have hread := (h bytes).mp hafter
      rw [hdisk] at hread
      exact absurd hread (by simp)

theorem isProject_iff (h : FolderAt disk root place) : isProject disk root = true ↔
    (root.child manifestName).isUsable = true ∧
      ∃ bytes, disk.node? (place ++ [manifestName]) = some (.file bytes) := by
  have hplain : ∀ name ∈ [manifestName], isPlain name = true := by decide
  rw [isProject, isFile_iff]
  simp only [h.read_eq_ok_iff (Path.parts_child root manifestName) hplain, exists_and_left]

theorem isProject_congr (h : FolderAt disk root place) (h' : FolderAt after root place)
    (hnode : after.node? (place ++ [manifestName]) = disk.node? (place ++ [manifestName])) :
    isProject after root = isProject disk root := by
  rw [Bool.eq_iff_iff, isProject_iff h, isProject_iff h', hnode]

/-- A disk has the same project if the files in its root have not changed. -/
theorem load_congr (h : FolderAt disk root place) (h' : FolderAt after root place)
    (hnode : ∀ name, name ∈ [manifestName, layoutName, stylesName] →
      after.node? (place ++ [name]) = disk.node? (place ++ [name])) :
    load after root = load disk root := by
  have hread : ∀ name ∈ [manifestName, layoutName, stylesName],
      readText? after (root.child name) = readText? disk (root.child name) := by
    intro name hname
    have hplain : ∀ other ∈ [name], isPlain other = true := by
      simp only [List.mem_cons, List.not_mem_nil, or_false] at hname
      rcases hname with rfl | rfl | rfl <;> decide
    refine readText?_congr fun bytes => ?_
    rw [h'.read_eq_ok_iff (Path.parts_child root name) hplain,
      h.read_eq_ok_iff (Path.parts_child root name) hplain, hnode name hname]
  have hmanifest := hread manifestName (by simp)
  have hlayout := hread layoutName (by simp)
  have hstyles := hread stylesName (by simp)
  rw [load, load, readManifest, readManifest, readLayout, readLayout, readStyles, readStyles,
    hmanifest, hlayout, hstyles]

end GuardedUi.Project
