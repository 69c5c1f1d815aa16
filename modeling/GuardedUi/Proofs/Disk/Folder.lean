import GuardedUi.Proofs.Disk.Node
import GuardedUi.Proofs.Disk.Path

/-!
# `Proofs/Disk/Folder` — paths inside a folder of a disk

Everything that a command touches is inside one folder, and it gets there by joining names to the
path of that folder. `FolderAt` says that a path leads to a folder; what the operations of a disk do
with paths inside it is then said in terms of places (`FolderAt.read_eq_ok_iff`,
`FolderAt.placeOf_child`).

> **Making sure of a folder** (`FolderAt.exists_ensureFolder`): where no file is in the way there is a
> folder afterwards, nothing else has changed, and nothing at all if it was there before.

The folders above the path of a folder are there already, so making sure of them does nothing
(`FolderAt.ensureFolders_parents`).
-/

set_option autoImplicit false

namespace GuardedUi.Disk

open GuardedUi.Path (isPlain)

/-! ## Following paths -/

/-- One step on the way, by what stands at the place that has been reached. -/
theorem follow_cons (disk : Disk) (here : Location) (part : String) (rest : List String) :
    disk.follow here (part :: rest) =
      match disk.node? here with
      | none => .error .missing
      | some (.file _) => .error .notFolder
      | some .folder =>
        if Path.isIdle part then disk.follow here rest
        else if part = ".." then disk.follow here.dropLast rest
        else if !Path.isName part then .error .unusable
        else if (disk.node? (here ++ [part])).isSome then disk.follow (here ++ [part]) rest
        else .error .missing := by
  rw [follow, isSome_node?, node?]
  cases disk.get? here with
  | none => rfl
  | some entry => cases entry <;> rfl

theorem node?_of_follow_cons {disk : Disk} {here there : Location} {part : String}
    {rest : List String} (h : disk.follow here (part :: rest) = .ok there) :
    disk.node? here = some .folder := by
  rw [follow_cons] at h
  cases hnode : disk.node? here with
  | none => simp [hnode] at h
  | some node =>
    cases node with
    | file bytes => simp [hnode] at h
    | folder => rfl

theorem follow_append (disk : Disk) (here : Location) (front back : List String) :
    disk.follow here (front ++ back) =
      (disk.follow here front).bind fun there => disk.follow there back := by
  induction front generalizing here with
  | nil => rfl
  | cons part rest ih =>
    rw [List.cons_append, follow_cons, follow_cons]
    cases disk.node? here with
    | none => rfl
    | some node =>
      cases node with
      | file bytes => rfl
      | folder =>
        simp only [ih]
        split
        · rfl
        split
        · rfl
        split
        · rfl
        split <;> rfl

/-- A path leads to the same place as long as what is on its way stays there. -/
theorem Keeps.follow {disk after : Disk} (h : Keeps disk after) {parts : List String}
    {here there : Location} (hfollow : disk.follow here parts = .ok there) :
    after.follow here parts = .ok there := by
  induction parts generalizing here with
  | nil => exact hfollow
  | cons part rest ih =>
    have hfolder := node?_of_follow_cons hfollow
    rw [follow_cons, hfolder] at hfollow
    rw [follow_cons, h.folders here hfolder]
    simp only at hfollow ⊢
    split at hfollow
    · rename_i hidle
      rw [if_pos hidle]
      exact ih hfollow
    · rename_i hidle
      rw [if_neg hidle]
      split at hfollow
      · rename_i hdots
        rw [if_pos hdots]
        exact ih hfollow
      · rename_i hdots
        rw [if_neg hdots]
        split at hfollow
        · exact absurd hfollow (by simp)
        · rename_i hname
          rw [if_neg hname]
          split at hfollow
          · rename_i hsome
            rw [if_pos (h.isSome hsome)]
            exact ih hfollow
          · exact absurd hfollow (by simp)

theorem follow_plain {disk : Disk} {here : Location} {name : String} (rest : List String)
    (hhere : disk.node? here = some .folder) (hname : isPlain name = true) :
    disk.follow here (name :: rest) =
      if (disk.node? (here ++ [name])).isSome then disk.follow (here ++ [name]) rest
      else .error .missing := by
  rw [follow_cons, hhere]
  simp only [Path.not_isIdle_of_isPlain hname, Path.ne_dots_of_isPlain hname,
    Path.isName_of_isPlain hname, Bool.not_true, Bool.false_eq_true, if_false]

/-- Names lead to the place below that is made of them. -/
theorem follow_names {disk : Disk} {here : Location} {names : List String}
    (hhere : disk.node? here = some .folder) (hnames : ∀ name ∈ names, isPlain name = true) :
    (∀ there, disk.follow here names = .ok there → there = here ++ names) ∧
      ((disk.node? (here ++ names)).isSome = true →
        disk.follow here names = .ok (here ++ names)) := by
  induction names generalizing here with
  | nil =>
    refine ⟨fun there h => ?_, fun _ => ?_⟩
    · rw [List.append_nil]
      exact (Except.ok.inj h).symm
    · rw [List.append_nil]
      rfl
  | cons name rest ih =>
    have hrest : ∀ other ∈ rest, isPlain other = true := fun other ho =>
      hnames other (List.mem_cons_of_mem name ho)
    have hassoc : here ++ name :: rest = here ++ [name] ++ rest := by simp
    rw [follow_plain rest hhere (hnames name List.mem_cons_self), hassoc]
    cases rest with
    | nil =>
      simp only [follow, List.append_nil]
      refine ⟨fun there h => ?_, fun hsome => if_pos hsome⟩
      split at h
      · exact (Except.ok.inj h).symm
      · exact absurd h (by simp)
    | cons second rest =>
      refine ⟨fun there h => ?_, fun hsome => ?_⟩
      · split at h
        · exact (ih (node?_of_follow_cons h) hrest).1 there h
        · exact absurd h (by simp)
      · have hfolder := node?_of_isSome_below hsome
        rw [if_pos (by rw [hfolder, Option.isSome_some])]
        exact (ih hfolder hrest).2 hsome

theorem locate_of_isUsable {disk : Disk} {path : Path} (h : path.isUsable = true) :
    disk.locate path = disk.follow [] path.parts :=
  if_pos h

/-- Reading, by what stands at the place that a path leads to. -/
theorem read_of_locate {disk : Disk} {path : Path} {place : Location}
    (h : disk.locate path = .ok place) :
    disk.read path =
      match disk.node? place with
      | none => .error .missing
      | some (.file bytes) => .ok bytes
      | some .folder => .error .notFile := by
  rw [read, find, h, node?]
  simp only
  cases disk.get? place with
  | none => rfl
  | some entry => cases entry <;> rfl

theorem isFile_iff {disk : Disk} {path : Path} :
    disk.isFile path = true ↔ ∃ bytes, disk.read path = .ok bytes := by
  rw [isFile, read]
  cases disk.find path with
  | error e => simp
  | ok found =>
    obtain ⟨place, entry⟩ := found
    cases entry <;> simp

theorem isFolder_of_locate {disk : Disk} {path : Path} {place : Location}
    (h : disk.locate path = .ok place) (hfolder : disk.node? place = some .folder) :
    disk.isFolder path = true := by
  obtain ⟨entries, hget⟩ := exists_get?_of_folder hfolder
  simp only [isFolder, find, h, hget]

/-! ## Folders -/

/-- A path leads to a folder, as a path to which something is joined. -/
structure FolderAt (disk : Disk) (path : Path) (place : Location) : Prop where
  stem : disk.follow [] path.stem = .ok place
  node : disk.node? place = some .folder

/-- What holds something is a folder. -/
theorem exists_folderAt {disk : Disk} {path : Path} {name : String} {there : Location}
    (h : disk.locate (path.child name) = .ok there) : ∃ place, FolderAt disk path place := by
  rw [locate] at h
  split at h
  · rw [Path.parts_child, follow_append] at h
    cases hstem : disk.follow [] path.stem with
    | error e => simp [hstem, Except.bind] at h
    | ok place =>
      rw [hstem] at h
      exact ⟨place, hstem, node?_of_follow_cons h⟩
  · exact absurd h (by simp)

namespace FolderAt

variable {disk after : Disk} {path : Path} {place : Location} {name : String}

theorem of_keeps (h : FolderAt disk path place) (hkeeps : Keeps disk after) :
    FolderAt after path place :=
  ⟨hkeeps.follow h.stem, hkeeps.folders place h.node⟩

theorem follow_stem (h : FolderAt disk path place) (names : List String) :
    disk.follow [] (path.stem ++ names) = disk.follow place names := by
  rw [follow_append, h.stem]
  rfl

theorem follow_parts (h : FolderAt disk path place) : disk.follow [] path.parts = .ok place := by
  rcases Path.parts_cases path with hparts | hparts
  · rw [hparts]
    exact h.stem
  · rw [hparts, h.follow_stem, follow_cons, h.node]
    rfl

theorem locate (h : FolderAt disk path place) (husable : path.isUsable = true) :
    disk.locate path = .ok place := by
  rw [locate_of_isUsable husable]
  exact h.follow_parts

/-- The root is a folder, because something is followed from there. -/
theorem node_root (h : FolderAt disk path place) : disk.node? [] = some .folder := by
  have hstem := h.stem
  cases hparts : path.stem with
  | nil =>
    rw [hparts] at hstem
    rw [Except.ok.inj hstem]
    exact h.node
  | cons part rest => exact node?_of_follow_cons (hparts ▸ hstem)

theorem isFolder (h : FolderAt disk path place) (husable : path.isUsable = true) :
    disk.isFolder path = true :=
  isFolder_of_locate (h.locate husable) h.node

theorem child (h : FolderAt disk path place) (hname : isPlain name = true)
    (hnode : disk.node? (place ++ [name]) = some .folder) :
    FolderAt disk (path.child name) (place ++ [name]) := by
  refine ⟨?_, hnode⟩
  rw [Path.stem_child hname, h.follow_stem, follow_plain [] h.node hname, hnode]
  rfl

/-! ## Reading inside a folder -/

variable {inside : Path} {names : List String}

/-- What can be read inside a folder is what stands there. -/
theorem read_eq_ok_iff (h : FolderAt disk path place) (hinside : inside.parts = path.stem ++ names)
    (hnames : ∀ name ∈ names, isPlain name = true) {bytes : List UInt8} :
    disk.read inside = .ok bytes ↔
      inside.isUsable = true ∧ disk.node? (place ++ names) = some (.file bytes) := by
  have hfollow : disk.follow [] inside.parts = disk.follow place names := by
    rw [hinside, h.follow_stem]
  obtain ⟨hplace, hreach⟩ := follow_names h.node hnames
  constructor
  · intro hread
    have husable : inside.isUsable = true := by
      refine Classical.byContradiction fun hnot => ?_
      simp [read, find, Disk.locate, hnot] at hread
    refine ⟨husable, ?_⟩
    cases hlocate : disk.locate inside with
    | error e => simp [read, find, hlocate] at hread
    | ok there =>
      rw [read_of_locate hlocate] at hread
      rw [locate_of_isUsable husable, hfollow] at hlocate
      rw [← hplace there hlocate]
      cases hnode : disk.node? there with
      | none => simp [hnode] at hread
      | some node =>
        cases node with
        | file other =>
          rw [hnode] at hread
          rw [Except.ok.inj hread]
        | folder => simp [hnode] at hread
  · rintro ⟨husable, hnode⟩
    have hlocate : disk.locate inside = .ok (place ++ names) := by
      rw [locate_of_isUsable husable, hfollow]
      exact hreach (by rw [hnode, Option.isSome_some])
    rw [read_of_locate hlocate, hnode]

theorem read_of_folder (h : FolderAt disk path place)
    (hinside : inside.parts = path.stem ++ names) (hnames : ∀ name ∈ names, isPlain name = true)
    (husable : inside.isUsable = true) (hnode : disk.node? (place ++ names) = some .folder) :
    disk.read inside = .error .notFile := by
  have hlocate : disk.locate inside = .ok (place ++ names) := by
    rw [locate_of_isUsable husable, hinside, h.follow_stem]
    exact (follow_names h.node hnames).2 (by rw [hnode, Option.isSome_some])
  rw [read_of_locate hlocate, hnode]

theorem read_of_file (h : FolderAt disk path place) (names rest : List String) (hrest : rest ≠ [])
    (hinside : inside.parts = path.stem ++ (names ++ rest))
    (hnames : ∀ name ∈ names, isPlain name = true) (husable : inside.isUsable = true)
    {bytes : List UInt8} (hnode : disk.node? (place ++ names) = some (.file bytes)) :
    disk.read inside = .error .notFolder := by
  obtain ⟨first, others, rfl⟩ := List.exists_cons_of_ne_nil hrest
  have hreach : disk.follow place names = .ok (place ++ names) :=
    (follow_names h.node hnames).2 (by rw [hnode, Option.isSome_some])
  have hlocate : disk.locate inside = .error .notFolder := by
    rw [locate_of_isUsable husable, hinside, h.follow_stem, follow_append, hreach]
    exact (follow_cons disk (place ++ names) first others).trans (by rw [hnode])
  rw [read, find, hlocate]

/-! ## Single steps inside a folder -/

theorem placeOf_child (h : FolderAt disk path place) (hname : isPlain name = true)
    (husable : (path.child name).isUsable = true) :
    disk.placeOf (path.child name) = .ok (place ++ [name]) := by
  obtain ⟨entries, hget⟩ := exists_get?_of_folder h.node
  have hdots : ¬ (name = "." ∨ name = "..") := fun hor =>
    hor.elim (Path.ne_dot_of_isPlain hname) (Path.ne_dots_of_isPlain hname)
  simp only [placeOf, husable, Path.split?_child hname, h.stem, hget,
    Path.isName_of_isPlain hname, Bool.not_true, Bool.false_eq_true, if_false, if_neg hdots]

theorem makeFolder_child (h : FolderAt disk path place) (hname : isPlain name = true)
    (husable : (path.child name).isUsable = true) :
    disk.makeFolder (path.child name) =
      if (disk.node? (place ++ [name])).isSome then .error .occupied
      else .ok (disk.put (place ++ [name]) (.folder [])) := by
  simp only [makeFolder, h.placeOf_child hname husable, isSome_node?]

theorem putFile_child (h : FolderAt disk path place) (hname : isPlain name = true)
    (husable : (path.child name).isUsable = true) (bytes : List UInt8) :
    disk.putFile (path.child name) bytes =
      if disk.node? (place ++ [name]) = some .folder then .error .notFile
      else .ok (disk.put (place ++ [name]) (.file bytes)) := by
  simp only [putFile, h.placeOf_child hname husable, Path.endsInSlash_child hname,
    Bool.false_or, isFolderAt_iff]

end FolderAt

/-! ## Making sure of folders -/

theorem exists_of_placeOf {disk : Disk} {path : Path} {place : Location}
    (h : disk.placeOf path = .ok place) :
    ∃ parts name slashes front, path.isUsable = true ∧ path.parts = parts ++ name :: slashes ∧
      disk.follow [] parts = .ok front ∧ isPlain name = true ∧ place = front ++ [name] := by
  rw [placeOf] at h
  split at h
  · exact absurd h (by simp)
  rename_i husable
  cases hsplit : path.split? with
  | none => simp [hsplit] at h
  | some split =>
    obtain ⟨parts, name⟩ := split
    obtain ⟨hname, slashes, hparts⟩ := Path.parts_of_split? hsplit
    cases hfollow : disk.follow [] parts with
    | error e => simp [hsplit, hfollow] at h
    | ok front =>
      simp only [hsplit, hfollow] at h
      split at h
      · exact absurd h (by simp)
      · exact absurd h (by simp)
      split at h
      · exact absurd h (by simp)
      rename_i hdots
      split at h
      · exact absurd h (by simp)
      rename_i hlong
      refine ⟨parts, name, slashes, front, by simpa using husable, hparts, hfollow, ?_,
        (Except.ok.inj h).symm⟩
      simp only [not_or] at hdots
      simp only [Bool.not_eq_true', Bool.not_eq_false] at hlong
      simp [isPlain, Path.isIdle, hname, hdots, hlong]

/-- The place that something new would get is the one that the path leads to. -/
theorem isSome_of_placeOf {disk : Disk} {path : Path} {place : Location}
    (h : disk.isFolder path = true) (hplace : disk.placeOf path = .ok place) :
    (disk.node? place).isSome = true := by
  obtain ⟨parts, name, slashes, front, husable, hparts, hfollow, hname, rfl⟩ :=
    exists_of_placeOf hplace
  cases hlocate : disk.locate path with
  | error e => simp [isFolder, find, hlocate] at h
  | ok there =>
    rw [locate_of_isUsable husable, hparts, follow_append, hfollow] at hlocate
    have hstep : disk.follow front (name :: slashes) = .ok there := hlocate
    rw [follow_plain slashes (node?_of_follow_cons hstep) hname] at hstep
    split at hstep
    · assumption
    · exact absurd hstep (by simp)

/-- Nothing is made where there is a folder, since its path leads to the place in the folder above
where something new would be put. -/
theorem ensureFolder_of_isFolder {disk : Disk} {path : Path} (h : disk.isFolder path = true) :
    disk.ensureFolder path = .ok disk := by
  cases hplace : disk.placeOf path with
  | error e => simp only [ensureFolder, makeFolder, hplace, h, if_true]
  | ok place =>
    have hsome := isSome_of_placeOf h hplace
    rw [isSome_node?] at hsome
    simp only [ensureFolder, makeFolder, hplace, hsome, h, if_true]

theorem ensureFolders_append (disk : Disk) (front back : List Path) :
    disk.ensureFolders (front ++ back) =
      match disk.ensureFolders front with
      | (.ok (), made) => made.ensureFolders back
      | (.error e, made) => (.error e, made) := by
  induction front generalizing disk with
  | nil => rfl
  | cons path rest ih =>
    rw [List.cons_append, ensureFolders, ensureFolders]
    cases disk.ensureFolder path with
    | error e => rfl
    | ok made => exact ih made

theorem ensureFolders_of_isFolder {disk : Disk} {paths : List Path}
    (h : ∀ path ∈ paths, disk.isFolder path = true) :
    disk.ensureFolders paths = (.ok (), disk) := by
  induction paths with
  | nil => rfl
  | cons path rest ih =>
    rw [ensureFolders, ensureFolder_of_isFolder (h path List.mem_cons_self)]
    exact ih fun other ho => h other (List.mem_cons_of_mem path ho)

/-- Making sure of a folder turns one disk into another. -/
structure Ensures (disk made : Disk) (path : Path) (place : Location) : Prop where
  run : disk.ensureFolder path = .ok made
  node : ∀ other, made.node? other = if other = place then some .folder else disk.node? other
  keeps : Keeps disk made
  folder : FolderAt made path place
  same : disk.node? place = some .folder → made = disk

namespace FolderAt

variable {disk : Disk} {path : Path} {place : Location} {name : String}

/-- **Making sure of a folder.** -/
theorem exists_ensureFolder (h : FolderAt disk path place) (hname : isPlain name = true)
    (husable : (path.child name).isUsable = true)
    (hfile : ∀ bytes, disk.node? (place ++ [name]) ≠ some (.file bytes)) :
    ∃ made, Ensures disk made (path.child name) (place ++ [name]) := by
  cases hnode : disk.node? (place ++ [name]) with
  | some node =>
    cases node with
    | file bytes => exact absurd hnode (hfile bytes)
    | folder =>
      have hchild := h.child hname hnode
      refine ⟨disk, ensureFolder_of_isFolder (hchild.isFolder husable), ?_, .refl disk, hchild,
        fun _ => rfl⟩
      intro other
      split
      · rename_i heq
        rw [heq, hnode]
      · rfl
  | none =>
    let made := disk.put (place ++ [name]) (.folder [])
    have hmake : disk.makeFolder (path.child name) = .ok made := by
      rw [h.makeFolder_child hname husable, hnode]
      rfl
    have hmade : ∀ other, made.node? other =
        if other = place ++ [name] then some .folder else disk.node? other :=
      node?_put (.folder []) h.node (by rw [hnode]; simp) fun _ _ => rfl
    have hkeeps : Keeps disk made := .of_node? hmade (by rw [hnode]; simp)
    refine ⟨made, by rw [ensureFolder, hmake], hmade, hkeeps, ?_, by simp [hnode]⟩
    exact (h.of_keeps hkeeps).child hname (by rw [hmade, if_pos rfl])

/-- The folders above something in a folder are there. -/
theorem isFolder_of_mem_parents (h : FolderAt disk path place)
    (husable : (path.child name).isUsable = true) {fuel : Nat} {above : Path}
    (habove : above ∈ Path.parents fuel (path.child name)) : disk.isFolder above = true := by
  rcases Path.eq_or_prefix_of_mem_parents habove with rfl | ⟨rest, hne, hrest⟩
  · have hlocate : disk.locate ⟨[""]⟩ = .ok [] := by
      rw [locate_of_isUsable Path.isUsable_slash, follow_cons, h.node_root]
      rfl
    exact isFolder_of_locate hlocate h.node_root
  · obtain ⟨back, hback⟩ : ∃ back, path.stem = above.parts ++ back := by
      have hlast := congrArg List.dropLast hrest
      rw [Path.parts_child, List.dropLast_concat, List.dropLast_append_of_ne_nil hne] at hlast
      exact ⟨_, hlast⟩
    have hlocate : above.isUsable = true := by
      rw [← show (⟨above.parts⟩ : Path) = above from rfl]
      have hlonger : (⟨above.parts ++ rest⟩ : Path).isUsable = true := by rwa [← hrest]
      exact Path.isUsable_of_append hlonger
    have hstem := h.stem
    rw [hback, follow_append] at hstem
    cases hfollow : disk.follow [] above.parts with
    | error e => simp [hfollow, Except.bind] at hstem
    | ok there =>
      rw [hfollow] at hstem
      refine isFolder_of_locate (by rw [locate_of_isUsable hlocate, hfollow]) ?_
      cases back with
      | nil => rw [Except.ok.inj hstem]; exact h.node
      | cons part parts => exact node?_of_follow_cons hstem

theorem ensureFolders_parents (h : FolderAt disk path place)
    (husable : (path.child name).isUsable = true) (fuel : Nat) :
    disk.ensureFolders (Path.parents fuel (path.child name)).reverse = (.ok (), disk) :=
  ensureFolders_of_isFolder fun _ habove =>
    h.isFolder_of_mem_parents husable (List.mem_reverse.mp habove)

end FolderAt

end GuardedUi.Disk
