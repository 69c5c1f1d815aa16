import GuardedUi.Command.Generate
import GuardedUi.Proofs.Disk.Folder
import GuardedUi.Proofs.Disk.Temporary

/-!
# `Proofs/Command/Writing` — both documents or nothing

The two documents are written one after the other, into folders that may have to be made first, and
nothing is taken back when a step fails. It does not have to be: once the previous document has been
read, or found to be missing, nothing is in the way of the folders and of the implementation document
(`Clear.of_readLeniently`). Only a folder can be in the place of the header document, and then there
is nothing to make and the header is the first to be written.

> **Writing either fails on an untouched disk, or puts both documents where they belong**
> (`writeAll_cases`): `Written` says what stands where afterwards, and that nothing else has changed.

Each document goes through a new file beside it, of which nothing is left in either case
(`writeFile_eq_putThrough`), so the steps here put a document in its place at once.
-/

set_option autoImplicit false

namespace GuardedUi.Command

open Disk GuardedUi.Path Project

/-! ## Places -/

section Places

variable (place : Location)

def generatedPlace : Location :=
  place ++ [generatedName]

def uiPlace : Location :=
  generatedPlace place ++ [uiName]

def headerPlace : Location :=
  uiPlace place ++ [headerName]

def sourcePlace : Location :=
  uiPlace place ++ [sourceName]

end Places

theorem isPlain_generatedName : isPlain generatedName = true := by decide

theorem isPlain_uiName : isPlain uiName = true := by decide

theorem isPlain_headerName : isPlain headerName = true := by decide

theorem isPlain_sourceName : isPlain sourceName = true := by decide

theorem isPlain_of_mem {name other : String} (hname : isPlain name = true)
    (h : other ∈ [generatedName, uiName, name]) : isPlain other = true := by
  simp only [List.mem_cons, List.not_mem_nil, or_false] at h
  rcases h with rfl | rfl | rfl
  · exact isPlain_generatedName
  · exact isPlain_uiName
  · exact hname

section Parts

variable (root : Path)

theorem stem_generatedFolder : (generatedFolder root).stem = root.stem ++ [generatedName] :=
  stem_child isPlain_generatedName

theorem stem_uiFolder : (uiFolder root).stem = root.stem ++ [generatedName] ++ [uiName] := by
  rw [uiFolder, stem_child isPlain_uiName, stem_generatedFolder]

theorem parts_document (name : String) :
    ((uiFolder root).child name).parts = root.stem ++ [generatedName, uiName, name] := by
  rw [parts_child, stem_uiFolder]
  simp

end Parts

/-! ## What is in the way -/

/-- Nothing is in the way of the folders and of the implementation document. -/
structure Clear (disk : Disk) (root : Path) (place : Location) : Prop where
  folder : FolderAt disk root place
  usable : (sourcePath root).isUsable = true
  generated : ∀ bytes, disk.node? (generatedPlace place) ≠ some (.file bytes)
  ui : ∀ bytes, disk.node? (uiPlace place) ≠ some (.file bytes)
  source : disk.node? (sourcePlace place) ≠ some .folder

theorem read_eq_of_readLeniently {disk : Disk} {path : Path} {previous : Option (List Char)}
    (h : readLeniently disk path = .ok previous) :
    (∃ bytes, disk.read path = .ok bytes ∧ previous = some (Text.Utf8.decodeLossy bytes)) ∨
      disk.read path = .error .missing ∧ previous = none := by
  rw [readLeniently] at h
  cases hread : disk.read path with
  | ok bytes =>
    rw [hread] at h
    exact .inl ⟨bytes, rfl, (Except.ok.inj h).symm⟩
  | error e =>
    cases e with
    | missing =>
      rw [hread] at h
      exact .inr ⟨rfl, (Except.ok.inj h).symm⟩
    | _ => simp [hread] at h

theorem holdsBytes_iff {disk : Disk} {path : Path} {bytes : List UInt8} :
    holdsBytes disk path bytes = true ↔ disk.read path = .ok bytes := by
  rw [holdsBytes]
  cases disk.read path with
  | ok old => simp
  | error e => simp

namespace Clear

variable {disk : Disk} {root : Path} {place : Location}

/-- **Reading the previous document clears the way**: whatever else stands there makes it fail. -/
theorem of_readLeniently {previous : Option (List Char)} (h : FolderAt disk root place)
    (hread : readLeniently disk (sourcePath root) = .ok previous) : Clear disk root place := by
  have hparts := parts_document root sourceName
  have hplain : ∀ other ∈ [generatedName, uiName, sourceName], isPlain other = true :=
    fun _ => isPlain_of_mem isPlain_sourceName
  have hno : ∀ e, disk.read (sourcePath root) = .error e → e = .missing := by
    intro e he
    rcases read_eq_of_readLeniently hread with ⟨bytes, hok, -⟩ | ⟨hmissing, -⟩
    · rw [hok] at he
      exact absurd he (by simp)
    · rw [hmissing] at he
      exact (Except.error.inj he).symm
  have husable : (sourcePath root).isUsable = true := by
    refine Classical.byContradiction fun hnot => ?_
    have hunusable : disk.read (sourcePath root) = .error .unusable := by
      rw [Disk.read, find, Disk.locate, if_neg hnot]
    exact absurd (hno _ hunusable) (by decide)
  refine ⟨h, husable, ?_, ?_, ?_⟩
  · intro bytes hnode
    have hfile := h.read_of_file [generatedName] [uiName, sourceName] (by simp)
      hparts (fun other ho => hplain other (List.mem_of_mem_take (i := 1) ho))
      husable hnode
    exact absurd (hno _ hfile) (by decide)
  · intro bytes hnode
    have hui : disk.node? (place ++ [generatedName, uiName]) = some (.file bytes) := by
      simpa [uiPlace, generatedPlace] using hnode
    have hfile := h.read_of_file [generatedName, uiName] [sourceName] (by simp)
      hparts (fun other ho => hplain other (List.mem_of_mem_take (i := 2) ho))
      husable hui
    exact absurd (hno _ hfile) (by decide)
  · intro hnode
    have hsource : disk.node? (place ++ [generatedName, uiName, sourceName]) = some .folder := by
      simpa [sourcePlace, uiPlace, generatedPlace] using hnode
    exact absurd (hno _ (h.read_of_folder hparts hplain husable hsource)) (by decide)

/-- The header has as short a path as the implementation document. -/
theorem isUsable_headerPath (h : Clear disk root place) : (headerPath root).isUsable = true :=
  isUsable_concat h.usable (by decide) (by decide)

theorem isUsable_uiFolder (h : Clear disk root place) : (uiFolder root).isUsable = true :=
  isUsable_of_child h.usable

theorem isUsable_generatedFolder (h : Clear disk root place) :
    (generatedFolder root).isUsable = true :=
  isUsable_of_child h.isUsable_uiFolder

end Clear

/-! ## Single steps -/

section Steps

variable {disk : Disk} {root : Path} {place : Location} {name : String}

theorem uiPlace_concat (place : Location) (name : String) :
    uiPlace place ++ [name] = place ++ [generatedName, uiName, name] := by
  simp [uiPlace, generatedPlace]

theorem read_document_iff (h : FolderAt disk root place) (hname : isPlain name = true)
    (husable : ((uiFolder root).child name).isUsable = true) {bytes : List UInt8} :
    disk.read ((uiFolder root).child name) = .ok bytes ↔
      disk.node? (uiPlace place ++ [name]) = some (.file bytes) := by
  rw [h.read_eq_ok_iff (parts_document root name) (fun _ => isPlain_of_mem hname), uiPlace_concat]
  exact and_iff_right husable

theorem holdsBytes_congr {after : Disk} {path inside : Path} {names : List String}
    (h : FolderAt disk path place) (h' : FolderAt after path place)
    (hinside : inside.parts = path.stem ++ names) (hnames : ∀ name ∈ names, isPlain name = true)
    (hnode : after.node? (place ++ names) = disk.node? (place ++ names)) (bytes : List UInt8) :
    holdsBytes after inside bytes = holdsBytes disk inside bytes := by
  rw [Bool.eq_iff_iff, holdsBytes_iff, holdsBytes_iff, h'.read_eq_ok_iff hinside hnames,
    h.read_eq_ok_iff hinside hnames, hnode]

theorem holdsBytes_document_congr {after : Disk} (h : FolderAt disk root place)
    (h' : FolderAt after root place) (hname : isPlain name = true)
    (hnode : after.node? (uiPlace place ++ [name]) = disk.node? (uiPlace place ++ [name]))
    (bytes : List UInt8) :
    holdsBytes after ((uiFolder root).child name) bytes =
      holdsBytes disk ((uiFolder root).child name) bytes := by
  rw [uiPlace_concat] at hnode
  exact holdsBytes_congr h h' (parts_document root name) (fun _ => isPlain_of_mem hname) hnode bytes

/-- Writing a text to a path turns one disk into another. -/
structure Writes (disk after : Disk) (path : Path) (there : Location) (content : List Char) :
    Prop where
  run : writeFile disk path content =
    .ok (!holdsBytes disk path (Text.Utf8.encode content), after)
  node : ∀ other, after.node? other =
    if other = there then some (.file (Text.Utf8.encode content)) else disk.node? other
  keeps : Keeps disk after
  same : holdsBytes disk path (Text.Utf8.encode content) = true → after = disk

section Folder

variable {folder : Path} {there : Location}

theorem writeFile_eq (h : FolderAt disk folder there)
    (hparent : (folder.child name).parent? = some folder) (hname : isPlain name = true)
    (husable : (folder.child name).isUsable = true) (content : List Char) :
    writeFile disk (folder.child name) content =
      if holdsBytes disk (folder.child name) (Text.Utf8.encode content) then .ok (false, disk)
      else if disk.node? (there ++ [name]) = some .folder then
        .error (.writing (folder.child name))
      else .ok (true, disk.put (there ++ [name]) (.file (Text.Utf8.encode content))) := by
  simp only [writeFile, hparent, h.isFolder (isUsable_of_child husable),
    h.putFile_child hname husable, Bool.not_true, Bool.false_eq_true, if_false]
  by_cases hplace : disk.node? (there ++ [name]) = some .folder
  · simp only [if_pos hplace]
  · simp only [if_neg hplace]

/-- **Writing a file into a folder** fails only if there is a folder of that name. -/
theorem writeFile_child (h : FolderAt disk folder there)
    (hparent : (folder.child name).parent? = some folder) (hname : isPlain name = true)
    (husable : (folder.child name).isUsable = true) (content : List Char) :
    (disk.node? (there ++ [name]) = some .folder ∧
      writeFile disk (folder.child name) content = .error (.writing (folder.child name))) ∨
    ∃ after, Writes disk after (folder.child name) (there ++ [name]) content := by
  have hwrite := writeFile_eq h hparent hname husable content
  cases hholds : holdsBytes disk (folder.child name) (Text.Utf8.encode content) with
  | true =>
    have hplace := ((h.read_eq_ok_iff (parts_child folder name) (by simpa using hname)).mp
      (holdsBytes_iff.mp hholds)).2
    refine .inr ⟨disk, ⟨?_, ?_, .refl disk, fun _ => rfl⟩⟩
    · rw [hwrite, hholds]
      rfl
    · intro other
      split
      · rename_i heq
        rw [heq, hplace]
      · rfl
  | false =>
    rw [hholds, if_neg Bool.false_ne_true] at hwrite
    by_cases hplace : disk.node? (there ++ [name]) = some .folder
    · exact .inl ⟨hplace, hwrite.trans (if_pos hplace)⟩
    · have hnode := node?_put (.file (Text.Utf8.encode content)) h.node hplace fun _ _ => rfl
      refine .inr ⟨_, ⟨?_, hnode, .of_node? hnode ?_, by simp [hholds]⟩⟩
      · rw [hwrite, if_neg hplace, hholds]
        rfl
      · -- What stood there was no folder, and neither is what stands there now.
        rintro old hold
        refine iff_of_false ?_ (by simp [Entry.node])
        rintro rfl
        exact hplace hold

/-- Writing goes through a new file, and it does not matter which: its name only has to be free. -/
theorem writeFile_eq_putThrough (h : FolderAt disk folder there)
    (hparent : (folder.child name).parent? = some folder) (hname : isPlain name = true)
    (husable : (folder.child name).isUsable = true) (content : List Char) {temporary : String}
    (hnew : disk.node? (there ++ [temporary]) = none) (hne : temporary ≠ name) :
    writeFile disk (folder.child name) content =
      if holdsBytes disk (folder.child name) (Text.Utf8.encode content) then .ok (false, disk)
      else
        match disk.putThrough there temporary name (Text.Utf8.encode content) with
        | (.ok (), after) => .ok (true, after)
        | (.error _, _) => .error (.writing (folder.child name)) := by
  rw [writeFile_eq h hparent hname husable, putThrough_eq h.node hnew hne]
  by_cases hplace : disk.node? (there ++ [name]) = some .folder
  · simp only [if_pos hplace]
  · simp only [if_neg hplace]

end Folder

theorem writeFiles_cons {after : Disk} {folder : Path} {there : Location} {file : GeneratedFile}
    (w : Writes disk after (folder.child file.name) there file.content)
    (rest : List GeneratedFile) :
    writeFiles disk folder (file :: rest) =
      ((writeFiles after folder rest).1.map fun paths =>
        if holdsBytes disk (folder.child file.name) (Text.Utf8.encode file.content) then paths
        else folder.child file.name :: paths,
        (writeFiles after folder rest).2) := by
  rw [writeFiles]
  simp only [w.run]
  cases holdsBytes disk (folder.child file.name) (Text.Utf8.encode file.content) <;> rfl

theorem reverse_ancestors_uiFolder (root : Path) :
    (uiFolder root).ancestors.reverse =
      (parents (root.stem.length + 1) (generatedFolder root)).reverse ++
        [generatedFolder root, uiFolder root] := by
  have hlength : (uiFolder root).parts.length = root.stem.length + 1 + 1 := by
    rw [uiFolder, parts_child, stem_generatedFolder, List.length_append, List.length_append]
    rfl
  have hparent : (uiFolder root).parent? = some (generatedFolder root) :=
    parent?_child_child isPlain_generatedName isPlain_uiName
  simp only [ancestors, hlength, parents, hparent, List.reverse_cons, List.append_assoc,
    List.cons_append, List.nil_append]

/-- **Making the folder of the documents** works where nothing is in the way. -/
theorem Clear.exists_installFolder (h : Clear disk root place) :
    ∃ made, disk.installFolder (uiFolder root) = (.ok (), made) ∧
      (∀ other, made.node? other =
        if other = generatedPlace place ∨ other = uiPlace place then some .folder
        else disk.node? other) ∧
      Keeps disk made ∧ FolderAt made (uiFolder root) (uiPlace place) ∧
      (disk.node? (uiPlace place) = some .folder → made = disk) := by
  obtain ⟨first, (m₁ : Ensures disk first (generatedFolder root) (generatedPlace place))⟩ :=
    h.folder.exists_ensureFolder isPlain_generatedName h.isUsable_generatedFolder h.generated
  have hui : ∀ bytes, first.node? (uiPlace place) ≠ some (.file bytes) := by
    intro bytes
    rw [m₁.node, if_neg (by simp [uiPlace])]
    exact h.ui bytes
  obtain ⟨made, (m₂ : Ensures first made (uiFolder root) (uiPlace place))⟩ :=
    m₁.folder.exists_ensureFolder isPlain_uiName h.isUsable_uiFolder hui
  refine ⟨made, ?_, ?_, m₁.keeps.trans m₂.keeps, m₂.folder, ?_⟩
  · -- The folders above are there, so the first that can be made is that of all generated files.
    have hparents := h.folder.ensureFolders_parents h.isUsable_generatedFolder
      (root.stem.length + 1)
    have hlast : disk.ensureFolders [generatedFolder root, uiFolder root] = (.ok (), made) := by
      simp only [ensureFolders, m₁.run, m₂.run]
    rw [installFolder, if_pos h.isUsable_uiFolder, reverse_ancestors_uiFolder,
      ensureFolders_append, generatedFolder, hparents]
    exact hlast
  · intro other
    rw [m₂.node, m₁.node]
    by_cases hother : other = uiPlace place
    · rw [if_pos hother, if_pos (.inr hother)]
    · rw [if_neg hother]
      by_cases hgenerated : other = generatedPlace place
      · rw [if_pos hgenerated, if_pos (.inl hgenerated)]
      · rw [if_neg hgenerated, if_neg (not_or.mpr ⟨hgenerated, hother⟩)]
  · intro hfolder
    have hgenerated : disk.node? (generatedPlace place) = some .folder :=
      node?_of_isSome_child (by rw [← uiPlace, hfolder, Option.isSome_some])
    obtain rfl := m₁.same hgenerated
    exact m₂.same hfolder

end Steps

/-! ## Both documents -/

/-- What stands on a disk after both documents of a pass have been written. -/
structure Written (disk after : Disk) (place : Location) (g : Generation) : Prop where
  header : after.node? (headerPlace place) = some (.file (Text.Utf8.encode g.header.content))
  source : after.node? (sourcePlace place) = some (.file (Text.Utf8.encode g.source.content))
  generated : after.node? (generatedPlace place) = some .folder
  ui : after.node? (uiPlace place) = some .folder
  /-- Nothing else has changed. -/
  rest : ∀ other, other ≠ generatedPlace place → other ≠ uiPlace place →
    other ≠ headerPlace place → other ≠ sourcePlace place → after.node? other = disk.node? other
  /-- Nothing else was there before. -/
  keeps : Keeps disk after

namespace Written

variable {disk after : Disk} {place : Location} {g : Generation}

theorem file_iff (h : Written disk after place g) {other : Location} (bytes : List UInt8)
    (hheader : other ≠ headerPlace place) (hsource : other ≠ sourcePlace place) :
    after.node? other = some (.file bytes) ↔ disk.node? other = some (.file bytes) := by
  have hfolder : after.node? other = some .folder →
      (after.node? other = some (.file bytes) ↔ disk.node? other = some (.file bytes)) :=
    fun hafter => iff_of_false (by simp [hafter]) (h.keeps.ne_file hafter bytes)
  by_cases hgenerated : other = generatedPlace place
  · exact hfolder (hgenerated ▸ h.generated)
  by_cases hui : other = uiPlace place
  · exact hfolder (hui ▸ h.ui)
  rw [h.rest other hgenerated hui hheader hsource]

end Written

/-- The documents that are not on a disk the way a pass returned them. -/
def outdated (disk : Disk) (root : Path) (g : Generation) : List Path :=
  let source :=
    if holdsBytes disk (sourcePath root) (Text.Utf8.encode g.source.content) then []
    else [sourcePath root]
  if holdsBytes disk (headerPath root) (Text.Utf8.encode g.header.content) then source
  else headerPath root :: source

section Outdated

variable {disk : Disk} {root : Path} {g : Generation}

theorem outdated_eq_nil_iff : outdated disk root g = [] ↔
    holdsBytes disk (headerPath root) (Text.Utf8.encode g.header.content) = true ∧
      holdsBytes disk (sourcePath root) (Text.Utf8.encode g.source.content) = true := by
  rw [outdated]
  cases holdsBytes disk (headerPath root) (Text.Utf8.encode g.header.content) <;> simp

theorem outdated_congr {after : Disk}
    (hheader : ∀ bytes, holdsBytes after (headerPath root) bytes =
      holdsBytes disk (headerPath root) bytes)
    (hsource : ∀ bytes, holdsBytes after (sourcePath root) bytes =
      holdsBytes disk (sourcePath root) bytes) :
    outdated after root g = outdated disk root g := by
  rw [outdated, outdated, hheader, hsource]

end Outdated

/-- A pass names its documents as the program does. -/
structure Named (g : Generation) : Prop where
  header : g.header.name = headerName
  source : g.source.name = sourceName

theorem Named.files {g : Generation} (h : Named g) :
    g.files = [⟨headerName, g.header.content⟩, ⟨sourceName, g.source.content⟩] := by
  rw [← h.header, ← h.source]
  rfl

section Documents

variable {disk made : Disk} {root : Path} {place : Location} {g : Generation}

theorem headerPlace_ne_sourcePlace (place : Location) : headerPlace place ≠ sourcePlace place := by
  simp [headerPlace, sourcePlace, headerName, sourceName]

/-- Writing into the folder of the documents, once it is there. -/
theorem writeFiles_cases (hnamed : Named g) (h : FolderAt made (uiFolder root) (uiPlace place))
    (husable : (sourcePath root).isUsable = true) (hheader : (headerPath root).isUsable = true)
    (hsource : made.node? (sourcePlace place) ≠ some .folder) :
    (made.node? (headerPlace place) = some .folder ∧
      writeFiles made (uiFolder root) g.files = (.error (.writing (headerPath root)), made)) ∨
    ∃ after, writeFiles made (uiFolder root) g.files = (.ok (outdated made root g), after) ∧
      after.node? (headerPlace place) = some (.file (Text.Utf8.encode g.header.content)) ∧
      after.node? (sourcePlace place) = some (.file (Text.Utf8.encode g.source.content)) ∧
      (∀ other, other ≠ headerPlace place → other ≠ sourcePlace place →
        after.node? other = made.node? other) ∧
      Keeps made after ∧ (outdated made root g = [] → after = made) := by
  have hparent : ∀ name, isPlain name = true →
      ((uiFolder root).child name).parent? = some (uiFolder root) := fun name =>
    parent?_child_child isPlain_uiName
  rcases writeFile_child h (hparent _ isPlain_headerName) isPlain_headerName hheader
    g.header.content with ⟨hfolder, herror⟩ |
      ⟨first, (w₁ : Writes made first (headerPath root) (headerPlace place) g.header.content)⟩
  · refine .inl ⟨hfolder, ?_⟩
    simp only [Generation.files, writeFiles, hnamed.header, herror]
    rfl
  · -- The header is a file now, and what else there is has not changed.
    have hfirst : ∀ other, other ≠ headerPlace place → first.node? other = made.node? other :=
      fun other hother => by rw [w₁.node, if_neg hother]
    have hsourceNode := hfirst (sourcePlace place) (headerPlace_ne_sourcePlace place).symm
    have hfolder₁ := h.of_keeps w₁.keeps
    have hholds : holdsBytes first (sourcePath root) (Text.Utf8.encode g.source.content) =
        holdsBytes made (sourcePath root) (Text.Utf8.encode g.source.content) :=
      holdsBytes_congr h hfolder₁ (parts_child (uiFolder root) sourceName)
        (by simpa using isPlain_sourceName) hsourceNode _
    rcases writeFile_child hfolder₁ (hparent _ isPlain_sourceName) isPlain_sourceName
      husable g.source.content with ⟨hfolder, -⟩ |
      ⟨after, (w₂ : Writes first after (sourcePath root) (sourcePlace place) g.source.content)⟩
    · exact absurd (hsourceNode ▸ hfolder) hsource
    refine .inr ⟨after, ?_, ?_, ?_, ?_, w₁.keeps.trans w₂.keeps, ?_⟩
    · rw [hnamed.files, writeFiles_cons w₁, writeFiles_cons w₂, outdated, ← hholds]
      rfl
    · rw [w₂.node, if_neg (headerPlace_ne_sourcePlace place), w₁.node, if_pos rfl]
    · rw [w₂.node, if_pos rfl]
    · intro other hH hS
      rw [w₂.node, if_neg hS, hfirst other hH]
    · intro hnone
      obtain ⟨hheaderHolds, hsourceHolds⟩ := outdated_eq_nil_iff.mp hnone
      rw [w₂.same (hholds.trans hsourceHolds), w₁.same hheaderHolds]

/-- **Writing both documents** fails on an untouched disk if there is a folder in the place of the
header. If not, both are there afterwards. -/
theorem writeAll_cases (hnamed : Named g) (h : Clear disk root place) :
    (disk.node? (headerPlace place) = some .folder ∧
      writeAll disk root g = (.error (.writing (headerPath root)), disk)) ∨
    ∃ after, writeAll disk root g = (.ok (.written (outdated disk root g)), after) ∧
      Written disk after place g ∧ (outdated disk root g = [] → after = disk) := by
  obtain ⟨made, hmade, hnode, hkeeps, hfolder, hsame⟩ := h.exists_installFolder
  have hsourceNode : made.node? (sourcePlace place) = disk.node? (sourcePlace place) := by
    rw [hnode, if_neg (by simp [sourcePlace, uiPlace, generatedPlace])]
  have hheaderNode : made.node? (headerPlace place) = disk.node? (headerPlace place) := by
    rw [hnode, if_neg (by simp [headerPlace, uiPlace, generatedPlace])]
  have hroot := h.folder.of_keeps hkeeps
  have houtdated : outdated made root g = outdated disk root g :=
    outdated_congr (holdsBytes_document_congr h.folder hroot isPlain_headerName hheaderNode)
      (holdsBytes_document_congr h.folder hroot isPlain_sourceName hsourceNode)
  rcases writeFiles_cases hnamed hfolder h.usable h.isUsable_headerPath
    (hsourceNode ▸ h.source) with ⟨hheader, herror⟩ |
      ⟨after, hrun, hheader, hsource, hrest, hafter, hnone⟩
  · -- There is a folder in the folder of the documents, so nothing was made.
    have hplace : disk.node? (headerPlace place) = some .folder := hheaderNode ▸ hheader
    have hui : disk.node? (uiPlace place) = some .folder :=
      node?_of_isSome_child (by rw [← headerPlace, hplace, Option.isSome_some])
    obtain rfl := hsame hui
    refine .inl ⟨hplace, ?_⟩
    simp only [writeAll, hmade, herror]
    rfl
  · refine .inr ⟨after, ?_, ⟨hheader, hsource, ?_, ?_, ?_, hkeeps.trans hafter⟩, ?_⟩
    · simp only [writeAll, hmade, hrun, houtdated]
      rfl
    · rw [hrest _ (by simp [headerPlace, uiPlace]) (by simp [sourcePlace, uiPlace]), hnode,
        if_pos (.inl rfl)]
    · rw [hrest _ (by simp [headerPlace]) (by simp [sourcePlace]), hnode, if_pos (.inr rfl)]
    · intro other hG hU hH hS
      rw [hrest other hH hS, hnode, if_neg (not_or.mpr ⟨hG, hU⟩)]
    · -- A header that holds the text stands in the folder of the documents.
      intro h'
      have hholds := (outdated_eq_nil_iff.mp h').1
      have hplace := (read_document_iff h.folder isPlain_headerName h.isUsable_headerPath).mp
        (holdsBytes_iff.mp hholds)
      have hui : disk.node? (uiPlace place) = some .folder :=
        node?_of_isSome_child (by rw [hplace, Option.isSome_some])
      rw [hnone (houtdated.trans h'), hsame hui]

end Documents

end GuardedUi.Command
