import GuardedUi.Bag
import GuardedUi.Disk.Path

/-!
# `Disk/Basic` — files and folders

The commands of the program are functions on a disk: a tree of folders with files as leaves. A
`Location` is a place in that tree without detours. A `Path` is followed to a location one part
after the other, through folders that have to exist, so a detour over a missing folder leads
nowhere.

A step such as making one folder or putting a file either succeeds or changes nothing. What takes
several steps, such as making all folders on the way to a place, can fail in the middle, and leaves
a disk on which the steps before have been taken.
-/

set_option autoImplicit false

namespace GuardedUi

/-- A file or a folder. -/
inductive Entry where
  | file (bytes : List UInt8)
  | folder (entries : List (String × Entry))
  deriving Inhabited

/-- A place on a disk: the names on the way from the root. -/
abbrev Location := List String

/-- Why an operation on a disk fails. -/
inductive DiskError where
  /-- There is nothing at the place. -/
  | missing
  /-- What would have to be a folder is a file. -/
  | notFolder
  /-- What would have to be a file is a folder. -/
  | notFile
  /-- There is something at the place already. -/
  | occupied
  /-- The path is too long, has a name that is too long, or has a character that ends texts. -/
  | unusable
  /-- The path names a folder by the folder itself or by one inside it. -/
  | ownName
  deriving DecidableEq, Repr

namespace Entry

def get? : Entry → Location → Option Entry
  | entry, [] => some entry
  | .folder entries, name :: rest => (entries.lookup name).bind fun entry => entry.get? rest
  | .file _, _ :: _ => none

/-- An entry with another one put at a place below it, in a folder that exists; the entry itself
where there is no such folder. -/
def put : Entry → Location → Entry → Entry
  | _, [], new => new
  | .folder entries, name :: rest, new =>
    match entries.lookup name with
    | some entry => .folder (Bag.putEntry name (entry.put rest new) entries)
    | none =>
      match rest with
      | [] => .folder (Bag.putEntry name new entries)
      | _ :: _ => .folder entries
  | .file bytes, _ :: _, _ => .file bytes

/-- An entry without what stands at a place below it. -/
def erase : Entry → Location → Entry
  | entry, [] => entry
  | .folder entries, [name] => .folder (entries.filter fun entry => entry.1 != name)
  | .folder entries, name :: rest =>
    match entries.lookup name with
    | some entry => .folder (Bag.putEntry name (entry.erase rest) entries)
    | none => .folder entries
  | .file bytes, _ :: _ => .file bytes

mutual

/-- The relative paths of all that stands below an entry, folders with a slash at the end. -/
def list (above : String) : Entry → List String
  | .file _ => []
  | .folder entries => listEntries above entries

/-- The relative paths of entries of a folder and of all below them. -/
def listEntries (above : String) : List (String × Entry) → List String
  | [] => []
  | (name, .file _) :: rest => (above ++ name) :: listEntries above rest
  | (name, .folder entries) :: rest =>
    (above ++ name ++ "/") :: listEntries (above ++ name ++ "/") entries ++ listEntries above rest

end

end Entry

/-- A disk, by its root folder. -/
structure Disk where
  root : Entry
  deriving Inhabited

namespace Disk

def empty : Disk :=
  ⟨.folder []⟩

def get? (disk : Disk) (place : Location) : Option Entry :=
  disk.root.get? place

def isFolderAt (disk : Disk) (place : Location) : Bool :=
  match disk.get? place with
  | some (.folder _) => true
  | _ => false

/-! ## Following paths -/

def follow (disk : Disk) (here : Location) : List String → Except DiskError Location
  | [] => .ok here
  | part :: rest =>
    match disk.get? here with
    | none => .error .missing
    | some (.file _) => .error .notFolder
    | some (.folder _) =>
      if Path.isIdle part then disk.follow here rest
      else if part = ".." then disk.follow here.dropLast rest
      else if !Path.isName part then .error .unusable
      else if (disk.get? (here ++ [part])).isSome then disk.follow (here ++ [part]) rest
      else .error .missing

def locate (disk : Disk) (path : Path) : Except DiskError Location :=
  if path.isUsable then disk.follow [] path.parts else .error .unusable

def find (disk : Disk) (path : Path) : Except DiskError (Location × Entry) :=
  match disk.locate path with
  | .error e => .error e
  | .ok place =>
    match disk.get? place with
    | some entry => .ok (place, entry)
    | none => .error .missing

def holds (disk : Disk) (path : Path) : Bool :=
  match disk.find path with
  | .ok _ => true
  | .error _ => false

def isFile (disk : Disk) (path : Path) : Bool :=
  match disk.find path with
  | .ok (_, .file _) => true
  | _ => false

def isFolder (disk : Disk) (path : Path) : Bool :=
  match disk.find path with
  | .ok (_, .folder _) => true
  | _ => false

def read (disk : Disk) (path : Path) : Except DiskError (List UInt8) :=
  match disk.find path with
  | .ok (_, .file bytes) => .ok bytes
  | .ok (_, .folder _) => .error .notFile
  | .error e => .error e

/-- The place of the last part of a path in the folder that the path stands in, whether or not
something is there. A path that ends in dots names no place in a folder. -/
def placeOf (disk : Disk) (path : Path) : Except DiskError Location :=
  if !path.isUsable then .error .unusable
  else
    match path.split? with
    | none => .error .ownName
    | some (parts, name) =>
      match disk.follow [] parts with
      | .error e => .error e
      | .ok folder =>
        match disk.get? folder with
        | none => .error .missing
        | some (.file _) => .error .notFolder
        | some (.folder _) =>
          if name = "." ∨ name = ".." then .error .ownName
          else if !Path.isName name then .error .unusable
          else .ok (folder ++ [name])

/-! ## Single steps -/

def put (disk : Disk) (place : Location) (entry : Entry) : Disk :=
  ⟨disk.root.put place entry⟩

def erase (disk : Disk) (place : Location) : Disk :=
  ⟨disk.root.erase place⟩

/-- Puts a file at a path, instead of a file that is there. -/
def putFile (disk : Disk) (path : Path) (bytes : List UInt8) : Except DiskError Disk :=
  match disk.placeOf path with
  | .error e => .error e
  | .ok place =>
    if path.endsInSlash || disk.isFolderAt place then .error .notFile
    else .ok (disk.put place (.file bytes))

def makeFolder (disk : Disk) (path : Path) : Except DiskError Disk :=
  match disk.placeOf path with
  | .error e => .error e
  | .ok place =>
    if (disk.get? place).isSome then .error .occupied
    else .ok (disk.put place (.folder []))

def removeFile (disk : Disk) (path : Path) : Except DiskError Disk :=
  match disk.find path with
  | .error e => .error e
  | .ok (_, .folder _) => .error .notFile
  | .ok (place, .file _) => .ok (disk.erase place)

/-! ## Several steps -/

def ensureFolder (disk : Disk) (path : Path) : Except DiskError Disk :=
  match disk.makeFolder path with
  | .ok made => .ok made
  | .error e => if disk.isFolder path then .ok disk else .error e

/-- Makes sure of folders at several paths, one after the other, up to the first failure. -/
def ensureFolders (disk : Disk) : List Path → Except DiskError Unit × Disk
  | [] => (.ok (), disk)
  | path :: rest =>
    match disk.ensureFolder path with
    | .ok made => made.ensureFolders rest
    | .error e => (.error e, disk)

/-- Makes a folder at a path and the folders that it stands in, from the outside in, as far as they
are missing. -/
def installFolder (disk : Disk) (path : Path) : Except DiskError Unit × Disk :=
  if path.isUsable then disk.ensureFolders path.ancestors.reverse else (.error .unusable, disk)

/-- Puts a file at a path, and makes the folders that it stands in. -/
def installFile (disk : Disk) (path : Path) (bytes : List UInt8) : Except DiskError Unit × Disk :=
  match path.parent? with
  | none => (.error .notFile, disk)
  | some folder =>
    match disk.installFolder folder with
    | (.error e, made) => (.error e, made)
    | (.ok (), made) =>
      match made.putFile path bytes with
      | .ok done => (.ok (), done)
      | .error e => (.error e, made)

/-- Removes an empty folder by its path. Where the path does not lead anywhere any more, there is
nothing to do. -/
def removeEmptyFolder (disk : Disk) (path : Path) : Except DiskError Unit × Disk :=
  match disk.placeOf path with
  | .ok place => (.ok (), disk.erase place)
  | .error .missing => (.ok (), disk)
  | .error e => (.error e, disk)

/-- Removes the folder that a path leads to: all that is in it, and then the folder itself. The path
can pass through what is in the folder, and then it leads nowhere after the first of these steps;
the folder stays, and is empty. -/
def removeFolder (disk : Disk) (path : Path) : Except DiskError Unit × Disk :=
  match disk.find path with
  | .error e => (.error e, disk)
  | .ok (_, .file _) => (.error .notFolder, disk)
  | .ok (place, .folder _) => (disk.put place (.folder [])).removeEmptyFolder path

/-- Removes what a path leads to, with everything in it. -/
def remove (disk : Disk) (path : Path) : Except DiskError Unit × Disk :=
  if disk.isFolder path then disk.removeFolder path
  else
    match disk.removeFile path with
    | .ok removed => (.ok (), removed)
    | .error e => (.error e, disk)

end Disk

end GuardedUi
