import GuardedUi.Disk.Basic
import GuardedUi.Model.Layout
import GuardedUi.Model.Manifest
import GuardedUi.Text.Utf8

/-!
# `Project` — a project on a disk

A project is a folder with a manifest, and usually a layout and styles. Its generated documents are
in `generated/ui` inside it. A project is found from any path inside it, by going up until a folder
holds a manifest.

A manifest that cannot be used stops everything. A layout or a collection of styles that cannot be
read, or has another version than the supported one, is taken for an empty one.
-/

set_option autoImplicit false

namespace GuardedUi

/-- Why a project cannot be used. -/
inductive ProjectFault where
  /-- There is no manifest at a path or above it. -/
  | notFound (start : Path)
  /-- The manifest at a path cannot be used. -/
  | invalidManifest (path : Path) (fault : ManifestFault)
  /-- The manifest is not a file of text. -/
  | unreadable
  deriving DecidableEq, Repr

def ProjectFault.message : ProjectFault → String
  | .notFound start =>
    "no LVCraft project (lvproj.json) found at or above " ++ start.text
  | .invalidManifest path fault => path.text ++ ": " ++ fault.message
  | .unreadable => "io error"

/-- A project that has been read. -/
structure Project where
  root : Path
  manifest : Manifest
  layout : Layout
  styles : StyleSheet

namespace Project

/-! ## Names -/

def manifestName : String :=
  "lvproj.json"

def layoutName : String :=
  "layout.json"

def stylesName : String :=
  "styles.json"

/-- The folder of everything that is generated. -/
def generatedName : String :=
  "generated"

def uiName : String :=
  "ui"

/-- The file name of the implementation document. -/
def sourceName : String :=
  "ui.c"

def headerName : String :=
  "ui.h"

def generatedFolder (root : Path) : Path :=
  root.child generatedName

def uiFolder (root : Path) : Path :=
  (generatedFolder root).child uiName

def sourcePath (root : Path) : Path :=
  (uiFolder root).child sourceName

def headerPath (root : Path) : Path :=
  (uiFolder root).child headerName

/-! ## Finding and reading -/

/-- Whether a folder holds a manifest. -/
def isProject (disk : Disk) (folder : Path) : Bool :=
  disk.isFile (folder.child manifestName)

/-- The innermost project that a path is in. -/
def findRoot (disk : Disk) (start : Path) : Except ProjectFault Path :=
  match start.ancestors.find? (isProject disk) with
  | some root => .ok root
  | none => .error (.notFound start)

def readText? (disk : Disk) (path : Path) : Option (List Char) :=
  match disk.read path with
  | .ok bytes => Text.Utf8.decode? bytes
  | .error _ => none

/-- The manifest of a project, if it can be used. -/
def readManifest (disk : Disk) (root : Path) : Except ProjectFault Manifest :=
  let path := root.child manifestName
  match readText? disk path with
  | none => .error .unreadable
  | some text =>
    match Manifest.parse? text with
    | none => .error (.invalidManifest path .malformed)
    | some manifest =>
      match manifest.fault? with
      | some fault => .error (.invalidManifest path fault)
      | none => .ok manifest

def supportedVersion : Nat :=
  1

def readLayout (disk : Disk) (root : Path) : Layout :=
  match (readText? disk (root.child layoutName)).bind Layout.parse? with
  | some layout => if layout.version = supportedVersion then layout else .empty
  | none => .empty

def readStyles (disk : Disk) (root : Path) : StyleSheet :=
  match (readText? disk (root.child stylesName)).bind StyleSheet.parse? with
  | some sheet => if sheet.version = supportedVersion then sheet else .empty
  | none => .empty

/-- Reads the project with the given root. -/
def load (disk : Disk) (root : Path) : Except ProjectFault Project :=
  (readManifest disk root).map fun manifest =>
    { root, manifest, layout := readLayout disk root, styles := readStyles disk root }

/-- Reads the project that a path is in. -/
def openAt (disk : Disk) (start : Path) : Except ProjectFault Project :=
  match findRoot disk start with
  | .ok root => load disk root
  | .error fault => .error fault

end Project

end GuardedUi
