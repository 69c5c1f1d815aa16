import GuardedUi.Model.Style
import GuardedUi.Text.Blank

/-!
# `Model/Manifest` — the project manifest

The manifest names the library version that a project is made for, its display and what the
generator may do. A manifest that can be read may still be of no use; `Manifest.fault?` says why.
-/

set_option autoImplicit false

namespace GuardedUi

open Json

/-- The size of a display in pixels. -/
structure Resolution where
  width : Nat
  height : Nat
  deriving DecidableEq, Repr

/-- How much memory the target has. -/
inductive MemoryProfile where
  | minimal
  | default
  | large
  deriving DecidableEq, Repr

/-- What the generator is told. -/
structure GeneratorConfig where
  namingConvention : Option String
  modularSplitting : Option Bool
  /-- Whether the user is asked before user code is dropped. -/
  confirmDroppedRegions : Bool
  deriving DecidableEq, Repr

/-- The manifest of a project. -/
structure Manifest where
  version : Nat
  lvglVersion : String
  targetMcu : Option String
  resolution : Option Resolution
  colorDepth : Nat
  memoryProfile : Option MemoryProfile
  theme : Option String
  generator : GeneratorConfig
  assetManifestHash : Option String
  deriving DecidableEq, Repr

/-- Why a manifest cannot be used. -/
inductive ManifestFault where
  /-- The file does not hold a manifest. -/
  | malformed
  | unsupportedVersion (version : Nat)
  | missingLibraryVersion
  | missingResolution
  deriving DecidableEq, Repr

def ManifestFault.message : ManifestFault → String
  | .malformed => "json"
  | .unsupportedVersion version => "unsupported version " ++ integerNumeral version
  | .missingLibraryVersion => "missing lvglVersion"
  | .missingResolution => "missing resolution"

namespace Resolution

/-- The resolution of a tree whose lists and records are nested at most `depth` deep. -/
def ofTree? (depth : Nat) (tree : Tree) : Option Resolution :=
  match depth, Tree.fields? ["width", "height"] tree with
  | _ + 1, some [some width, some height] => do
    return {
      width := ← Tree.nat? greatestCount width
      height := ← Tree.nat? greatestCount height }
  | _, _ => none

def toJson (r : Resolution) : Value :=
  .record [("width", .ofNat r.width), ("height", .ofNat r.height)]

end Resolution

namespace MemoryProfile

def ofName? (name : String) : Option MemoryProfile :=
  if name = "minimal" then some .minimal
  else if name = "default" then some .default
  else if name = "large" then some .large
  else none

def name : MemoryProfile → String
  | .minimal => "minimal"
  | .default => "default"
  | .large => "large"

/-- The profile of a tree whose lists and records are nested at most `depth` deep: a name, or a
record with the name and the value `null`. -/
def ofTree? (depth : Nat) : Tree → Option MemoryProfile
  | .text (some name) => ofName? name
  | .record [(some name, .null)] => if 0 < depth then ofName? name else none
  | _ => none

end MemoryProfile

namespace GeneratorConfig

/-- The generator that asks nothing. -/
def standard : GeneratorConfig where
  namingConvention := none
  modularSplitting := none
  confirmDroppedRegions := false

/-- The configuration of a tree whose lists and records are nested at most `depth` deep. -/
def ofTree? (depth : Nat) (tree : Tree) : Option GeneratorConfig :=
  match depth,
    Tree.fields? ["namingConvention", "modularSplitting", "confirmDroppedRegions"] tree with
  | _ + 1, some [naming, splitting, confirm] => do
    return {
      namingConvention := ← Tree.optional Tree.string? naming
      modularSplitting := ← Tree.optional Tree.bool? splitting
      confirmDroppedRegions := ← Tree.orElse false Tree.bool? confirm }
  | _, _ => none

def toJson (g : GeneratorConfig) : Value :=
  .record (
    Value.fieldIf "namingConvention" g.namingConvention .text ++
    Value.fieldIf "modularSplitting" g.modularSplitting .bool ++
    [("confirmDroppedRegions", .bool g.confirmDroppedRegions)])

end GeneratorConfig

namespace Manifest

/-- The greatest depth of color that can be written down. -/
def greatestDepth : Nat :=
  255

def standardDepth : Nat :=
  16

def standard : Manifest where
  version := 1
  lvglVersion := "9.0.0"
  targetMcu := none
  resolution := some { width := 320, height := 240 }
  colorDepth := standardDepth
  memoryProfile := some .default
  theme := some "default"
  generator := .standard
  assetManifestHash := none

def fieldNames : List String :=
  ["version", "lvglVersion", "targetMcu", "resolution", "colorDepth", "memoryProfile", "theme",
    "generator", "assetManifestHash"]

/-- The manifest of a tree whose lists and records are nested at most `depth` deep. -/
def ofTree? (depth : Nat) (tree : Tree) : Option Manifest :=
  match depth, Tree.fields? fieldNames tree with
  | depth + 1, some [some version, library, mcu, resolution, color, memory, theme, generator, hash] =>
    do
      return {
        version := ← Tree.nat? greatestCount version
        lvglVersion := ← Tree.orElse "" Tree.string? library
        targetMcu := ← Tree.optional Tree.string? mcu
        resolution := ← Tree.optional (Resolution.ofTree? depth) resolution
        colorDepth := ← Tree.orElse standardDepth (Tree.nat? greatestDepth) color
        memoryProfile := ← Tree.optional (MemoryProfile.ofTree? depth) memory
        theme := ← Tree.optional Tree.string? theme
        generator := ← Tree.orElse .standard (GeneratorConfig.ofTree? depth) generator
        assetManifestHash := ← Tree.optional Tree.string? hash }
  | _, _ => none

def parse? (text : List Char) : Option Manifest :=
  (Tree.parse? text).bind (ofTree? Tree.nestingLimit)

/-- What makes a manifest unusable: the first of another version than the supported one, no
version of the library, and no resolution. -/
def fault? (m : Manifest) : Option ManifestFault :=
  if m.version ≠ 1 then some (.unsupportedVersion m.version)
  else if Text.allBlank m.lvglVersion.toList then some .missingLibraryVersion
  else if m.resolution.isNone then some .missingResolution
  else none

def toJson (m : Manifest) : Value :=
  .record (
    [("version", .ofNat m.version), ("lvglVersion", .text m.lvglVersion)] ++
    Value.fieldIf "targetMcu" m.targetMcu .text ++
    Value.fieldIf "resolution" m.resolution Resolution.toJson ++
    [("colorDepth", .ofNat m.colorDepth)] ++
    Value.fieldIf "memoryProfile" m.memoryProfile (fun profile => .text profile.name) ++
    Value.fieldIf "theme" m.theme .text ++
    [("generator", m.generator.toJson)] ++
    Value.fieldIf "assetManifestHash" m.assetManifestHash .text)

end Manifest

end GuardedUi
