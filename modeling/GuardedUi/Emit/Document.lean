import GuardedUi.Emit.Construction
import GuardedUi.Guard.Marker
import GuardedUi.Model.Layout
import GuardedUi.Template.Rendering

/-!
# `Emit/Document` — the two generated documents

A layout and its styles become a declarations document, which is the header template filled in, and
an implementation document, which is assembled from sections:

* the banner and the inclusion of the header,
* the variables of the named styles and of the widgets,
* a stub for every handler that the generator owns, with a region inside,
* the initializer, which sets up the styles, builds the widgets and ends with a region.

`SourceSections` holds what the sections are about, `SourceSections.lines` what they look like.
-/

set_option autoImplicit false

namespace GuardedUi

open Json

/-- How the documents and the initializer are called. -/
structure EmitOptions where
  /-- The file name of the declarations document, which the other one includes. -/
  headerName : String
  /-- The file name of the implementation document. -/
  sourceName : String
  initializer : String
  deriving DecidableEq, Repr

def EmitOptions.standard : EmitOptions where
  headerName := "ui.h"
  sourceName := "ui.c"
  initializer := "ui_init"

/-- The first line of every generated document. -/
def banner : String :=
  "/* Generated by LVCraft - do not edit */"

/-- Why documents cannot be emitted. -/
inductive EmitError where
  | region (fault : Guard.InvalidRegionId)
  | template (error : TemplateError)
  deriving DecidableEq, Repr

def EmitError.message : EmitError → String
  | .region fault => fault.message
  | .template error => error.message

def joinLines : List String → String
  | [] => ""
  | [line] => line
  | line :: rest => line ++ "\n" ++ joinLines rest

def endLines (lines : List String) : String :=
  joinLines lines ++ "\n"

/-! ## The implementation document -/

/-- What an implementation document is about. -/
structure SourceSections where
  headerName : String
  styleVariables : List String
  widgetVariables : List String
  stubs : List String
  initializer : String
  /-- The statements that set up each of the named styles. -/
  setup : List (List StyleStatement)
  /-- The statements that build the widgets, if there is a tree. -/
  construction : Option (List Statement)

namespace SourceSections

/-- Lines and an empty line behind them, unless there are none. -/
def group (lines : List String) : List String :=
  if lines.isEmpty then [] else lines ++ [""]

def stubLines (handler : String) : Except Guard.InvalidRegionId (List String) :=
  (Guard.regionLines handler indentation).map fun region =>
    ["static void " ++ handler ++ "(lv_event_t * e) \x7b",
      indentation ++ "lv_obj_t * obj = lv_event_get_target(e);",
      indentation ++ "LV_UNUSED(obj);"] ++ region ++ ["\x7d", ""]

def stubsLines : List String → Except Guard.InvalidRegionId (List String)
  | [] => .ok []
  | handler :: rest =>
    match stubLines handler, stubsLines rest with
    | .ok lines, .ok others => .ok (lines ++ others)
    | .error fault, _ => .error fault
    | _, .error fault => .error fault

/-- The lines that set up the styles, an empty line behind each style. -/
def setupLines (setup : List (List StyleStatement)) : List String :=
  setup.flatMap fun statements => statements.map StyleStatement.line ++ [""]

def constructionLines : Option (List Statement) → List String
  | some statements => statements.map Statement.line
  | none => [indentation ++ "/* Empty layout */"]

def lines (s : SourceSections) : Except Guard.InvalidRegionId (List String) :=
  match stubsLines s.stubs, Guard.regionLines Guard.initRegion indentation with
  | .ok stubs, .ok region =>
    .ok (
      [banner, "#include \"" ++ s.headerName ++ "\"", ""] ++
      group (s.styleVariables.map fun name => "lv_style_t " ++ name ++ ";") ++
      group (s.widgetVariables.map fun name => "lv_obj_t *" ++ name ++ " = NULL;") ++
      stubs ++
      ["void " ++ s.initializer ++ "(void)", "\x7b"] ++
      setupLines s.setup ++
      constructionLines s.construction ++
      region ++ ["\x7d"])
  | .error fault, _ => .error fault
  | _, .error fault => .error fault

def text (s : SourceSections) : Except Guard.InvalidRegionId String :=
  s.lines.map endLines

end SourceSections

/-! ## The declarations document -/

/-- Lines with an empty line behind them, as one text; nothing if there are none. -/
def declarationGroup (lines : List String) : String :=
  if lines.isEmpty then "" else joinLines lines ++ "\n\n"

def declarations (styleVariables widgetVariables : List String) : String :=
  declarationGroup (styleVariables.map fun name => "extern lv_style_t " ++ name ++ ";") ++
    declarationGroup (widgetVariables.map fun name => "extern lv_obj_t *" ++ name ++ ";")

/-- The data that the header template is filled in with. -/
def headerData (options : EmitOptions) (declarations : String) : Value :=
  .record [("banner", .text banner), ("declarations", .text declarations),
    ("header", .text options.headerName), ("init_fn", .text options.initializer)]

/-! ## Emission -/

/-- What comes out of one emission. -/
structure Emission where
  header : String
  source : String
  /-- The identifiers of the widgets by path. -/
  identifiers : Name.Identifiers
  /-- The handlers that the generator owns, in order. -/
  stubs : List String

namespace Emission

def styleVariables (sheet : StyleSheet) : List String :=
  sheet.named.map fun style => Name.styleVariable style.id

def widgetVariables (identifiers : Name.Identifiers) : List String :=
  identifiers.values.map Name.widgetVariable

/-- What the implementation document of a layout is about. -/
def sections (options : EmitOptions) (layout : Layout) (sheet : StyleSheet) : SourceSections :=
  let identifiers := Name.assign layout.root
  let construction := Construction.ofRoot identifiers sheet layout.root
  { headerName := options.headerName
    styleVariables := styleVariables sheet
    widgetVariables := widgetVariables identifiers
    stubs := construction.stubs.names
    initializer := options.initializer
    setup := sheet.named.map StyleStatement.ofStyle
    construction := layout.root.map fun _ => construction.statements }

/-- Emits both documents. -/
def emit (options : EmitOptions) (layout : Layout) (sheet : StyleSheet) :
    Except EmitError Emission :=
  let sections := sections options layout sheet
  let data := headerData options (declarations sections.styleVariables sections.widgetVariables)
  match Templates.builtin.render Templates.headerName data, sections.text with
  | .ok header, .ok source =>
    .ok { header, source, identifiers := Name.assign layout.root, stubs := sections.stubs }
  | .error error, _ => .error (.template error)
  | _, .error fault => .error (.region fault)

end Emission

end GuardedUi
