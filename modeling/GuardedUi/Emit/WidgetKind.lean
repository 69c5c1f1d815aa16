/-!
# `Emit/WidgetKind` — the kinds of widgets that the graphics library knows

The type of a widget is any text; `WidgetKind.ofType` finds out which constructor of the graphics
library it means, without regard to case, and takes every unknown type for a plain object. Kinds
differ in the functions that create them and in the setters that they have.
-/

set_option autoImplicit false

namespace GuardedUi

/-- The widgets that have a constructor of their own. -/
inductive WidgetKind where
  | obj
  | button
  | label
  | image
  | slider
  | bar
  | switch
  | checkbox
  | dropdown
  | roller
  | textarea
  | canvas
  | arc
  | spinner
  deriving DecidableEq, Repr

namespace WidgetKind

def table : List (String × WidgetKind) :=
  [("btn", .button), ("button", .button), ("label", .label), ("img", .image), ("image", .image),
    ("slider", .slider), ("bar", .bar), ("switch", .switch), ("checkbox", .checkbox),
    ("dropdown", .dropdown), ("roller", .roller), ("textarea", .textarea), ("canvas", .canvas),
    ("arc", .arc), ("spinner", .spinner)]

/-- The kind that a type means; ASCII letters count without regard to case. -/
def ofType (type : String) : WidgetKind :=
  (table.lookup (String.ofList (type.toList.map Char.toLower))).getD .obj

def name : WidgetKind → String
  | .obj => "Obj"
  | .button => "Button"
  | .label => "Label"
  | .image => "Image"
  | .slider => "Slider"
  | .bar => "Bar"
  | .switch => "Switch"
  | .checkbox => "Checkbox"
  | .dropdown => "Dropdown"
  | .roller => "Roller"
  | .textarea => "Textarea"
  | .canvas => "Canvas"
  | .arc => "Arc"
  | .spinner => "Spinner"

def constructor : WidgetKind → String
  | .obj => "lv_obj_create"
  | .button => "lv_btn_create"
  | .label => "lv_label_create"
  | .image => "lv_img_create"
  | .slider => "lv_slider_create"
  | .bar => "lv_bar_create"
  | .switch => "lv_switch_create"
  | .checkbox => "lv_checkbox_create"
  | .dropdown => "lv_dropdown_create"
  | .roller => "lv_roller_create"
  | .textarea => "lv_textarea_create"
  | .canvas => "lv_canvas_create"
  | .arc => "lv_arc_create"
  | .spinner => "lv_spinner_create"

/-- The function that sets the text of a widget, for kinds that show one. -/
def textSetter? : WidgetKind → Option String
  | .label => some "lv_label_set_text"
  | .checkbox => some "lv_checkbox_set_text"
  | .textarea => some "lv_textarea_set_text"
  | _ => none

/-- What the functions for range and value begin with, for kinds that have a value. -/
def valueFamily? : WidgetKind → Option String
  | .slider => some "lv_slider"
  | .bar => some "lv_bar"
  | .arc => some "lv_arc"
  | _ => none

/-- Whether setting the value takes an argument for animation. -/
def animatesValue (kind : WidgetKind) : Bool :=
  kind != .arc

end WidgetKind

end GuardedUi
