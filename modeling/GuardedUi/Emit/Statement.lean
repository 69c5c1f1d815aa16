import GuardedUi.Emit.Literal
import GuardedUi.Emit.WidgetKind
import GuardedUi.Event
import GuardedUi.Model.Style

/-!
# `Emit/Statement` — the statements of the initializer

The initializer sets up the shared styles and builds the widgets. Both are lists of statements with
a meaning; what stands in the C file is `StyleStatement.line` and `Statement.line` of them.

Which setters a widget has depends on its own properties and on the family of setters of its kind.
They come in a fixed order: position, size, text, range and value, colors. Only numbers count where
a number is wanted, and only texts where a text is; a text goes in as it is.
-/

set_option autoImplicit false

namespace GuardedUi

def indentation : String :=
  "  "

def commaSeparated : List String → String
  | [] => ""
  | [text] => text
  | text :: rest => text ++ ", " ++ commaSeparated rest

/-- A call of a function as a statement on a line of its own. -/
def callLine (function : String) (arguments : List String) : String :=
  indentation ++ function ++ "(" ++ commaSeparated arguments ++ ");"

/-! ## Styles -/

/-- A statement that sets up the variable of a shared style. -/
inductive StyleStatement where
  | init (target : String)
  /-- Sets one property of the variable `target`. -/
  | set (target property : String) (value : Double)
  deriving DecidableEq, Repr

namespace StyleStatement

/-- The properties of a style that the graphics library understands, in the order in which they
are set. -/
def properties : List String :=
  ["bg_color", "bg_opa", "border_width", "border_color", "radius", "pad_all", "text_color"]

def line : StyleStatement → String
  | .init target => callLine "lv_style_init" ["&" ++ target]
  | .set target property value =>
    callLine ("lv_style_set_" ++ property) ["&" ++ target, Emit.formatValue property value]

/-- The statements for one style: clearing its variable, then its numeric properties. -/
def ofStyle (style : SharedStyle) : List StyleStatement :=
  let target := Name.styleVariable style.id
  .init target ::
    properties.filterMap fun name => (style.number? name).map (.set target name)

end StyleStatement

/-! ## Widgets -/

/-- What is set on a widget. -/
inductive Setter where
  | position (x y : Double)
  | size (width height : Double)
  | width (value : Double)
  | height (value : Double)
  /-- A text, by the function that sets it. -/
  | text (function content : String)
  /-- The least and the greatest value, for a family of functions. -/
  | range (family : String) (least greatest : Double)
  /-- The value, for a family of functions; whether setting it could be animated. -/
  | value (family : String) (value : Double) (animates : Bool)
  | color (property : String) (value : Double)
  deriving DecidableEq, Repr

/-- A statement about the widget in the variable `target`. -/
inductive Statement where
  /-- Creates a widget inside another one, or as a root. -/
  | create (target : String) (kind : WidgetKind) (parent : Option String)
  | addStyle (target style : String)
  | set (target : String) (setter : Setter)
  | addEvent (target : String) (registration : Registration)
  deriving DecidableEq, Repr

namespace Setter

def colors : List String :=
  ["bg_color", "border_color", "text_color"]

/-- The position, if a coordinate is given; the other one is zero then. -/
def positionOf (w : Widget) : List Setter :=
  match w.number? "x", w.number? "y" with
  | none, none => []
  | x, y => [.position (x.getD .zero) (y.getD .zero)]

def sizeOf (w : Widget) : List Setter :=
  match w.number? "width", w.number? "height" with
  | some across, some down => [.size across down]
  | some across, none => [.width across]
  | none, some down => [.height down]
  | none, none => []

def textOf (w : Widget) (kind : WidgetKind) : List Setter :=
  match kind.textSetter?, w.text? "text" with
  | some function, some content => [.text function content]
  | _, _ => []

/-- The range and the value, for kinds that have a value; a range needs both ends. -/
def valueOf (w : Widget) (kind : WidgetKind) : List Setter :=
  match kind.valueFamily? with
  | none => []
  | some family =>
    (match w.number? "min", w.number? "max" with
      | some least, some greatest => [.range family least greatest]
      | _, _ => []) ++
    (match w.number? "value" with
      | some number => [.value family number kind.animatesValue]
      | none => [])

def colorsOf (w : Widget) : List Setter :=
  colors.filterMap fun name => (w.number? name).map (.color name)

/-- All that is set on a widget of the given kind, in order. -/
def ofWidget (w : Widget) (kind : WidgetKind) : List Setter :=
  positionOf w ++ sizeOf w ++ textOf w kind ++ valueOf w kind ++ colorsOf w

/-- The line that sets something on the widget in a variable. -/
def line (target : String) : Setter → String
  | .position x y =>
    callLine "lv_obj_set_pos" [target, Emit.formatNumber x, Emit.formatNumber y]
  | .size across down =>
    callLine "lv_obj_set_size" [target, Emit.formatNumber across, Emit.formatNumber down]
  | .width across => callLine "lv_obj_set_width" [target, Emit.formatNumber across]
  | .height down => callLine "lv_obj_set_height" [target, Emit.formatNumber down]
  | .text function content => callLine function [target, "\"" ++ content ++ "\""]
  | .range family least greatest =>
    callLine (family ++ "_set_range")
      [target, Emit.formatNumber least, Emit.formatNumber greatest]
  | .value family number animates =>
    callLine (family ++ "_set_value")
      ([target, Emit.formatNumber number] ++ if animates then ["LV_ANIM_OFF"] else [])
  | .color property number =>
    callLine ("lv_obj_set_style_" ++ property) [target, Emit.formatColor number, "0"]

end Setter

namespace Statement

def line : Statement → String
  | .create target kind parent =>
    indentation ++ target ++ " = " ++ kind.constructor ++ "(" ++ parent.getD "NULL" ++ ");"
  | .addStyle target style => callLine "lv_obj_add_style" [target, "&" ++ style, "0"]
  | .set target setter => setter.line target
  | .addEvent target registration =>
    callLine "lv_obj_add_event_cb" [target, registration.handler, registration.code, "NULL"]

end Statement

end GuardedUi
