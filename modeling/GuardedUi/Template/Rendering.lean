import GuardedUi.Bag
import GuardedUi.Name.Identifier
import GuardedUi.Template.Reading

/-!
# `Template/Rendering` — templates filled in

Rendering takes a template and data and puts the parts together, from the front; the first part that
cannot be filled in decides the error. `Templates` is a collection of templates by name, which at
first holds the one for declarations documents.
-/

set_option autoImplicit false

namespace GuardedUi

open Json

namespace Template

/-! ## Values -/

/-- The greatest position that is looked at in a list. -/
def greatestPosition : Nat :=
  Nat.pow 2 64 - 1

/-- The position that a step denotes: a numeral of ASCII digits. -/
def position? (step : String) : Option Nat :=
  let digits := step.toList
  let n := Literal.digitsValue digits
  if !digits.isEmpty && digits.all Char.isDigit && n ≤ greatestPosition then some n else none

def follow : Value → FieldPath → Except TemplateError (Option Value)
  | value, [] => .ok (some value)
  | .record fields, step :: rest =>
    match fields.lookup step with
    | some value => follow value rest
    | none => .ok none
  | .list items, step :: rest =>
    match position? step with
    | none => .error (.badPosition step)
    | some n =>
      match items[n]? with
      | some value => follow value rest
      | none => .ok none
  | _, _ :: _ => .ok none

mutual

def valueText : Value → String
  | .null => ""
  | .bool value => if value then "true" else "false"
  | .number value => String.ofList value.write
  | .text content => content
  | .list items => "[" ++ itemsText items ++ "]"
  | .record _ => "[object]"

def itemsText : List Value → String
  | [] => ""
  | [item] => valueText item
  | item :: rest => valueText item ++ ", " ++ itemsText rest

end

/-! ## Parts -/

/-- The text that an argument gives to a helper; only texts count. -/
def argumentText (data : Value) : Argument → Except TemplateError String
  | .quoted content => .ok content
  | .constant => .ok ""
  | .field path =>
    match follow data path with
    | .error e => .error e
    | .ok (some (.text content)) => .ok content
    | .ok _ => .ok ""

/-- What a helper writes, given the texts of its arguments. -/
def callText (helper : String) (arguments : List String) : Except TemplateError String :=
  if helper = guardHelper then .ok (Name.includeGuard (arguments.head?.getD ""))
  else if silentHelpers.contains helper then .ok ""
  else if blockHelpers.contains helper then
    if arguments.isEmpty then .error (.missingArgument helper) else .ok ""
  else .error (.unknownHelper helper)

def renderPart (data : Value) : Part → Except TemplateError String
  | .text content => .ok content
  | .field path =>
    match follow data path with
    | .error e => .error e
    | .ok (some value) => .ok (valueText value)
    | .ok none => .error (.missingField path)
  | .call helper arguments =>
    match arguments.mapM (argumentText data) with
    | .error e => .error e
    | .ok texts => callText helper texts

/-- The text of a template; the first part that cannot be filled in decides the error. -/
def render (data : Value) : Template → Except TemplateError String
  | [] => .ok ""
  | part :: rest =>
    match renderPart data part, render data rest with
    | .ok text, .ok texts => .ok (text ++ texts)
    | .error e, _ => .error e
    | _, .error e => .error e

/-- The declarations document: banner, guard, declarations, and the prototype of the
initializer. -/
def header : Template :=
  [.field ["banner"], .text "\n#ifndef ", .call guardHelper [.field ["header"]],
    .text "\n#define ", .call guardHelper [.field ["header"]],
    .text "\n\n#include \"lvgl.h\"\n\n", .field ["declarations"],
    .text "void ", .field ["init_fn"], .text "(void);\n\n#endif\n"]

end Template

abbrev Templates := Bag Template

namespace Templates

def headerName : String :=
  "lvgl_header"

def builtin : Templates :=
  Bag.ofList [(headerName, Template.header)]

/-- The templates with one more, which replaces one of the same name. -/
def register (templates : Templates) (name source : String) : Except TemplateError Templates :=
  (Template.parse source).map (templates.put name)

def render (templates : Templates) (name : String) (data : Value) : Except TemplateError String :=
  match templates.get? name with
  | some template => template.render data
  | none => .error (.notFound name)

end Templates

end GuardedUi
