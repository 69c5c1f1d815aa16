import GuardedUi.Model.Property

/-!
# `Model/Style` — shared styles

A shared style is a named bundle of properties that widgets refer to by its id. A style without an
id can be kept in a collection and cannot be referred to; `StyleSheet.named` leaves it out. Where
two styles have one id, the first one is meant.
-/

set_option autoImplicit false

namespace GuardedUi

open Json

/-- A named bundle of properties. -/
structure SharedStyle where
  /-- The id that widgets refer to; empty if there is none. -/
  id : String
  properties : Bag Property
  deriving Inhabited

/-- The shared styles of a project and the data of its theme. -/
structure StyleSheet where
  version : Nat
  shared : List SharedStyle
  /-- Data of the theme, kept as it is. -/
  theme : Option Value
  deriving Inhabited

/-- The greatest number that a version, a width or a height can be. -/
def greatestCount : Nat :=
  Nat.pow 2 32 - 1

namespace SharedStyle

def new (id : String) : SharedStyle where
  id
  properties := Bag.empty

def withProperty (s : SharedStyle) (name : String) (value : Property) : SharedStyle :=
  { s with properties := s.properties.put name value }

def number? (s : SharedStyle) (name : String) : Option Double :=
  (s.properties.get? name).bind Property.number?

/-- The style of a tree whose lists and records are nested at most `depth` deep. The id may be
missing and may not be `null`; every other field is a property. -/
def ofTree? (depth : Nat) : Tree → Option SharedStyle
  | .record fields =>
    match depth with
    | 0 => none
    | depth + 1 =>
      let others := fields.filter fun field => field.1 != some "id"
      match Tree.field? fields "id", Property.ofFields? depth others with
      | some id, some properties =>
        (Tree.orElse "" Tree.string? id).map fun id => { id, properties := Bag.ofList properties }
      | _, _ => none
  | _ => none

def toJson (s : SharedStyle) : Value :=
  .record (("id", .text s.id) :: Property.toJsonFields s.properties.entries)

end SharedStyle

namespace StyleSheet

def new (shared : List SharedStyle) : StyleSheet where
  version := 1
  shared
  theme := none

def empty : StyleSheet :=
  new []

/-- The styles that can be referred to. -/
def named (sheet : StyleSheet) : List SharedStyle :=
  sheet.shared.filter fun style => !style.id.isEmpty

def get? (sheet : StyleSheet) (id : String) : Option SharedStyle :=
  sheet.named.find? fun style => style.id == id

def readShared? (depth : Nat) : Tree → Option (List SharedStyle)
  | .list items =>
    match depth with
    | 0 => none
    | depth + 1 => items.mapM (SharedStyle.ofTree? depth)
  | _ => none

/-- The collection of a tree whose lists and records are nested at most `depth` deep. -/
def ofTree? (depth : Nat) (tree : Tree) : Option StyleSheet :=
  match depth, Tree.fields? ["version", "shared", "theme"] tree with
  | depth + 1, some [some version, shared, theme] => do
    return {
      version := ← Tree.nat? greatestCount version
      shared := ← Tree.orElse [] (readShared? depth) shared
      theme := ← Tree.optional (Value.ofTree? depth) theme }
  | _, _ => none

def parse? (text : List Char) : Option StyleSheet :=
  (Tree.parse? text).bind (ofTree? Tree.nestingLimit)

def toJson (sheet : StyleSheet) : Value :=
  .record (
    [("version", .ofNat sheet.version), ("shared", .list (sheet.shared.map SharedStyle.toJson))] ++
    Value.fieldIf "theme" sheet.theme id)

end StyleSheet

end GuardedUi
