import GuardedUi.Json.Tree

/-!
# `Json/Value` — values of JSON texts

A `Value` is what a sound tree means: numbers have values, strings are texts, and a record is a
finite map, kept as a list of fields in ascending order of their names with no name twice.

`ofTree?` reads a value out of a tree. It fails where the tree has a part without a meaning, or is
nested deeper than the depth it is given; a repeated name takes its last value. `write` is the
compact text of a value. It does not sort: records whose order is part of a format are built as
values with their fields in that order.
-/

set_option autoImplicit false

namespace GuardedUi.Json

/-- A JSON value. -/
inductive Value where
  | null
  | bool (value : Bool)
  | number (value : Number)
  | text (content : String)
  | list (items : List Value)
  | record (fields : List (String × Value))
  deriving Repr, Inhabited

/-- Whether one name comes before another: the first difference decides, by code point. -/
def nameBefore : List Char → List Char → Bool
  | [], [] => false
  | [], _ :: _ => true
  | _ :: _, [] => false
  | a :: as, b :: bs => if a = b then nameBefore as bs else a.toNat < b.toNat

/-- A field put in its place among sorted fields, instead of the one of the same name if there is
one. -/
def putSorted {α : Type} (name : String) (value : α) : List (String × α) → List (String × α)
  | [] => [(name, value)]
  | (n, v) :: rest =>
    if n = name then (name, value) :: rest
    else if nameBefore name.toList n.toList then (name, value) :: (n, v) :: rest
    else (n, v) :: putSorted name value rest

/-- The sorted fields of a list of fields, of which later ones replace earlier ones. -/
def sortFields {α : Type} (fields : List (String × α)) : List (String × α) :=
  fields.foldl (fun sorted field => putSorted field.1 field.2 sorted) []

namespace Value

/-! ## Reading -/

mutual

/-- The value of a tree whose lists and records are nested at most `depth` deep. -/
def ofTree? (depth : Nat) : Tree → Option Value
  | .null => some .null
  | .bool value => some (.bool value)
  | .number literal => literal.number?.map .number
  | .text content => content.map .text
  | .list items =>
    match depth with
    | 0 => none
    | depth + 1 => (ofItems? depth items).map .list
  | .record fields =>
    match depth with
    | 0 => none
    | depth + 1 => (ofFields? depth fields).map fun fields => .record (sortFields fields)

def ofItems? (depth : Nat) : List Tree → Option (List Value)
  | [] => some []
  | item :: rest =>
    match ofTree? depth item, ofItems? depth rest with
    | some value, some values => some (value :: values)
    | _, _ => none

/-- The fields of a record, in the order of the text. -/
def ofFields? (depth : Nat) : List (Content × Tree) → Option (List (String × Value))
  | [] => some []
  | (name, tree) :: rest =>
    match name, ofTree? depth tree, ofFields? depth rest with
    | some name, some value, some fields => some ((name, value) :: fields)
    | _, _, _ => none

end

def parse? (text : List Char) : Option Value :=
  (Tree.parse? text).bind (ofTree? Tree.nestingLimit)

/-! ## Writing -/

/-- A hexadecimal digit below sixteen, in lower case. -/
def hexDigit (n : Nat) : Char :=
  if n < 10 then Char.ofNat ('0'.toNat + n) else Char.ofNat ('a'.toNat + (n - 10))

def writeChar (c : Char) : List Char :=
  if c = '"' then ['\\', '"']
  else if c = '\\' then ['\\', '\\']
  else if c = '\x08' then ['\\', 'b']
  else if c = '\t' then ['\\', 't']
  else if c = '\n' then ['\\', 'n']
  else if c = '\x0c' then ['\\', 'f']
  else if c = '\r' then ['\\', 'r']
  else if c.toNat < 0x20 then
    ['\\', 'u', '0', '0', hexDigit (c.toNat / 16), hexDigit (c.toNat % 16)]
  else [c]

def writeText (content : String) : List Char :=
  '"' :: content.toList.flatMap writeChar ++ ['"']

mutual

def write : Value → List Char
  | .null => ['n', 'u', 'l', 'l']
  | .bool true => ['t', 'r', 'u', 'e']
  | .bool false => ['f', 'a', 'l', 's', 'e']
  | .number value => value.write
  | .text content => writeText content
  | .list items => '[' :: writeItems items ++ [']']
  | .record fields => '\x7b' :: writeFields fields ++ ['\x7d']

def writeItems : List Value → List Char
  | [] => []
  | [item] => write item
  | item :: rest => write item ++ ',' :: writeItems rest

def writeFields : List (String × Value) → List Char
  | [] => []
  | [(name, value)] => writeText name ++ ':' :: write value
  | (name, value) :: rest => writeText name ++ ':' :: write value ++ ',' :: writeFields rest

end

def compact (value : Value) : String :=
  String.ofList value.write

/-- A field that is written only if there is something to write. -/
def fieldIf {α : Type} (name : String) (value : Option α) (write : α → Value) :
    List (String × Value) :=
  match value with
  | none => []
  | some a => [(name, write a)]

def ofNat (n : Nat) : Value :=
  .number (.int n)

end Value

end GuardedUi.Json
