import GuardedUi.Bag
import GuardedUi.Json.Value

/-!
# `Model/Property` — property values

What a widget or a style says about itself is an open set of properties with loosely typed values.
All numbers are doubles here: a property is written into C code as one number, whatever the
spelling of the literal it came from.

A property value is read in two ways. `ofTree?` reads it straight from a document and keeps records
in the order of the text; `ofValue` takes a JSON value that was read before, whose records are
sorted. The two agree up to the order of fields.
-/

set_option autoImplicit false

namespace GuardedUi

open Json

/-- The value of a property. -/
inductive Property where
  | null
  | flag (value : Bool)
  | number (value : Double)
  | text (content : String)
  | list (items : List Property)
  | record (fields : List (String × Property))
  deriving Repr, Inhabited

namespace Property

/-! ## Reading -/

mutual

def ofValue : Value → Property
  | .null => .null
  | .bool value => .flag value
  | .number value => .number value.toDouble
  | .text content => .text content
  | .list items => .list (ofValues items)
  | .record fields => .record (ofRecord fields)

def ofValues : List Value → List Property
  | [] => []
  | item :: rest => ofValue item :: ofValues rest

def ofRecord : List (String × Value) → List (String × Property)
  | [] => []
  | (name, value) :: rest => (name, ofValue value) :: ofRecord rest

end

mutual

/-- The property value of a tree whose lists and records are nested at most `depth` deep. A
repeated name keeps its first place and takes its last value. -/
def ofTree? (depth : Nat) : Tree → Option Property
  | .null => some .null
  | .bool value => some (.flag value)
  | .number literal => literal.number?.map fun value => .number value.toDouble
  | .text content => content.map .text
  | .list items =>
    match depth with
    | 0 => none
    | depth + 1 => (ofItems? depth items).map .list
  | .record fields =>
    match depth with
    | 0 => none
    | depth + 1 => (ofFields? depth fields).map fun fields => .record (Bag.ofList fields).entries

def ofItems? (depth : Nat) : List Tree → Option (List Property)
  | [] => some []
  | item :: rest =>
    match ofTree? depth item, ofItems? depth rest with
    | some value, some values => some (value :: values)
    | _, _ => none

/-- The fields of a record, in the order of the text. -/
def ofFields? (depth : Nat) : List (Content × Tree) → Option (List (String × Property))
  | [] => some []
  | (name, tree) :: rest =>
    match name, ofTree? depth tree, ofFields? depth rest with
    | some name, some value, some fields => some ((name, value) :: fields)
    | _, _, _ => none

end

/-! ## Writing -/

mutual

/-- The JSON value of a property value, its records in the order that they have. -/
def toJson : Property → Value
  | .null => .null
  | .flag value => .bool value
  | .number value => if value.isFinite then .number (.double value) else .null
  | .text content => .text content
  | .list items => .list (toJsonItems items)
  | .record fields => .record (toJsonFields fields)

def toJsonItems : List Property → List Value
  | [] => []
  | item :: rest => toJson item :: toJsonItems rest

def toJsonFields : List (String × Property) → List (String × Value)
  | [] => []
  | (name, value) :: rest => (name, toJson value) :: toJsonFields rest

end

mutual

/-- The JSON value of a property value, with sorted records. -/
def toValue : Property → Value
  | .null => .null
  | .flag value => .bool value
  | .number value => if value.isFinite then .number (.double value) else .null
  | .text content => .text content
  | .list items => .list (toValues items)
  | .record fields => .record (sortFields (toRecord fields))

def toValues : List Property → List Value
  | [] => []
  | item :: rest => toValue item :: toValues rest

def toRecord : List (String × Property) → List (String × Value)
  | [] => []
  | (name, value) :: rest => (name, toValue value) :: toRecord rest

end

/-! ## Typed views -/

def number? : Property → Option Double
  | .number value => some value
  | _ => none

def text? : Property → Option String
  | .text content => some content
  | _ => none

def flag? : Property → Option Bool
  | .flag value => some value
  | _ => none

/-! ## Agreement -/

mutual

/-- Equality of meaning: numbers by value, records without regard to the order of their fields. -/
def agrees : Property → Property → Bool
  | .null, .null => true
  | .flag a, .flag b => a == b
  | .number a, .number b => a.sameValue b
  | .text a, .text b => a == b
  | .list as, .list bs => agreeItems as bs
  | .record as, .record bs => as.length == bs.length && agreeFields as bs
  | _, _ => false

def agreeItems : List Property → List Property → Bool
  | [], [] => true
  | a :: as, b :: bs => agrees a b && agreeItems as bs
  | _, _ => false

/-- Whether every field has one of the same name and meaning in the other record. -/
def agreeFields : List (String × Property) → List (String × Property) → Bool
  | [], _ => true
  | (name, a) :: as, bs =>
    (match bs.lookup name with
      | some b => agrees a b
      | none => false) && agreeFields as bs

end

end Property

end GuardedUi
