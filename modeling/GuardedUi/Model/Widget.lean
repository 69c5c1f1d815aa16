import GuardedUi.Model.Binding
import GuardedUi.Model.Property

/-!
# `Model/Widget` — the widget tree

A widget has a type, maybe an id and a reference to a style, children in sibling order, and two
bags that a document writes side by side with these: bindings of events and all other properties.

Reading a widget sorts the fields of a record into the structural ones, which may be there only
once, and the rest, in which a repeated name keeps its first place and takes its last value. The
reading is one recursion over the tree, so the fields of a widget are read where they stand and put
together afterwards.
-/

set_option autoImplicit false

namespace GuardedUi

open Json

/-- A widget and everything below it. -/
structure Widget where
  /-- The kind of widget, an open set. -/
  type : String
  /-- The id that the user gave it. -/
  id : Option String
  /-- The widgets inside it, in sibling order. -/
  children : List Widget
  styleId : Option String
  events : Bag Binding
  properties : Bag Property
  deriving Inhabited

namespace Widget

/-! ## Building -/

def new (type : String) : Widget where
  type
  id := none
  children := []
  styleId := none
  events := Bag.empty
  properties := Bag.empty

def withId (w : Widget) (id : String) : Widget :=
  { w with id := some id }

def withStyle (w : Widget) (styleId : String) : Widget :=
  { w with styleId := some styleId }

def withChild (w child : Widget) : Widget :=
  { w with children := w.children ++ [child] }

def withEvent (w : Widget) (name : String) (binding : Binding) : Widget :=
  { w with events := w.events.put name binding }

def withProperty (w : Widget) (name : String) (value : Property) : Widget :=
  { w with properties := w.properties.put name value }

/-! ## Views -/

/-- An id counts as given only if it is not empty. -/
def givenId? (id : Option String) : Option String :=
  id.filter fun id => !id.isEmpty

def userId? (w : Widget) : Option String :=
  givenId? w.id

/-- The binding of an event; none if the widget does not mention it. -/
def event (w : Widget) (name : String) : Binding :=
  (w.events.get? name).getD .none

def number? (w : Widget) (name : String) : Option Double :=
  (w.properties.get? name).bind Property.number?

def text? (w : Widget) (name : String) : Option String :=
  (w.properties.get? name).bind Property.text?

def flag? (w : Widget) (name : String) : Option Bool :=
  (w.properties.get? name).bind Property.flag?

mutual

def count : Widget → Nat
  | ⟨_, _, children, _, _, _⟩ => 1 + countAll children

def countAll : List Widget → Nat
  | [] => 0
  | w :: rest => count w + countAll rest

end

/-! ## Reading -/

/-- A field of a widget's record. -/
inductive Field where
  | type (name : String)
  | id (value : Option String)
  | children (widgets : List Widget)
  | style (value : Value)
  | other (name : String) (value : Value)

namespace Field

def type? : Field → Option String
  | .type name => some name
  | _ => none

/-- The id, which may be `null`, if the field is the one of the id. -/
def id? : Field → Option (Option String)
  | .id value => some value
  | _ => none

def children? : Field → Option (List Widget)
  | .children widgets => some widgets
  | _ => none

/-- The value of the reference to a style, if the field is that one. -/
def style? : Field → Option Value
  | .style value => some value
  | _ => none

/-- The name and the value of a field that is not structural. -/
def other? : Field → Option (String × Value)
  | .other name value => some (name, value)
  | _ => none

end Field

/-- The id that the value of a reference to a style holds: only a text refers to one. -/
def styleIdOf : Option Value → Option String
  | some (.text id) => some id
  | _ => none

/-- The widget that a list of fields describes: exactly one type, and at most one of each other
structural field. -/
def ofFields? (fields : List Field) : Option Widget :=
  let ids := fields.filterMap Field.id?
  let childLists := fields.filterMap Field.children?
  let styles := fields.filterMap Field.style?
  let others := Bag.ofList (fields.filterMap Field.other?)
  match fields.filterMap Field.type? with
  | [type] =>
    if ids.length ≤ 1 ∧ childLists.length ≤ 1 ∧ styles.length ≤ 1 then
      some {
        type
        id := ids.head?.join
        children := childLists.head?.getD []
        styleId := styleIdOf styles.head?
        events := others.filterMap fun name value =>
          if Binding.isEventName name then some (Binding.ofValue value) else none
        properties := others.filterMap fun name value =>
          if Binding.isEventName name then none else some (Property.ofValue value) }
    else none
  | _ => none

mutual

/-- The widget of a tree whose lists and records are nested at most `depth` deep. -/
def ofTree? (depth : Nat) : Tree → Option Widget
  | .record fields =>
    match depth with
    | 0 => none
    | depth + 1 => (readFields? depth fields).bind ofFields?
  | _ => none

/-- The fields of a widget's record, in the order of the text. -/
def readFields? (depth : Nat) : List (Content × Tree) → Option (List Field)
  | [] => some []
  | (name, tree) :: rest =>
    let field : Option Field :=
      match name with
      | none => none
      | some name =>
        if name = "type" then tree.string?.map .type
        else if name = "id" then (Tree.optional Tree.string? (some tree)).map .id
        else if name = "children" then (readChildren? depth tree).map .children
        else if name = "styleId" then (Value.ofTree? depth tree).map .style
        else (Value.ofTree? depth tree).map (.other name)
    match field, readFields? depth rest with
    | some field, some fields => some (field :: fields)
    | _, _ => none

def readChildren? (depth : Nat) : Tree → Option (List Widget)
  | .list items =>
    match depth with
    | 0 => none
    | depth + 1 => ofItems? depth items
  | _ => none

def ofItems? (depth : Nat) : List Tree → Option (List Widget)
  | [] => some []
  | item :: rest =>
    match ofTree? depth item, ofItems? depth rest with
    | some widget, some widgets => some (widget :: widgets)
    | _, _ => none

end

def parse? (text : List Char) : Option Widget :=
  (Tree.parse? text).bind (ofTree? Tree.nestingLimit)

/-! ## Writing -/

/-- The fields that stand side by side with the structural ones: bindings first, then properties,
of which one with the name of a binding takes its place. -/
def openFields (w : Widget) : List (String × Value) :=
  let bindings := w.events.filterMap fun _ binding => binding.toValue?
  (w.properties.entries.foldl (fun bag entry => bag.put entry.1 entry.2.toValue) bindings).entries

mutual

def toJson : Widget → Value
  | ⟨type, id, children, styleId, events, properties⟩ =>
    .record (
      [("type", .text type)] ++ Value.fieldIf "id" id .text ++
      (match children with
        | [] => []
        | _ :: _ => [("children", .list (toJsonAll children))]) ++
      Value.fieldIf "styleId" styleId .text ++
      openFields ⟨type, id, [], styleId, events, properties⟩)

def toJsonAll : List Widget → List Value
  | [] => []
  | w :: rest => toJson w :: toJsonAll rest

end

/-! ## Agreement -/

mutual

/-- Equality of meaning: bags without regard to order, numbers by value. -/
def agrees : Widget → Widget → Bool
  | ⟨type, id, children, styleId, events, properties⟩,
    ⟨type', id', children', styleId', events', properties'⟩ =>
    type == type' && id == id' && styleId == styleId' &&
      events.size == events'.size &&
      (events.entries.all fun entry => events'.get? entry.1 == some entry.2) &&
      properties.size == properties'.size &&
      (properties.entries.all fun entry =>
        (properties'.get? entry.1).any fun value => entry.2.agrees value) &&
      agreeAll children children'

def agreeAll : List Widget → List Widget → Bool
  | [], [] => true
  | a :: as, b :: bs => agrees a b && agreeAll as bs
  | _, _ => false

end

end Widget

end GuardedUi
