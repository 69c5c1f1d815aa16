import GuardedUi.Emit.Statement
import GuardedUi.Name.Assignment

/-!
# `Emit/Construction` — building a widget tree

A widget is created, gets its style and its properties, then its children are built, and its events
are registered last. Stubs are recorded when a widget is entered, so their order is the one in which
widgets are created, while registrations come in the order in which widgets are finished.

The walk finds the identifier of a widget under the widget's path.
-/

set_option autoImplicit false

namespace GuardedUi

/-- What comes out of building widgets. -/
structure Construction where
  statements : List Statement
  stubs : Stubs

namespace Construction

/-- The style that a widget gets, if the style it refers to is there. -/
def styleOf (sheet : StyleSheet) (target : String) (styleId : Option String) : List Statement :=
  match styleId with
  | some id =>
    if (sheet.get? id).isSome then [.addStyle target (Name.styleVariable id)] else []
  | none => []

/-- What makes up a widget apart from its children: all statements up to the first child. -/
def opening (sheet : StyleSheet) (target : String) (parent : Option String) (w : Widget) :
    List Statement :=
  let kind := WidgetKind.ofType w.type
  .create target kind parent :: styleOf sheet target w.styleId ++
    (Setter.ofWidget w kind).map (.set target)

mutual

/-- Builds the tree at a path inside the widget in the variable `parent`. -/
def ofWidget (identifiers : Name.Identifiers) (sheet : StyleSheet) (path : String)
    (parent : Option String) (stubs : Stubs) : Widget → Construction
  | ⟨type, id, children, styleId, events, properties⟩ =>
    match identifiers.get? path with
    | none => ⟨[], stubs⟩
    | some identifier =>
      let w : Widget := ⟨type, id, [], styleId, events, properties⟩
      let target := Name.widgetVariable identifier
      let registrations := Registration.ofWidget w identifier
      let inner :=
        ofChildren identifiers sheet path target 0 (stubs.insertAll registrations) children
      ⟨opening sheet target parent w ++ inner.statements ++
        registrations.map (.addEvent target), inner.stubs⟩

def ofChildren (identifiers : Name.Identifiers) (sheet : StyleSheet) (path parent : String)
    (index : Nat) (stubs : Stubs) : List Widget → Construction
  | [] => ⟨[], stubs⟩
  | w :: rest =>
    let first :=
      ofWidget identifiers sheet (Name.childPath path index) (some parent) stubs w
    let others := ofChildren identifiers sheet path parent (index + 1) first.stubs rest
    ⟨first.statements ++ others.statements, others.stubs⟩

end

def ofRoot (identifiers : Name.Identifiers) (sheet : StyleSheet) : Option Widget → Construction
  | none => ⟨[], .empty⟩
  | some root => ofWidget identifiers sheet Name.rootPath none .empty root

end Construction

end GuardedUi
