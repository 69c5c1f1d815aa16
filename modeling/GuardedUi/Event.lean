import GuardedUi.Model.Widget
import GuardedUi.Name.Identifier
import GuardedUi.Text.Words

/-!
# `Event` — the events of a widget and their handlers

The events that can be wired are those of `Event.table`, each with the code under which the
graphics library raises it. Resolving a widget's bindings goes through the table, not through the
widget, so handlers come in the order of the table.

A user's handler is registered under its own name, as far as that is a C name. A stub is named for
the widget's identifier and the event; the region that the user edits inside it has the same name.
`Stubs` is the list of stubs that a whole tree needs, each name once.
-/

set_option autoImplicit false

namespace GuardedUi

/-- An event that can be wired. -/
structure Event where
  property : String
  /-- The code under which it is raised. -/
  code : String
  deriving DecidableEq, Repr

namespace Event

/-- The events that can be wired, in the order in which they are registered. -/
def table : List Event :=
  [⟨"onClick", "LV_EVENT_CLICKED"⟩,
    ⟨"onClicked", "LV_EVENT_CLICKED"⟩,
    ⟨"onValueChanged", "LV_EVENT_VALUE_CHANGED"⟩,
    ⟨"onPressed", "LV_EVENT_PRESSED"⟩,
    ⟨"onReleased", "LV_EVENT_RELEASED"⟩,
    ⟨"onFocus", "LV_EVENT_FOCUSED"⟩,
    ⟨"onFocused", "LV_EVENT_FOCUSED"⟩,
    ⟨"onDefocus", "LV_EVENT_DEFOCUSED"⟩,
    ⟨"onDefocused", "LV_EVENT_DEFOCUSED"⟩]

/-- A property name without the `on` that it may begin with. -/
def stripOn : List Char → List Char
  | 'o' :: 'n' :: rest => rest
  | name => name

/-- The part of a stub's name that says which event it is for. -/
def nameSuffix (property : String) : String :=
  String.ofList (Text.camelCase (stripOn property.toList))

/-- The name of the stub for an event of the widget with the given identifier. -/
def stubName (identifier property : String) : String :=
  "ui_" ++ identifier ++ "_" ++ nameSuffix property

example : table.map (fun event => nameSuffix event.property) =
    ["click", "clicked", "valueChanged", "pressed", "released", "focus", "focused", "defocus",
      "defocused"] := by decide

end Event

/-- Who writes a handler. -/
inductive HandlerOwner where
  | user
  | generator
  deriving DecidableEq, Repr

/-- A binding with the function that is registered for it. -/
structure Registration where
  code : String
  handler : String
  owner : HandlerOwner
  deriving DecidableEq, Repr

namespace Registration

/-- Whether the handler is a stub. -/
def isStub (r : Registration) : Bool :=
  r.owner == .generator

/-- The id of the region that the user edits inside the handler, if it is a stub. -/
def region (r : Registration) : String :=
  r.handler

def ofEvent? (w : Widget) (identifier : String) (event : Event) : Option Registration :=
  match w.event event.property with
  | .handler name => some ⟨event.code, Name.symbol name, .user⟩
  | .stub => some ⟨event.code, Event.stubName identifier event.property, .generator⟩
  | .none => none

/-- The registrations of a widget, in the order of the table. -/
def ofWidget (w : Widget) (identifier : String) : List Registration :=
  Event.table.filterMap (ofEvent? w identifier)

end Registration

/-- The stubs that are needed, each name once, in the order in which they came up. -/
structure Stubs where
  names : List String
  distinct : names.Nodup

namespace Stubs

def empty : Stubs :=
  ⟨[], by simp⟩

/-- Whether recording a registration adds a stub: it is one, and its name is new. -/
def accepts (stubs : Stubs) (r : Registration) : Bool :=
  r.isStub && !stubs.names.contains r.handler

/-- The stubs with the one of a registration, if it is a new one. -/
def insert (stubs : Stubs) (r : Registration) : Stubs :=
  if h : stubs.accepts r then
    ⟨stubs.names ++ [r.handler], by
      have hn : r.handler ∉ stubs.names := by
        simp only [accepts, Bool.and_eq_true, Bool.not_eq_true', List.contains_eq_mem] at h
        simpa using h.2
      rw [List.nodup_append]
      refine ⟨stubs.distinct, by simp, ?_⟩
      intro a ha b hb hab
      rw [List.mem_singleton] at hb
      exact hn (hb ▸ hab ▸ ha)⟩
  else stubs

def insertAll (stubs : Stubs) (registrations : List Registration) : Stubs :=
  registrations.foldl insert stubs

end Stubs

end GuardedUi
