import GuardedUi.Json.Value
import GuardedUi.Text.Blank

/-!
# `Model/Binding` — how an event is wired

A widget binds an event by a property whose name begins with `on` and a capital letter. Its value
names a function that the user owns, asks for a stub with an editable body, or says nothing.
-/

set_option autoImplicit false

namespace GuardedUi

open Json

/-- How an event is wired to a handler. -/
inductive Binding where
  /-- The user owns a function of this name. -/
  | handler (name : String)
  | stub
  | none
  deriving DecidableEq, Repr, Inhabited

namespace Binding

/-- Whether a property name is one of an event: `on` and a capital ASCII letter. -/
def isEventName (name : String) : Bool :=
  match name.toList with
  | 'o' :: 'n' :: c :: _ => c.isUpper
  | _ => false

/-- The binding that a JSON value denotes: a text that is not blank names a handler, `true` and a
record with fields ask for a stub. -/
def ofValue : Value → Binding
  | .text content => if Text.allBlank content.toList then .none else .handler (Text.trimmed content)
  | .bool true => .stub
  | .record (_ :: _) => .stub
  | _ => .none

/-- The JSON value that is written for a binding; nothing for none. -/
def toValue? : Binding → Option Value
  | .handler name => some (.text name)
  | .stub => some (.bool true)
  | .none => Option.none

end Binding

end GuardedUi
