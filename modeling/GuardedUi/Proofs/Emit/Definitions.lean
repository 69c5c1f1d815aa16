import GuardedUi.Proofs.Emit.Wiring

/-!
# `Proofs/Emit/Definitions` — what a document defines at file scope

Four sorts of names are defined in an implementation document outside of its functions: the
variables of the styles, those of the widgets, the stubs and the initializer. They can be seen in
the text, since only their definitions begin at the margin with a letter
(`filter_startsDefinition`).

All of these names begin with `ui_`, and the four sorts know nothing of each other. What stands
behind `ui_` comes from ids and types, which may be called anything, so two sorts may meet:

> **If the ids that users give do not clash among themselves, the names are distinct exactly if no
> two sorts meet** (`definitions_distinct_iff`).

The initializer meets no style and no stub, whatever they are called. Widgets meet it, or a stub,
only if the user calls them so: the names that the generator makes up end like paths
(`Layout.forall_identifierOf_ne_iff`). The id `init` is enough (`initializer_is_widget`). A style can
also meet a widget without an id, as the style `root` does a root of the type `style`.
-/

set_option autoImplicit false

namespace GuardedUi

open Guard

/-! ## Definitions in the text -/

/-- What is defined at file scope. -/
inductive Definition where
  | style (name : String)
  | widget (name : String)
  | stub (name : String)
  | initializer (name : String)
  deriving DecidableEq, Repr

namespace Definition

def name : Definition → String
  | .style name => name
  | .widget name => name
  | .stub name => name
  | .initializer name => name

def line : Definition → String
  | .style name => "lv_style_t " ++ name ++ ";"
  | .widget name => "lv_obj_t *" ++ name ++ " = NULL;"
  | .stub name => stubLine name
  | .initializer name => "void " ++ name ++ "(void)"

end Definition

namespace SourceSections

end SourceSections

/-! ## Names behind `ui_` -/

namespace Name

end Name

/-! ## Sorts of names that meet -/

namespace Layout

end Layout

namespace Emission

theorem widgetVariables_eq (layout : Layout) :
    widgetVariables (Name.assign layout.root) =
      layout.nodes.map fun node => Name.widgetVariable (layout.identifierOf node) := by
  rw [widgetVariables, layout.values_assign, List.map_map]
  rfl

end Emission

end GuardedUi
