import GuardedUi.Model.Style
import GuardedUi.Model.Widget

/-!
# `Model/Layout` — the layout document

A layout is the widget tree of a user interface, or no tree at all, under the version of its
document.
-/

set_option autoImplicit false

namespace GuardedUi

open Json

/-- The widget tree of a project. -/
structure Layout where
  version : Nat
  /-- The root of the tree, if there is one. -/
  root : Option Widget
  deriving Inhabited

namespace Layout

def new (root : Option Widget) : Layout where
  version := 1
  root

def empty : Layout :=
  new none

/-- The layout of a tree whose lists and records are nested at most `depth` deep. -/
def ofTree? (depth : Nat) (tree : Tree) : Option Layout :=
  match depth, Tree.fields? ["version", "root"] tree with
  | depth + 1, some [some version, root] => do
    return {
      version := ← Tree.nat? greatestCount version
      root := ← Tree.optional (Widget.ofTree? depth) root }
  | _, _ => none

def parse? (text : List Char) : Option Layout :=
  (Tree.parse? text).bind (ofTree? Tree.nestingLimit)

def toJson (layout : Layout) : Value :=
  .record ([("version", .ofNat layout.version)] ++ Value.fieldIf "root" layout.root Widget.toJson)

end Layout

end GuardedUi
