import GuardedUi.Command.Basic
import GuardedUi.Guard.Diagnostic

/-!
# `Command/Check` — looking at the markers of a generated document

The command reports what is wrong with the markers of the implementation document of a project. A
project without such a document has nothing wrong with it. Nothing is changed.
-/

set_option autoImplicit false

namespace GuardedUi.Command

/-- The faults of the markers of the project around a path. -/
def check (disk : Disk) (start : Path) : Except CommandError (List Guard.Diagnostic) :=
  match Project.findRoot disk start with
  | .error fault => .error (.project fault)
  | .ok root =>
    match readLeniently disk (Project.sourcePath root) with
    | .error e => .error e
    | .ok none => .ok []
    | .ok (some document) => .ok (Guard.diagnose document)

end GuardedUi.Command
