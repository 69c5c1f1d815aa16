import GuardedUi.Command.Basic

/-!
# `Command/Clean` — removing all that was generated

The command empties the folder of generated files, after asking. It does nothing if there is no such
folder, and with `yes` it does not ask.
-/

set_option autoImplicit false

namespace GuardedUi.Command

def cleanQuestion (folder : Path) : String :=
  "Delete " ++ folder.text ++ " including any user code?"

/-- Removes the folder of generated files of a project and makes it anew. -/
def emptyGenerated (disk : Disk) (root : Path) : Except CommandError Bool × Disk :=
  let folder := Project.generatedFolder root
  match disk.removeFolder folder with
  | (.error _, left) => (.error (.removing folder), left)
  | (.ok (), removed) =>
    match removed.installFolder folder with
    | (.error _, left) => (.error (.remakingFolder folder), left)
    | (.ok (), made) => (.ok true, made)

/-- Empties the folder of generated files of the project around a path. Says whether it did. -/
def clean (disk : Disk) (start : Path) (yes : Bool) :
    Dialogue (Except CommandError Bool × Disk) :=
  match Project.findRoot disk start with
  | .error fault => .done (.error (.project fault), disk)
  | .ok root =>
    let folder := Project.generatedFolder root
    if !disk.holds folder then .done (.ok false, disk)
    else if yes then .done (emptyGenerated disk root)
    else
      .ask (cleanQuestion folder) fun
        | .ok true => .done (emptyGenerated disk root)
        | .ok false => .done (.ok false, disk)
        | .error e => .done (.error (.answer e), disk)

end GuardedUi.Command
