import GuardedUi.Command.Basic
import GuardedUi.Generation

/-!
# `Command/Generate` — bringing the generated documents up to date

The command reads the project and the implementation document that is there, runs a pass and writes
what came out. Before it writes anything it asks: if the markers of the document are damaged,
because then all user code in it is lost, and, where the manifest wants that, if user code has no
place in the new document. A no means that nothing is written. With `force` it never asks.
-/

set_option autoImplicit false

namespace GuardedUi.Command

/-- What generating leads to. -/
inductive GenerateOutcome where
  /-- Both documents are on the disk; these had to be written. -/
  | written (paths : List Path)
  | cancelled
  deriving DecidableEq, Repr

def overwriteQuestion (source : Path) (count : Nat) : String :=
  source.text ++ " has " ++ integerNumeral count ++
    " malformed USER CODE marker(s). Overwrite it and discard all user code?"

def dropQuestion (lost : List Guard.Dropped) : String :=
  "User code in " ++ commaSeparated (lost.map Guard.Dropped.id) ++ " will be removed. Continue?"

def questions (project : Project) (g : Generation) : List String :=
  (if g.needsConfirmation then
    [overwriteQuestion (Project.sourcePath project.root) g.diagnostics.length] else []) ++
  (if !g.lostUserCode.isEmpty && project.manifest.generator.confirmDroppedRegions then
    [dropQuestion g.lostUserCode] else [])

def askAll {α : Type} (failed : AnswerError → α) (no yes : α) : List String → Dialogue α
  | [] => .done yes
  | question :: rest =>
    .ask question fun
      | .ok true => askAll failed no yes rest
      | .ok false => .done no
      | .error e => .done (failed e)

/-- Writes documents into a folder one after the other; the paths of those that had to be
written. A failure leaves those in place that came before. -/
def writeFiles (disk : Disk) (folder : Path) :
    List GeneratedFile → Except CommandError (List Path) × Disk
  | [] => (.ok [], disk)
  | file :: rest =>
    let path := folder.child file.name
    match writeFile disk path file.content with
    | .error e => (.error e, disk)
    | .ok (written, disk) =>
      let (paths, disk) := writeFiles disk folder rest
      (paths.map fun paths => if written then path :: paths else paths, disk)

/-- Makes the folder of the generated documents and writes them. -/
def writeAll (disk : Disk) (root : Path) (g : Generation) :
    Except CommandError GenerateOutcome × Disk :=
  let folder := Project.uiFolder root
  match disk.installFolder folder with
  | (.error _, left) => (.error (.makingFolder folder), left)
  | (.ok (), made) =>
    let (paths, disk) := writeFiles made folder g.files
    (paths.map .written, disk)

def emitOptions : EmitOptions :=
  { EmitOptions.standard with headerName := Project.headerName, sourceName := Project.sourceName }

/-- Brings the generated documents of the project around a path up to date. -/
def generate (disk : Disk) (start : Path) (force : Bool) :
    Dialogue (Except CommandError GenerateOutcome × Disk) :=
  match Project.openAt disk start with
  | .error fault => .done (.error (.project fault), disk)
  | .ok project =>
    match readLeniently disk (Project.sourcePath project.root) with
    | .error e => .done (.error e, disk)
    | .ok previous =>
      match Generation.generate emitOptions project.layout project.styles previous with
      | .error e => .done (.error (.emission e), disk)
      | .ok g =>
        askAll (fun e => (.error (.answer e), disk)) (.ok .cancelled, disk)
          (writeAll disk project.root g) (if force then [] else questions project g)

end GuardedUi.Command
