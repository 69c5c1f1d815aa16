import GuardedUi.CommandLine.Run
import GuardedUi.Disk.Change

/-!
# `Main` — the program

The outer layer of the program: it reads the part of the disk that a run can look at, runs it, asks
the questions that come up on the way, and carries out what the run changed. What to do is decided
in `CommandLine.run`; nothing is decided here.
-/

set_option autoImplicit false

namespace GuardedUi

/-- Reads a file or a folder with everything below it. -/
partial def readEntry (here : IO.FS.DirEntry) : IO (Option Entry) := do
  if ← here.path.isDir then
    let mut entries := #[]
    for inner in ← here.path.readDir do
      if let some entry ← readEntry inner then
        entries := entries.push (inner.fileName, entry)
    return some (.folder entries.toList)
  else if ← here.path.pathExists then
    return some (.file (← IO.FS.readBinFile here.path).toList)
  else return none

/-- A disk with one more entry of a folder, if there is something of that name. -/
def withEntry (disk : Disk) (folder : Path) (name : String) : IO Disk := do
  match ← readEntry ⟨folder.text, name⟩ with
  | some entry =>
    let path := folder.child name
    let (_, made) := disk.installFile path []
    match made.placeOf path with
    | .ok place => return made.put place entry
    | .error _ => return disk
  | none => return disk

/-- The part of the disk that a run for a path can look at: the project around it. -/
def readDisk (start : Path) : IO Disk := do
  let mut disk := Disk.empty
  for folder in start.ancestors do
    disk ← withEntry disk folder Project.manifestName
    if Project.isProject disk folder then
      for name in [Project.layoutName, Project.stylesName, Project.generatedName] do
        disk ← withEntry disk folder name
      return disk
  return disk

/-- The next line of standard input. -/
partial def readAnswer (input : IO.FS.Stream) (line : List UInt8) : IO (List UInt8) := do
  match (← input.read 1).toList with
  | [] => return line
  | b :: _ => if b = 10 then return line ++ [b] else readAnswer input (line ++ [b])

/-- Asks the questions of a dialogue on standard error. -/
def converse {α : Type} : Dialogue α → IO α
  | .done result => return result
  | .ask question next => do
    let out ← IO.getStderr
    out.putStr (Prompt.text question)
    out.flush
    let line ← readAnswer (← IO.getStdin) []
    converse (next (Prompt.answer line).1)

/-- Takes one step on the real disk. A file is written next to its place and then moved there. -/
def carryOut : Change → IO Unit
  | .remove place => do
    let path := Path.text ⟨place⟩
    let gone : IO.FS.DirEntry := ⟨path, ""⟩
    if ← gone.root.isDir then IO.FS.removeDirAll path else IO.FS.removeFile path
  | .makeFolder place => IO.FS.createDirAll (Path.text ⟨place⟩)
  | .write place bytes => do
    let path := Path.text ⟨place⟩
    let temporary := path ++ ".new"
    IO.FS.writeBinFile temporary ⟨bytes.toArray⟩
    IO.FS.rename temporary path

def projectOf (arguments : List String) : String :=
  match CommandLine.Request.ofArguments arguments with
  | .run _ project _ => project
  | _ => CommandLine.standardProject

/-- A run of the program in the real world. -/
def runProgram (arguments : List String) : IO UInt32 := do
  let here := (Path.ofText? (← IO.currentDir).toString).getD ⟨[""]⟩
  let disk ← readDisk (here.join (projectOf arguments))
  let outcome ← converse (CommandLine.run disk here arguments)
  (disk.changes outcome.disk).forM carryOut
  IO.print outcome.output
  return outcome.code.toUInt32

end GuardedUi

def main (arguments : List String) : IO UInt32 :=
  GuardedUi.runProgram arguments
