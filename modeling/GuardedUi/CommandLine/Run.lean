import GuardedUi.Command.Check
import GuardedUi.Command.Clean
import GuardedUi.Command.Generate
import GuardedUi.CommandLine.Arguments

/-!
# `CommandLine/Run` — a run of the program

A run takes the arguments, the current folder and the disk, and has an exit code, a text for
standard output and a disk that it leaves behind. Questions on the way are a `Dialogue`, so that the
program can ask its user and others can answer otherwise.

The exit code is zero for success, one for any failure, and two for a command line that is misused.
-/

set_option autoImplicit false

namespace GuardedUi.CommandLine

/-- What a run leaves behind. -/
structure Outcome where
  code : Nat
  output : String
  disk : Disk

def versionText : String :=
  "lvcraft 0.1.0\n"

def helpText : String :=
  endLines [
    "Usage: lvcraft <COMMAND>",
    "",
    "Commands:",
    "  generate  Regenerate ui.c and ui.h, keeping code inside USER CODE regions",
    "  check     Check USER CODE markers in the existing ui.c",
    "  clean     Delete all generated files",
    "",
    "Options:",
    "  -p, --project <PATH>  Project directory, or any path inside it",
    "  -f, --force           With generate: write without asking",
    "  -y, --yes             With clean: do not ask for confirmation"]

/-- Lines of output, each with a line break behind it. -/
def outputLines : List String → String
  | [] => ""
  | line :: rest => line ++ "\n" ++ outputLines rest

def generated : Except CommandError Command.GenerateOutcome × Disk → Outcome
  | (.ok (.written paths), disk) => ⟨0, outputLines (paths.map Path.text), disk⟩
  | (.ok .cancelled, disk) => ⟨0, outputLines ["Generation cancelled, nothing written"], disk⟩
  | (.error _, disk) => ⟨1, "", disk⟩

def checked (disk : Disk) : Except CommandError (List Guard.Diagnostic) → Outcome
  | .ok [] => ⟨0, outputLines ["All USER CODE markers are balanced"], disk⟩
  | .ok diagnostics => ⟨1, outputLines (diagnostics.map Guard.Diagnostic.message), disk⟩
  | .error _ => ⟨1, "", disk⟩

def cleaned : Except CommandError Bool × Disk → Outcome
  | (.ok true, disk) => ⟨0, "", disk⟩
  | (.ok false, disk) => ⟨0, outputLines ["Nothing to clean"], disk⟩
  | (.error _, disk) => ⟨1, "", disk⟩

/-- A run of the program in the folder `here`. -/
def run (disk : Disk) (here : Path) (arguments : List String) : Dialogue Outcome :=
  match Request.ofArguments arguments with
  | .run .generate project force => (Command.generate disk (here.join project) force).map generated
  | .run .check project _ => .done (checked disk (Command.check disk (here.join project)))
  | .run .clean project yes => (Command.clean disk (here.join project) yes).map cleaned
  | .version => .done ⟨0, versionText, disk⟩
  | .help => .done ⟨0, helpText, disk⟩
  | .misuse => .done ⟨2, "", disk⟩

end GuardedUi.CommandLine
