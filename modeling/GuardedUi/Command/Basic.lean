import GuardedUi.Emit.Document
import GuardedUi.Project
import GuardedUi.Prompt

/-!
# `Command/Basic` — what the commands share

The commands read the generated implementation document, write documents and fail for a small
number of reasons. A `CommandError` says which of their steps failed.

The previous document is read leniently: a byte that is not UTF-8 becomes a replacement character,
so that a stray byte in user code never stops the generator. Writing goes through a temporary file
in the same folder and leaves a file alone that already holds the text.
-/

set_option autoImplicit false

namespace GuardedUi

/-- Why a command fails. -/
inductive CommandError where
  | project (fault : ProjectFault)
  | reading (path : Path)
  | makingFolder (path : Path)
  | remakingFolder (path : Path)
  | noFolder (path : Path)
  /-- There can be no temporary file in a folder. -/
  | makingTemporary (folder : Path)
  | writing (path : Path)
  | removing (path : Path)
  | emission (error : EmitError)
  | answer (error : AnswerError)
  deriving DecidableEq, Repr

/-- What a command was about when it failed, if there is more to say than the reason. -/
def CommandError.context? : CommandError → Option String
  | .project _ => some "Failed to open project"
  | .reading path => some ("Failed to read " ++ path.text)
  | .makingFolder path => some ("Failed to create " ++ path.text)
  | .remakingFolder _ => none
  | .noFolder _ => none
  | .makingTemporary folder => some ("Failed to create temporary file in " ++ folder.text)
  | .writing path => some ("Failed to write " ++ path.text)
  | .removing path => some ("Failed to remove " ++ path.text)
  | .emission _ => none
  | .answer .unreadable => some AnswerError.unreadable.message
  | .answer .unanswered => none

def CommandError.message : CommandError → String
  | .project fault => fault.message
  | .noFolder path => "No parent directory for " ++ path.text
  | .emission error => error.message
  | .answer error => error.message
  | _ => "io error"

namespace Command

/-- The text of a file, with replacement characters for bytes that are not text; nothing if there
is no such file. -/
def readLeniently (disk : Disk) (path : Path) : Except CommandError (Option (List Char)) :=
  match disk.read path with
  | .ok bytes => .ok (some (Text.Utf8.decodeLossy bytes))
  | .error .missing => .ok none
  | .error _ => .error (.reading path)

def holdsBytes (disk : Disk) (path : Path) (bytes : List UInt8) : Bool :=
  match disk.read path with
  | .ok old => old == bytes
  | .error _ => false

/-- Makes a file hold a text. Says whether it had to be written. -/
def writeFile (disk : Disk) (path : Path) (content : List Char) :
    Except CommandError (Bool × Disk) :=
  let bytes := Text.Utf8.encode content
  if holdsBytes disk path bytes then .ok (false, disk)
  else
    match path.parent? with
    | none => .error (.noFolder path)
    | some folder =>
      if !disk.isFolder folder then .error (.makingTemporary folder)
      else
        match disk.putFile path bytes with
        | .ok disk => .ok (true, disk)
        | .error _ => .error (.writing path)

end Command

end GuardedUi
