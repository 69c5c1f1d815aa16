/-!
# `Disk/Path` — absolute paths as they are written

A path keeps the spelling that it was given: empty parts, single and double dots stay where they
are, and so does a slash at the end. What such parts mean is up to the disk on which the path is
followed (`Disk.locate`). Only `parent?` looks through parts that never mean anything, which are
those that are empty or a single dot.

Not every spelling is one that a disk can follow: there is a longest path and a longest name, and
the character with code zero ends texts for the system.
-/

set_option autoImplicit false

namespace GuardedUi

/-- An absolute path: the parts between slashes, after the first slash. -/
structure Path where
  parts : List String
  deriving DecidableEq, Repr

namespace Path

/-- Whether a part means the folder in which it stands. -/
def isIdle (part : String) : Bool :=
  part == "" || part == "."

def joinParts : List String → String
  | [] => ""
  | [part] => part
  | part :: rest => part ++ "/" ++ joinParts rest

def text (p : Path) : String :=
  "/" ++ joinParts p.parts

/-- The longest path in bytes. -/
def longestPath : Nat :=
  4095

def longestName : Nat :=
  255

/-- Whether a path is one that can be followed at all. -/
def isUsable (p : Path) : Bool :=
  p.text.utf8ByteSize ≤ longestPath && p.parts.all fun part => !part.toList.contains '\x00'

def isName (part : String) : Bool :=
  part.utf8ByteSize ≤ longestName

/-- The parts of a text between its slashes, the first of them begun by `rev`. -/
def splitParts (rev : List Char) : List Char → List String
  | [] => [String.ofList rev.reverse]
  | c :: rest =>
    if c = '/' then String.ofList rev.reverse :: splitParts [] rest
    else splitParts (c :: rev) rest

/-- The path that a text denotes, if the text begins with a slash. -/
def ofText? (text : String) : Option Path :=
  match text.toList with
  | '/' :: rest => some ⟨splitParts [] rest⟩
  | _ => none

/-- The parts of a path to which something is joined: a slash at its end is used. -/
def stem (p : Path) : List String :=
  if p.parts.getLast? = some "" then p.parts.dropLast else p.parts

def child (p : Path) (name : String) : Path :=
  ⟨p.stem ++ [name]⟩

/-- A path relative to another one; an absolute text stands for itself. -/
def join (p : Path) (text : String) : Path :=
  match ofText? text with
  | some absolute => absolute
  | none => ⟨p.stem ++ splitParts [] text.toList⟩

def dropIdle (parts : List String) : List String :=
  (parts.reverse.dropWhile isIdle).reverse

/-- The parts of the folder that a path stands in and its last part. A slash at the end of the path
does not count, and the root stands in no folder. -/
def split? (p : Path) : Option (List String × String) :=
  match p.parts.reverse.dropWhile (· == "") with
  | [] => none
  | last :: rest => some (rest.reverse, last)

def endsInSlash (p : Path) : Bool :=
  p.parts.getLast? == some ""

/-- The path without its last part that is not idle, and without the idle parts around it; there is
none for the root. -/
def parent? (p : Path) : Option Path :=
  match (dropIdle p.parts).dropLast, dropIdle p.parts with
  | _, [] => none
  | parts, _ =>
    match dropIdle parts with
    | [] => some ⟨[""]⟩
    | parts => some ⟨parts⟩

def parents : Nat → Path → List Path
  | 0, _ => []
  | fuel + 1, p =>
    match p.parent? with
    | some parent => parent :: parents fuel parent
    | none => []

/-- A path and the folders above it, from the inside out. There are at most as many of these as the
path has parts. -/
def ancestors (p : Path) : List Path :=
  p :: parents p.parts.length p

end Path

end GuardedUi
