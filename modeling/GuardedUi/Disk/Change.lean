import GuardedUi.Disk.Basic

/-!
# `Disk/Change` — how one disk becomes another

A command is a function on disks, and somebody has to carry its result out. `Entry.changes` lists
the steps that turn one entry into another, in an order in which they can be taken: a folder is made
before anything is put into it, and what is in the way of something is removed before.
-/

set_option autoImplicit false

namespace GuardedUi

/-- One step that changes a disk. -/
inductive Change where
  /-- Removes what stands at a place, with everything below it. -/
  | remove (place : Location)
  | makeFolder (place : Location)
  | write (place : Location) (bytes : List UInt8)
  deriving DecidableEq, Repr

namespace Entry

/-- The entries of a folder; a file and nothing have none. -/
def entriesOf : Option Entry → List (String × Entry)
  | some (.folder entries) => entries
  | _ => []

/-- The steps that make room for a folder at a place. -/
def makeRoom (place : Location) : Option Entry → List Change
  | some (.folder _) => []
  | some (.file _) => [.remove place, .makeFolder place]
  | none => [.makeFolder place]

mutual

/-- The steps that turn what stands at a place into another entry. -/
def changes (place : Location) (old : Option Entry) : Entry → List Change
  | .file bytes =>
    match old with
    | some (.file before) => if before = bytes then [] else [.write place bytes]
    | some (.folder _) => [.remove place, .write place bytes]
    | none => [.write place bytes]
  | .folder entries =>
    let gone := (entriesOf old).filter fun entry => !(entries.any fun e => e.1 == entry.1)
    makeRoom place old ++ gone.map (fun entry => .remove (place ++ [entry.1])) ++
      changesAll place (entriesOf old) entries

/-- The steps that turn the entries of a folder into others, entry by entry. -/
def changesAll (place : Location) (old : List (String × Entry)) :
    List (String × Entry) → List Change
  | [] => []
  | (name, entry) :: rest =>
    changes (place ++ [name]) (old.lookup name) entry ++ changesAll place old rest

end

end Entry

/-- The steps that turn one disk into another. -/
def Disk.changes (old new : Disk) : List Change :=
  new.root.changes [] (some old.root)

end GuardedUi
