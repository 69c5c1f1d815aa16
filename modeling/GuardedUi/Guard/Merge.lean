import GuardedUi.Guard.Region

/-!
# `Guard/Merge` — putting user code back

Merging puts preserved texts into the regions of a freshly generated document. A region whose name
has a text gets that text for its body, followed by a line break and the indentation of its closing
marker, so that an empty text leaves a region as it was generated. A region that begins inside one
that was filled before is passed over.

Nothing disappears silently: what has no region in the document, or a region that was passed over,
is reported as dropped.
-/

set_option autoImplicit false

namespace GuardedUi.Guard

/-- A preserved text that was not put back. -/
structure Dropped where
  id : String
  content : List Char
  deriving DecidableEq, Repr

/-- Whether a dropped text holds more than blanks. -/
def Dropped.hasUserCode (d : Dropped) : Bool :=
  !Text.allBlank d.content

/-- What comes out of a merge. -/
structure Merged where
  /-- The document with the texts in place. -/
  document : List Char
  /-- The names of the regions that were filled, in order. -/
  applied : List String
  /-- The texts that were not put back, in their own order. -/
  dropped : List Dropped
  deriving DecidableEq, Repr

/-- The part of a document from one position to another. -/
def slice (document : List Char) (start stop : Nat) : List Char :=
  (document.take stop).drop start

/-- A region to be filled, and the text that it gets. -/
structure Splice where
  region : Region
  content : List Char
  deriving DecidableEq, Repr

/-- The regions that are filled, in order: those whose name has a text and that do not begin before
`cursor`, which is where the last one filled ends. -/
def splices (blocks : Blocks) (cursor : Nat) : List Region → List Splice
  | [] => []
  | r :: rest =>
    match blocks.get? r.id with
    | none => splices blocks cursor rest
    | some content =>
      if r.begin.start < cursor then splices blocks cursor rest
      else ⟨r, content⟩ :: splices blocks r.finish.start rest

/-- The body that a region gets: the text, a line break and the indentation of the closing
marker. -/
def Splice.body (s : Splice) (document : List Char) : List Char :=
  s.content ++ '\n' :: s.region.finish.indent document

/-- A document from `cursor` on, with the given regions filled. -/
def fill (document : List Char) (cursor : Nat) : List Splice → List Char
  | [] => document.drop cursor
  | s :: rest =>
    slice document cursor s.region.begin.stop ++ s.body document ++
      fill document s.region.finish.start rest

/-- Puts preserved texts into the regions of a document. -/
def merge (document : List Char) (blocks : Blocks) : Merged :=
  let filled := splices blocks 0 (regions (scan document))
  let applied := filled.map fun s => s.region.id
  { document := fill document 0 filled
    applied
    dropped := (blocks.entries.filter fun entry => !applied.contains entry.1).map fun entry =>
      ⟨entry.1, entry.2⟩ }

end GuardedUi.Guard
