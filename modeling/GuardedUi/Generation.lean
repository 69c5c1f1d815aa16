import GuardedUi.Emit.Document
import GuardedUi.Guard.Diagnostic
import GuardedUi.Guard.Merge

/-!
# `Generation` — one pass from a model to its documents

A pass emits both documents and puts the user code of the previous implementation document back
into the new one. User code is taken over only from a document whose markers are in order; of a
damaged one nothing is taken over, and its diagnostics are part of the result, so that whoever
writes the files can ask first.
-/

set_option autoImplicit false

namespace GuardedUi

/-- A generated document with its file name. -/
structure GeneratedFile where
  name : String
  content : List Char
  deriving DecidableEq, Repr

/-- What comes out of a pass. -/
structure Generation where
  header : GeneratedFile
  /-- The implementation document, with user code in place. -/
  source : GeneratedFile
  /-- What is wrong with the markers of the previous document. -/
  diagnostics : List Guard.Diagnostic
  /-- The regions whose text was taken over. -/
  preserved : List String
  /-- The texts of the previous document that have no place in the new one. -/
  dropped : List Guard.Dropped
  deriving DecidableEq, Repr

namespace Generation

def needsConfirmation (g : Generation) : Bool :=
  !g.diagnostics.isEmpty

def lostUserCode (g : Generation) : List Guard.Dropped :=
  g.dropped.filter Guard.Dropped.hasUserCode

def files (g : Generation) : List GeneratedFile :=
  [g.header, g.source]

/-- The diagnostics of a previous document; none if there is no such document. -/
def previousDiagnostics : Option (List Char) → List Guard.Diagnostic
  | some document => Guard.diagnose document
  | none => []

/-- The texts that are taken over from a previous document: none if it is damaged. -/
def preservedBlocks : Option (List Char) → Guard.Blocks
  | some document => if (Guard.diagnose document).isEmpty then Guard.extract document else Bag.empty
  | none => Bag.empty

/-- Runs a pass over a model and the previous implementation document. -/
def generate (options : EmitOptions) (layout : Layout) (sheet : StyleSheet)
    (previous : Option (List Char)) : Except EmitError Generation :=
  (Emission.emit options layout sheet).map fun emission =>
    let merged := Guard.merge emission.source.toList (preservedBlocks previous)
    { header := ⟨options.headerName, emission.header.toList⟩
      source := ⟨options.sourceName, merged.document⟩
      diagnostics := previousDiagnostics previous
      preserved := merged.applied
      dropped := merged.dropped }

end Generation

end GuardedUi
