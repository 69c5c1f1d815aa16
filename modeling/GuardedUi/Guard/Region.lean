import GuardedUi.Bag
import GuardedUi.Guard.Marker

/-!
# `Guard/Region` — regions of user code

A region is a pair of markers of one name, and its body is the text between them. Every name has
at most one region: its first opening marker that has a closing one behind it, with the first of
these. Regions of different names may overlap in a damaged document; `Guard/Diagnostic` finds that
out.

The blocks of a document are the bodies of its regions by name, without blanks at their ends.
-/

set_option autoImplicit false

namespace GuardedUi.Guard

/-- Two markers of one name that belong together. -/
structure Region where
  begin : Marker
  finish : Marker
  deriving DecidableEq, Repr

/-- Texts by the name of the region that they are for. -/
abbrev Blocks := Bag (List Char)

/-- The first closing marker of a name. -/
def closing? (id : String) (markers : List Marker) : Option Marker :=
  markers.find? fun m => m.kind == .closing && m.id == id

/-- The regions that begin in a list of markers, without those of the names that are `done`. -/
def regionsFrom (done : List String) : List Marker → List Region
  | [] => []
  | m :: rest =>
    if m.kind = .opening ∧ m.id ∉ done then
      match closing? m.id rest with
      | some finish => ⟨m, finish⟩ :: regionsFrom (m.id :: done) rest
      | none => regionsFrom done rest
    else regionsFrom done rest

/-- The regions of a list of markers, in the order in which they begin. -/
def regions (markers : List Marker) : List Region :=
  regionsFrom [] markers

namespace Region

def id (r : Region) : String :=
  r.begin.id

/-- The text between the markers of a region. -/
def body (r : Region) (document : List Char) : List Char :=
  (document.take r.finish.start).drop r.begin.stop

/-- Whether a marker lies between the markers of a region. -/
def contains (r : Region) (m : Marker) : Bool :=
  r.begin.stop ≤ m.start && m.stop ≤ r.finish.start

end Region

/-- The bodies of the regions of a document, without blanks at their ends. -/
def extract (document : List Char) : Blocks :=
  Bag.ofList ((regions (scan document)).map fun r => (r.id, Text.trimEnd (r.body document)))

end GuardedUi.Guard
