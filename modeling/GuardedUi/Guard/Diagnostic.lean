import GuardedUi.Guard.Region
import GuardedUi.Number.Numeral

/-!
# `Guard/Diagnostic` — damaged markers

User code can be taken out of a document only if its markers are in order: every opening marker
has a closing one of its name behind it, every closing marker an opening one before it, and no
region encloses a marker. `diagnose` lists what is wrong, each fault of a name once and at its
first place: first the regions without an end, then those without a beginning, then those that
enclose something.
-/

set_option autoImplicit false

namespace GuardedUi.Guard

/-- What is wrong with a marker. -/
inductive Issue where
  /-- An opening marker without a closing one behind it. -/
  | missingEnd
  /-- A closing marker without an opening one before it. -/
  | missingBegin
  | overlapping
  deriving DecidableEq, Repr

/-- A fault of the markers of one name. -/
structure Diagnostic where
  id : String
  issue : Issue
  /-- The line of the first marker that has the fault. -/
  line : Nat
  deriving DecidableEq, Repr

def Diagnostic.message (d : Diagnostic) : String :=
  let place := " (line " ++ integerNumeral d.line ++ ")"
  match d.issue with
  | .missingEnd => "USER CODE BEGIN " ++ d.id ++ " has no matching END" ++ place
  | .missingBegin => "USER CODE END " ++ d.id ++ " has no matching BEGIN" ++ place
  | .overlapping => "USER CODE BEGIN " ++ d.id ++ " encloses another USER CODE marker" ++ place

/-- The opening markers that have no closing marker of their name behind them. -/
def unclosed : List Marker → List Marker
  | [] => []
  | m :: rest =>
    if m.kind = .opening ∧ (closing? m.id rest).isNone then m :: unclosed rest else unclosed rest

/-- The closing markers that have no opening marker of their name before them; the markers before
the list have opened the names `opened`. -/
def unopened (opened : List String) : List Marker → List Marker
  | [] => []
  | m :: rest =>
    match m.kind with
    | .opening => unopened (m.id :: opened) rest
    | .closing => if m.id ∈ opened then unopened opened rest else m :: unopened opened rest

/-- The opening markers of the regions that enclose a marker. -/
def enclosing (markers : List Marker) : List Marker :=
  ((regions markers).filter fun r => markers.any r.contains).map Region.begin

/-- The first marker of each name in a list, leaving out the names that are `done`. -/
def firstOfEach (done : List String) : List Marker → List Marker
  | [] => []
  | m :: rest =>
    if m.id ∈ done then firstOfEach done rest else m :: firstOfEach (m.id :: done) rest

/-- One diagnostic of the given issue for each name among the markers. -/
def report (document : List Char) (issue : Issue) (markers : List Marker) : List Diagnostic :=
  (firstOfEach [] markers).map fun m => ⟨m.id, issue, m.line document⟩

/-- The faults of the markers of a document; none means that its user code can be taken out. -/
def diagnose (document : List Char) : List Diagnostic :=
  let markers := scan document
  report document .missingEnd (unclosed markers) ++
    report document .missingBegin (unopened [] markers) ++
    report document .overlapping (enclosing markers)

end GuardedUi.Guard
