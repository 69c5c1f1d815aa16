import GuardedUi.Bag
import GuardedUi.Model.Widget
import GuardedUi.Name.Identifier
import GuardedUi.Number.Numeral

/-!
# `Name/Assignment` — an identifier for every widget

Every widget of a tree gets an identifier, kept under the widget's path. A path is `root` for the
root, and for a child the path of its parent, an underscore and the child's index.

A widget with an id of its own gets the identifier of that id, whatever the others are called. Any
other widget gets its type and its path, which no two widgets share. A user can still give an id
that imitates such a name. Then the widget without an id gives way: it gets the first suffix that
makes its name differ from the ids of the users, from the names that the tree gives on its own and
from the suffixed names given before it.
-/

set_option autoImplicit false

namespace GuardedUi.Name

/-! ## Paths -/

def rootPath : String :=
  "root"

def childPath (parent : String) (index : Nat) : String :=
  parent ++ "_" ++ integerNumeral index

/-! ## Names that are taken -/

def ownName (type path : String) : String :=
  identifier type ++ "_" ++ path

/-- The names that are taken in a tree. -/
structure Taken where
  user : List String
  /-- Names that widgets without an id have of themselves. -/
  own : List String
  /-- Names with a suffix that were given so far. -/
  suffixed : List String

def Taken.contains (taken : Taken) (name : String) : Bool :=
  taken.user.contains name || taken.own.contains name || taken.suffixed.contains name

def Taken.size (taken : Taken) : Nat :=
  taken.user.length + taken.own.length + taken.suffixed.length

mutual

def userNames : Widget → List String
  | ⟨_, id, children, _, _, _⟩ =>
    (match Widget.givenId? id with
      | some id => [identifier id]
      | none => []) ++ userNamesAll children

def userNamesAll : List Widget → List String
  | [] => []
  | w :: rest => userNames w ++ userNamesAll rest

end

mutual

/-- The names of the widgets without an id in the tree at a path, in pre-order. -/
def ownNames (path : String) : Widget → List String
  | ⟨type, id, children, _, _, _⟩ =>
    (match Widget.givenId? id with
      | some _ => []
      | none => [ownName type path]) ++ ownNamesAll path 0 children

/-- The names of the widgets without an id among the children of a path, from an index on. -/
def ownNamesAll (path : String) (index : Nat) : List Widget → List String
  | [] => []
  | w :: rest => ownNames (childPath path index) w ++ ownNamesAll path (index + 1) rest

end

/-! ## Suffixes -/

def withSuffix (base : String) (n : Nat) : String :=
  base ++ "_" ++ integerNumeral n

/-- The first of `fuel` suffixed names, counted from `n`, that is not taken. -/
def freeSuffix? (taken : Taken) (base : String) : Nat → Nat → Option String
  | 0, _ => none
  | fuel + 1, n =>
    if taken.contains (withSuffix base n) then freeSuffix? taken base fuel (n + 1)
    else some (withSuffix base n)

/-- The name that a widget without an id gets, and the names that are taken then. One candidate
more than there are names is enough, because the candidates differ. -/
def resolve (taken : Taken) (base : String) : String × Taken :=
  if taken.user.contains base then
    let name := (freeSuffix? taken base (taken.size + 1) 1).getD base
    (name, { taken with suffixed := taken.suffixed ++ [name] })
  else (base, taken)

/-! ## The assignment -/

abbrev Identifiers := Bag String

/-- What the assignment carries from one widget to the next. -/
structure Progress where
  taken : Taken
  identifiers : Identifiers

mutual

def assignAt (path : String) (progress : Progress) : Widget → Progress
  | ⟨type, id, children, _, _, _⟩ =>
    let (name, taken) :=
      match Widget.givenId? id with
      | some id => (identifier id, progress.taken)
      | none => resolve progress.taken (ownName type path)
    assignAll path 0 { taken, identifiers := progress.identifiers.put path name } children

/-- The assignment after the children of a path, from an index on. -/
def assignAll (path : String) (index : Nat) (progress : Progress) : List Widget → Progress
  | [] => progress
  | w :: rest =>
    assignAll path (index + 1) (assignAt (childPath path index) progress w) rest

end

def assign : Option Widget → Identifiers
  | none => Bag.empty
  | some root =>
    let taken := { user := userNames root, own := ownNames rootPath root, suffixed := [] }
    (assignAt rootPath { taken, identifiers := Bag.empty } root).identifiers

/-- The identifiers that more than one widget has, in the order of their first use. Only ids that
users gave can coincide, and they are kept as they are. -/
def duplicates (identifiers : Identifiers) : List String :=
  let all := identifiers.values
  (Bag.ofList (all.map fun name => (name, ()))).names.filter fun name => 1 < all.count name

end GuardedUi.Name
