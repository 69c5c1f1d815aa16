/-!
# `Name/Identifier` — C names out of arbitrary text

Ids and types are arbitrary texts and have to become parts of C names. What counts in a text are
its maximal runs of ASCII letters and digits: a name is these runs with one underscore between any
two, or `obj` if there are none, and an underscore in front where a digit would come first.

`identifier` is the name in lower case, used for everything that is generated; `symbol` keeps the
case, used for functions that the user owns and has already named.
-/

set_option autoImplicit false

namespace GuardedUi.Name

/-- The characters that a name keeps: ASCII letters and digits. -/
def isNameChar (c : Char) : Bool :=
  c.isAlphanum

/-- The maximal runs of name characters, the first of them begun by `open`. -/
def runsAfter : List Char → List Char → List (List Char)
  | [], [] => []
  | rev, [] => [rev.reverse]
  | rev, c :: rest =>
    if isNameChar c then runsAfter (c :: rev) rest
    else if rev.isEmpty then runsAfter [] rest
    else rev.reverse :: runsAfter [] rest

def runs (text : List Char) : List (List Char) :=
  runsAfter [] text

/-- What stands for a text without name characters. -/
def nameless : List Char :=
  ['o', 'b', 'j']

/-- Runs with one underscore between any two of them. -/
def joinRuns : List (List Char) → List Char
  | [] => []
  | [run] => run
  | run :: rest => run ++ '_' :: joinRuns rest

/-- The runs of a text joined, or the name of the nameless. -/
def collapse (text : List Char) : List Char :=
  match runs text with
  | [] => nameless
  | first :: rest => joinRuns (first :: rest)

/-- The name with an underscore in front of a leading digit. -/
def escapeDigit : List Char → List Char
  | [] => []
  | c :: rest => if c.isDigit then '_' :: c :: rest else c :: rest

/-- The C name of a text in lower case. -/
def identifier (text : String) : String :=
  String.ofList (escapeDigit ((collapse text.toList).map Char.toLower))

def symbol (text : String) : String :=
  String.ofList (escapeDigit (collapse text.toList))

/-- The symbol that guards a header of the given file name against being included twice: every
character that is no ASCII letter or digit becomes an underscore. -/
def includeGuard (fileName : String) : String :=
  String.ofList (fileName.toList.map fun c => if isNameChar c then c.toUpper else '_')

def styleVariable (styleId : String) : String :=
  "ui_style_" ++ identifier styleId

def widgetVariable (identifier : String) : String :=
  "ui_" ++ identifier

example : identifier "ok--button!!" = "ok_button" := by decide
example : identifier "3d-view" = "_3d_view" := by decide
example : symbol "on-Tap handler" = "on_Tap_handler" := by decide
example : identifier "!!!" = "obj" := by decide

end GuardedUi.Name
