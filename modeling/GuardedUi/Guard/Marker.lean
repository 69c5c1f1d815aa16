import GuardedUi.Text.Blank

/-!
# `Guard/Marker` — the comments that mark user code

A region of user code lies between two comments:

    /* USER CODE BEGIN name */
    /* USER CODE END name */

The generator writes them in exactly this form (`Kind.text`). Users reformat their files, so
reading is more generous: any blanks may stand where a blank stands above, and those next to the
comment signs may be missing. A marker has one reading only, since each part of it ends where a
character of another class comes, so `Mark.ofPrefix?` never has to go back.

`scan` finds the markers of a document from left to right. After a marker it goes on behind it,
otherwise at the next character; the number of characters that are still to be passed over is an
argument, so the recursion is the one of the text.
-/

set_option autoImplicit false

namespace GuardedUi.Guard

/-- Which end of a region a marker is. -/
inductive Kind where
  | opening
  | closing
  deriving DecidableEq, Repr

def Kind.word : Kind → List Char
  | .opening => ['B', 'E', 'G', 'I', 'N']
  | .closing => ['E', 'N', 'D']

/-! ## Writing -/

def isIdChar (c : Char) : Bool :=
  c.isAlphanum || c == '_'

def isRegionId (id : String) : Bool :=
  !id.isEmpty && id.toList.all isIdChar

/-- The marker of the given kind and name in its standard form. -/
def Kind.text (kind : Kind) (id : String) : String :=
  "/* USER CODE " ++ String.ofList kind.word ++ " " ++ id ++ " */"

/-- A text that cannot be the name of a region. -/
structure InvalidRegionId where
  id : String
  deriving DecidableEq, Repr

def InvalidRegionId.message (fault : InvalidRegionId) : String :=
  "Invalid region id '" ++ fault.id ++ "'"

/-- The two lines of an empty region. -/
def regionLines (id indent : String) : Except InvalidRegionId (List String) :=
  if isRegionId id then .ok [indent ++ Kind.opening.text id, indent ++ Kind.closing.text id]
  else .error ⟨id⟩

def initRegion : String :=
  "init"

/-! ## Reading one marker -/

/-- What a marker says, and how many characters it takes. -/
structure Mark where
  kind : Kind
  id : List Char
  length : Nat
  deriving DecidableEq, Repr

/-- What follows `word` in a text that begins with it. -/
def after? (word text : List Char) : Option (List Char) :=
  match word, text with
  | [], text => some text
  | _ :: _, [] => none
  | w :: ws, c :: cs => if w = c then after? ws cs else none

def skipBlanks (text : List Char) : List Char :=
  text.dropWhile Text.isBlank

/-- A text without its leading blanks, of which there must be one. -/
def skipSomeBlanks? : List Char → Option (List Char)
  | [] => none
  | c :: rest => if Text.isBlank c then some (skipBlanks rest) else none

/-- The kind of marker whose word a text begins with, and what follows the word. -/
def kindWord? (text : List Char) : Option (Kind × List Char) :=
  match after? Kind.opening.word text with
  | some rest => some (.opening, rest)
  | none => (after? Kind.closing.word text).map fun rest => (.closing, rest)

/-- What follows a marker in a text that begins with one, with its kind and its name. -/
def markerAt? (text : List Char) : Option (Kind × List Char × List Char) :=
  match after? ['/', '*'] text with
  | none => none
  | some rest =>
    match after? ['U', 'S', 'E', 'R'] (skipBlanks rest) with
    | none => none
    | some rest =>
      match (skipSomeBlanks? rest).bind (after? ['C', 'O', 'D', 'E']) with
      | none => none
      | some rest =>
        match (skipSomeBlanks? rest).bind kindWord? with
        | none => none
        | some (kind, rest) =>
          match skipSomeBlanks? rest with
          | none => none
          | some rest =>
            let id := rest.takeWhile isIdChar
            if id.isEmpty then none
            else
              match after? ['*', '/'] (skipBlanks (rest.dropWhile isIdChar)) with
              | none => none
              | some rest => some (kind, id, rest)

/-- The marker that a text begins with. -/
def Mark.ofPrefix? (text : List Char) : Option Mark :=
  (markerAt? text).map fun (kind, id, rest) => ⟨kind, id, text.length - rest.length⟩

/-! ## The markers of a document -/

/-- A marker in a document, with its place counted in characters. -/
structure Marker where
  kind : Kind
  id : String
  start : Nat
  /-- Where the first character behind it is. -/
  stop : Nat
  deriving DecidableEq, Repr

/-- The markers of a text that begins at `position`, of which the first `skip` characters belong
to a marker that was found before. -/
def scanFrom (position : Nat) : Nat → List Char → List Marker
  | _, [] => []
  | skip + 1, _ :: rest => scanFrom (position + 1) skip rest
  | 0, c :: rest =>
    match Mark.ofPrefix? (c :: rest) with
    | some mark =>
      ⟨mark.kind, String.ofList mark.id, position, position + mark.length⟩ ::
        scanFrom (position + 1) (mark.length - 1) rest
    | none => scanFrom (position + 1) 0 rest

/-- The markers of a document, in order. -/
def scan (document : List Char) : List Marker :=
  scanFrom 0 0 document

namespace Marker

/-- The line of a document on which a marker begins, counted from one. -/
def line (m : Marker) (document : List Char) : Nat :=
  (document.take m.start).count '\n' + 1

/-- The text before a marker on its line. -/
def lineStart (m : Marker) (document : List Char) : List Char :=
  ((document.take m.start).reverse.takeWhile (· != '\n')).reverse

/-- The leading blanks of the line on which a marker stands. -/
def indent (m : Marker) (document : List Char) : List Char :=
  (m.lineStart document).takeWhile Text.isBlank

end Marker

example : scan "a\n  /*USER  CODE\tEND init*/".toList = [⟨.closing, "init", 4, 27⟩] := by
  decide +kernel

end GuardedUi.Guard
