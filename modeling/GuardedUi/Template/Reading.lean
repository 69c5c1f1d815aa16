import GuardedUi.Template.Tag

/-!
# `Template/Reading` — templates from texts

Two opening braces begin a tag, unless a backslash stands before them: then they are text, and the
backslash is not. Of several backslashes before a tag one is dropped, and the tag counts. Anywhere
else a backslash is a character like any other.
-/

set_option autoImplicit false

namespace GuardedUi.Template

/-- What a text begins with. -/
inductive Piece where
  | text (content : List Char)
  | tag (part : Part)
  deriving DecidableEq, Repr

def opensTag : List Char → Bool
  | '\x7b' :: '\x7b' :: _ => true
  | _ => false

/-- The braces at the front of a text that one backslash makes text: two, or four. -/
def escapedBraces : List Char → List Char
  | '\x7b' :: '\x7b' :: rest => '\x7b' :: '\x7b' :: (if opensTag rest then rest.take 2 else [])
  | _ => []

/-- Whether something other than a plain character can begin here. -/
def isSpecial (cs : List Char) : Bool :=
  cs.head? == some '\\' || opensTag cs

/-- The piece at the front of a text where something special can begin, and the rest of the text;
there is none if a tag is not well formed. -/
def piece? : List Char → Option (Piece × List Char)
  | '\\' :: cs =>
    if opensTag cs then
      some (.text (escapedBraces cs), cs.drop (escapedBraces cs).length)
    else
      let (slashes, rest) := cs.span (· == '\\')
      if opensTag rest && !slashes.isEmpty then some (.text slashes, rest)
      else some (.text ('\\' :: slashes), rest)
  | '\x7b' :: '\x7b' :: cs => (tag? cs).map fun read => (.tag read.1, read.2)
  | _ => none

/-- Literal text as a part, if there is any. -/
def textPart (rev : List Char) : Template :=
  if rev.isEmpty then [] else [.text (String.ofList rev.reverse)]

/-- The parts of a template. The first argument counts the characters that have been read already,
the second is the literal text so far, given backwards. -/
def partsFrom : Nat → List Char → List Char → Option Template
  | _, rev, [] => some (textPart rev)
  | read + 1, rev, _ :: rest => partsFrom read rev rest
  | 0, rev, c :: rest =>
    if !isSpecial (c :: rest) then partsFrom 0 (c :: rev) rest
    else
      match piece? (c :: rest) with
      | none => none
      | some (.text content, after) =>
        partsFrom (rest.length - after.length) (content.reverse ++ rev) rest
      | some (.tag part, after) =>
        (partsFrom (rest.length - after.length) [] rest).map (textPart rev ++ part :: ·)

def parse (source : String) : Except TemplateError Template :=
  match partsFrom 0 [] source.toList with
  | some parts => .ok parts
  | none => .error .malformed

end GuardedUi.Template
