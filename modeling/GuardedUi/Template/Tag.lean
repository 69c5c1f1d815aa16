import GuardedUi.Json.Token
import GuardedUi.Template.Basic

/-!
# `Template/Tag` — the inside of a tag

A tag holds the path of a field, or the name of a helper with arguments. Blanks may stand between
them, and need not where it is clear without them what is meant. An argument is a literal of JSON,
for which single quotes will do as well, or the path of a field; a word that looks like a literal is
one, so a field of the name `12` or `true` can be shown but not given to a helper.

Each function reads from the front of a text and returns the rest with what it has read. Nothing is
returned where the text does not begin with what is looked for.
-/

set_option autoImplicit false

namespace GuardedUi.Template

/-- The characters of which names in tags are made. Outside ASCII these are all characters, blanks
included. -/
def isNameChar (c : Char) : Bool :=
  c.isAlphanum || c == '_' || c == '-' || c == '$' || 0x80 ≤ c.toNat

def isStepMark (c : Char) : Bool :=
  c == '.' || c == '/'

/-- What is left of a text after its leading blanks. -/
def skipBlanks (cs : List Char) : List Char :=
  cs.dropWhile Json.Token.isSpace

/-! ## Paths -/

/-- The steps of a path, the first of them begun by `rev`. -/
def stepsFrom (rev : List Char) : List Char → List String
  | [] => [String.ofList rev.reverse]
  | c :: rest =>
    if isStepMark c then String.ofList rev.reverse :: stepsFrom [] rest
    else stepsFrom (c :: rev) rest

/-- The step that stays where it is. -/
def selfStep : String :=
  "this"

/-- The field that a written path leads to, unless there is a step of no characters. -/
def fieldPath? (path : List Char) : Option FieldPath :=
  let steps := stepsFrom [] path
  if steps.contains "" then none else some (steps.filter (· != selfStep))

def spanPath (cs : List Char) : List Char × List Char :=
  cs.span fun c => isNameChar c || isStepMark c

/-! ## Literals -/

/-- The inside of a text in quotes and what follows the closing quote. Escapes stay as they are
written. The first argument counts the digits that a `\u` escape still needs. -/
def quotedFrom (quote : Char) : Nat → List Char → Option (List Char × List Char)
  | _, [] => none
  | digits + 1, c :: rest =>
    if (Json.Token.hexDigit? c).isSome then
      (quotedFrom quote digits rest).map fun read => (c :: read.1, read.2)
    else none
  | 0, '\\' :: c :: rest =>
    if c = 'u' then (quotedFrom quote 4 rest).map fun read => ('\\' :: c :: read.1, read.2)
    else if c = quote || (c != '"' && (Json.Token.escaped? c).isSome) then
      (quotedFrom quote 0 rest).map fun read => ('\\' :: c :: read.1, read.2)
    else none
  | 0, c :: rest =>
    if c = quote then some ([], rest)
    else if c = '\\' then none
    else (quotedFrom quote 0 rest).map fun read => (c :: read.1, read.2)

/-- The inside of a text in single quotes as it is written in double quotes. -/
def requote : List Char → List Char
  | '\\' :: '\x27' :: rest => '\x27' :: requote rest
  | '"' :: rest => '\\' :: '"' :: requote rest
  | c :: rest => c :: requote rest
  | [] => []

/-- The text that the inside of double quotes denotes, if JSON has it. -/
def quotedText? (inside : List Char) : Option String :=
  match Json.Value.parse? ('"' :: inside ++ ['"']) with
  | some (.text content) => some content
  | _ => none

def spanDigits (cs : List Char) : List Char × List Char :=
  cs.span Char.isDigit

def spanMinus : List Char → List Char × List Char
  | '-' :: rest => (['-'], rest)
  | cs => ([], cs)

def spanFraction : List Char → List Char × List Char
  | '.' :: rest => ('.' :: (spanDigits rest).1, (spanDigits rest).2)
  | cs => ([], cs)

def spanExponent : List Char → List Char × List Char
  | 'E' :: rest =>
    let (sign, rest') := spanMinus rest
    match spanDigits rest' with
    | ([], _) => ([], 'E' :: rest)
    | (digits, after) => ('E' :: sign ++ digits, after)
  | cs => ([], cs)

/-- A number at the front of a text, unless it is the beginning of a name. Whether JSON has such a
number is another question. -/
def number? (cs : List Char) : Option (List Char × List Char) :=
  let (sign, cs) := spanMinus cs
  match spanDigits cs with
  | ([], _) => none
  | (digits, cs) =>
    let (fraction, cs) := spanFraction cs
    let (exponent, cs) := spanExponent cs
    if cs.head?.any isNameChar then none else some (sign ++ digits ++ fraction ++ exponent, cs)

/-! ## Arguments -/

/-- The words that cannot be arguments. -/
def keywords : List String :=
  ["as", "else"]

def constants : List String :=
  ["true", "false", "null"]

/-- A constant or the path of a field at the front of a text. -/
def bareArgument? (cs : List Char) : Option (Argument × List Char) :=
  let (word, afterWord) := cs.span isNameChar
  if keywords.contains (String.ofList word) then none
  else
    match number? cs with
    | some (number, rest) => (Json.Value.parse? number).map fun _ => (.constant, rest)
    | none =>
      if constants.contains (String.ofList word) then some (.constant, afterWord)
      else
        let (path, rest) := spanPath cs
        (fieldPath? path).map fun path => (.field path, rest)

def argument? : List Char → Option (Argument × List Char)
  | '"' :: cs =>
    match quotedFrom '"' 0 cs with
    | some (inside, rest) => (quotedText? inside).map fun content => (.quoted content, rest)
    | none => none
  | '\x27' :: cs =>
    match quotedFrom '\x27' 0 cs with
    | some (inside, rest) =>
      (quotedText? (requote inside)).map fun content => (.quoted content, rest)
    | none => none
  | cs => bareArgument? cs

/-- The arguments up to a closing brace or the end of the text. The first argument counts the
characters that have been read already. -/
def argumentsFrom : Nat → List Char → Option (List Argument × List Char)
  | _, [] => some ([], [])
  | read + 1, _ :: rest => argumentsFrom read rest
  | 0, c :: rest =>
    if Json.Token.isSpace c then argumentsFrom 0 rest
    else if c = '\x7d' then some ([], c :: rest)
    else
      match argument? (c :: rest) with
      | none => none
      | some (argument, after) =>
        (argumentsFrom (rest.length - after.length) rest).map fun read =>
          (argument :: read.1, read.2)

/-! ## Tags -/

/-- A helper with arguments at the front of a text; the name has no points in it. -/
def call? (cs : List Char) : Option (String × List Argument × List Char) :=
  match cs.span fun c => isNameChar c || c == '/' with
  | ([], _) => none
  | ('/' :: _, _) => none
  | (name, rest) =>
    (argumentsFrom 0 rest).map fun read => (String.ofList name, read.1, read.2)

def named? (cs : List Char) : Option (Part × List Char) :=
  let (path, rest) := spanPath cs
  match fieldPath? path with
  | none => none
  | some steps =>
    let name := String.ofList path
    some (if isHelper name then .call name [] else .field steps, skipBlanks rest)

/-- The part that the inside of a tag stands for, and the text from its closing brace on. -/
def inside? (cs : List Char) : Option (Part × List Char) :=
  match call? cs with
  | some (helper, argument :: arguments, rest) => some (.call helper (argument :: arguments), rest)
  | _ => named? cs

/-- What follows two closing braces. -/
def afterClosing? : List Char → Option (List Char)
  | '\x7d' :: '\x7d' :: rest => some rest
  | _ => none

/-- Whether a tag between two braces is one that parts a block, with or without another condition.
Outside of a block there is no place for it. -/
def partsBlock : List Char → Bool
  | 'e' :: 'l' :: 's' :: 'e' :: cs =>
    (afterClosing? (skipBlanks cs)).isSome ||
      ((call? (skipBlanks cs)).bind fun read => afterClosing? read.2.2).isSome
  | _ => false

/-- The part that a tag stands for, and the text after it. The text begins behind the first two
braces. -/
def tag? (cs : List Char) : Option (Part × List Char) :=
  match skipBlanks cs with
  | '\x7b' :: inner =>
    match inside? (skipBlanks inner) with
    | some (part, '\x7d' :: rest) => (afterClosing? (skipBlanks rest)).map fun rest => (part, rest)
    | _ => none
  | inner =>
    if partsBlock inner then none
    else
      match inside? inner with
      | some (part, rest) => (afterClosing? rest).map fun rest => (part, rest)
      | none => none

end GuardedUi.Template
