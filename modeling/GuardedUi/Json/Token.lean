/-!
# `Json/Token` — the tokens of a JSON text

The lexer is a machine with five modes that looks at one character at a time, so its recursion is
the one of the text. Outside strings it knows four kinds of characters: punctuation, the four
white space characters of JSON, the letters, digits and signs of which numbers and the words
`true`, `false` and `null` are made, and all others, which are refused.

A string is refused where its grammar is broken: a raw control character, an unknown escape, an
unfinished `\u`. A string with an escaped surrogate that is not one of a pair obeys the grammar and
yet denotes no text, so its token is `text none`: whether that matters is up to the reader of the
token, who may be skipping it.
-/

set_option autoImplicit false

namespace GuardedUi.Json

/-- The smallest parts of a JSON text that have a meaning. -/
inductive Token where
  | openList
  | closeList
  | openRecord
  | closeRecord
  | comma
  | colon
  /-- A string; `none` if it denotes no text. -/
  | text (content : Option String)
  /-- A run of letters, digits, points and signs. -/
  | word (chars : List Char)
  deriving DecidableEq, Repr

namespace Token

/-! ## Strings -/

/-- What has been read of a string. -/
structure Partial where
  /-- The characters so far, the last one first. -/
  rev : List Char
  /-- An escaped high surrogate that waits for its other half. -/
  high : Option Nat
  /-- Whether every surrogate so far is one of a pair. -/
  sound : Bool
  deriving DecidableEq, Repr

namespace Partial

def empty : Partial :=
  ⟨[], none, true⟩

def push (t : Partial) (c : Char) : Partial :=
  ⟨c :: t.rev, none, t.sound && t.high.isNone⟩

/-- The string after a `\u` escape of the given value. -/
def pushUnit (t : Partial) (unit : Nat) : Partial :=
  if 0xD800 ≤ unit ∧ unit ≤ 0xDBFF then ⟨t.rev, some unit, t.sound && t.high.isNone⟩
  else if 0xDC00 ≤ unit ∧ unit ≤ 0xDFFF then
    match t.high with
    | some high =>
      ⟨Char.ofNat (0x10000 + (high - 0xD800) * 0x400 + (unit - 0xDC00)) :: t.rev, none, t.sound⟩
    | none => ⟨t.rev, none, false⟩
  else t.push (Char.ofNat unit)

def content (t : Partial) : Option String :=
  if t.sound && t.high.isNone then some (String.ofList t.rev.reverse) else none

end Partial

/-- The character that a one-letter escape stands for. -/
def escaped? (c : Char) : Option Char :=
  match c with
  | '"' => some '"'
  | '\\' => some '\\'
  | '/' => some '/'
  | 'b' => some '\x08'
  | 'f' => some '\x0c'
  | 'n' => some '\n'
  | 'r' => some '\r'
  | 't' => some '\t'
  | _ => none

def hexDigit? (c : Char) : Option Nat :=
  if c.isDigit then some (c.toNat - '0'.toNat)
  else if 'a' ≤ c ∧ c ≤ 'f' then some (c.toNat - 'a'.toNat + 10)
  else if 'A' ≤ c ∧ c ≤ 'F' then some (c.toNat - 'A'.toNat + 10)
  else none

/-! ## The machine -/

/-- Where the machine is in the text. -/
inductive Mode where
  /-- Between tokens. -/
  | idle
  /-- In a word; its characters so far, the last one first. -/
  | word (rev : List Char)
  /-- In a string. -/
  | text (t : Partial)
  /-- In a string, after a backslash. -/
  | escape (t : Partial)
  /-- In a `\u` escape with so many digits to come, after digits of the given value. -/
  | hex (t : Partial) (left value : Nat)
  deriving DecidableEq, Repr

def isSpace (c : Char) : Bool :=
  c == ' ' || c == '\t' || c == '\n' || c == '\r'

def isWordChar (c : Char) : Bool :=
  c.isAlphanum || c == '+' || c == '-' || c == '.'

def punctuation? (c : Char) : Option Token :=
  match c with
  | '[' => some .openList
  | ']' => some .closeList
  | '\x7b' => some .openRecord
  | '\x7d' => some .closeRecord
  | ',' => some .comma
  | ':' => some .colon
  | _ => none

/-- A character between tokens: the next mode and the token that it is. -/
def start (c : Char) : Option (Mode × List Token) :=
  if isSpace c then some (.idle, [])
  else if c = '"' then some (.text .empty, [])
  else if isWordChar c then some (.word [c], [])
  else (punctuation? c).map fun token => (.idle, [token])

/-- One character: the next mode and the tokens that end with it. -/
def step : Mode → Char → Option (Mode × List Token)
  | .idle, c => start c
  | .word rev, c =>
    if isWordChar c then some (.word (c :: rev), [])
    else (start c).map fun (mode, tokens) => (mode, .word rev.reverse :: tokens)
  | .text t, c =>
    if c = '"' then some (.idle, [.text t.content])
    else if c = '\\' then some (.escape t, [])
    else if c.toNat < 0x20 then none
    else some (.text (t.push c), [])
  | .escape t, c =>
    if c = 'u' then some (.hex t 4 0, [])
    else (escaped? c).map fun e => (.text (t.push e), [])
  | .hex t left value, c =>
    (hexDigit? c).map fun digit =>
      if left ≤ 1 then (.text (t.pushUnit (16 * value + digit)), [])
      else (.hex t (left - 1) (16 * value + digit), [])

/-- The tokens that end with the text itself; `none` inside a string. -/
def finish : Mode → Option (List Token)
  | .idle => some []
  | .word rev => some [.word rev.reverse]
  | _ => none

/-- The tokens of a text that is entered in the given mode. -/
def scanFrom : Mode → List Char → Option (List Token)
  | mode, [] => finish mode
  | mode, c :: rest =>
    match step mode c with
    | none => none
    | some (next, tokens) => (scanFrom next rest).map (tokens ++ ·)

/-- The tokens of a text. -/
def scan (text : List Char) : Option (List Token) :=
  scanFrom .idle text

end Token

end GuardedUi.Json
