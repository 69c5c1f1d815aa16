/-!
# `Text/Utf8` — bytes and characters

A file is a list of bytes and a document a list of characters, and this module goes between the
two. `encode` writes UTF-8. Reading cuts the bytes into units, each a character or a maximal run
of bytes that begins a character without finishing it; `decode?` accepts texts in which every unit
is a character, and `decodeLossy` shows each unfinished run as one U+FFFD.

The recursion of `units` is on the bytes themselves: a unit's leading byte says how many further
bytes belong to it, and these are counted off while walking the list.
-/

set_option autoImplicit false

namespace GuardedUi.Text.Utf8

/-! ## Writing -/

def encodeChar (c : Char) : List UInt8 :=
  let n := c.toNat
  if n < 0x80 then [n.toUInt8]
  else if n < 0x800 then [(0xC0 + n / 64).toUInt8, (0x80 + n % 64).toUInt8]
  else if n < 0x10000 then
    [(0xE0 + n / 4096).toUInt8, (0x80 + n / 64 % 64).toUInt8, (0x80 + n % 64).toUInt8]
  else
    [(0xF0 + n / 262144).toUInt8, (0x80 + n / 4096 % 64).toUInt8, (0x80 + n / 64 % 64).toUInt8,
      (0x80 + n % 64).toUInt8]

def encode (cs : List Char) : List UInt8 :=
  cs.flatMap encodeChar

def size (cs : List Char) : Nat :=
  (encode cs).length

/-! ## Reading -/

def isContinuation (b : UInt8) : Bool :=
  0x80 ≤ b.toNat && b.toNat ≤ 0xBF

/-- The bytes that may follow the leading byte `lead` of a character of three or four bytes. The
limits exclude overlong forms, surrogates and numbers above U+10FFFF. -/
def isSecond (lead second : Nat) : Bool :=
  let low := if lead = 0xE0 then 0xA0 else if lead = 0xF0 then 0x90 else 0x80
  let high := if lead = 0xED then 0x9F else if lead = 0xF4 then 0x8F else 0xBF
  low ≤ second && second ≤ high

/-- The unit that begins with the byte `b` before `rest`: its character, or `none` when it stays
unfinished, and the number of bytes of `rest` that belong to it. -/
def unit (b : UInt8) (rest : List UInt8) : Option Char × Nat :=
  let lead := b.toNat
  if lead < 0x80 then (some (Char.ofNat lead), 0)
  else if 0xC2 ≤ lead && lead ≤ 0xDF then
    match rest with
    | b1 :: _ =>
      if isContinuation b1 then
        (some (Char.ofNat ((lead - 0xC0) * 64 + (b1.toNat - 0x80))), 1)
      else (none, 0)
    | [] => (none, 0)
  else if 0xE0 ≤ lead && lead ≤ 0xEF then
    match rest with
    | b1 :: tail =>
      if isSecond lead b1.toNat then
        match tail with
        | b2 :: _ =>
          if isContinuation b2 then
            (some (Char.ofNat
              ((lead - 0xE0) * 4096 + (b1.toNat - 0x80) * 64 + (b2.toNat - 0x80))), 2)
          else (none, 1)
        | [] => (none, 1)
      else (none, 0)
    | [] => (none, 0)
  else if 0xF0 ≤ lead && lead ≤ 0xF4 then
    match rest with
    | b1 :: tail =>
      if isSecond lead b1.toNat then
        match tail with
        | b2 :: tail =>
          if isContinuation b2 then
            match tail with
            | b3 :: _ =>
              if isContinuation b3 then
                (some (Char.ofNat ((lead - 0xF0) * 262144 + (b1.toNat - 0x80) * 4096 +
                  (b2.toNat - 0x80) * 64 + (b3.toNat - 0x80))), 3)
              else (none, 2)
            | [] => (none, 2)
          else (none, 1)
        | [] => (none, 1)
      else (none, 0)
    | [] => (none, 0)
  else (none, 0)

/-- The units of a byte list, after passing over `skip` bytes that belong to the unit before. -/
def unitsAfter : Nat → List UInt8 → List (Option Char)
  | _, [] => []
  | skip + 1, _ :: rest => unitsAfter skip rest
  | 0, b :: rest => (unit b rest).1 :: unitsAfter (unit b rest).2 rest

def units (bytes : List UInt8) : List (Option Char) :=
  unitsAfter 0 bytes

/-- The text that the bytes encode; `none` unless they are UTF-8 throughout. -/
def decode? (bytes : List UInt8) : Option (List Char) :=
  (units bytes).mapM id

/-- The text that the bytes encode, with U+FFFD for each maximal unfinished run. -/
def decodeLossy (bytes : List UInt8) : List Char :=
  (units bytes).map fun unit => unit.getD '\ufffd'

end GuardedUi.Text.Utf8
