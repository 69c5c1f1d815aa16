import GuardedUi.Number.Numeral

/-!
# `Emit/Literal` — numbers and colors in C code

A number goes into C code as a plain numeral, without a fraction if it is an integer that a double
holds exactly. A number that stands for a color goes in as the six or more hexadecimal digits of its
integer part, clamped to 32 bits.
-/

set_option autoImplicit false

namespace GuardedUi.Emit

/-- Integers of at least this magnitude are written as doubles. -/
def exactBound : Nat :=
  Nat.pow 2 53

def formatNumber (d : Double) : String :=
  if d.isFinite && d.isIntegral && d.wholeMagnitude < exactBound then integerNumeral d.truncate
  else NumeralForm.plain.write d

def greatestColor : Nat :=
  Nat.pow 2 32 - 1

/-- The hexadecimal digits of a natural number, with leading zeros up to six digits. -/
def hexSix (n : Nat) : String :=
  let digits := Nat.toDigits 16 n
  String.ofList (List.replicate (6 - digits.length) '0' ++ digits)

def formatColor (d : Double) : String :=
  "lv_color_hex(0x" ++ hexSix (d.clampTo greatestColor) ++ ")"

/-- What the name of a color property ends with, unless it is the whole name. -/
def colorEnding : List Char :=
  ['_', 'c', 'o', 'l', 'o', 'r']

/-- Whether a numeric property holds a color. -/
def isColorProperty (name : String) : Bool :=
  name == "color" || colorEnding.isSuffixOf name.toList

def formatValue (name : String) (d : Double) : String :=
  if isColorProperty name then formatColor d else formatNumber d

example : hexSix 255 = "0000ff" ∧ hexSix 0x1336699 = "1336699" := by decide

end GuardedUi.Emit
