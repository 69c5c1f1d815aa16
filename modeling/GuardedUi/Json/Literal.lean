import GuardedUi.Number.Numeral

/-!
# `Json/Literal` — number literals

A literal is read into its parts first (`Literal`), which settles the grammar, and only then given
a value, because not every literal has one: a magnitude beyond the largest double is refused where
its value is asked for. Integers written without a point and an exponent keep their exact value as
long as it fits a signed or an unsigned word of 64 bits; everything else, `-0` included, is a
double.

A double is computed from its literal in double arithmetic. Digits are taken into the significand as
long as it fits a word of 64 bits; the significand becomes a double, which is then multiplied or
divided by a power of ten, itself a double. So the value can miss the nearest double by a place
where the significand has more than 53 bits or the power more than 22 zeros.
-/

set_option autoImplicit false

namespace GuardedUi.Json

/-- The value of a number: an exact integer or a double. -/
inductive Number where
  | int (value : Int)
  | double (value : Double)
  deriving DecidableEq, Repr

namespace Number

/-- The number as a double, rounded to nearest if it is an integer that does not fit. -/
def toDouble : Number → Double
  | .int i => Double.ofInt i
  | .double d => d

def write : Number → List Char
  | .int i => (integerNumeral i).toList
  | .double d => (NumeralForm.json.write d).toList

end Number

/-- The parts of a number literal. -/
structure Literal where
  negative : Bool
  /-- The digits that were taken, read as one natural number. -/
  significand : Nat
  /-- The weight of the last digit that was taken. -/
  exponent : Int
  /-- Whether the literal is an integer of which every digit was taken, without point and
  exponent. -/
  whole : Bool
  deriving DecidableEq, Repr

namespace Literal

/-! ## Reading -/

/-- The greatest significand, and the greatest integer that is kept exactly. -/
def greatestWord : Nat :=
  Nat.pow 2 64 - 1

def withDigit (n : Nat) (digit : Char) : Nat :=
  10 * n + (digit.toNat - '0'.toNat)

/-- A significand with the leading digits of a run, as long as it fits a word, and the number of
digits that were not taken. -/
def takeDigits (n : Nat) : List Char → Nat × Nat
  | [] => (n, 0)
  | c :: rest =>
    if withDigit n c ≤ greatestWord then takeDigits (withDigit n c) rest else (n, rest.length + 1)

def digitsValue (digits : List Char) : Nat :=
  digits.foldl withDigit 0

def spanDigits (cs : List Char) : List Char × List Char :=
  (cs.takeWhile Char.isDigit, cs.dropWhile Char.isDigit)

/-- The digits of a fraction, if a point opens one; `none` for a point without digits. -/
def fraction? (cs : List Char) : Option (List Char × List Char) :=
  match cs with
  | '.' :: rest =>
    let (digits, rest) := spanDigits rest
    if digits.isEmpty then none else some (digits, rest)
  | _ => some ([], cs)

/-- A sign and the text after it; the sign may be left out. -/
def signed (cs : List Char) : Bool × List Char :=
  match cs with
  | '-' :: rest => (true, rest)
  | '+' :: rest => (false, rest)
  | _ => (false, cs)

/-- The exponent that ends a literal, if there is one; `none` for a malformed one and for other
text. -/
def exponent? (cs : List Char) : Option (Option Int) :=
  match cs with
  | [] => some none
  | e :: rest =>
    if e = 'e' ∨ e = 'E' then
      let (negative, digits) := signed rest
      if digits.isEmpty || !digits.all Char.isDigit then none
      else
        let n : Int := digitsValue digits
        some (some (if negative then -n else n))
    else none

/-- Reads a literal: an optional minus sign, an integer without superfluous leading zeros, and
optionally a fraction and an exponent. -/
def ofChars? (cs : List Char) : Option Literal :=
  let (negative, cs) := match cs with
    | '-' :: rest => (true, rest)
    | _ => (false, cs)
  let (integer, cs) := spanDigits cs
  if integer.isEmpty || (integer.head? == some '0' && 1 < integer.length) then none
  else
    match fraction? cs with
    | none => none
    | some (fraction, cs) =>
      match exponent? cs with
      | none => none
      | some exponent =>
        let (wholePart, dropped) := takeDigits 0 integer
        let (significand, ignored) := takeDigits wholePart fraction
        some {
          negative
          significand
          exponent := exponent.getD 0 + dropped - (fraction.length - ignored : Nat)
          whole := fraction.isEmpty && exponent.isNone && dropped == 0 }

/-! ## Value -/

/-- The greatest magnitude of a negative integer kept exactly. -/
def greatestNegative : Nat :=
  Nat.pow 2 63

/-- The greatest exponent of a power of ten that is a double. -/
def greatestPower : Nat :=
  308

/-- A double times a power of ten; `none` beyond the largest double. A division by more than the
greatest power is made in several steps, of which two leave nothing of a significand, so `fuel`
need not be more than three. -/
def scale? : Nat → Double → Int → Option Double
  | 0, d, _ => some d
  | fuel + 1, d, exponent =>
    if exponent.natAbs ≤ greatestPower then
      if 0 ≤ exponent then
        let product := d.mul (Double.powerOfTen exponent.natAbs)
        if product.isFinite then some product else none
      else some (d.div (Double.powerOfTen exponent.natAbs))
    else if d.isZero then some d
    else if 0 ≤ exponent then none
    else scale? fuel (d.div (Double.powerOfTen greatestPower)) (exponent + greatestPower)

/-- The value of a literal; `none` when its magnitude is beyond the largest double. -/
def number? (l : Literal) : Option Number :=
  if l.whole && !l.negative then some (.int l.significand)
  else if l.whole && l.significand ≠ 0 && l.significand ≤ greatestNegative then
    some (.int (-(l.significand : Int)))
  else
    (scale? 3 (Double.ofInt l.significand) l.exponent).map fun d =>
      .double (if l.negative then d.neg else d)

end Literal

end GuardedUi.Json
