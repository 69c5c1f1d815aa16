import GuardedUi.Number.Shortest

/-!
# `Number/Numeral` — how a double is written

The digits of a number come from `Double.shortest`; where the point goes, when an exponent is
written and what stands for the values without digits is a `NumeralForm`. The program writes two
of them: `NumeralForm.json` in JSON documents and `NumeralForm.plain` in C code.
-/

set_option autoImplicit false

namespace GuardedUi

/-- The decisions that turn digits into a numeral. -/
structure NumeralForm where
  /-- The exponents of a first digit that are written without an exponent; `none` means all. -/
  plainRange : Option (Int × Int)
  /-- Whether an integral value written without an exponent ends in a point and a zero. -/
  pointZero : Bool
  /-- Which of two equally near digit strings is taken. -/
  tie : Tie
  /-- What is written for NaN. -/
  nan : String
  /-- What is written for positive and for negative infinity. -/
  infinity : String × String

namespace NumeralForm

/-- JSON has a fraction or an exponent in every double, positional from `1e-5` up to below `1e16`;
a value without digits is `null`. -/
def json : NumeralForm where
  plainRange := some (-5, 16)
  pointZero := true
  tie := .toEven
  nan := "null"
  infinity := ("null", "null")

/-- Plain numerals never have an exponent, and a fraction only where the value has one. -/
def plain : NumeralForm where
  plainRange := none
  pointZero := false
  tie := .up
  nan := "NaN"
  infinity := ("inf", "-inf")

/-- Digits whose first one has the weight `10 ^ exponent`, written positionally. -/
def positional (form : NumeralForm) (digits : List Char) (exponent : Int) : List Char :=
  if exponent < 0 then
    '0' :: '.' :: (List.replicate (-exponent - 1).toNat '0' ++ digits)
  else
    let whole := exponent.toNat + 1
    if digits.length ≤ whole then
      digits ++ List.replicate (whole - digits.length) '0' ++
        (if form.pointZero then ['.', '0'] else [])
    else digits.take whole ++ '.' :: digits.drop whole

/-- Digits whose first one has the weight `10 ^ exponent`, written with an exponent. -/
def scientific (digits : List Char) (exponent : Int) : List Char :=
  let fraction := if digits.length ≤ 1 then [] else '.' :: digits.drop 1
  let sign := if exponent < 0 then '-' else '+'
  digits.take 1 ++ fraction ++ 'e' :: sign :: Decimal.digits exponent.natAbs

/-- The numeral of a magnitude given by its digits and the exponent of the first one. -/
def magnitude (form : NumeralForm) (digits : List Char) (exponent : Int) : List Char :=
  match form.plainRange with
  | some (least, bound) =>
    if least ≤ exponent ∧ exponent < bound then form.positional digits exponent
    else scientific digits exponent
  | none => form.positional digits exponent

def write (form : NumeralForm) (d : Double) : String :=
  if d.isNaN then form.nan
  else if !d.isFinite then (if d.isNegative then form.infinity.2 else form.infinity.1)
  else
    let sign := if d.isNegative then "-" else ""
    if d.isZero then sign ++ String.ofList (form.magnitude ['0'] 0)
    else
      let shortest := d.shortest form.tie
      let digits := Decimal.digits shortest.significand
      let exponent := shortest.exponent + digits.length - 1
      sign ++ String.ofList (form.magnitude digits exponent)

end NumeralForm

/-- The numeral of an integer: its digits, after a minus sign if it is negative. -/
def integerNumeral (i : Int) : String :=
  (if i < 0 then "-" else "") ++ String.ofList (Decimal.digits i.natAbs)

end GuardedUi
