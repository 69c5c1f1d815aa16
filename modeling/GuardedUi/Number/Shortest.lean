import GuardedUi.Number.Double

/-!
# `Number/Shortest` — the fewest decimal digits that read back

The reals that round to a given double form an interval around it, which reaches half way to
either neighbour and contains its ends exactly when the mantissa is even. Among the decimals in
that interval `shortest` picks one with as few digits as possible, and among those the nearest to
the value.

The search tries 1, 2, … 17 digits. With `n` digits the candidates near the value are its two
neighbours on a grid of powers of ten, so two exact comparisons decide whether the grid has a
point in the interval at all; seventeen digits always have one. When both neighbours are in the
interval and equally near, the caller says which one to take.
-/

set_option autoImplicit false

namespace GuardedUi

/-- The magnitude `significand · 10 ^ exponent`. -/
structure Decimal where
  significand : Nat
  exponent : Int
  deriving DecidableEq, Repr

/-- Which of two equally near candidates is taken. -/
inductive Tie where
  /-- The one with an even last digit. -/
  | toEven
  /-- The larger one. -/
  | up
  deriving DecidableEq, Repr

namespace Decimal

def digits (n : Nat) : List Char :=
  Nat.toDigits 10 n

/-- The same magnitude with a significand that does not end in zero; `fuel` bounds the number of
zeros taken off. -/
def stripZeros : Nat → Decimal → Decimal
  | 0, d => d
  | fuel + 1, ⟨n, e⟩ => if n ≠ 0 ∧ n % 10 = 0 then stripZeros fuel ⟨n / 10, e + 1⟩ else ⟨n, e⟩

/-- The exponent of the first digit of a positive quotient: the greatest `e` with
`10 ^ e ≤ num / den`. -/
def leadingExponent (num den : Nat) : Int :=
  if den ≤ num then ((digits (num / den)).length : Int) - 1
  else -((digits ((den - 1) / num)).length : Int)

end Decimal

namespace Double

/-- A positive double with its rounding interval, over one denominator. -/
structure Interval where
  low : Nat
  value : Nat
  high : Nat
  den : Nat
  /-- Whether the two ends round to the value too. -/
  closed : Bool

/-- The rounding interval of a finite double other than zero. Everything is counted in quarters of
the last place; below a power of two the neighbour is half as far away. -/
def interval (d : Double) : Interval :=
  let m := d.mantissa
  let unit := d.scale - 2
  let factor := if 0 ≤ unit then Nat.pow 2 unit.toNat else 1
  let gap := if d.fraction = 0 ∧ 1 < d.exponentField then 1 else 2
  { low := (4 * m - gap) * factor
    value := 4 * m * factor
    high := (4 * m + 2) * factor
    den := if 0 ≤ unit then 1 else Nat.pow 2 (-unit).toNat
    closed := m % 2 == 0 }

/-- Whether `n · 10 ^ exponent` lies in the interval. -/
def Interval.contains (i : Interval) (n : Nat) (exponent : Int) : Bool :=
  let point := if 0 ≤ exponent then n * Nat.pow 10 exponent.toNat * i.den else n * i.den
  let unit := if 0 ≤ exponent then 1 else Nat.pow 10 (-exponent).toNat
  if i.closed then i.low * unit ≤ point && point ≤ i.high * unit
  else i.low * unit < point && point < i.high * unit

/-- The better of the value's two neighbours on the grid of multiples of `10 ^ exponent`, if one
of them is in the interval. -/
def Interval.onGrid (i : Interval) (tie : Tie) (exponent : Int) : Option Nat :=
  let num := if 0 ≤ exponent then i.value else i.value * Nat.pow 10 (-exponent).toNat
  let den := if 0 ≤ exponent then i.den * Nat.pow 10 exponent.toNat else i.den
  let below := num / den
  let rest := num % den
  let nearer :=
    if 2 * rest < den then below
    else if den < 2 * rest then below + 1
    else match tie with
      | .toEven => below + below % 2
      | .up => below + 1
  match i.contains below exponent, i.contains (below + 1) exponent with
  | true, true => some nearer
  | true, false => some below
  | false, true => some (below + 1)
  | false, false => none

/-- Grids of ever smaller steps, from the one of `10 ^ exponent`, until one has a point in the
interval; `fuel` is the number of grids left. -/
def Interval.search (i : Interval) (tie : Tie) : Nat → Int → Decimal
  | 0, exponent => ⟨i.value / i.den, exponent⟩
  | fuel + 1, exponent =>
    match i.onGrid tie exponent with
    | some n => Decimal.stripZeros 20 ⟨n, exponent⟩
    | none => i.search tie fuel (exponent - 1)

/-- The magnitude with the fewest digits that rounds to the double `d`, which is finite and not
zero, and the nearest one among these. -/
def shortest (tie : Tie) (d : Double) : Decimal :=
  let i := d.interval
  i.search tie 17 (Decimal.leadingExponent i.value i.den)

end Double

end GuardedUi
