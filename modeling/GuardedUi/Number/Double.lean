/-!
# `Number/Double` — binary64 numbers as exact dyadic values

A `Double` is the 64 bits of an IEEE 754 binary64 number. Nothing here computes in floating point:
a finite number is `± mantissa · 2 ^ scale` with a natural mantissa, so reading a literal,
truncating, comparing and printing are exact arithmetic on `Nat` and `Int`.

The one place where a value is rounded is `ofRatio`, which gives the double nearest to a quotient
of naturals, a tie going to the even mantissa. Products and quotients of doubles are rounded exact
products and quotients. Its last step uses that the bit patterns of the
non-negative doubles count upwards through the binades: mantissa `m` at scale `q` has the pattern
`(q + 1074) · 2 ^ 52 + m`, also for subnormal numbers and when rounding carries `m` to `2 ^ 53`.

Powers are written with `Nat.pow`, so they mean the same whether or not monoid powers are in scope.
-/

set_option autoImplicit false

namespace GuardedUi

/-- A binary64 number, by its bits. -/
structure Double where
  /-- Sign, eleven bits of exponent, fifty-two bits of fraction. -/
  bits : UInt64
  deriving DecidableEq, Repr, Inhabited

namespace Double

/-! ## Reading the bits -/

/-- Whether the sign bit is set; true of negative zero. -/
def isNegative (d : Double) : Bool :=
  Nat.pow 2 63 ≤ d.bits.toNat

/-- The biased exponent, `0` for zeros and subnormals and `2047` for infinities and NaN. -/
def exponentField (d : Double) : Nat :=
  d.bits.toNat / Nat.pow 2 52 % Nat.pow 2 11

def fraction (d : Double) : Nat :=
  d.bits.toNat % Nat.pow 2 52

def isFinite (d : Double) : Bool :=
  d.exponentField != 2047

def isNaN (d : Double) : Bool :=
  d.exponentField == 2047 && d.fraction != 0

def isZero (d : Double) : Bool :=
  d.exponentField == 0 && d.fraction == 0

/-- The integer mantissa of a finite number. -/
def mantissa (d : Double) : Nat :=
  if d.exponentField = 0 then d.fraction else Nat.pow 2 52 + d.fraction

/-- The power of two that the mantissa of a finite number is multiplied by. -/
def scale (d : Double) : Int :=
  (max d.exponentField 1 : Nat) - 1075

/-! ## Building -/

/-- A number from its sign and the pattern of its magnitude. -/
def ofMagnitude (negative : Bool) (pattern : Nat) : Double :=
  ⟨(if negative then Nat.pow 2 63 + pattern else pattern).toUInt64⟩

/-- The pattern of infinity, above that of every finite magnitude. -/
def infinityPattern : Nat :=
  2047 * Nat.pow 2 52

/-- A quotient rounded to the nearest natural, a half going to the even neighbour. -/
def roundHalfEven (num den : Nat) : Nat :=
  let floor := num / den
  let rest := num % den
  if 2 * rest < den then floor
  else if den < 2 * rest then floor + 1
  else floor + floor % 2

/-- The quotient `num / den` divided by `2 ^ scale`, as numerator and denominator. -/
def scaledBy (num den : Nat) (scale : Int) : Nat × Nat :=
  if 0 ≤ scale then (num, den * Nat.pow 2 scale.toNat) else (num * Nat.pow 2 (-scale).toNat, den)

/-- The scale at which the quotient has a mantissa below `2 ^ 53`, and of at least `2 ^ 52` unless
the scale is the least one. The logarithms of both sides leave two candidates. -/
def scaleOf (num den : Nat) : Int :=
  let low := max ((num.log2 : Int) - (den.log2 : Int) - 53) (-1074)
  let (n, d) := scaledBy num den low
  if Nat.pow 2 53 ≤ n / d then low + 1 else low

/-- The double nearest to `± num / den`; ties go to the even mantissa, and what rounds beyond the
largest finite number is infinite. -/
def ofRatio (negative : Bool) (num den : Nat) : Double :=
  if num = 0 then ofMagnitude negative 0
  else
    let scale := scaleOf num den
    let (n, d) := scaledBy num den scale
    let pattern := (scale + 1074).toNat * Nat.pow 2 52 + roundHalfEven n d
    ofMagnitude negative (min pattern infinityPattern)

/-- The double nearest to an integer. -/
def ofInt (i : Int) : Double :=
  ofRatio (i < 0) i.natAbs 1

def zero : Double :=
  ⟨0⟩

/-! ## Arithmetic -/

/-- The double nearest to `± num / den · 2 ^ scale`. -/
def ofScaled (negative : Bool) (num den : Nat) (scale : Int) : Double :=
  if 0 ≤ scale then ofRatio negative (num * Nat.pow 2 scale.toNat) den
  else ofRatio negative num (den * Nat.pow 2 (-scale).toNat)

/-- The product of two finite numbers, rounded. -/
def mul (a b : Double) : Double :=
  ofScaled (a.isNegative != b.isNegative) (a.mantissa * b.mantissa) 1 (a.scale + b.scale)

/-- The quotient of two finite numbers of which the second is not zero, rounded. -/
def div (a b : Double) : Double :=
  ofScaled (a.isNegative != b.isNegative) a.mantissa b.mantissa (a.scale - b.scale)

def neg (d : Double) : Double :=
  ofMagnitude (!d.isNegative) (d.bits.toNat % Nat.pow 2 63)

/-- The double nearest to a power of ten. -/
def powerOfTen (exponent : Nat) : Double :=
  ofRatio false (Nat.pow 10 exponent) 1

/-! ## Value -/

/-- Equality of values: the two zeros are equal, and NaN equals nothing. -/
def sameValue (a b : Double) : Bool :=
  !a.isNaN && !b.isNaN && (a == b || (a.isZero && b.isZero))

/-- The integer part of the magnitude of a finite number. -/
def wholeMagnitude (d : Double) : Nat :=
  if 0 ≤ d.scale then d.mantissa * Nat.pow 2 d.scale.toNat
  else d.mantissa / Nat.pow 2 (-d.scale).toNat

def isIntegral (d : Double) : Bool :=
  0 ≤ d.scale || d.mantissa % Nat.pow 2 (-d.scale).toNat == 0

/-- A finite number rounded toward zero. -/
def truncate (d : Double) : Int :=
  if d.isNegative then -(d.wholeMagnitude : Int) else d.wholeMagnitude

/-- A number rounded toward zero and clamped to `0 … bound`; NaN is `0`. -/
def clampTo (bound : Nat) (d : Double) : Nat :=
  if d.isNaN || d.isNegative then 0
  else if d.isFinite then min d.wholeMagnitude bound
  else bound

end Double

end GuardedUi
