import GuardedUi.Number.Double
import Mathlib.Algebra.Order.Field.Power
import Mathlib.Algebra.Order.Floor.Semifield
import Mathlib.Data.Rat.Floor
import Mathlib.Tactic.Positivity
import Mathlib.Tactic.Ring

/-!
# `Proofs/Number/Value` — what a double stands for

`Double` computes with a natural mantissa and a scale. What the bits mean is said here on its own,
as a rational number, an infinity or no number at all (`Double.datum`), by cutting the word into its
sign, its exponent and its fraction:

    ± 2 ^ (exponent - 1023) * (1 + fraction / 2 ^ 52)     if the exponent is not zero
    ± 2 ^ (-1022) * (fraction / 2 ^ 52)                   if it is

and the arithmetic on mantissas is measured against it:

> **The whole magnitude is the integer part of the value's magnitude** (`floor_magnitude`), **so
> `truncate` rounds toward zero** (`truncate_eq`), **and `clampTo` does so within its bound**
> (`clampTo_eq`).

Both signs go through the magnitude: the sign bit of a zero is set or not, its value is the same.
-/

set_option autoImplicit false

namespace GuardedUi

/-- What the bits of a double stand for. The two zeros stand for the same number. -/
inductive Datum where
  | finite (value : ℚ)
  | infinite (negative : Bool)
  | notANumber

/-! ## Rounding toward zero -/

/-- The integer next to a number on the way to zero. -/
def towardZero (q : ℚ) : ℤ :=
  if 0 ≤ q then ⌊q⌋ else ⌈q⌉

theorem towardZero_of_nonneg {q : ℚ} (h : 0 ≤ q) : towardZero q = (⌊q⌋₊ : ℤ) := by
  rw [towardZero, if_pos h, Int.natCast_floor_eq_floor h]

theorem towardZero_neg (q : ℚ) : towardZero (-q) = -towardZero q := by
  rw [towardZero, towardZero]
  rcases lt_trichotomy q 0 with hneg | rfl | hpos
  · rw [if_pos (neg_nonneg.mpr hneg.le), if_neg (not_le.mpr hneg), Int.floor_neg]
  · simp
  · rw [if_neg (not_le.mpr (neg_lt_zero.mpr hpos)), if_pos hpos.le, Int.ceil_neg]

theorem towardZero_intCast (i : ℤ) : towardZero (i : ℚ) = i := by
  rw [towardZero, Int.floor_intCast, Int.ceil_intCast, ite_self]

/-- Rounded toward zero and kept within `0 … bound`. What is no number counts as zero. -/
def Datum.clamped (bound : ℕ) : Datum → ℤ
  | .finite value => max 0 (min (towardZero value) bound)
  | .infinite negative => if negative then 0 else bound
  | .notANumber => 0

namespace Double

/-! ## The format -/

def signBit (d : Double) : Bool :=
  d.bits.toBitVec.msb

def exponentBits (d : Double) : ℕ :=
  (d.bits.toBitVec.extractLsb' 52 11).toNat

def fractionBits (d : Double) : ℕ :=
  (d.bits.toBitVec.extractLsb' 0 52).toNat

/-- The magnitude of a finite double. -/
def magnitude (d : Double) : ℚ :=
  if d.exponentBits = 0 then 2 ^ (-1022 : ℤ) * (d.fractionBits / 2 ^ 52)
  else 2 ^ ((d.exponentBits : ℤ) - 1023) * (1 + d.fractionBits / 2 ^ 52)

/-- The number that a finite double stands for. -/
def value (d : Double) : ℚ :=
  if d.signBit then -d.magnitude else d.magnitude

def datum (d : Double) : Datum :=
  if d.exponentBits = 2047 then
    if d.fractionBits = 0 then .infinite d.signBit else .notANumber
  else .finite d.value

theorem signBit_eq (d : Double) : d.signBit = d.isNegative :=
  BitVec.msb_eq_decide d.bits.toBitVec

theorem exponentBits_eq (d : Double) : d.exponentBits = d.exponentField := by
  rw [exponentBits, BitVec.extractLsb'_toNat, Nat.shiftRight_eq_div_pow]
  rfl

theorem fractionBits_eq (d : Double) : d.fractionBits = d.fraction := by
  rw [fractionBits, BitVec.extractLsb'_toNat, Nat.shiftRight_zero]
  rfl

theorem isFinite_iff {d : Double} : d.isFinite = true ↔ d.exponentField ≠ 2047 :=
  bne_iff_ne

theorem isNaN_iff {d : Double} : d.isNaN = true ↔ d.exponentField = 2047 ∧ d.fraction ≠ 0 := by
  rw [isNaN, Bool.and_eq_true, beq_iff_eq, bne_iff_ne]

theorem datum_eq_finite_iff {d : Double} {q : ℚ} :
    d.datum = .finite q ↔ d.isFinite = true ∧ d.value = q := by
  rw [isFinite_iff, datum, exponentBits_eq]
  split
  · rename_i hfield
    split <;> simp [hfield]
  · rename_i hfield
    simp [hfield]

/-! ## Magnitudes -/

theorem magnitude_eq (d : Double) : d.magnitude = d.mantissa * 2 ^ d.scale := by
  have hpow : ∀ e : ℤ, (2 : ℚ) ^ (e - 52) = 2 ^ e / 2 ^ 52 := fun e =>
    zpow_sub₀ two_ne_zero e 52
  rw [magnitude, mantissa, scale, exponentBits_eq, fractionBits_eq]
  split
  · have hscale : ((max d.exponentField 1 : ℕ) : ℤ) - 1075 = -1022 - 52 := by omega
    rw [hscale, hpow]
    ring
  · have hscale : ((max d.exponentField 1 : ℕ) : ℤ) - 1075 = d.exponentField - 1023 - 52 := by
      omega
    have hhidden : ((Nat.pow 2 52 + d.fraction : ℕ) : ℚ) = 2 ^ 52 + d.fraction := by
      rw [Nat.pow_eq, Nat.cast_add, Nat.cast_pow, Nat.cast_ofNat]
    rw [hscale, hpow, hhidden]
    ring

theorem magnitude_nonneg (d : Double) : 0 ≤ d.magnitude := by
  rw [magnitude_eq]
  positivity

theorem abs_value (d : Double) : |d.value| = d.magnitude := by
  rw [value]
  split
  · rw [abs_neg, abs_of_nonneg d.magnitude_nonneg]
  · exact abs_of_nonneg d.magnitude_nonneg

theorem magnitude_of_scale_nonneg {d : Double} (h : 0 ≤ d.scale) :
    d.magnitude = (d.mantissa * Nat.pow 2 d.scale.toNat : ℕ) := by
  obtain ⟨k, hk⟩ := Int.eq_ofNat_of_zero_le h
  rw [magnitude_eq, hk]
  simp

theorem magnitude_of_scale_neg {d : Double} (h : ¬ 0 ≤ d.scale) :
    d.magnitude = (d.mantissa : ℚ) / (Nat.pow 2 (-d.scale).toNat : ℕ) := by
  obtain ⟨k, hk⟩ := Int.eq_ofNat_of_zero_le (a := -d.scale) (by omega)
  obtain hscale : d.scale = -k := by omega
  rw [magnitude_eq, hscale, zpow_neg]
  simp [div_eq_mul_inv]

/-- **The whole magnitude is the integer part of the magnitude.** -/
theorem floor_magnitude (d : Double) : ⌊d.magnitude⌋₊ = d.wholeMagnitude := by
  rw [wholeMagnitude]
  split
  · rename_i h
    rw [magnitude_of_scale_nonneg h, Nat.floor_natCast]
  · rename_i h
    rw [magnitude_of_scale_neg h, Nat.floor_div_eq_div]

/-- A double without a fractional part is one whose magnitude is a natural number. -/
theorem isIntegral_iff {d : Double} : d.isIntegral = true ↔ ∃ n : ℕ, d.magnitude = n := by
  rw [isIntegral, Bool.or_eq_true, decide_eq_true_iff, beq_iff_eq, ← Nat.dvd_iff_mod_eq_zero]
  by_cases h : 0 ≤ d.scale
  · exact iff_of_true (Or.inl h) ⟨_, magnitude_of_scale_nonneg h⟩
  · rw [or_iff_right h, magnitude_of_scale_neg h]
    have hpow : ((Nat.pow 2 (-d.scale).toNat : ℕ) : ℚ) ≠ 0 :=
      Nat.cast_ne_zero.mpr (Nat.two_pow_pos _).ne'
    constructor
    · rintro ⟨n, hn⟩
      refine ⟨n, ?_⟩
      rw [div_eq_iff hpow, hn, Nat.cast_mul, mul_comm]
    · rintro ⟨n, hn⟩
      refine ⟨n, ?_⟩
      rw [div_eq_iff hpow] at hn
      rw [mul_comm]
      exact_mod_cast hn

/-! ## Integers -/

/-- **Truncation rounds toward zero.** -/
theorem truncate_eq (d : Double) : d.truncate = towardZero d.value := by
  have hwhole : towardZero d.magnitude = d.wholeMagnitude := by
    rw [towardZero_of_nonneg d.magnitude_nonneg, floor_magnitude]
  rw [truncate, value, signBit_eq]
  split
  · rw [towardZero_neg, hwhole]
  · exact hwhole.symm

theorem magnitude_of_value_eq {d : Double} {i : ℤ} (h : d.value = i) :
    d.magnitude = i.natAbs := by
  rw [← abs_value, h, Nat.cast_natAbs, Int.cast_abs]

theorem wholeMagnitude_of_value_eq {d : Double} {i : ℤ} (h : d.value = i) :
    d.wholeMagnitude = i.natAbs := by
  rw [← floor_magnitude, magnitude_of_value_eq h, Nat.floor_natCast]

theorem truncate_of_value_eq {d : Double} {i : ℤ} (h : d.value = i) : d.truncate = i := by
  rw [truncate_eq, h, towardZero_intCast]

/-- **Clamping rounds toward zero, within the bound.** -/
theorem clampTo_eq (bound : ℕ) (d : Double) : (d.clampTo bound : ℤ) = d.datum.clamped bound := by
  rw [clampTo, datum, exponentBits_eq, fractionBits_eq, signBit_eq]
  by_cases hspecial : d.exponentField = 2047
  · by_cases hzero : d.fraction = 0
    · cases hsign : d.isNegative <;>
        simp [isFinite_iff, isNaN_iff, hspecial, hzero, Datum.clamped]
    · simp [isNaN_iff, hspecial, hzero, Datum.clamped]
  · -- The sign decides which end of the range can be reached.
    have hwhole := truncate_eq d
    rw [truncate] at hwhole
    simp only [hspecial, if_false, Datum.clamped, ← hwhole]
    cases hsign : d.isNegative <;> simp [isFinite_iff, isNaN_iff, hspecial]

end Double

end GuardedUi
