import GuardedUi.Number.Double

/-!
# `Proofs/Number/Finite` — when a result is finite

A rounded quotient is finite if it is well below the largest double, and powers of two are enough
to say so:

> **A numerator below `2 ^ i` over a denominator of at least `2 ^ j` rounds to a finite double if
> `i ≤ j + 1023`** (`isFinite_ofRatio`).

From this come the two operations by which numbers are read that are not checked afterwards: an
integer of 64 bits becomes a double, and a finite double is divided by a power of ten.
-/

set_option autoImplicit false

namespace GuardedUi.Double

/-! ## Patterns -/

theorem isFinite_ofMagnitude (negative : Bool) {pattern : Nat} (h : pattern < infinityPattern) :
    (ofMagnitude negative pattern).isFinite = true := by
  have hfield : (ofMagnitude negative pattern).exponentField ≠ 2047 := by
    simp only [infinityPattern, Nat.pow_eq, Nat.reducePow, Nat.reduceMul] at h
    cases negative <;>
      simp only [exponentField, ofMagnitude, Nat.pow_eq, Nat.reducePow, if_true,
        Bool.false_eq_true, if_false, Nat.toUInt64_eq, UInt64.toNat_ofNat'] <;>
      omega
  simpa [isFinite] using hfield

theorem mantissa_lt (d : Double) : d.mantissa < Nat.pow 2 53 := by
  have hfraction : d.fraction < Nat.pow 2 52 := Nat.mod_lt _ (by decide)
  simp only [Nat.pow_eq, Nat.reducePow] at hfraction ⊢
  rw [mantissa]
  simp only [Nat.pow_eq, Nat.reducePow]
  split <;> omega

theorem scale_le {d : Double} (h : d.isFinite = true) : d.scale ≤ 971 := by
  have hne : d.exponentField ≠ 2047 := by simpa [isFinite] using h
  have hlt : d.exponentField < Nat.pow 2 11 := Nat.mod_lt _ (by decide)
  simp only [Nat.pow_eq, Nat.reducePow] at hlt
  rw [scale]
  omega

/-! ## Rounding -/

theorem roundHalfEven_le {num den bound : Nat} (h : num < den * bound) :
    roundHalfEven num den ≤ bound := by
  have hfloor : num / den < bound := Nat.div_lt_of_lt_mul h
  simp only [roundHalfEven]
  split
  · omega
  · split <;> omega

/-- The quotient scaled down by a power of two is below `2 ^ k`. -/
theorem scaledBy_lt {num den i j k : Nat} (hnum : num < Nat.pow 2 i) (hden : Nat.pow 2 j ≤ den)
    {scale : Int} (h : (i : Int) ≤ j + scale + k) :
    (scaledBy num den scale).1 < (scaledBy num den scale).2 * Nat.pow 2 k := by
  simp only [Nat.pow_eq] at *
  rw [scaledBy]
  split
  · calc num < 2 ^ i := hnum
      _ ≤ 2 ^ (j + scale.toNat + k) := Nat.pow_le_pow_right (by decide) (by omega)
      _ = 2 ^ j * 2 ^ scale.toNat * 2 ^ k := by rw [Nat.pow_add, Nat.pow_add]
      _ ≤ den * 2 ^ scale.toNat * 2 ^ k :=
        Nat.mul_le_mul_right _ (Nat.mul_le_mul_right _ hden)
  · calc num * 2 ^ (-scale).toNat < 2 ^ i * 2 ^ (-scale).toNat :=
        Nat.mul_lt_mul_of_pos_right hnum (Nat.two_pow_pos _)
      _ = 2 ^ (i + (-scale).toNat) := (Nat.pow_add 2 i _).symm
      _ ≤ 2 ^ (j + k) := Nat.pow_le_pow_right (by decide) (by omega)
      _ = 2 ^ j * 2 ^ k := Nat.pow_add 2 j k
      _ ≤ den * 2 ^ k := Nat.mul_le_mul_right _ hden

/-- At its scale a quotient has at most 53 bits before the point, and the scale is low if the
quotient is. -/
theorem scaleOf_spec {num den i j : Nat} (hpos : num ≠ 0) (hnum : num < Nat.pow 2 i)
    (hden : Nat.pow 2 j ≤ den) (h : i ≤ j + 1023) :
    (scaledBy num den (scaleOf num den)).1 <
        (scaledBy num den (scaleOf num den)).2 * Nat.pow 2 53 ∧
      scaleOf num den ≤ 970 := by
  have hden' : den ≠ 0 := by
    have hpow : 0 < Nat.pow 2 j := Nat.two_pow_pos j
    omega
  have hi : num.log2 < i := (Nat.log2_lt hpos).mpr hnum
  have hj : j ≤ den.log2 := (Nat.le_log2 hden').mpr hden
  have hup : num < Nat.pow 2 (num.log2 + 1) := Nat.lt_log2_self
  have hdown : Nat.pow 2 den.log2 ≤ den := Nat.log2_self_le hden'
  simp only [scaleOf]
  generalize hlow : max ((num.log2 : Int) - (den.log2 : Int) - 53) (-1074) = low
  have hlower : (num.log2 : Int) - den.log2 - 53 ≤ low := hlow ▸ Int.le_max_left _ _
  have hupper : low ≤ 969 := by omega
  split
  · exact ⟨scaledBy_lt hup hdown (by omega), by omega⟩
  · rename_i hsmall
    have hpow : 0 < (scaledBy num den low).2 := by
      rw [scaledBy]
      split
      · exact Nat.mul_pos (Nat.pos_of_ne_zero hden') (Nat.two_pow_pos _)
      · exact Nat.pos_of_ne_zero hden'
    have hlt := (Nat.div_lt_iff_lt_mul hpow).mp (Nat.lt_of_not_le hsmall)
    exact ⟨Nat.mul_comm _ _ ▸ hlt, by omega⟩

/-- **A quotient below the largest double rounds to a finite one.** -/
theorem isFinite_ofRatio (negative : Bool) {num den i j : Nat} (hnum : num < Nat.pow 2 i)
    (hden : Nat.pow 2 j ≤ den) (h : i ≤ j + 1023) :
    (ofRatio negative num den).isFinite = true := by
  rw [ofRatio]
  split
  · exact isFinite_ofMagnitude negative (by decide)
  · rename_i hpos
    obtain ⟨hlt, hscale⟩ := scaleOf_spec hpos hnum hden h
    have hround := roundHalfEven_le hlt
    refine isFinite_ofMagnitude negative (Nat.lt_of_le_of_lt (Nat.min_le_left _ _) ?_)
    show (scaleOf num den + 1074).toNat * Nat.pow 2 52 + roundHalfEven
      (scaledBy num den (scaleOf num den)).1 (scaledBy num den (scaleOf num den)).2 <
        infinityPattern
    simp only [infinityPattern, Nat.pow_eq, Nat.reducePow, Nat.reduceMul] at hround ⊢
    omega

/-! ## Operations -/

theorem isFinite_ofInt {i : Int} (h : i.natAbs < Nat.pow 2 64) : (ofInt i).isFinite = true :=
  isFinite_ofRatio _ h (Nat.le_refl (Nat.pow 2 0)) (by decide)

theorem isFinite_ofScaled (negative : Bool) {num den i j : Nat} {scale : Int}
    (hnum : num < Nat.pow 2 i) (hden : Nat.pow 2 j ≤ den) (h : (i : Int) + scale ≤ j + 1023) :
    (ofScaled negative num den scale).isFinite = true := by
  rw [ofScaled]
  split
  · have hnum' : num * Nat.pow 2 scale.toNat < Nat.pow 2 (i + scale.toNat) := by
      rw [Nat.pow_eq, Nat.pow_eq, Nat.pow_add]
      exact Nat.mul_lt_mul_of_pos_right hnum (Nat.two_pow_pos _)
    exact isFinite_ofRatio negative hnum' hden (by omega)
  · have hden' : Nat.pow 2 (j + (-scale).toNat) ≤ den * Nat.pow 2 (-scale).toNat := by
      rw [Nat.pow_eq, Nat.pow_eq, Nat.pow_add]
      exact Nat.mul_le_mul_right _ hden
    exact isFinite_ofRatio negative hnum hden' (by omega)

/-- A finite double divided by a double of at least two is finite. -/
theorem isFinite_div {a b : Double} (ha : a.isFinite = true) {j : Nat}
    (hb : Nat.pow 2 j ≤ b.mantissa) (h : 1 ≤ j + b.scale) : (a.div b).isFinite = true := by
  have hscale := scale_le ha
  exact isFinite_ofScaled _ (mantissa_lt a) hb (by omega)

theorem isFinite_div_powerOfTen {a : Double} (ha : a.isFinite = true) {exponent : Nat}
    (hpos : 0 < exponent) (h : exponent ≤ 308) :
    (a.div (powerOfTen exponent)).isFinite = true := by
  have hpowers : ∀ e < 309, 0 < e → (powerOfTen e).mantissa ≠ 0 ∧
      1 ≤ ((powerOfTen e).mantissa.log2 : Int) + (powerOfTen e).scale := by
    decide +kernel
  obtain ⟨hne, hlog⟩ := hpowers exponent (by omega) hpos
  exact isFinite_div ha (Nat.log2_self_le hne) hlog

theorem isFinite_neg {d : Double} (h : d.isFinite = true) : d.neg.isFinite = true := by
  refine isFinite_ofMagnitude _ ?_
  have hne : d.exponentField ≠ 2047 := by simpa [isFinite] using h
  simp only [exponentField, infinityPattern, Nat.pow_eq, Nat.reducePow, Nat.reduceMul] at hne ⊢
  omega

end GuardedUi.Double
